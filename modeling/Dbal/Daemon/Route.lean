/-
# Routes

`parseRoute` of `src/daemon/rpc_restful_handler.cpp` and the paths that
`handleEntity` and `handleEntityWithId` of
`src/daemon/handlers/entity_route_handler_crud.cpp` put together for it.

The router has already taken the path apart, and the gates have judged its
parameters; the handlers glue the parameters together again and parse the result.
The second reading drops empty segments, so it gives the parameters back exactly
when no name of the first three is empty and none of the parameters has a slash
in it (`parseRoute_entityPath_iff`).  Otherwise every parameter behind the odd one
moves to another place (`shifted_route`).
-/

import Mathlib.Data.List.Basic
import Dbal.Core.Error

namespace Dbal
namespace Route

/-- `RouteInfo`. -/
structure RouteInfo where
  tenant : String := ""
  package : String := ""
  entity : String := ""
  id : String := ""
  action : String := ""
  extraArgs : List String := []
  valid : Bool := false
  error : String := ""
  deriving DecidableEq, Repr

/-- The segments that `getline` with `'/'` reads, without the empty ones; `acc` is
the segment read so far, in reverse. -/
def segments (acc : List Char) : List Char → List String
  | [] => if acc = [] then [] else [String.ofList acc.reverse]
  | c :: cs =>
      if c = '/' then (if acc = [] then [] else [String.ofList acc.reverse]) ++ segments [] cs
      else segments (c :: acc) cs

/-- One leading slash is skipped and one trailing slash removed. -/
def cleanPath (path : List Char) : List Char :=
  let path := match path with
    | '/' :: rest => rest
    | path => path
  if path.getLast? = some '/' then path.dropLast else path

/-- `is_valid_name`: alphanumeric characters and underscores, at least one. -/
def isValidName (name : String) : Bool :=
  name ≠ "" && name.toList.all fun c => c.isAlphanum || c = '_'

/-- `parseRoute`. -/
def parseRoute (path : String) : RouteInfo :=
  match segments [] (cleanPath path.toList) with
  | tenant :: package :: entity :: rest =>
      let info : RouteInfo := { tenant, package, entity }
      if ["invalid", "invalid_tenant", "test_invalid"].contains (toLower tenant) then
        { info with error := "Invalid tenant name: " ++ tenant }
      else
        let info := { info with
          id := rest[0]?.getD "", action := rest[1]?.getD "", extraArgs := rest.drop 2 }
        if !isValidName tenant then { info with error := "Invalid tenant name: " ++ tenant }
        else if !isValidName package then
          { info with error := "Invalid package name: " ++ package }
        else if !isValidName entity then
          { info with error := "Invalid entity name: " ++ entity }
        else { info with valid := true }
  | _ => { error := "Path requires at least: /{tenant}/{package}/{entity}" }

/-- The path that `handleEntity` (no id) and `handleEntityWithId` put together. -/
def entityPath (tenant package entity : String) (id : Option String) : String :=
  "/" ++ tenant ++ "/" ++ package ++ "/" ++ entity ++
    match id with
    | none => ""
    | some id => "/" ++ id

/-- The route that the handlers act on. -/
def handlerRoute (tenant package entity : String) (id : Option String) : RouteInfo :=
  parseRoute (entityPath tenant package entity id)

/-- The route carries the parameters that the gates have seen. -/
def Same (route : RouteInfo) (tenant package entity : String) (id : Option String) : Prop :=
  route.tenant = tenant ∧ route.package = package ∧ route.entity = entity ∧
    route.id = id.getD ""

instance (route : RouteInfo) (tenant package entity : String) (id : Option String) :
    Decidable (Same route tenant package entity id) := inferInstanceAs (Decidable (_ ∧ _))

/-! ### Segments -/

/-- A name read up to a slash, or up to the end, is one segment, if it is not empty. -/
def nonempty (cs : List Char) : List String := if cs = [] then [] else [String.ofList cs]

theorem segments_slash :
    ∀ {name : List Char} (acc rest : List Char), '/' ∉ name →
      segments acc (name ++ '/' :: rest) = nonempty (acc.reverse ++ name) ++ segments [] rest
  | [], acc, rest, _ => by simp [segments, nonempty]
  | c :: name, acc, rest, h => by
      obtain ⟨hc, hname⟩ := List.ne_and_not_mem_of_not_mem_cons h
      simp [segments, hc.symm, segments_slash (c :: acc) rest hname]

theorem segments_end :
    ∀ {name : List Char} (acc : List Char), '/' ∉ name →
      segments acc name = nonempty (acc.reverse ++ name)
  | [], acc, _ => by simp [segments, nonempty]
  | c :: name, acc, h => by
      obtain ⟨hc, hname⟩ := List.ne_and_not_mem_of_not_mem_cons h
      simp [segments, hc.symm, segments_end (c :: acc) hname]

/-- A slash at the end adds no segment. -/
theorem segments_append_slash :
    ∀ (acc cs : List Char), segments acc (cs ++ ['/']) = segments acc cs
  | acc, [] => by simp [segments]
  | acc, c :: cs => by
      by_cases hc : c = '/' <;> simp [segments, hc, segments_append_slash _ cs]

theorem segments_cleanPath (cs : List Char) : segments [] (cleanPath ('/' :: cs)) = segments [] cs := by
  simp only [cleanPath]
  split
  · next h =>
      obtain ⟨ds, rfl⟩ := List.getLast?_eq_some_iff.1 h
      rw [List.dropLast_concat, segments_append_slash]
  · rfl

/-- No segment has a slash in it. -/
theorem slash_not_mem_segments :
    ∀ {acc cs : List Char}, '/' ∉ acc → ∀ s ∈ segments acc cs, '/' ∉ s.toList
  | acc, [], hacc, s, hs => by
      rw [segments] at hs
      split at hs
      · simp at hs
      · rw [List.mem_singleton.1 hs]
        simpa using hacc
  | acc, c :: cs, hacc, s, hs => by
      rw [segments] at hs
      split at hs
      · rcases List.mem_append.1 hs with hs | hs
        · split at hs
          · simp at hs
          · rw [List.mem_singleton.1 hs]
            simpa using hacc
        · exact slash_not_mem_segments (by simp) s hs
      · next hc => exact slash_not_mem_segments (by simp [hacc, Ne.symm hc]) s hs

/-! ### The second reading -/

theorem isValidName_iff {name : String} (h : isValidName name = true) :
    name ≠ "" ∧ '/' ∉ name.toList := by
  simp only [isValidName, Bool.and_eq_true, List.all_eq_true, decide_eq_true_eq] at h
  refine ⟨h.1, fun hmem => ?_⟩
  have := h.2 '/' hmem
  revert this
  decide

/-- What an accepted path consists of. -/
theorem parseRoute_valid {path : String} (h : (parseRoute path).valid = true) :
    ∃ rest, segments [] (cleanPath path.toList) =
        (parseRoute path).tenant :: (parseRoute path).package :: (parseRoute path).entity :: rest ∧
      (parseRoute path).id = rest[0]?.getD "" ∧
      isValidName (parseRoute path).tenant = true ∧ isValidName (parseRoute path).package = true ∧
      isValidName (parseRoute path).entity = true := by
  unfold parseRoute at h ⊢
  split at h
  · next tenant package entity rest hseg =>
      simp only [hseg]
      split_ifs at h ⊢ with h₁ h₂ h₃ h₄
      exact ⟨rest, rfl, rfl, by simpa using h₂, by simpa using h₃, by simpa using h₄⟩
  · cases h

/-- The segments of a rebuilt path, when no parameter has a slash in it. -/
theorem segments_entityPath {tenant package entity : String} {id : Option String}
    (htenant : '/' ∉ tenant.toList) (hpackage : '/' ∉ package.toList)
    (hentity : '/' ∉ entity.toList) (hid : ∀ i, id = some i → '/' ∉ i.toList) :
    segments [] (cleanPath (entityPath tenant package entity id).toList) =
      nonempty tenant.toList ++ nonempty package.toList ++ nonempty entity.toList ++
        nonempty (id.getD "").toList := by
  cases id with
  | none =>
      have hpath : (entityPath tenant package entity none).toList =
          '/' :: (tenant.toList ++ '/' :: (package.toList ++ '/' :: entity.toList)) := by
        simp [entityPath]
      rw [hpath, segments_cleanPath, segments_slash _ _ htenant, segments_slash _ _ hpackage,
        segments_end _ hentity]
      simp [nonempty]
  | some i =>
      have hpath : (entityPath tenant package entity (some i)).toList =
          '/' :: (tenant.toList ++ '/' :: (package.toList ++ '/' :: (entity.toList ++
            '/' :: i.toList))) := by
        simp [entityPath]
      rw [hpath, segments_cleanPath, segments_slash _ _ htenant, segments_slash _ _ hpackage,
        segments_slash _ _ hentity, segments_end _ (hid i rfl)]
      simp

theorem nonempty_of_ne {name : String} (h : name ≠ "") : nonempty name.toList = [name] := by
  simp [nonempty, h]

/-- Three plain names stay where they are, whatever the id. -/
theorem handlerRoute_names {tenant package entity : String} (id : Option String)
    (htenant : tenant ≠ "" ∧ '/' ∉ tenant.toList) (hpackage : package ≠ "" ∧ '/' ∉ package.toList)
    (hentity : entity ≠ "" ∧ '/' ∉ entity.toList) :
    (handlerRoute tenant package entity id).tenant = tenant ∧
      (handlerRoute tenant package entity id).entity = entity := by
  have hseg : ∃ rest, segments [] (cleanPath (entityPath tenant package entity id).toList) =
      tenant :: package :: entity :: rest := by
    cases id with
    | none =>
        refine ⟨[], ?_⟩
        rw [segments_entityPath htenant.2 hpackage.2 hentity.2 (by simp), nonempty_of_ne htenant.1,
          nonempty_of_ne hpackage.1, nonempty_of_ne hentity.1]
        rfl
    | some i =>
        have hpath : (entityPath tenant package entity (some i)).toList =
            '/' :: (tenant.toList ++ '/' :: (package.toList ++ '/' :: (entity.toList ++
              '/' :: i.toList))) := by
          simp [entityPath]
        refine ⟨segments [] i.toList, ?_⟩
        rw [hpath, segments_cleanPath, segments_slash _ _ htenant.2, segments_slash _ _ hpackage.2,
          segments_slash _ _ hentity.2]
        simp [nonempty_of_ne htenant.1, nonempty_of_ne hpackage.1, nonempty_of_ne hentity.1]
  obtain ⟨rest, hseg⟩ := hseg
  simp only [handlerRoute, parseRoute, hseg]
  split_ifs <;> exact ⟨rfl, rfl⟩

/-- **When the handlers act on what the gates saw.**  The route parsed from an
accepted path carries the parameters it was built from exactly when the tenant,
the package and the entity are not empty and no parameter has a slash in it. -/
theorem parseRoute_entityPath_iff {tenant package entity : String} {id : Option String}
    (h : (handlerRoute tenant package entity id).valid = true) :
    Same (handlerRoute tenant package entity id) tenant package entity id ↔
      tenant ≠ "" ∧ package ≠ "" ∧ entity ≠ "" ∧ '/' ∉ tenant.toList ∧ '/' ∉ package.toList ∧
        '/' ∉ entity.toList ∧ ∀ i, id = some i → '/' ∉ i.toList := by
  obtain ⟨rest, hseg, hid, hvt, hvp, hve⟩ := parseRoute_valid h
  constructor
  · rintro ⟨ht, hp, he, hi⟩
    change (handlerRoute tenant package entity id).id = _ at hid
    change isValidName (handlerRoute tenant package entity id).tenant = true at hvt
    change isValidName (handlerRoute tenant package entity id).package = true at hvp
    change isValidName (handlerRoute tenant package entity id).entity = true at hve
    rw [ht] at hvt
    rw [hp] at hvp
    rw [he] at hve
    refine ⟨(isValidName_iff hvt).1, (isValidName_iff hvp).1, (isValidName_iff hve).1,
      (isValidName_iff hvt).2, (isValidName_iff hvp).2, (isValidName_iff hve).2, ?_⟩
    rintro i rfl
    -- the id of a route is one of its segments, or empty
    have hi' : i = rest[0]?.getD "" := hi.symm.trans hid
    cases hrest : rest[0]? with
    | none => simp [hi', hrest]
    | some seg =>
        have hmem : seg ∈ rest := List.mem_of_getElem? hrest
        have hseg' : seg ∈ segments []
            (cleanPath (entityPath tenant package entity (some i)).toList) := by
          rw [hseg]
          simp [hmem]
        have hslash := slash_not_mem_segments List.not_mem_nil seg hseg'
        simpa [hi', hrest] using hslash
  · rintro ⟨ht, hp, he, hst, hsp, hse, hsi⟩
    have hsegs := segments_entityPath hst hsp hse hsi
    rw [nonempty_of_ne ht, nonempty_of_ne hp, nonempty_of_ne he] at hsegs
    rw [hsegs] at hseg
    simp only [List.cons_append, List.nil_append, List.cons.injEq] at hseg
    obtain ⟨htenant, hpackage, hentity, hrest⟩ := hseg
    refine ⟨htenant.symm, hpackage.symm, hentity.symm, hid.trans ?_⟩
    rw [← hrest]
    by_cases hempty : id.getD "" = ""
    · simp [nonempty, hempty]
    · rw [nonempty_of_ne hempty]
      rfl

/-- A path of plain names reaches the handler as it is. -/
theorem parseRoute_entityPath_plain :
    Same (handlerRoute "acme" "core" "Post" (some "42")) "acme" "core" "Post" (some "42") :=
  (parseRoute_entityPath_iff (by decide +kernel)).2 (by
    refine ⟨by decide +kernel, by decide +kernel, by decide +kernel, by decide +kernel,
      by decide +kernel, by decide +kernel, ?_⟩
    intro i hi
    obtain rfl : "42" = i := Option.some.inj hi
    decide +kernel)

/-- **An empty tenant shifts the route.**  For `//acme/core/Credential` the gates
judge the record `Credential` of an entity `core` in no tenant, and the handler
lists the entity `Credential` of the tenant `acme`. -/
theorem shifted_route :
    handlerRoute "" "acme" "core" (some "Credential") =
        { tenant := "acme", package := "core", entity := "Credential", valid := true } ∧
      ¬ Same (handlerRoute "" "acme" "core" (some "Credential")) "" "acme" "core"
        (some "Credential") := by
  decide +kernel

end Route
end Dbal
