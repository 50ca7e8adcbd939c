/-
# What a query makes of the options

The two loops of `src/daemon/list_handler.cpp` over the query.  The first lets through positive
limits and pages and offsets that are not negative (`accepted_of_query`), the second leaves both
numbers alone (`listing?_paging`), and the options passed on are assembled from what it gathered
(`listing?_eq_some_iff`).
-/

import Dbal.Core.Reading
import Dbal.Daemon.Access

namespace Dbal
namespace Daemon
namespace ListHandler

/-! ## What the query may set -/

/-- The numbers that the first loop lets through. -/
structure Paging.Accepted (paging : Paging) : Prop where
  limit : ∀ n, paging.limit = some n → 0 < n ∧ n ≤ intMax
  page : ∀ n, paging.page = some n → 0 < n ∧ n ≤ intMax
  offset : ∀ n, paging.offset = some n → 0 ≤ n ∧ n ≤ intMax

theorem Paging.accepted_empty : ({} : Paging).Accepted where
  limit _ h := by cases h
  page _ h := by cases h
  offset _ h := by cases h

/-- The limit is positive, given or not. -/
theorem Paging.Accepted.limit_pos {paging : Paging} (h : paging.Accepted) :
    0 < paging.limit.getD 20 := by
  cases hlimit : paging.limit with
  | none => decide
  | some n => exact (h.limit n hlimit).1

theorem stoi_le {text rest : List Char} {n : Int} (h : stoi text = some (n, rest)) :
    n ≤ intMax := by
  unfold stoi at h
  simp only [Option.ite_none_left_eq_some, Option.ite_none_right_eq_some] at h
  obtain ⟨-, hrange, heq⟩ := h
  exact (Prod.mk.inj (Option.some.inj heq)).1 ▸ hrange.2

theorem parseIntValue_le {value : String} {n : Int} (h : parseIntValue value = some n) :
    n ≤ intMax := by
  unfold parseIntValue at h
  split at h
  · next hstoi => exact Option.some.inj h ▸ stoi_le hstoi
  · cases h

theorem pagingStep_accepted {paging paging' : Paging} {entry : String × String}
    (haccepted : paging.Accepted) (h : pagingStep paging entry = .ok paging') :
    paging'.Accepted := by
  obtain ⟨key, value⟩ := entry
  unfold pagingStep at h
  cases hvalue : parseIntValue value with
  | none =>
      simp only [hvalue] at h
      split_ifs at h
      · cases h
        exact haccepted
  | some n =>
      have hle := parseIntValue_le hvalue
      simp only [hvalue] at h
      split_ifs at h with hlimit hpos hpage hpos hoffset hneg
      · cases h
        exact { haccepted with limit := fun m hm => by cases hm; omega }
      · cases h
        exact { haccepted with page := fun m hm => by cases hm; omega }
      · cases h
        exact { haccepted with offset := fun m hm => by cases hm; omega }
      · cases h
        exact haccepted

theorem paging_accepted {entries : List (String × String)} {paging paging' : Paging}
    (haccepted : paging.Accepted) (h : entries.foldlM pagingStep paging = .ok paging') :
    paging'.Accepted :=
  holds_of_foldlM (fun _ _ _ _ hpaging hstep => pagingStep_accepted hpaging hstep) haccepted h

/-- What the query sets is a positive limit, a positive page and an offset that is not negative,
each of which an `int` holds. -/
theorem accepted_of_query {query : Std.TreeMap String String} {paging : Paging}
    (h : query.toList.foldlM pagingStep {} = .ok paging) : paging.Accepted :=
  paging_accepted Paging.accepted_empty h

/-! ## What is passed on -/

theorem gather_paging {g g' : Gathered} {entry : String × String} (h : gather g entry = .ok g') :
    g'.options.limit = g.options.limit ∧ g'.options.page = g.options.page := by
  obtain ⟨key, value⟩ := entry
  simp only [gather] at h
  split at h
  · cases h
    unfold addFilter
    dsimp only
    split <;> exact ⟨rfl, rfl⟩
  · cases h
    exact ⟨rfl, rfl⟩
  · split at h
    · unfold addOr at h
      split at h
      · split at h
        · cases h
        · cases h
          exact ⟨rfl, rfl⟩
      · cases h
        exact ⟨rfl, rfl⟩
    · cases h
      unfold addAggregate
      split
      · split
        · dsimp only
          split <;> exact ⟨rfl, rfl⟩
        · exact ⟨rfl, rfl⟩
      · exact ⟨rfl, rfl⟩
    · cases h
      unfold addPlain
      dsimp only
      split_ifs <;> exact ⟨rfl, rfl⟩

theorem gathered_paging {entries : List (String × String)} {g g' : Gathered}
    (h : entries.foldlM gather g = .ok g') :
    g'.options.limit = g.options.limit ∧ g'.options.page = g.options.page := by
  refine holds_of_foldlM
    (P := fun g' => g'.options.limit = g.options.limit ∧ g'.options.page = g.options.page)
    (fun entry _ next after hnext hstep => ?_) ⟨rfl, rfl⟩ h
  obtain ⟨hlimit, hpage⟩ := gather_paging hstep
  exact ⟨hlimit.trans hnext.1, hpage.trans hnext.2⟩

/-- The options that are made of what the second loop gathered. -/
def assembled (tenant : String) (g : Gathered) : ListOptions :=
  let options := { g.options with
    filterGroups := g.orMap.toList.map fun entry => FilterGroup.mk entry.2
    aggregates := g.aggMap.toList.map fun entry => aggregateSpec entry.2 }
  if tenant = "" then options
  else { options with filter := options.filter.insert "tenantId" tenant }

/-- A listing is passed on when both loops go through. -/
theorem listing?_eq_some_iff {tenant : String} {query : Std.TreeMap String String}
    {options : ListOptions} : listing? tenant query = some options ↔
      ∃ paging g, parseQueryParameters query = .ok paging ∧
        query.toList.foldlM gather
          { options := { limit := paging.1.getD 20, page := paging.2.getD 1 } } = .ok g ∧
        options = assembled tenant g := by
  unfold listing?
  cases hparse : parseQueryParameters query with
  | error refusal => simp
  | ok paging =>
      have hoptions : listOptions tenant paging query = (query.toList.foldlM gather
          { options := { limit := paging.1.getD 20, page := paging.2.getD 1 } }).map
          (assembled tenant) := by
        unfold listOptions
        dsimp only
        cases query.toList.foldlM gather
          { options := { limit := paging.1.getD 20, page := paging.2.getD 1 } } <;> rfl
      simp only [hoptions]
      cases hgather : query.toList.foldlM gather
          { options := { limit := paging.1.getD 20, page := paging.2.getD 1 } } with
      | error e => simp [Except.map, Except.toOption, hgather]
      | ok g => simp [Except.map, Except.toOption, hgather, eq_comm]

/-- The limit and the page of the options are those of the first loop. -/
theorem listing?_paging {tenant : String} {query : Std.TreeMap String String}
    {limit page : Option Int} {options : ListOptions}
    (hparse : parseQueryParameters query = .ok (limit, page))
    (hlisting : listing? tenant query = some options) :
    options.limit = limit.getD 20 ∧ options.page = page.getD 1 := by
  obtain ⟨paging, g, hparse', hgather, rfl⟩ := listing?_eq_some_iff.1 hlisting
  obtain rfl := Except.ok.inj (hparse.symm.trans hparse')
  unfold assembled
  dsimp only
  split <;> exact gathered_paging hgather

end ListHandler
end Daemon
end Dbal
