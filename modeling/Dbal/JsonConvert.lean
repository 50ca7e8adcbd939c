/-
# Between the two JSON libraries

`src/daemon/json_convert.hpp`.  `jsoncpp_to_nlohmann` keeps every value (`jsoncppToNlohmann_eq`).
`nlohmann_to_jsoncpp` asks `is_number_integer()` before `is_number_unsigned()`, and the first is
true of unsigned numbers too, so they all go through `int64_t` and the branch for them is never
taken: the numbers from `2 ^ 63` on come out negative.  Two values are compared at every path, by
the head that is found there, which is what nested maps and arrays consist of; the conversion
commutes with every path (`at?_nlohmannToJsoncpp`), and so it keeps exactly the values in which no
path leads to such a number (`converts_back_iff`).
-/

import Dbal.Json
import Mathlib.Data.Option.Basic

namespace Dbal
namespace Json

mutual

/-- `jsoncpp_to_nlohmann`. -/
def jsoncppToNlohmann : Json → Json
  | .null => .null
  | .int i => .int i
  | .uint n => .uint n
  | .real mantissa exponent => .real mantissa exponent
  | .str s => .str s
  | .bool b => .bool b
  | .arr xs => .arr (listToNlohmann xs)
  | .obj members => .obj (membersToNlohmann members)

/-- The elements of an array. -/
def listToNlohmann : List Json → List Json
  | [] => []
  | x :: xs => x.jsoncppToNlohmann :: listToNlohmann xs

/-- The members of an object. -/
def membersToNlohmann : List (String × Json) → List (String × Json)
  | [] => []
  | (key, x) :: members => (key, x.jsoncppToNlohmann) :: membersToNlohmann members

end

/-! ## Paths -/

/-- A step from a value to one of its parts. -/
inductive Step where
  | key (key : String)
  | index (i : Nat)
  deriving DecidableEq, Repr

/-- The part a step leads to. -/
def child? (node : Json) : Step → Option Json
  | .key key => node.find? key
  | .index i =>
      match node with
      | .arr xs => xs[i]?
      | _ => none

/-- The part a path leads to. -/
def at? (node : Json) : List Step → Option Json
  | [] => some node
  | step :: path => (node.child? step).bind fun child => child.at? path

/-- Two values are of one kind and, where they are simple, of one value; numbers are one kind. -/
def SameHead : Json → Json → Prop
  | .null, .null => True
  | .bool b, .bool b' => b = b'
  | .str s, .str s' => s = s'
  | .arr xs, .arr ys => xs.length = ys.length
  | .obj _, .obj _ => True
  | x, y => sameNumber x.number y.number = true

/-- Every path leads to the same in both values: objects as maps, arrays place by place. -/
def Same (v w : Json) : Prop := ∀ path, Option.Rel SameHead (v.at? path) (w.at? path)

/-- Some path leads to an unsigned number that no `int64_t` holds. -/
def HasLarge (v : Json) : Prop := ∃ path n, v.at? path = some (.uint n) ∧ 2 ^ 63 ≤ n

/-! ## The conversions -/

mutual

/-- `jsoncpp_to_nlohmann` changes nothing. -/
theorem jsoncppToNlohmann_eq (v : Json) : v.jsoncppToNlohmann = v := by
  cases v with
  | arr xs => rw [jsoncppToNlohmann, listToNlohmann_eq]
  | obj members => rw [jsoncppToNlohmann, membersToNlohmann_eq]
  | _ => rfl

theorem listToNlohmann_eq (xs : List Json) : listToNlohmann xs = xs := by
  cases xs with
  | nil => rfl
  | cons x xs => rw [listToNlohmann, jsoncppToNlohmann_eq x, listToNlohmann_eq xs]

theorem membersToNlohmann_eq (members : List (String × Json)) :
    membersToNlohmann members = members := by
  cases members with
  | nil => rfl
  | cons member members =>
      rw [membersToNlohmann, jsoncppToNlohmann_eq member.2, membersToNlohmann_eq members]

end

theorem listToJsoncpp_eq_map (xs : List Json) :
    listToJsoncpp xs = xs.map nlohmannToJsoncpp := by
  induction xs with
  | nil => rfl
  | cons x xs ih => rw [listToJsoncpp, ih, List.map_cons]

theorem membersToJsoncpp_append (members : List (String × Json)) (key : String) (value : Json) :
    membersToJsoncpp (members ++ [(key, value)]) =
      membersToJsoncpp members ++ [(key, value.nlohmannToJsoncpp)] := by
  induction members with
  | nil => rfl
  | cons member members ih => rw [List.cons_append, membersToJsoncpp, ih]; rfl

theorem find?_membersToJsoncpp (members : List (String × Json)) (key : String) :
    (obj (membersToJsoncpp members)).find? key =
      ((obj members).find? key).map nlohmannToJsoncpp := by
  induction members using List.reverseRecOn with
  | nil => simp [membersToJsoncpp, find?, fields]
  | append_singleton members member ih =>
      obtain ⟨k, value⟩ := member
      have hset := find?_set_obj members k key value
      have hset' := find?_set_obj (membersToJsoncpp members) k key value.nlohmannToJsoncpp
      simp only [set] at hset hset'
      rw [membersToJsoncpp_append, hset', hset, ih]
      split <;> rfl

theorem child?_nlohmannToJsoncpp (v : Json) (step : Step) :
    v.nlohmannToJsoncpp.child? step = (v.child? step).map nlohmannToJsoncpp := by
  cases v with
  | arr xs =>
      cases step with
      | key key => rfl
      | index i =>
          rw [nlohmannToJsoncpp, child?, child?, listToJsoncpp_eq_map, List.getElem?_map]
  | obj members =>
      cases step with
      | key key => exact find?_membersToJsoncpp members key
      | index i => rfl
  | _ => cases step <;> rfl

/-- What a path leads to after the conversion is the conversion of what it led to. -/
theorem at?_nlohmannToJsoncpp (v : Json) (path : List Step) :
    v.nlohmannToJsoncpp.at? path = (v.at? path).map nlohmannToJsoncpp := by
  induction path generalizing v with
  | nil => rfl
  | cons step path ih =>
      rw [at?, at?, child?_nlohmannToJsoncpp]
      cases v.child? step with
      | none => rfl
      | some child => exact ih child

/-- The head of a value is kept unless it is a large unsigned number. -/
theorem sameHead_nlohmannToJsoncpp (v : Json) :
    SameHead v.nlohmannToJsoncpp v ↔ ∀ n, v = .uint n → n < 2 ^ 63 := by
  cases v with
  | uint n =>
      have hvalue : SameHead (nlohmannToJsoncpp (.uint n)) (.uint n) ↔
          ((n : Int).bmod (2 ^ 64)) = n := by
        simp [nlohmannToJsoncpp, SameHead, number, sameNumber]
      have hbmod : ((n : Int).bmod (2 ^ 64)) = n ↔ n < 2 ^ 63 := by
        rw [Int.bmod_def]
        omega
      rw [hvalue, hbmod]
      exact ⟨fun h m hm => uint.inj hm ▸ h, fun h => h n rfl⟩
  | arr xs => simp [nlohmannToJsoncpp, SameHead, listToJsoncpp_eq_map]
  | _ => simp [nlohmannToJsoncpp, SameHead, number, sameNumber]

/-- A conversion that commutes with paths keeps a value where it keeps the head at every path. -/
theorem same_nlohmannToJsoncpp (v : Json) : Same v.nlohmannToJsoncpp v ↔ ¬ HasLarge v := by
  constructor
  · rintro hsame ⟨path, n, hpath, hlarge⟩
    have hrel := hsame path
    rw [at?_nlohmannToJsoncpp, hpath] at hrel
    obtain ⟨hhead⟩ := hrel
    have hsmall := (sameHead_nlohmannToJsoncpp _).1 hhead n rfl
    omega
  · intro hsmall path
    rw [at?_nlohmannToJsoncpp]
    cases hpath : v.at? path with
    | none => exact .none
    | some x =>
        refine .some ((sameHead_nlohmannToJsoncpp x).2 fun n hn => ?_)
        rw [hn] at hpath
        exact Nat.lt_of_not_ge fun hlarge => hsmall ⟨path, n, hpath, hlarge⟩

/-- **What comes back is the value that went in exactly when no unsigned number in it is too large
for `int64_t`**, whichever of the two libraries it starts from. -/
theorem converts_back_iff (v : Json) :
    (Same v.nlohmannToJsoncpp.jsoncppToNlohmann v ↔ ¬ HasLarge v) ∧
    (Same v.jsoncppToNlohmann.nlohmannToJsoncpp v ↔ ¬ HasLarge v) := by
  rw [jsoncppToNlohmann_eq, jsoncppToNlohmann_eq]
  exact ⟨same_nlohmannToJsoncpp v, same_nlohmannToJsoncpp v⟩

/-- `{"size": 9223372036854775808}` does not come back, whichever library it starts from. -/
theorem large_size_lost :
    let v : Json := .obj [("size", .uint 9223372036854775808)]
    ¬ Same v.nlohmannToJsoncpp.jsoncppToNlohmann v ∧
    ¬ Same v.jsoncppToNlohmann.nlohmannToJsoncpp v := by
  intro v
  have hlarge : HasLarge v :=
    ⟨[.key "size"], 9223372036854775808, by simp [v, at?, child?, find?, fields], by decide⟩
  have hlost : ¬ Same v.nlohmannToJsoncpp v := fun hsame =>
    (same_nlohmannToJsoncpp v).1 hsame hlarge
  rw [jsoncppToNlohmann_eq, jsoncppToNlohmann_eq]
  exact ⟨hlost, hlost⟩

/-- It comes back negative. -/
example : (obj [("size", .uint 9223372036854775808)]).nlohmannToJsoncpp =
    .obj [("size", .int (-9223372036854775808))] := by
  simp [nlohmannToJsoncpp, membersToJsoncpp]

end Json
end Dbal
