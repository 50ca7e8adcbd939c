/-
# JSON values

The values that the schema files and the request bodies hold, and the part of
nlohmann's and jsoncpp's reading of them that the program uses.

An object is given by a list of members and stands for the map that both parsers
make of it: a later member replaces an earlier one with the same key, and the
members are visited in the order of their keys.  A `real` is a dyadic number
`mantissa * 2 ^ exponent`, as every finite `double` is.
-/

import Mathlib.Algebra.Group.Int.Defs
import Mathlib.Algebra.Group.Nat.Defs
import Mathlib.Data.List.Basic
import Mathlib.Data.List.Induction
import Mathlib.Data.Int.Init

namespace Dbal

/-- A JSON value. -/
inductive Json where
  | null
  | bool (b : Bool)
  | int (i : Int)
  | uint (n : Nat)
  | real (mantissa exponent : Int)
  | str (s : String)
  | arr (elements : List Json)
  | obj (members : List (String × Json))
  deriving Repr, Inhabited

/-- What the JSON libraries throw: nlohmann's type errors by number, and jsoncpp's
`LogicError`. -/
inductive JsonError where
  | typeError302
  | typeError305
  | typeError306
  | logicError
  deriving DecidableEq, Repr

namespace Json

/-! ### Equality -/

/-- A number as a mantissa and an exponent. -/
def number : Json → Option (Int × Int)
  | .int i => some (i, 0)
  | .uint n => some (n, 0)
  | .real mantissa exponent => some (mantissa, exponent)
  | _ => none

/-- Two numbers with one value. -/
def sameNumber : Option (Int × Int) → Option (Int × Int) → Bool
  | some (m, e), some (m', e') =>
      m * 2 ^ (e - min e e').toNat == m' * 2 ^ (e' - min e e').toNat
  | _, _ => false

mutual

/-- `==`: numbers by their value, arrays and objects part by part. -/
def beq : Json → Json → Bool
  | .null, .null => true
  | .bool b, .bool b' => b == b'
  | .str s, .str s' => s == s'
  | .arr xs, .arr ys => elementsBeq xs ys
  | .obj members, .obj members' => membersBeq members members'
  | x, y => sameNumber x.number y.number

/-- The elements of two arrays. -/
def elementsBeq : List Json → List Json → Bool
  | [], [] => true
  | x :: xs, y :: ys => beq x y && elementsBeq xs ys
  | _, _ => false

/-- The members of two objects. -/
def membersBeq : List (String × Json) → List (String × Json) → Bool
  | [], [] => true
  | (key, x) :: xs, (key', y) :: ys => key == key' && beq x y && membersBeq xs ys
  | _, _ => false

end

instance : BEq Json := ⟨beq⟩

/-- Only a text equals a text. -/
theorem eq_of_beq_str {value : Json} {text : String} (h : (value == .str text) = true) :
    value = .str text := by
  have hbeq : beq value (.str text) = true := h
  cases value with
  | str s =>
      rw [beq, beq_iff_eq] at hbeq
      rw [hbeq]
  | _ => simp [beq, number, sameNumber] at hbeq

/-- A field equals a text where it is that text. -/
theorem beq_some_str_iff {field : Option Json} {text : String} :
    (field == some (.str text)) = true ↔ field = some (.str text) := by
  constructor
  · intro h
    cases field with
    | none => cases h
    | some value => exact congrArg some (eq_of_beq_str h)
  · rintro rfl
    exact beq_self_eq_true text

/-- A real number equals the integer of its value. -/
example : (real 1 1 == uint 2) = true ∧ (null == bool false) = false := by decide

/-! ### Access -/

/-- The map that an object stands for; every other value has no members. -/
def fields : Json → Std.TreeMap String Json
  | .obj members => .ofList members
  | _ => ∅

/-- The member under `key`, if there is one. -/
def find? (node : Json) (key : String) : Option Json := node.fields[key]?

/-- `contains(key)`: false when the value is no object. -/
def contains (node : Json) (key : String) : Bool := (node.find? key).isSome

/-- The members of an object, as they are listed. -/
def members : Json → List (String × Json)
  | .obj members => members
  | _ => []

def isObject : Json → Bool
  | .obj _ => true
  | _ => false

def isArray : Json → Bool
  | .arr _ => true
  | _ => false

def isNull : Json → Bool
  | .null => true
  | _ => false

def isString : Json → Bool
  | .str _ => true
  | _ => false

def isBoolean : Json → Bool
  | .bool _ => true
  | _ => false

def isNumber : Json → Bool
  | .int _ | .uint _ | .real _ _ => true
  | _ => false

/-- `empty()`. -/
def isEmpty : Json → Bool
  | .null => true
  | .arr elements => elements.isEmpty
  | .obj members => members.isEmpty
  | _ => false

/-- `get<std::string>()`. -/
def getString : Json → Except JsonError String
  | .str s => .ok s
  | _ => .error .typeError302

/-- The integer part of a `real`. -/
def truncate (mantissa exponent : Int) : Int :=
  if 0 ≤ exponent then mantissa * 2 ^ exponent.toNat else mantissa.tdiv (2 ^ (-exponent).toNat)

/-- `get<int>()`: every number and both booleans convert. -/
def getInt : Json → Except JsonError Int
  | .bool b => .ok (if b then 1 else 0)
  | .int i => .ok (i.bmod (2 ^ 32))
  | .uint n => .ok ((n : Int).bmod (2 ^ 32))
  | .real mantissa exponent => .ok ((truncate mantissa exponent).bmod (2 ^ 32))
  | _ => .error .typeError302

/-- `get<int64_t>()` on a number. -/
def getInt64 : Json → Int
  | .int i => i.bmod (2 ^ 64)
  | .uint n => (n : Int).bmod (2 ^ 64)
  | .real mantissa exponent => (truncate mantissa exponent).bmod (2 ^ 64)
  | _ => 0

/-- `value(key, default)` for strings. -/
def valueString (node : Json) (key default : String) : Except JsonError String :=
  match node with
  | .obj _ =>
      match node.find? key with
      | none => .ok default
      | some (.str s) => .ok s
      | some _ => .error .typeError302
  | _ => .error .typeError306

/-- `value(key, default)` for booleans. -/
def valueBool (node : Json) (key : String) (default : Bool) : Except JsonError Bool :=
  match node with
  | .obj _ =>
      match node.find? key with
      | none => .ok default
      | some (.bool b) => .ok b
      | some _ => .error .typeError302
  | _ => .error .typeError306

/-- `value(key, default)` for `int`s. -/
def valueInt (node : Json) (key : String) (default : Int) : Except JsonError Int :=
  match node with
  | .obj _ =>
      match node.find? key with
      | none => .ok default
      | some value => getInt value
  | _ => .error .typeError306

/-- The values that a loop `for (const auto& x : node)` visits. -/
def elements : Json → List Json
  | .null => []
  | .arr xs => xs
  | .obj members => (obj members).fields.toList.map Prod.snd
  | node => [node]

/-- The pairs that `items()` visits: the key of an element of an array is its index,
that of a value of a simple type is empty. -/
def items : Json → List (String × Json)
  | .null => []
  | .arr xs => xs.zipIdx.map fun (x, i) => (toString i, x)
  | .obj members => (obj members).fields.toList
  | node => [("", node)]

theorem items_of_isEmpty {node : Json} (h : node.isEmpty = true) : node.items = [] := by
  cases node with
  | null => rfl
  | arr xs => simpa [items, isEmpty] using h
  | obj members =>
      obtain rfl : members = [] := by simpa [isEmpty] using h
      rfl
  | _ => exact nomatch h

/-- jsoncpp's `asString`, given its formatting of `double`s: arrays and objects do not
convert. -/
def asString (formatReal : Int → Int → String) : Json → Except JsonError String
  | .null => .ok ""
  | .str s => .ok s
  | .bool b => .ok (if b then "true" else "false")
  | .int i => .ok (toString i)
  | .uint n => .ok (toString n)
  | .real mantissa exponent => .ok (formatReal mantissa exponent)
  | .arr _ | .obj _ => .error .logicError

/-- jsoncpp's `isMember`, which refuses everything but objects and null. -/
def isMember (node : Json) (key : String) : Except JsonError Bool :=
  match node with
  | .null => .ok false
  | .obj _ => .ok (node.contains key)
  | _ => .error .logicError

/-- `node[key] = value` on an object. -/
def set (node : Json) (key : String) (value : Json) : Json :=
  match node with
  | .obj members => .obj (members ++ [(key, value)])
  | _ => .obj [(key, value)]

/-- nlohmann's `node[key] = value`: null becomes an object, other values have no keys. -/
def assign (node : Json) (key : String) (value : Json) : Except JsonError Json :=
  match node with
  | .null | .obj _ => .ok (node.set key value)
  | _ => .error .typeError305

mutual

/-- `nlohmann_to_jsoncpp`: an unsigned number goes through `int64_t`.  The other way
round, `jsoncpp_to_nlohmann` changes nothing. -/
def nlohmannToJsoncpp : Json → Json
  | .uint n => .int ((n : Int).bmod (2 ^ 64))
  | .arr xs => .arr (listToJsoncpp xs)
  | .obj members => .obj (membersToJsoncpp members)
  | node => node

/-- The elements of an array. -/
def listToJsoncpp : List Json → List Json
  | [] => []
  | x :: xs => x.nlohmannToJsoncpp :: listToJsoncpp xs

/-- The members of an object. -/
def membersToJsoncpp : List (String × Json) → List (String × Json)
  | [] => []
  | (key, x) :: members => (key, x.nlohmannToJsoncpp) :: membersToJsoncpp members

end

/-! ### Members -/

@[simp] theorem find?_null (key : String) : null.find? key = none := rfl

@[simp] theorem find?_arr (xs : List Json) (key : String) : (arr xs).find? key = none := rfl

/-- Only an object has members. -/
theorem exists_obj_of_isObject {node : Json} (h : node.isObject) :
    ∃ members, node = .obj members := by
  cases node with
  | obj members => exact ⟨members, rfl⟩
  | _ => exact nomatch h

theorem eq_null_of_isNull {node : Json} (h : node.isNull) : node = .null := by
  cases node with
  | null => rfl
  | _ => exact nomatch h

theorem exists_obj_of_find? {node : Json} {key : String} {value : Json}
    (h : node.find? key = some value) : ∃ members, node = .obj members := by
  cases node with
  | obj members => exact ⟨members, rfl⟩
  | _ => cases h

theorem find?_of_not_isObject {node : Json} (h : ¬ node.isObject) (key : String) :
    node.find? key = none := by
  cases node with
  | obj members => exact (h rfl).elim
  | _ => rfl

theorem mem_toList_fields {node : Json} {key : String} {value : Json} :
    (key, value) ∈ node.fields.toList ↔ node.find? key = some value :=
  Std.TreeMap.mem_toList_iff_getElem?_eq_some

theorem find?_set_obj (members : List (String × Json)) (key k : String) (value : Json) :
    ((obj members).set key value).find? k = if key = k then some value else (obj members).find? k := by
  simp [set, find?, fields, Std.TreeMap.ofList_eq_insertMany_empty,
    Std.TreeMap.insertMany_append, Std.TreeMap.getElem?_insert]

theorem find?_set (node : Json) (key k : String) (value : Json) :
    (node.set key value).find? k = if key = k then some value else node.find? k := by
  cases node with
  | obj members => exact find?_set_obj members key k value
  | _ => exact find?_set_obj [] key k value

theorem find?_eq_members (node : Json) (key : String) :
    node.find? key = (obj node.members).find? key := by
  cases node with
  | obj members => rfl
  | _ => simp [find?, fields, members]

/-- The members of a second list come before those of the first. -/
theorem find?_append (members more : List (String × Json)) (key : String) :
    (obj (members ++ more)).find? key = ((obj more).find? key).or ((obj members).find? key) := by
  induction more using List.reverseRecOn with
  | nil => simp [find?, fields]
  | append_singleton more pair ih =>
      obtain ⟨k, value⟩ := pair
      have hset := find?_set_obj (members ++ more) k key value
      have hset' := find?_set_obj more k key value
      simp only [set, List.append_assoc] at hset hset'
      rw [hset, hset', ih]
      split_ifs <;> simp

end Json
end Dbal
