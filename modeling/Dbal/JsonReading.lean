/-
# Reading the members of a document

What nlohmann's `value`, `get` and `contains` make of the members of a document, as tests
on the document and total readings of it: `memberIs` and `text`, `flag`, `toInt`.  Each
reader yields its reading exactly when its test holds.
-/

import Dbal.Core.Reading
import Dbal.Json

namespace Dbal
namespace Json

/-- The member under `key` is missing or of a kind. -/
def memberIs (kind : Json → Bool) (node : Json) (key : String) : Bool :=
  (node.find? key).all kind

/-- The text of a string, empty for any other value. -/
def text : Json → String
  | .str s => s
  | _ => ""

/-- The text under `key`. -/
def textAt (node : Json) (key default : String) : String :=
  match node.find? key with
  | some value => value.text
  | none => default

/-- The member under `key` is `true`. -/
def flag (node : Json) (key : String) : Bool :=
  match node.find? key with
  | some (.bool b) => b
  | _ => false

/-- What `get<int>()` converts. -/
def isIntegral (node : Json) : Bool := node.isNumber || node.isBoolean

/-- The `int` of a number or a boolean. -/
def toInt (node : Json) : Int := node.getInt.toOption.getD 0

theorem yields_getString (node : Json) :
    Yields node.getString node.isString (· = node.text) := by
  cases node with
  | str s => exact Yields.ret s rfl
  | _ => exact Yields.fail _

theorem yields_getInt (node : Json) : Yields node.getInt node.isIntegral (· = node.toInt) := by
  have htest : node.isIntegral = node.getInt.isOk := by
    cases node <;> simp [isIntegral, isNumber, isBoolean, getInt, Except.isOk, Except.toBool]
  rw [htest]
  unfold toInt
  cases node.getInt with
  | ok i => exact Yields.ret i rfl
  | error e => exact Yields.fail e

theorem yields_valueString {node : Json} (h : node.isObject) (key default : String) :
    Yields (node.valueString key default) (node.memberIs isString key)
      (· = node.textAt key default) := by
  obtain ⟨members, rfl⟩ := exists_obj_of_isObject h
  unfold valueString memberIs textAt
  cases hfind : (obj members).find? key with
  | none => exact Yields.ret default rfl
  | some value =>
      cases value with
      | str s => exact Yields.ret s rfl
      | _ => exact Yields.fail _

theorem yields_valueBool {node : Json} (h : node.isObject) (key : String) :
    Yields (node.valueBool key false) (node.memberIs isBoolean key) (· = node.flag key) := by
  obtain ⟨members, rfl⟩ := exists_obj_of_isObject h
  unfold valueBool memberIs flag
  cases hfind : (obj members).find? key with
  | none => exact Yields.ret false rfl
  | some value =>
      cases value with
      | bool b => exact Yields.ret b rfl
      | _ => exact Yields.fail _

theorem yields_valueInt {node : Json} (h : node.isObject) (key : String) (default : Int) :
    Yields (node.valueInt key default) (node.memberIs isIntegral key) fun _ => True := by
  obtain ⟨members, rfl⟩ := exists_obj_of_isObject h
  unfold valueInt memberIs
  cases (obj members).find? key with
  | none => exact Yields.ret default trivial
  | some value => exact (yields_getInt value).mono fun _ _ => trivial

/-- A value that is no object has no defaults. -/
theorem yields_valueString_of_not_isObject {node : Json} (h : node.isObject = false)
    (key default : String) : Yields (node.valueString key default) false fun _ => True := by
  cases node with
  | obj members => cases h
  | _ => exact Yields.fail _

theorem yields_valueBool_of_not_isObject {node : Json} (h : node.isObject = false)
    (key : String) : Yields (node.valueBool key false) false fun _ => True := by
  cases node with
  | obj members => cases h
  | _ => exact Yields.fail _

end Json
end Dbal
