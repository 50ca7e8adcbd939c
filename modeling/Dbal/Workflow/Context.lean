/-
# The context of a workflow

`include/workflow/wf_context.hpp`, `wf_compare.cpp` and `wf_effects.cpp`: the variables of a running
workflow, the templates that are resolved against them, and the comparisons that may stop it.
-/

import Dbal.Core.Error
import Dbal.JsonReading
import Mathlib.Data.List.Infix

namespace Dbal
namespace Workflow

/-- `WfContext`: its variables are the members of an object. -/
structure WfContext where
  vars : Json := .obj []

/-- The parts of a path between its dots. -/
def segments (path : String) : List String := (path.toList.splitOn '.').map String.ofList

/-- `getPath`. -/
def getPath (node : Json) (default : Json) : List String → Json
  | [] => node
  | key :: rest =>
      match node.find? key with
      | none => default
      | some value => getPath value default rest

namespace WfContext

variable (ctx : WfContext)

def set (key : String) (value : Json) : WfContext := ⟨ctx.vars.set key value⟩

/-- `get`: a path with a dot goes on into an object. -/
def get (key : String) (default : Json := .null) : Json :=
  match segments key with
  | [] => default
  | [root] => (ctx.vars.find? root).getD default
  | root :: rest =>
      match ctx.vars.find? root with
      | none => default
      | some value => if value.isObject then getPath value default rest else default

/-- `has`: of a path with a dot only the first part is looked for. -/
def has (key : String) : Bool :=
  match segments key with
  | [] => false
  | root :: _ => (ctx.vars.find? root).isSome

variable (dump : Json → String)

/-- What stands in a text for `$\x7bkey\x7d`. -/
def placeholder (key : String) : String :=
  match ctx.get key with
  | .str s => s
  | .null => ""
  | value => dump value

/-- `resolveStr`, from a position on: `skip` characters are those of a placeholder that has been
replaced. -/
def resolveChars : Nat → List Char → List Char
  | _, [] => []
  | skip + 1, _ :: rest => resolveChars skip rest
  | 0, c :: rest =>
      match c, rest with
      | '$', '\x7b' :: after =>
          if '\x7d' ∈ after then
            let key := after.takeWhile (· ≠ '\x7d')
            (ctx.placeholder dump (.ofList key)).toList ++ resolveChars (key.length + 2) rest
          else '$' :: resolveChars 0 rest
      | _, _ => c :: resolveChars 0 rest

def resolveStr (tmpl : String) : String := .ofList (ctx.resolveChars dump 0 tmpl.toList)

/-- The key of a text that is one placeholder as a whole. -/
def wholeKey (tmpl : String) : Option String :=
  match tmpl.toList with
  | '$' :: '\x7b' :: rest =>
      let key := rest.takeWhile (· ≠ '\x7d')
      if key ≠ [] ∧ rest = key ++ ['\x7d'] then some (.ofList key) else none
  | _ => none

mutual

/-- `resolve`. -/
def resolve : Json → Json
  | .str s =>
      match wholeKey s with
      | some key => ctx.get key (.str s)
      | none => .str (ctx.resolveStr dump s)
  | .obj members => .obj (resolveMembers members)
  | .arr elements => .arr (resolveElements elements)
  | value => value

/-- The members of an object. -/
def resolveMembers : List (String × Json) → List (String × Json)
  | [] => []
  | (key, value) :: rest => (key, resolve value) :: resolveMembers rest

/-- The elements of an array. -/
def resolveElements : List Json → List Json
  | [] => []
  | value :: rest => resolve value :: resolveElements rest

end

end WfContext

/-! ### Comparisons and effects -/

/-- `asText`. -/
def asText (dump : Json → String) : Json → String
  | .null => ""
  | .str s => s
  | value => dump value

/-- `compareHolds`: no unknown relation holds. -/
def compareHolds (dump : Json → String) (relation : String) (value other : Json) : Bool :=
  let got := asText dump value
  let want := asText dump other
  match toLower relation with
  | "empty" => got = ""
  | "not empty" => got ≠ ""
  | "equals" => got = want
  | "does not equal" => got ≠ want
  | "contains" => want.toList <:+: got.toList
  | "does not contain" => ¬ want.toList <:+: got.toList
  | "is true" =>
      match value with
      | .bool b => b
      | _ => toLower got = "true"
  | _ => false

/-- `kEffectsVar`. -/
def effectsVar : String := "__page_effects"

/-- `appendEffect`. -/
def appendEffect (existing effect : Json) : Json :=
  match existing with
  | .arr effects => .arr (effects ++ [effect])
  | _ => .arr [effect]

/-- A placeholder is resolved in the middle of a text, and one that is the whole text keeps its
kind of value. -/
example :
    let ctx : WfContext := WfContext.set {} "event" (.obj [("n", .int 3)])
    let tmpl := String.ofList ['$', '\x7b', 'e', 'v', 'e', 'n', 't', '.', 'n', '\x7d']
    ctx.resolve (fun _ => "3") (.str tmpl) = .int 3 ∧
      ctx.resolve (fun _ => "3") (.str ("no. " ++ tmpl ++ "!")) = .str "no. 3!" := by
  exact ⟨rfl, rfl⟩

end Workflow
end Dbal
