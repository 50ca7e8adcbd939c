/-
# How JSON is printed

nlohmann's `dump()` without indentation: the members of an object in the order of their keys, a text
between quotation marks with its quotation marks, backslashes and control characters escaped.

`doubleText` is the shortest decimal text of a `double`.
-/

import Dbal.Json

namespace Dbal
namespace Json

/-- The digits of a control character. -/
def controlDigits (c : Char) : List Char :=
  [Nat.digitChar (c.toNat / 16), Nat.digitChar (c.toNat % 16)]

/-- How a character of a text is printed. -/
def dumpChar (c : Char) : List Char :=
  if c = '"' then ['\\', '"']
  else if c = '\\' then ['\\', '\\']
  else if c = '\x08' then ['\\', 'b']
  else if c = '\x0c' then ['\\', 'f']
  else if c = '\n' then ['\\', 'n']
  else if c = '\r' then ['\\', 'r']
  else if c = '\t' then ['\\', 't']
  else if c.toNat < 32 then ['\\', 'u', '0', '0'] ++ controlDigits c
  else [c]

/-- How a text is printed. -/
def dumpText (s : String) : String :=
  String.ofList ('"' :: (s.toList.flatMap dumpChar ++ ['"']))

section Dump

variable (doubleText : Int → Int → String)

mutual

/-- `dump()`. -/
def dump : Json → String
  | .null => "null"
  | .bool b => if b then "true" else "false"
  | .int i => toString i
  | .uint n => toString n
  | .real mantissa exponent => doubleText mantissa exponent
  | .str s => dumpText s
  | .arr elements => "[" ++ ",".intercalate (dumpElements elements) ++ "]"
  | .obj members =>
      "\x7b" ++ ",".intercalate ((Std.TreeMap.ofList (dumpMembers members)).toList.map fun member =>
        dumpText member.1 ++ ":" ++ member.2) ++ "\x7d"

/-- The elements of an array. -/
def dumpElements : List Json → List String
  | [] => []
  | x :: xs => dump x :: dumpElements xs

/-- The members of an object. -/
def dumpMembers : List (String × Json) → List (String × String)
  | [] => []
  | (key, x) :: members => (key, dump x) :: dumpMembers members

end

/-- A member that occurs twice is the later one, and the order is that of the keys. -/
example : dump (fun _ _ => "")
    (.obj [("b", .null), ("a", .str "x\n"), ("b", .arr [.int 1, .bool true])]) =
    "\x7b\"a\":\"x\\n\",\"b\":[1,true]\x7d" := by
  decide +kernel

end Dump

theorem dumpChar_ne_nil (c : Char) : dumpChar c ≠ [] := by
  unfold dumpChar
  split_ifs <;> simp

/-- A text is never printed as itself. -/
theorem dumpText_ne (s : String) : dumpText s ≠ s := by
  intro heq
  have hlength := congrArg (fun t : String => t.toList.length) heq
  have hchars : s.toList.length ≤ (s.toList.flatMap dumpChar).length := by
    induction s.toList with
    | nil => exact Nat.le_refl 0
    | cons c cs ih =>
        have hone := List.length_pos_of_ne_nil (dumpChar_ne_nil c)
        rw [List.flatMap_cons, List.length_append, List.length_cons]
        omega
  simp only [dumpText, String.toList_ofList, List.length_cons, List.length_append,
    List.length_nil] at hlength
  omega

end Json
end Dbal
