/-
# The in-memory store

`src/store/in_memory_store.hpp`: the collections of records, the indexes next to
them and the counters that ids are generated from.

A `std::map` is an ordered map; a vector of ids under a key is an entry of a
`SecondaryIndex`.  Of users and credentials, which no operation here creates, only
the fields are kept that one reads.
-/

import Dbal.Core.Error
import Dbal.Store.SecondaryIndex

namespace Dbal

/-- `ComponentNode`. -/
structure ComponentNode where
  id : String
  pageId : String
  parentId : Option String
  type : String
  childIds : String
  order : Int
  deriving DecidableEq, Repr

/-- `PageConfig`; `createdAt` is the reading of the clock. -/
structure PageConfig where
  id : String
  tenantId : Option String
  packageId : Option String
  path : String
  title : String
  description : Option String
  icon : Option String
  component : Option String
  level : Int
  requiresAuth : Bool
  requiredRole : Option String
  parentPath : Option String
  sortOrder : Int
  isPublished : Bool
  params : Option String
  «meta» : Option String
  createdAt : Int
  deriving DecidableEq, Repr

/-- `User`. -/
structure User where
  id : String
  username : String
  firstLogin : Option Bool
  deriving DecidableEq, Repr

/-- `Workflow`. -/
structure Workflow where
  id : String
  tenantId : Option String
  name : String
  description : Option String
  enabled : Bool
  version : Int
  createdAt : Int
  updatedAt : Option Int
  createdBy : Option String
  deriving DecidableEq, Repr

/-- `Session`. -/
structure Session where
  id : String
  userId : String
  token : String
  expiresAt : Int
  createdAt : Int
  lastActivity : Option Int
  ipAddress : Option String
  userAgent : Option String
  deriving DecidableEq, Repr

/-- `InstalledPackage`. -/
structure InstalledPackage where
  packageId : String
  tenantId : Option String
  installedAt : Int
  version : String
  enabled : Bool
  deriving DecidableEq, Repr

/-- `Credential`. -/
structure Credential where
  username : String
  passwordHash : String
  deriving DecidableEq, Repr

/-- `InMemoryStore`. -/
structure InMemoryStore where
  users : Std.TreeMap String User := ∅
  pages : Std.TreeMap String PageConfig := ∅
  workflows : Std.TreeMap String Workflow := ∅
  sessions : Std.TreeMap String Session := ∅
  packages : Std.TreeMap String InstalledPackage := ∅
  credentials : Std.TreeMap String Credential := ∅
  pagePaths : Std.TreeMap String String := ∅
  workflowNames : Std.TreeMap String String := ∅
  sessionTokens : Std.TreeMap String String := ∅
  packageKeys : Std.TreeMap String String := ∅
  userCounter : Nat := 0
  pageCounter : Nat := 0
  workflowCounter : Nat := 0
  sessionCounter : Nat := 0
  packageCounter : Nat := 0
  credentialCounter : Nat := 0
  components : Std.TreeMap String ComponentNode := ∅
  componentsByPage : SecondaryIndex String String := ∅
  componentsByParent : SecondaryIndex String String := ∅
  componentCounter : Nat := 0

/-- `%08d` of a counter: zeros on the left up to eight digits. -/
def pad8 (n : Nat) : List Char :=
  List.replicate (8 - (Nat.toDigits 10 n).length) '0' ++ Nat.toDigits 10 n

/-- `generateId`: the prefix, an underscore and the padded counter.  Every id of
the prefixes in use fits the buffer of 64 characters. -/
def generateId (pre : String) (counter : Nat) : String :=
  String.ofList (pre.toList ++ '_' :: pad8 counter)

theorem ofDigitChars_pad8 (n : Nat) : Nat.ofDigitChars 10 (pad8 n) 0 = n := by
  rw [pad8, Nat.ofDigitChars_append, Nat.ofDigitChars_replicate_zero, Nat.mul_zero,
    Nat.ofDigitChars_ten_toDigits]

/-- **Ids of different counters are different.** -/
theorem generateId_injective {pre : String} {m n : Nat} (h : generateId pre m = generateId pre n) :
    m = n := by
  have hlist : pre.toList ++ '_' :: pad8 m = pre.toList ++ '_' :: pad8 n := by
    simpa [generateId] using congrArg String.toList h
  have hpad : pad8 m = pad8 n := by simpa using hlist
  rw [← ofDigitChars_pad8 m, hpad, ofDigitChars_pad8]

theorem generateId_ne_empty (pre : String) (n : Nat) : generateId pre n ≠ "" := by
  intro h
  have := congrArg String.toList h
  simp [generateId] at this

/-- `++counter`: counting past the largest `int` has no defined value. -/
def increment (counter : Nat) : Option Nat :=
  if counter < intMax then some (counter + 1) else none

end Dbal
