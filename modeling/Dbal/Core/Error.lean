/-
# Errors

`include/dbal/core/error_codes.hpp`, `error.hpp` and `src/errors.cpp`: an error
is a code and a message, and `Result<T>` is a value or an error.  Beside them
stand the two bits of the C++ library that every layer uses: the range of `int`
and the case folding of names.
-/

namespace Dbal

/-- `ErrorCode`. -/
inductive ErrorCode where
  | notFound | conflict | unauthorized | forbidden | validationError | rateLimitExceeded
  | internalError | timeout | databaseError | capabilityNotSupported | sandboxViolation
  | maliciousCodeDetected
  deriving DecidableEq, Repr

/-- The values of the enumeration are HTTP statuses. -/
def ErrorCode.status : ErrorCode → Nat
  | .notFound => 404
  | .conflict => 409
  | .unauthorized => 401
  | .forbidden => 403
  | .validationError => 422
  | .rateLimitExceeded => 429
  | .internalError => 500
  | .timeout => 504
  | .databaseError => 503
  | .capabilityNotSupported => 501
  | .sandboxViolation => 406
  | .maliciousCodeDetected => 451

/-- `Error`. -/
structure Error where
  code : ErrorCode
  message : String
  deriving DecidableEq, Repr

namespace Error

def notFound (message : String) : Error := ⟨.notFound, message⟩
def conflict (message : String) : Error := ⟨.conflict, message⟩
def validationError (message : String) : Error := ⟨.validationError, message⟩
def internal (message : String) : Error := ⟨.internalError, message⟩

end Error

/-- `Result<T>`. -/
abbrev Result (α : Type) := Except Error α

/-- The largest `int`. -/
def intMax : Nat := 2147483647

/-- `tolower`, byte by byte. -/
def toLower (str : String) : String := String.ofList (str.toList.map Char.toLower)

end Dbal
