/-
# Answers

What a handler answers through its two callbacks (`src/daemon/response_formatter.cpp`),
and the two things that every handler of the daemon does: exceptions become a 500, and
a new row gets the tenant of the path.
-/

import Dbal.Adapters.Adapter

namespace Dbal
namespace Daemon

variable {σ : Type}

/-- What the program takes from its libraries: jsoncpp's text of a `double` and of a whole
value, and `std::regex_search`, which is `none` for a pattern that does not compile. -/
structure Libraries where
  formatReal : Int → Int → String
  toStyledString : Json → String
  regexSearch : (pattern text : String) → Option Bool

/-- What `send_success` or `send_error` is called with. -/
inductive Reply where
  | success (data : Json)
  | error (message : String) (status : Nat)
  deriving Repr

/-- `send_error(error.what(), error.code())`. -/
def sendError (e : Error) : Reply := .error e.message e.code.status

/-- `ResponseFormatter::withExceptionHandling`. -/
def withExceptionHandling (handler : Act Thrown σ Reply) : Act Thrown σ Reply :=
  handler.catching fun e => .error ("Internal server error: " ++ e.what) 500

/-- `data["tenantId"] = tenant`, unless the tenant is empty or the data has one. -/
def injectTenant (tenant : String) (data : Json) : Except JsonError Json :=
  if tenant ≠ "" ∧ !data.contains "tenantId" then data.assign "tenantId" (.str tenant)
  else .ok data

end Daemon
end Dbal
