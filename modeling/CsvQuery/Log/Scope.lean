import CsvQuery.Log.Basic

/-!
# Observation scopes

A scope brackets a unit of work in the log: opening it logs `N_BEGIN` with its fields, and
it ends in one of three ways. Completing logs `N_COMPLETE` with the fields, any extra
fields and the elapsed time; failing logs `N_ERROR` with the fields, a code and a reason;
abandoning it unclosed logs `N_INCOMPLETE` as a warning.
-/

namespace CsvQuery

/-- An open scope: its name and fields. -/
structure Scope where
  name : String
  fields : List (String × String) := []
deriving DecidableEq, Repr, Inhabited

namespace Scope

/-- The record logged on opening. -/
def beginRecord (s : Scope) : LogRecord := ⟨.info, s.name ++ "_BEGIN", s.fields⟩

/-- The record logged on completion, after `elapsed` milliseconds. -/
def completeRecord (s : Scope) (extra : List (String × String)) (elapsed : String) :
    LogRecord :=
  ⟨.info, s.name ++ "_COMPLETE", s.fields ++ extra ++ [("elapsed_ms", elapsed)]⟩

/-- The record logged on failure. -/
def failRecord (s : Scope) (code reason : String) : LogRecord :=
  ⟨.error, s.name ++ "_ERROR", s.fields ++ [("code", code), ("reason", reason)]⟩

/-- The record logged when a scope is abandoned without closing. -/
def abandonRecord (s : Scope) : LogRecord :=
  ⟨.warn, s.name ++ "_INCOMPLETE", s.fields ++ [("reason", "scope dropped without completion")]⟩

end Scope

end CsvQuery
