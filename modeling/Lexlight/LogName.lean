/-!
# Names of logs

All logs of the library hang below one root, so that they can be told apart from those of others
and silenced together.
-/

namespace Lexlight

/-- The name of the root. -/
def logRoot : String := "rulelex"

/-- The name of a log: a name at or below the root as it is, any other one put below it. -/
def logName (name : String) : String :=
  if name = logRoot || name.startsWith (logRoot ++ ".") then name else logRoot ++ "." ++ name

end Lexlight
