import RecordMapper.Error

/-!
# Log entries

What the library writes to its log: every statement handed to an executor, every schema that is
published, queries that the store could not finish, and failures that an error already reported
would hide.
-/

namespace RecordMapper

/-- An entry of the log. -/
inductive LogEntry where
  | exec (hint sql : String) (params : Nat)
  | query (hint sql : String) (params : Nat)
  | registered (table : String) (columns : Nat)
  | fetchStopped (fetched : Nat) (fault : StorageFault)
  | closeFailed (hint : String) (error : Error)

namespace LogEntry

/-- How serious an entry is. -/
inductive Level where
  | debug
  | warn
deriving DecidableEq, Repr

def Level.name : Level → String
  | debug => "DEBUG"
  | warn => "WARN"

def level : LogEntry → Level
  | fetchStopped .. => .warn
  | closeFailed .. => .warn
  | _ => .debug

def message : LogEntry → String
  | exec .. => "exec"
  | query .. => "query"
  | registered .. => "registered table schema"
  | fetchStopped _ fault => "row fetch stopped: " ++ fault.message
  | closeFailed _ error => "failed to close cursor after error: " ++ error.message

end LogEntry

end RecordMapper
