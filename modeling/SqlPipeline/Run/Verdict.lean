import SqlPipeline.Database.Error
import SqlPipeline.Database.Rows
import SqlPipeline.Task

/-!
Verdicts. What comes of a statement that was handed to the database decides whether its task has
passed, has failed, was cancelled by the driver, or shows that the database is lost to everyone.
-/

namespace SqlPipeline

/-- What comes of a statement. A driver that panics leaves a message at most. -/
inductive Outcome where
  | rows (result : Rows)
  | error (error : DbError)
  | panic (message : Option String)

inductive Verdict where
  | passed
  | failed (message : String)
  | cancelled (message : String)
  | fatal (message : String)
  | panicked (message : Option String)
  deriving DecidableEq

namespace Verdict

/-- A lost connection and a poisoned one are fatal; no further statement can succeed on them. -/
def ofError (error : DbError) : Verdict :=
  match error with
  | .cancelled _ => .cancelled error.message
  | .connection _ => .fatal error.message
  | .poisoned _ => .fatal error.message
  | .execution _ | .notImplemented _ _ | .internal _ => .failed error.message

/-- A check passes when no row offends. -/
def ofRows (result : Rows) : Verdict :=
  match result.offending with
  | .ok count =>
      if count = 0 then .passed
      else .failed ("Assertion failed: query returned " ++ toString count ++ " row(s)")
  | .error cell =>
      .failed ("Assertion returned a non-numeric row count: " ++ Rows.shown cell)

def judge (kind : TaskKind) : Outcome → Verdict
  | .rows result =>
      match kind with
      | .statement => .passed
      | .assertion => ofRows result
  | .error error => ofError error
  | .panic message => .panicked message

end Verdict
end SqlPipeline
