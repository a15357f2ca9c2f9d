/-!
What a database can answer in place of rows.
-/

namespace SqlPipeline

inductive DbError where
  /-- The connection is gone, and with it everything that follows. -/
  | connection (detail : String)
  | execution (detail : String)
  | notImplemented (backend feature : String)
  /-- An earlier statement broke down while it held the connection. -/
  | poisoned (detail : String)
  | internal (detail : String)
  /-- The statement was stopped by the driver. -/
  | cancelled (detail : String)
  deriving DecidableEq

def DbError.message : DbError → String
  | .connection detail => "[D001] Database connection failed: " ++ detail
  | .execution detail => "[D002] SQL execution failed: " ++ detail
  | .notImplemented backend feature =>
      "[D005] Feature not implemented for " ++ backend ++ ": " ++ feature
  | .poisoned detail => "[D006] Database mutex poisoned: " ++ detail
  | .internal detail => "[D007] Internal database error: " ++ detail
  | .cancelled detail => "[D008] Statement cancelled: " ++ detail

end SqlPipeline
