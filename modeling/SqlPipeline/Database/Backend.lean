import SqlPipeline.Database.Error
import SqlPipeline.Database.Rows
import SqlPipeline.Target

/-!
What every database can do. A backend executes statements; one that cannot stop a statement lets it
finish though it was cancelled, and one that cannot list its tables says so.
-/

namespace SqlPipeline

structure Backend where
  name : String
  execute : String → Except DbError Rows

namespace Backend

/-- Without a way to stop a statement, cancelling it changes nothing. -/
def executeCancellable (backend : Backend) (sql : String) (_cancelled : Bool) :
    Except DbError Rows :=
  backend.execute sql

def listTables (backend : Backend) : Except DbError (List Target) :=
  .error (.notImplemented backend.name "list_tables")

end Backend
end SqlPipeline
