import SqlPipeline.Database.Duck.Connection
import SqlPipeline.Relation
import SqlPipeline.Sql.Quote

/-!
DuckDB as a backend. It opens a connection, executes statements, stops them on cancellation, and
finds out from the information schema what exists. The engine tells an interrupt from any other
failure only in the text of its message.
-/

namespace SqlPipeline.Duck

abbrev Use (α : Type) := Connection → Except DbError α × Connection

namespace Use

def fail {α : Type} (error : DbError) : Use α := fun connection => (.error error, connection)

def done {α : Type} (value : α) : Use α := fun connection => (.ok value, connection)

def andThen {α β : Type} (first : Use α) (next : α → Use β) : Use β := fun connection =>
  match first connection with
  | (.ok value, connection) => next value connection
  | (.error error, connection) => (.error error, connection)

end Use

def poisonText : String := "poisoned lock: another task failed inside"

/-- Uses the connection unless an earlier use broke down. -/
def guarded {α : Type} (use : Use α) : Use α := fun connection =>
  if connection.poisoned then (.error (.poisoned poisonText), connection) else use connection

def occurs (word : List Char) : List Char → Bool
  | [] => word.isEmpty
  | c :: rest => word.isPrefixOf (c :: rest) || occurs word rest

/-- Whether a message reads like that of an interrupt. -/
def isInterrupt (message : String) : Bool :=
  occurs "INTERRUPT".toList message.toList || occurs "Interrupted".toList message.toList

/-- The failure of a statement; an interrupt is a cancellation. -/
def statementError (message sql : String) : DbError :=
  if isInterrupt message then .cancelled message else .execution (message ++ ": " ++ sql)

def statement (sql : String) : Use Rows := fun connection =>
  match connection.send sql with
  | (.rows result, connection) => (.ok result, connection)
  | (.failed message, connection) => (.error (statementError message sql), connection)
  | (.panicked, connection) =>
      (.error (.internal "blocking task failed"), { connection with poisoned := true })

/-! ## Opening -/

/-- The call that opens a path; one path stands for no file at all. -/
def openCall (path : Option String) : Call :=
  match path with
  | none => .openInMemory
  | some text => if text = ":memory:" then .openInMemory else .openFile text

/-- A connection that has been opened; the failure of opening where there is one. -/
def openConnection (answers : List (String × List Answer)) (path failure : Option String) :
    Except DbError Unit × Connection :=
  let connection : Connection := ⟨answers, [openCall path], false⟩
  match failure with
  | some message => (.error (.connection message), connection)
  | none => (.ok (), connection)

/-! ## Statements -/

def execute (sql : String) : Use Rows := guarded (statement sql)

/-- A statement that is cancelled before it starts does not reach the engine. Cancelled later, it is
interrupted, and the engine says what becomes of it. -/
def executeCancellable (sql : String) (cancelledBefore : Bool) : Use Rows :=
  guarded (if cancelledBefore then .fail (.cancelled ("not started: " ++ sql)) else statement sql)

/-! ## What exists -/

def literal (text : String) : String := "'" ++ Sql.escapeLiteral text ++ "'"

/-- The condition that picks the rows of a target out of the information schema. -/
def targetFilter (target : Target) : String :=
  "table_schema = " ++ literal target.schema ++ " AND table_name = " ++ literal target.name
    ++ (match target.database with
      | some database => " AND table_catalog = " ++ literal database
      | none => "")

def kindQuery (target : Target) : String :=
  "SELECT table_type FROM information_schema.tables WHERE " ++ targetFilter target

def columnsQuery (target : Target) : String :=
  "SELECT column_name FROM information_schema.columns WHERE " ++ targetFilter target
    ++ " ORDER BY ordinal_position"

/-- Texts in the first cells of rows. -/
def firstTexts (result : Rows) : List String :=
  result.rows.filterMap fun row => row.head?.bind Json.asText?

/-- The kind an answer to the first question gives; none where nothing exists. -/
def kindOf? (result : Rows) : Option Relation :=
  (result.scalar?.bind Json.asText?).map fun text => if text = "VIEW" then .view else .table

/-- What exists at a target. Its columns are asked for only where there is something. -/
def describe (target : Target) : Use (Option Existing) :=
  guarded ((statement (kindQuery target)).andThen fun kinds =>
    match kindOf? kinds with
    | none => .done none
    | some relation =>
        (statement (columnsQuery target)).andThen fun columns =>
          .done (some ⟨target, relation, firstTexts columns⟩))

def tablesQuery : String :=
  "SELECT table_schema, table_name FROM information_schema.tables WHERE table_schema NOT IN "
    ++ "('information_schema', 'pg_catalog') ORDER BY table_schema, table_name"

def targetOfRow? : List Json → Option Target
  | [.text schema, .text name] => some (Target.inSchema schema name)
  | _ => none

def listTables : Use (List Target) :=
  guarded ((statement tablesQuery).andThen fun result =>
    .done (result.rows.filterMap targetOfRow?))

end SqlPipeline.Duck
