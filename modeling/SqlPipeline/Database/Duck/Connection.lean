import SqlPipeline.Database.Error
import SqlPipeline.Database.Rows
import SqlPipeline.Database.Duck.Cell

/-!
Connections to DuckDB. The engine stands behind a list of answers: what it does with a statement is
settled beforehand, one answer for each time the statement comes, the last one for all further
times. A connection notes every call that reaches the engine. Statements that return rows are
prepared and read row by row; all others are executed as they are. A statement during which the
engine panics leaves the connection unusable.
-/

namespace SqlPipeline.Duck

/-- How a statement that waits for an interrupt goes on when it comes. -/
inductive Interrupted where
  | aborts
  | finishes
  deriving DecidableEq

/-- What the engine does with one statement. -/
structure Answer where
  /-- The statement is refused. -/
  refusal : Option String
  panics : Bool
  wait : Option Interrupted
  /-- The prepared statement fails when it is executed. -/
  queryError : Option String
  rows : List (List Cell)
  columns : List String
  /-- Number of columns, where it is not that of the names. -/
  width : Option Nat
  /-- Reading the row of a number fails. -/
  rowError : Option (Nat × String)
  deriving DecidableEq

/-- Succeeds without columns and rows. -/
def Answer.silent : Answer := ⟨none, false, none, none, [], [], none, none⟩

inductive Call where
  | openInMemory
  | openFile (path : String)
  | batch (sql : String)
  | query (sql : String)
  deriving DecidableEq

structure Connection where
  answers : List (String × List Answer)
  calls : List Call
  poisoned : Bool
  deriving DecidableEq

/-- The answer whose turn it is, and the answers that are left. -/
def nextAnswer (sql : String) : List (String × List Answer) → Answer × List (String × List Answer)
  | [] => (.silent, [])
  | (statement, listed) :: rest =>
      if statement = sql then
        match listed with
        | [] => (.silent, (statement, []) :: rest)
        | [last] => (last, (statement, [last]) :: rest)
        | first :: later => (first, (statement, later) :: rest)
      else
        let next := nextAnswer sql rest
        (next.1, (statement, listed) :: next.2)

/-- What comes of a statement on a connection that is usable. -/
inductive Reply where
  | rows (result : Rows)
  | failed (message : String)
  | panicked

def interruptText : String := "INTERRUPT Error: Interrupted!"

/-- Words a statement begins with when it returns rows. -/
def rowWords : List (List Char) :=
  ["select".toList, "with".toList, "values".toList, "describe".toList, "show".toList,
    "pragma".toList, "from".toList]

/-- Only the beginning of the text counts, in any case and behind any blanks. -/
def returnsRows (sql : String) : Bool :=
  let head := (Text.trimStart sql.toList).map Char.toLower
  rowWords.any fun word => word.isPrefixOf head

namespace Answer

def widthOf (answer : Answer) : Nat := answer.width.getD answer.columns.length

/-- Cells beyond the end of a row are nothing. -/
def rowValues (answer : Answer) (row : List Cell) : List Json :=
  (List.range answer.widthOf).map fun index => (row[index]?).elim .null Cell.value

def columnNames (answer : Answer) : List String :=
  (List.range answer.widthOf).map fun index => (answer.columns[index]?).getD "?"

def result (answer : Answer) : Rows :=
  ⟨answer.columnNames, answer.rows.map answer.rowValues⟩

/-- The failure of the first row that cannot be read. -/
def rowFailure? (answer : Answer) : Option String :=
  (answer.rowError.filter fun error => error.1 < answer.rows.length).map Prod.snd

/-- What comes of a statement before its rows are read. One that is refused never waits. -/
def failure? (answer : Answer) : Option String :=
  answer.refusal <|> if answer.wait = some .aborts then some interruptText else none

def replyRows (answer : Answer) : Reply :=
  if answer.panics then .panicked
  else
    match answer.failure? <|> answer.queryError <|> answer.rowFailure? with
    | some message => .failed message
    | none => .rows answer.result

def replyBatch (answer : Answer) : Reply :=
  if answer.panics then .panicked
  else
    match answer.failure? with
    | some message => .failed message
    | none => .rows Rows.empty

end Answer

/-- Sends a statement to the engine, by the call that fits it. -/
def Connection.send (connection : Connection) (sql : String) : Reply × Connection :=
  let next := nextAnswer sql connection.answers
  let call := if returnsRows sql then Call.query sql else Call.batch sql
  let reply := if returnsRows sql then next.1.replyRows else next.1.replyBatch
  (reply, { connection with answers := next.2, calls := connection.calls ++ [call] })

end SqlPipeline.Duck
