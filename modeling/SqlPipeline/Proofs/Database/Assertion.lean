import SqlPipeline.Proofs.Database.Call
import SqlPipeline.Proofs.Database.Count
import SqlPipeline.Proofs.Number.Double
import SqlPipeline.Proofs.Run.Interrupt
import SqlPipeline.Proofs.Warehouse.Decision

/-!
Assertions on DuckDB, from the statements to the status of the node. The view is sent as it is and
the count is asked for with its rows, so the count comes back and decides: the node succeeds for
zero and fails for any other number, however the target and the query are written. Statements that
publish a table are never asked for rows.
-/

namespace SqlPipeline

/-! ## Statements and their calls -/

namespace Duck

/-- The query of an assertion as a view. -/
def viewOf (assertion : Assertion) : String :=
  "create or replace view " ++ Warehouse.duckdb.reference assertion.target ++ " as "
    ++ assertion.query

/-- The count of its rows. -/
def countOf (assertion : Assertion) : String :=
  "select count(*) as row_count from " ++ Warehouse.duckdb.reference assertion.target

section Statements
variable (assertion : Assertion)

theorem assertion_eq :
    Warehouse.duckdb.assertion assertion =
      [.plain (viewOf assertion), .check (countOf assertion)] := by
  have view := Sql.createOrReplace_eq .view (Warehouse.duckdb.reference assertion.target) ""
    assertion.query
  rw [String.append_empty] at view
  exact congrArg (fun sql => [Task.plain sql, .check (countOf assertion)]) view

theorem returnsRows_viewOf : returnsRows (viewOf assertion) = false := by
  unfold viewOf
  rw [String.append_assoc, String.append_assoc, returnsRows_append (by decide)]
  decide

theorem returnsRows_countOf : returnsRows (countOf assertion) = true := by
  unfold countOf
  rw [returnsRows_append (by decide)]
  decide

theorem viewOf_ne_countOf : viewOf assertion ≠ countOf assertion := by
  intro same
  have silent := returnsRows_viewOf assertion
  rw [same, returnsRows_countOf] at silent
  cases silent

theorem callOf_viewOf : callOf (viewOf assertion) = .batch (viewOf assertion) := by
  rw [callOf, returnsRows_viewOf]
  rfl

theorem callOf_countOf : callOf (countOf assertion) = .query (countOf assertion) := by
  rw [callOf, returnsRows_countOf]
  rfl

theorem callOf_sql (warehouse : Warehouse) (step : Step) :
    callOf (warehouse.sql step) = .batch (warehouse.sql step) := by
  cases step with
  | drop relation target =>
    unfold Warehouse.sql Sql.dropIfExists
    simp only [String.append_assoc]
    exact callOf_batch (by decide) (by decide) _
  | replace relation target layout query =>
    unfold Warehouse.sql Sql.createOrReplace
    simp only [String.append_assoc]
    exact callOf_batch (by decide) (by decide) _
  | create target layout query =>
    unfold Warehouse.sql Sql.createTable
    simp only [String.append_assoc]
    exact callOf_batch (by decide) (by decide) _
  | rename target name =>
    unfold Warehouse.sql Sql.rename
    simp only [String.append_assoc]
    exact callOf_batch (by decide) (by decide) _
  | insert target columns query =>
    obtain ⟨rows, text⟩ := Warehouse.exists_insertInto (warehouse.reference target)
      (columns.map warehouse.column) query
    simp only [Warehouse.sql]
    rw [text, String.append_assoc]
    exact callOf_batch (by decide) (by decide) _

end Statements

/-! ## Answers -/

/-- The statement is accepted, with whatever it gives back. -/
structure Accepts (connection : Connection) (sql : String) : Prop where
  usable : connection.poisoned = false
  calm : (nextAnswer sql connection.answers).1.panics = false
  accepted : (nextAnswer sql connection.answers).1.failure? = none

/-- The statement is answered with one row, and a number of 64 bits stands first in it. -/
structure Counts (connection : Connection) (sql : String) (n : Nat) : Prop
    extends Accepts connection sql where
  executed : (nextAnswer sql connection.answers).1.queryError = none
  readable : (nextAnswer sql connection.answers).1.rowFailure? = none
  columns : 0 < (nextAnswer sql connection.answers).1.widthOf
  row : ∃ cells, (nextAnswer sql connection.answers).1.rows = [.whole n :: cells]
  bound : n < 2 ^ 64

/-- Sends statements one after another. Gives what comes of each, and the connection after all. -/
def serve (connection : Connection) : List String → List Outcome × Connection
  | [] => ([], connection)
  | sql :: rest =>
      let later := serve (executeCancellable sql false connection).2 rest
      (answer connection sql :: later.1, later.2)

section Answers
variable {connection : Connection} {sql other : String} {n : Nat}

theorem executeCancellable_eq_execute (sql : String) :
    executeCancellable sql false = execute sql := rfl

theorem Accepts.execute (accepts : Accepts connection sql) (silent : returnsRows sql = false) :
    execute sql connection = (.ok Rows.empty, connection.answered sql) := by
  refine execute_of_batch accepts.usable silent ?_
  simp [Answer.replyBatch, accepts.calm, accepts.accepted]

theorem Counts.execute (counts : Counts connection sql n) (rows : returnsRows sql = true) :
    execute sql connection =
      (.ok (nextAnswer sql connection.answers).1.result, connection.answered sql) := by
  refine execute_of_query counts.usable rows ?_
  simp [Answer.replyRows, counts.calm, counts.accepted, counts.executed, counts.readable]

-- The count is still to come when the view has been accepted.
theorem Counts.answered (counts : Counts connection sql n) (different : other ≠ sql) :
    Counts (connection.answered other) sql n := by
  have same : (nextAnswer sql (connection.answered other).answers).1 =
      (nextAnswer sql connection.answers).1 := nextAnswer_of_ne different _
  constructor
  · constructor
    · rfl
    · rw [same, counts.calm]
    · rw [same, counts.accepted]
  · rw [same, counts.executed]
  · rw [same, counts.readable]
  · rw [same]
    exact counts.columns
  · rw [same]
    exact counts.row
  · exact counts.bound

theorem countOf?_value_whole (bound : n < 2 ^ 64) :
    ∃ count, Rows.countOf? (Cell.value (.whole n)) = some count ∧ (count = 0 ↔ n = 0) := by
  have limit : Int.pow 2 63 = 2 ^ 63 := by decide
  by_cases small : Digits.isSigned64 n = true
  · have whole : (Cell.whole n).whole? = some (n : Int) := by
      rw [Cell.whole?, if_pos small]
    rw [Cell.value, whole]
    refine ⟨_, rfl, ?_⟩
    rw [limit]
    omega
  · -- Without a sign the number is read as a double.
    have large : Double.Large (Double.ofWhole n) := by
      refine Double.large_ofWhole ?_ bound
      simp only [Digits.isSigned64, limit, Bool.and_eq_true, decide_eq_true_eq] at small
      omega
    have whole : (Cell.whole n).whole? = none := by
      rw [Cell.whole?, if_neg small]
    have double : (Cell.whole n).double? = some (Double.ofWhole n) := rfl
    rw [Cell.value, whole, double]
    simp only [Cell.ofDouble, large.isFinite, if_true]
    refine ⟨_, congrArg some large.saturated, ?_⟩
    refine iff_of_false (by decide) ?_
    rintro rfl
    exact small (by decide)

theorem exists_rowValues {reply : Answer} (columns : 0 < reply.widthOf) (cell : Cell)
    (cells : List Cell) : ∃ row, reply.rowValues (cell :: cells) = cell.value :: row := by
  obtain ⟨more, width⟩ := Nat.exists_eq_add_one.mpr columns
  rw [Answer.rowValues, width, List.range_succ_eq_map]
  exact ⟨_, rfl⟩

theorem Counts.judge (counts : Counts connection sql n) (rows : returnsRows sql = true) :
    (Verdict.judge .assertion (answer connection sql) = .passed ↔ n = 0) ∧
      (n ≠ 0 → ∃ message, Verdict.judge .assertion (answer connection sql) = .failed message) := by
  obtain ⟨cells, single⟩ := counts.row
  obtain ⟨row, values⟩ := exists_rowValues counts.columns (.whole n) cells
  obtain ⟨count, read, same⟩ := countOf?_value_whole counts.bound
  have came : answer connection sql = .rows
      ⟨(nextAnswer sql connection.answers).1.columnNames, [Cell.value (.whole n) :: row]⟩ := by
    rw [answer, executeCancellable_eq_execute, counts.execute rows, Answer.result, single,
      List.map_singleton, values]
  rw [came, Verdict.judge, Verdict.ofRows_of_count read, Ne, ← same]
  by_cases zero : count = 0 <;> simp [zero]

end Answers

/-! ## Both statements on one connection -/

section Served
variable {connection : Connection} {assertion : Assertion} {n : Nat}

theorem after_view (accepts : Accepts connection (viewOf assertion)) :
    (executeCancellable (viewOf assertion) false connection).2 =
      connection.answered (viewOf assertion) := by
  rw [executeCancellable_eq_execute, accepts.execute (returnsRows_viewOf assertion)]

theorem Counts.after_view (counts : Counts connection (countOf assertion) n)
    (accepts : Accepts connection (viewOf assertion)) :
    Counts (executeCancellable (viewOf assertion) false connection).2 (countOf assertion) n := by
  rw [Duck.after_view accepts]
  exact counts.answered (viewOf_ne_countOf assertion)

theorem calls_serve (accepts : Accepts connection (viewOf assertion))
    (counts : Counts connection (countOf assertion) n) :
    (serve connection [viewOf assertion, countOf assertion]).2.calls =
      connection.calls ++ [.batch (viewOf assertion), .query (countOf assertion)] := by
  have later := (counts.after_view accepts).usable
  rw [serve, serve, serve]
  rw [executeCancellable_eq_execute] at later ⊢
  rw [executeCancellable_eq_execute, calls_execute later, calls_execute accepts.usable,
    callOf_viewOf, callOf_countOf, List.append_assoc]
  rfl

end Served
end Duck

/-! ## Runs -/

namespace Run

section Last
variable {node : ExecutionNode} {report : NodeReport} {fatal : Option String} {handed : List String}
  {answers : List Outcome} {before : List Task} {last : Task}

-- A node whose tasks pass up to the last one ends by the verdict on the last one.
theorem Ends.by_last (ends : Ends node report fatal handed answers)
    (alive : ¬ (Progress.ended report fatal).Quit) (tasks : node.tasks = before ++ [last])
    (pass : ∀ (index : Nat) (task : Task) (outcome : Outcome), before[index]? = some task →
      answers[index]? = some outcome → Verdict.judge task.kind outcome = .passed) :
    handed = node.tasks.map Task.statement ∧ ∃ outcome, answers[before.length]? = some outcome ∧
      (Verdict.judge last.kind outcome = .passed → report.status = .succeeded ∧ fatal = none) ∧
      ∀ message, Verdict.judge last.kind outcome = .failed message →
        report.status = .failed ∧ fatal = none := by
  cases ends with
  | whole passes =>
    have known : node.tasks[before.length]? = some last := by simp [tasks]
    have inside := (List.getElem?_eq_some_iff.mp known).1
    have within : before.length < answers.length := passes.length_eq ▸ inside
    have passed := passes.get inside within
    have same : node.tasks.get ⟨before.length, inside⟩ = last :=
      (List.getElem?_eq_some_iff.mp known).2
    rw [same] at passed
    refine ⟨rfl, _, List.getElem?_eq_getElem within, fun _ => ⟨rfl, rfl⟩, fun message failed => ?_⟩
    exact absurd (passed.symm.trans failed) (by simp)
  | halted => exact absurd ⟨rfl, fun _ => ok_of_passed⟩ alive
  | @judged done task rest outcomes outcome _ _ split passes verdict =>
    have answered : (outcomes ++ [outcome])[done.length]? = some outcome := by
      rw [passes.length_eq, List.getElem?_concat_length]
    rcases split_concat (tasks.symm.trans split) with ⟨more, earlier⟩ | ⟨rfl, rfl⟩
    · -- A task before the last one has passed, so it is not where the node ends.
      have passed := pass _ task outcome (next_of_split earlier) answered
      exact absurd passed (not_passed_of_judged verdict).1
    · refine ⟨by rw [tasks], outcome, answered, fun passed => ?_, fun message failed => ?_⟩
      · exact absurd passed (not_passed_of_judged verdict).1
      · rw [failed] at verdict
        cases verdict
        exact ⟨rfl, rfl⟩

end Last

section Own
variable {state next ending : State} {move : Move} {rest : List Move} {position : Nat}

theorem aborted_of_own (own : move.IsOf position) (moved : state.move? move = some next) :
    next.aborted = state.aborted := by
  cases step_of_move? moved with
  | started | succeeded | halted | handed | replied => rfl
  | cancelled | setupHalted | setupHanded | setupDone | setupPassed | setupFailed | setupLost
  | dropped | doomed | admitted | refused | dispatched | collected | resolved | gaveUp | closed =>
    exact own.elim

theorem aborted_of_own_moves (own : ∀ move ∈ rest, move.IsOf position)
    (moved : state.moves? rest = some ending) : ending.aborted = state.aborted := by
  induction rest generalizing state with
  | nil =>
    cases moved
    rfl
  | cons move rest ih =>
    obtain ⟨next, first, later⟩ := Option.bind_eq_some_iff.mp moved
    rw [ih (fun other member => own other (List.mem_cons_of_mem _ member)) later,
      aborted_of_own (own move List.mem_cons_self) first]

end Own

/-- The node of an assertion has had both of its statements and has ended by the count. -/
structure Settled (assertion : Assertion) (n : Nat) (state : State) (position : Nat)
    (report : NodeReport) : Prop where
  handed : state.handedTo (some position) = [Duck.viewOf assertion, Duck.countOf assertion]
  succeeded : report.status = .succeeded ↔ n = 0
  failed : report.status = .failed ↔ n ≠ 0

section Settled
variable {assertion : Assertion} {n : Nat} {first second : Duck.Connection}
  {graph : ExecutionGraph} {moves : List Move} {state : State}
  {script : Option Nat → Nat → Outcome} {position : Nat} {node : ExecutionNode}
  {report : NodeReport} {fatal : Option String}

/-- A node gets the answers of the engine to both statements, each on the connection as the
statement finds it. -/
structure Answered (assertion : Assertion) (n : Nat) (first second : Duck.Connection)
    (script : Option Nat → Nat → Outcome) (position : Nat) : Prop where
  accepts : Duck.Accepts first (Duck.viewOf assertion)
  counts : Duck.Counts second (Duck.countOf assertion) n
  view : script (some position) 0 = Duck.answer first (Duck.viewOf assertion)
  count : script (some position) 1 = Duck.answer second (Duck.countOf assertion)

theorem settled_of_ends (answered : Answered assertion n first second script position)
    (follows : Follows script moves) (tasks : node.tasks = Warehouse.duckdb.assertion assertion)
    (alive : ¬ (Progress.ended report fatal).Quit)
    (ends : Ends node report fatal (state.handedTo (some position))
      (answersTo (some position) moves)) :
    Settled assertion n state position report ∧ fatal = none := by
  have listed : node.tasks =
      [.plain (Duck.viewOf assertion)] ++ [.check (Duck.countOf assertion)] :=
    tasks.trans (Duck.assertion_eq assertion)
  have viewed : Duck.answer first (Duck.viewOf assertion) = .rows Rows.empty := by
    rw [Duck.answer, Duck.executeCancellable_eq_execute,
      answered.accepts.execute (Duck.returnsRows_viewOf assertion)]
  obtain ⟨handed, outcome, found, well, ill⟩ := ends.by_last alive listed (by
    intro index task outcome known found
    obtain ⟨rfl, rfl⟩ : index = 0 ∧ task = .plain (Duck.viewOf assertion) := by
      rw [List.getElem?_singleton] at known
      split at known <;> simp_all
    rw [follows _ _ _ found, answered.view, viewed]
    rfl)
  have counted : outcome = Duck.answer second (Duck.countOf assertion) :=
    (follows _ _ _ found).trans answered.count
  obtain ⟨passes, fails⟩ := answered.counts.judge (Duck.returnsRows_countOf assertion)
  rw [← counted] at passes fails
  rw [listed] at handed
  by_cases zero : n = 0
  · obtain ⟨status, sound⟩ := well (passes.mpr zero)
    exact ⟨⟨handed, by simp [status, zero], by simp [status, zero]⟩, sound⟩
  · obtain ⟨message, failed⟩ := fails zero
    obtain ⟨status, sound⟩ := ill message failed
    exact ⟨⟨handed, by simp [status, zero], by simp [status, zero]⟩, sound⟩

theorem settled_of_ended (answered : Answered assertion n first second script position)
    (run : Trace graph moves state) (follows : Follows script moves)
    (tasks : node.tasks = Warehouse.duckdb.assertion assertion) (calm : state.aborted = false)
    (found : state.cells[position]? = some ⟨node, .ended report fatal⟩) :
    Settled assertion n state position report ∧ fatal = none :=
  settled_of_ends answered follows tasks (alive_of_calm run calm found) (ends_of_ended run found)

theorem settled_of_finished (answered : Answered assertion n first second script position)
    (run : Trace graph moves state) (follows : Follows script moves)
    (tasks : node.tasks = Warehouse.duckdb.assertion assertion) (calm : state.aborted = false)
    (found : state.cells[position]? = some ⟨node, .finished report⟩)
    (ran : report.status ≠ .skipped) : Settled assertion n state position report := by
  have alive := alive_of_calm run calm found
  rcases (recorded_of_trace run position node _ found).ends_or_skipped alive with
    ⟨fatal, ends⟩ | ⟨skipped, _⟩
  · exact (settled_of_ends answered follows tasks alive ends).1
  · exact absurd skipped ran

theorem exists_settled (answered : Answered assertion n first second script position)
    (run : Trace graph moves state) (follows : Follows script moves)
    (tasks : node.tasks = Warehouse.duckdb.assertion assertion) (calm : state.aborted = false)
    {progress : Progress} (found : state.cells[position]? = some ⟨node, progress⟩)
    (moving : progress.Moving) :
    ∃ rest ending report, (∀ move ∈ rest, move.IsOf position) ∧
      Trace graph (moves ++ rest) ending ∧ Follows script (moves ++ rest) ∧
      ending.cells[position]? = some ⟨node, .ended report none⟩ ∧
      Settled assertion n ending position report := by
  obtain ⟨rest, ending, report, fatal, own, ended, whole, last⟩ :=
    follows.exists_return run found moving
  have still : ending.aborted = false := by
    rw [aborted_of_own_moves own (run.rest ended), calm]
  obtain ⟨settled, rfl⟩ := settled_of_ended answered ended whole tasks still last
  exact ⟨rest, ending, report, own, ended, whole, last, settled⟩

end Settled

theorem assertion_settled_by_count (assertion : Assertion) :
    Warehouse.duckdb.assertion assertion =
      [.plain (Duck.viewOf assertion), .check (Duck.countOf assertion)] ∧
    (∀ connection n, Duck.Accepts connection (Duck.viewOf assertion) →
      Duck.Counts connection (Duck.countOf assertion) n →
        (Duck.serve connection [Duck.viewOf assertion, Duck.countOf assertion]).2.calls =
          connection.calls ++ [.batch (Duck.viewOf assertion), .query (Duck.countOf assertion)] ∧
        ∀ script position,
          (∀ (index : Nat) (outcome : Outcome),
            (Duck.serve connection [Duck.viewOf assertion, Duck.countOf assertion]).1[index]? =
              some outcome → script (some position) index = outcome) →
          Answered assertion n connection
            (Duck.executeCancellable (Duck.viewOf assertion) false connection).2 script position) ∧
    (∀ n first second script graph moves state position node progress,
      Answered assertion n first second script position →
      Trace graph moves state → Follows script moves → state.aborted = false →
      state.cells[position]? = some ⟨node, progress⟩ →
      node.tasks = Warehouse.duckdb.assertion assertion →
        (progress.Moving → ∃ rest ending report, (∀ move ∈ rest, move.IsOf position) ∧
          Trace graph (moves ++ rest) ending ∧ Follows script (moves ++ rest) ∧
          ending.cells[position]? = some ⟨node, .ended report none⟩ ∧
          Settled assertion n ending position report) ∧
        (∀ report fatal, progress = .ended report fatal →
          Settled assertion n state position report ∧ fatal = none) ∧
        (∀ report, progress = .finished report → report.status ≠ .skipped →
          Settled assertion n state position report)) ∧
    (∀ (table : Table) (run : RunConfig) (existing : Option Existing),
      Warehouse.duckdb.publish table run existing =
        (table.preOps ++ (table.steps .duckdb run existing).map Warehouse.duckdb.sql
          ++ table.postOps).map Task.plain ∧
      ∀ step ∈ table.steps .duckdb run existing, ∀ connection : Duck.Connection,
        connection.poisoned = false →
          (Duck.executeCancellable (Warehouse.duckdb.sql step) false connection).2.calls =
            connection.calls ++ [.batch (Warehouse.duckdb.sql step)]) ∧
    ∀ connection : Duck.Connection, connection.poisoned = false →
      (Duck.executeCancellable (Duck.countOf assertion) false connection).2.calls =
        connection.calls ++ [.query (Duck.countOf assertion)] := by
  refine ⟨Duck.assertion_eq assertion, ?_, ?_, ?_, ?_⟩
  · intro connection n accepts counts
    exact ⟨Duck.calls_serve accepts counts, fun script position served =>
      ⟨accepts, counts.after_view accepts, served 0 _ rfl, served 1 _ rfl⟩⟩
  · intro n first second script graph moves state position node progress answered run follows calm
      found tasks
    refine ⟨exists_settled answered run follows tasks calm found, ?_, ?_⟩
    · rintro report fatal rfl
      exact settled_of_ended answered run follows tasks calm found
    · rintro report rfl ran
      exact settled_of_finished answered run follows tasks calm found ran
  · intro table run existing
    refine ⟨rfl, fun step _ connection usable => ?_⟩
    rw [Duck.executeCancellable_eq_execute, Duck.calls_execute usable, Duck.callOf_sql]
  · intro connection usable
    rw [Duck.executeCancellable_eq_execute, Duck.calls_execute usable, Duck.callOf_countOf]

/-- Its names have quotes in them, and its query ends in a comment. -/
def overdrawn : Assertion where
  name := ⟨"overdrawn", by decide⟩
  target := ⟨"o'brien", "with \"select", some ""⟩
  query := "select * from accounts where balance < 0 --"
  dependencies := []
  tags := []
  fileName := "overdrawn.sql"

def audit : ExecutionGraph where
  config := .standard
  runConfig := .standard
  warehouse := .duckdb
  setup := []
  nodes :=
    [⟨overdrawn.name, .assertion, some overdrawn.target, [], [],
      Warehouse.duckdb.assertion overdrawn, .pending⟩]

/-- The count is the first number beyond those of 64 bits with a sign. -/
def auditConnection : Duck.Connection where
  answers :=
    [(Duck.countOf overdrawn, [{ Duck.Answer.silent with
      rows := [[.whole 9223372036854775808]], columns := ["row_count"] }])]
  calls := [.openInMemory]
  poisoned := false

def auditScript (_owner : Option Nat) (index : Nat) : Outcome :=
  ((Duck.serve auditConnection [Duck.viewOf overdrawn, Duck.countOf overdrawn]).1[index]?).getD
    (.panic none)

theorem audit_counts :
    Duck.Counts auditConnection (Duck.countOf overdrawn) 9223372036854775808 := by
  have turn := Duck.nextAnswer_last (Duck.countOf overdrawn) { Duck.Answer.silent with
    rows := [[.whole 9223372036854775808]], columns := ["row_count"] } []
  refine ⟨⟨rfl, ?_, ?_⟩, ?_, ?_, ?_, ⟨[], ?_⟩, by decide⟩ <;> rw [auditConnection, turn]
  · rfl
  · rfl
  · rfl
  · rfl
  · decide
  · rfl

theorem audit_accepts : Duck.Accepts auditConnection (Duck.viewOf overdrawn) := by
  have turn := Duck.viewOf_ne_countOf overdrawn
  refine ⟨rfl, ?_, ?_⟩ <;> rw [auditConnection, Duck.nextAnswer_cons_of_ne turn.symm] <;> rfl

theorem audit_fails :
    Answered overdrawn 9223372036854775808 auditConnection
      (Duck.executeCancellable (Duck.viewOf overdrawn) false auditConnection).2 auditScript 0 ∧
    (Duck.serve auditConnection [Duck.viewOf overdrawn, Duck.countOf overdrawn]).2.calls =
      [.openInMemory, .batch (Duck.viewOf overdrawn), .query (Duck.countOf overdrawn)] ∧
    ∃ state node, Trace audit [.issueSetup, .take, .act] state ∧
      Follows auditScript [.issueSetup, .take, .act] ∧ state.aborted = false ∧
      state.cells[0]? = some ⟨node, .dispatched⟩ ∧
      node.tasks = Warehouse.duckdb.assertion overdrawn ∧
      ∃ rest ending report, (∀ move ∈ rest, move.IsOf 0) ∧
        Trace audit ([.issueSetup, .take, .act] ++ rest) ending ∧
        Follows auditScript ([.issueSetup, .take, .act] ++ rest) ∧
        ending.cells[0]? = some ⟨node, .ended report none⟩ ∧
        Settled overdrawn 9223372036854775808 ending 0 report ∧ report.status = .failed := by
  obtain ⟨_, sends, runs, _⟩ := assertion_settled_by_count overdrawn
  obtain ⟨sent, answers⟩ := sends _ _ audit_accepts audit_counts
  have answered := answers auditScript 0 fun index outcome served => by
    rw [auditScript, served, Option.getD_some]
  obtain ⟨state, reached⟩ := Option.isSome_iff_exists.mp
    (show ((start audit).moves? [.issueSetup, .take, .act]).isSome = true by decide)
  have run := trace_of_moves? reached
  have follows : Follows auditScript [.issueSetup, .take, .act] := by
    intro owner index outcome found
    have none : answersTo owner [.issueSetup, .take, .act] = [] := rfl
    rw [none, List.getElem?_nil] at found
    cases found
  obtain ⟨node, found, tasks⟩ : ∃ node, state.cells[0]? = some ⟨node, .dispatched⟩ ∧
      node.tasks = Warehouse.duckdb.assertion overdrawn := by
    cases reached
    exact ⟨_, rfl, rfl⟩
  have calm : state.aborted = false := by
    cases reached
    rfl
  obtain ⟨rest, ending, report, own, ended, whole, last, settled⟩ :=
    (runs _ _ _ _ audit _ state 0 node _ answered run follows calm found tasks).1
      (by simp [Progress.Moving])
  exact ⟨answered, sent, state, node, run, follows, calm,
    found, tasks, rest, ending, report, own, ended, whole, last, settled,
    settled.failed.mpr (by decide)⟩

end Run
end SqlPipeline
