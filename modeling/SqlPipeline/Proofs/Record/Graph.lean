import SqlPipeline.Proofs.Json.Reading
import SqlPipeline.Proofs.Record.Action
import SqlPipeline.Record.Execution
import SqlPipeline.Record.Graph

/-!
Graphs written as JSON text and read again. An execution graph is always read as it was. A compiled
graph is, exactly when the inputs of its tests are sorted by name, as they are kept: text has no
other order for them.
-/

namespace SqlPipeline

open Document Json

/-! ## Configurations -/

@[simp] theorem Warehouse.ofDocument?_toJson (warehouse : Warehouse) :
    ofDocument? warehouse.toJson = some warehouse := by
  cases warehouse <;> rfl

theorem ProjectConfig.written (config : ProjectConfig) : Written fieldNames config.toJson :=
  .record (.field (.text _) (.field (.text _) (.field (.text _) (.given .text
    (.lastGiven .text)))))

@[simp] theorem ProjectConfig.ofDocument?_toJson (config : ProjectConfig) :
    ofDocument? config.toJson = some config := by
  rw [ofDocument?, config.written.fields? (by decide)]
  simp [toJson, asRecord?, ofFields?, defaulted?_eq, optional?_eq, List.lookup_append,
    List.lookup_cons]

theorem RunConfig.written (config : RunConfig) : Written fieldNames config.toJson := by
  simp only [toJson, List.cons_append, List.nil_append]
  apply Written.record
  apply Fields.field (.bool _)
  apply Fields.filled
  exact Fields.field (.bool _) .nil

@[simp] theorem RunConfig.ofDocument?_toJson (config : RunConfig) :
    ofDocument? config.toJson = some config := by
  rw [ofDocument?, config.written.fields? (by decide)]
  simp [toJson, asRecord?, ofFields?, defaulted?_eq, List.lookup_append, List.lookup_cons]

/-! ## Compiled graphs -/

theorem CompileError.written (error : CompileError) : Written fieldNames error.toJson := by
  simp only [toJson, List.cons_append, List.nil_append]
  apply Written.record
  apply Fields.field (.text _)
  apply Fields.given .text
  exact Fields.field (.text _) .nil

@[simp] theorem CompileError.ofDocument?_toJson (error : CompileError) :
    ofDocument? error.toJson = some error := by
  rw [ofDocument?, error.written.fields? (by decide)]
  simp [toJson, asRecord?, ofFields?, required?_eq, optional?_eq, List.lookup_append,
    List.lookup_cons]

theorem CompileError.listWritten (errors : List CompileError) :
    Written ["compilation_errors"] (listToJson errors) :=
  .record (.field (.listed (fun error => error.written.plain) errors) .nil)

@[simp] theorem CompileError.listOfDocument?_listToJson (errors : List CompileError) :
    listOfDocument? (listToJson errors) = some errors := by
  rw [listOfDocument?, (listWritten errors).fields? (by decide)]
  simp [listToJson, asRecord?, listOfFields?, defaulted?_eq]

theorem CompiledGraph.written (graph : CompiledGraph) : Written fieldNames graph.toJson := by
  apply Written.record
  apply Fields.field graph.config.written.plain
  apply Fields.field (.listed (fun table => table.written.plain) _)
  apply Fields.field (.listed (fun operation => operation.written.plain) _)
  apply Fields.field (.listed (fun assertion => assertion.written.plain) _)
  apply Fields.field (.listed (fun test => test.written.plain) _)
  exact Fields.field (CompileError.listWritten graph.errors).plain .nil

theorem CompiledGraph.ofDocument?_toJson (graph : CompiledGraph) :
    ofDocument? graph.toJson = some { graph with tests := graph.tests.map Test.sorted } := by
  have tests := list?_map Test.ofDocument?_toJson graph.tests
  rw [ofDocument?, graph.written.fields? (by decide)]
  simp [toJson, asRecord?, ofFields?, required?_eq, defaulted?_eq, List.lookup_cons, tests]

theorem CompiledGraph.ofDocument?_toJson_eq_iff (graph : CompiledGraph) :
    ofDocument? graph.toJson = some graph ↔ ∀ test ∈ graph.tests, test.Kept := by
  have same : { graph with tests := graph.tests.map Test.sorted } = graph ↔
      graph.tests.map Test.sorted = graph.tests.map id := by
    rw [List.map_id]
    constructor
    · exact fun same => congrArg CompiledGraph.tests same
    · exact fun same => congrArg (fun tests => { graph with tests }) same
  rw [ofDocument?_toJson, Option.some_inj, same, List.map_inj_left]
  exact forall₂_congr fun test _ => test.sorted_eq_self_iff

/-! ## Execution graphs -/

@[simp] theorem ActionKind.ofDocument?_toJson (kind : ActionKind) :
    ofDocument? kind.toJson = some kind := by
  cases kind <;> rfl

@[simp] theorem TaskKind.ofDocument?_toJson (kind : TaskKind) :
    ofDocument? kind.toJson = some kind := by
  cases kind <;> rfl

@[simp] theorem NodeStatus.ofDocument?_toJson (status : NodeStatus) :
    ofDocument? status.toJson = some status := by
  cases status <;> rfl

theorem Task.written (task : Task) : Written ["type", "statement"] task.toJson :=
  .record (.field (.text _) (.field (.text _) .nil))

@[simp] theorem Task.ofDocument?_toJson (task : Task) :
    ofDocument? task.toJson = some task := by
  rw [ofDocument?, task.written.fields? (by decide)]
  simp [toJson, asRecord?, ofFields?, required?_eq, List.lookup_cons]

theorem ExecutionNode.written (node : ExecutionNode) : Written fieldNames node.toJson := by
  simp only [toJson, List.append_assoc, List.cons_append, List.nil_append]
  apply Written.record
  apply Fields.field (.text _)
  apply Fields.field (.text _)
  apply Fields.given fun target => target.written.plain
  apply Fields.field (.listed .text _)
  apply Fields.filled
  apply Fields.field (.listed (fun task => task.written.plain) _)
  exact Fields.field (.text _) .nil

@[simp] theorem ExecutionNode.ofDocument?_toJson (node : ExecutionNode) :
    ofDocument? node.toJson = some node := by
  have target := readOr_given Target.ofDocument?_toJson (fun _ => rfl) node.target
  rw [ofDocument?, node.written.fields? (by decide)]
  simp [toJson, asRecord?, ofFields?, required?_eq, defaulted?_eq, optional?_eq,
    List.lookup_append, List.lookup_cons, target]

theorem ExecutionGraph.written (graph : ExecutionGraph) : Written fieldNames graph.toJson := by
  apply Written.record
  apply Fields.field graph.config.written.plain
  apply Fields.field graph.runConfig.written.plain
  apply Fields.field (.text _)
  apply Fields.field (.listed (fun task => task.written.plain) _)
  exact Fields.field (.listed (fun node => node.written.plain) _) .nil

theorem ExecutionGraph.ofDocument?_toJson (graph : ExecutionGraph) :
    ofDocument? graph.toJson = some graph := by
  rw [ofDocument?, graph.written.fields? (by decide)]
  simp [toJson, asRecord?, ofFields?, required?_eq, defaulted?_eq, List.lookup_cons]

/-! ## Texts -/

theorem graphs_read_back :
    (∀ graph : CompiledGraph,
      (read? graph.toJson.pretty).bind CompiledGraph.ofDocument? = some graph ↔
        ∀ test ∈ graph.tests, test.Kept) ∧
    ∀ graph : ExecutionGraph,
      (read? graph.toJson.pretty).bind ExecutionGraph.ofDocument? = some graph := by
  constructor
  · intro graph
    rw [read?_pretty graph.written.plain, Option.bind_some]
    exact graph.ofDocument?_toJson_eq_iff
  · intro graph
    rw [read?_pretty graph.written.plain, Option.bind_some]
    exact graph.ofDocument?_toJson

end SqlPipeline
