import SqlPipeline.Proofs.Sql.Statement
import SqlPipeline.Proofs.Warehouse.Objects
import SqlPipeline.Session

/-!
What publishing touches where a table is swapped in. An object is then named by its schema and its
name alone, and a statement says in its opening what it drops, creates, renames or inserts into.
Publishing touches the object of the table, and while it swaps one beside it under a name made up of
the table's own. Nothing keeps that name free: an action that asks for it shares the object. And
every drop takes along what depends on the object, whoever that belongs to.
-/

namespace SqlPipeline

/-- The schema and the name of an object. -/
def Target.object (target : Target) : Sql.Object := (target.schema, target.name)

/-! ## What a step changes -/

namespace Step

/-- What a step does to an object. -/
def change (warehouse : Warehouse) : Step → Sql.Change
  | .drop _ target => .drop target.object warehouse.cascades
  | .replace _ target _ _ | .create target _ _ | .insert target _ _ => .write target.object
  | .rename target name => .rename target.object name

/-- What stands behind the name of an object that is built. -/
def layout : Step → String
  | .replace _ _ layout _ | .create _ layout _ => layout
  | .drop .. | .rename .. | .insert .. => ""

end Step

section Swapping
variable {warehouse : Warehouse}

theorem Warehouse.reference_of_swaps (swaps : warehouse.swaps = true) (target : Target) :
    warehouse.reference target =
      Sql.quoteIdent target.schema ++ "." ++ Sql.quoteIdent target.name := by
  cases warehouse with
  | postgres | redshift => rfl
  | bigquery | duckdb | snowflake => cases swaps

theorem Warehouse.part_of_swaps (swaps : warehouse.swaps = true) (name : String) :
    warehouse.part name = Sql.quoteIdent name := by
  cases warehouse with
  | postgres | redshift => rfl
  | bigquery | duckdb | snowflake => cases swaps

theorem unquoted_clause (layout : RedshiftLayout) : Sql.Unquoted layout.clause := by
  unfold RedshiftLayout.clause
  apply Sql.Unquoted.append
  · split
    · simp only [String.append_assoc]
      exact .before (by decide) (by decide) _
    · decide
  · intro _
    split
    · simp only [String.append_assoc]
      exact .before (by decide) (by decide) _
    · decide

theorem unquoted_layout (swaps : warehouse.swaps = true) (table : Table) :
    Sql.Unquoted (table.layout warehouse) := by
  cases warehouse with
  | redshift =>
    simp only [Table.layout]
    cases table.redshift with
    | none => decide
    | some layout => exact unquoted_clause layout
  | postgres => exact (by decide : Sql.Unquoted "")
  | bigquery | duckdb | snowflake => cases swaps

theorem changed_write_reference (swaps : warehouse.swaps = true) {opening tail : String}
    (member : opening ∈ Sql.writes) (target : Target) (follows : Sql.Unquoted tail) :
    Sql.changed (opening ++ warehouse.reference target ++ tail) = some (.write target.object) := by
  have read := Sql.changed_write member target.schema target.name follows
  rw [Warehouse.reference_of_swaps swaps]
  simp only [String.append_assoc] at read ⊢
  exact read

-- The text of a step says what the step changes.
theorem changed_sql (swaps : warehouse.swaps = true) {step : Step}
    (spaced : Sql.Unquoted step.layout) :
    Sql.changed (warehouse.sql step) = some (step.change warehouse) := by
  cases step with
  | drop relation target =>
    have opens : "drop " ++ relation.keyword ++ " if exists " ∈ Sql.drops := by
      cases relation <;> decide
    have read := Sql.changed_drop opens target.schema target.name warehouse.cascades
    rw [Warehouse.sql, Sql.dropIfExists, Warehouse.reference_of_swaps swaps]
    simp only [String.append_assoc] at read ⊢
    exact read
  | replace relation target layout query =>
    have opens : "create or replace " ++ relation.keyword ++ " " ∈ Sql.writes := by
      cases relation <;> decide
    have follows : Sql.Unquoted (layout ++ (" as " ++ query)) :=
      .append spaced fun _ => .before (by decide) (by decide) _
    have read := changed_write_reference swaps opens target follows
    rw [← String.append_assoc, ← String.append_assoc] at read
    exact read
  | create target layout query =>
    have opens : "create table " ∈ Sql.writes := by decide
    have follows : Sql.Unquoted (layout ++ (" as " ++ query)) :=
      .append spaced fun _ => .before (by decide) (by decide) _
    have read := changed_write_reference swaps opens target follows
    rw [← String.append_assoc, ← String.append_assoc] at read
    exact read
  | rename target name =>
    have read := Sql.changed_rename target.schema target.name name
    rw [Warehouse.sql, Sql.rename, Warehouse.reference_of_swaps swaps,
      Warehouse.part_of_swaps swaps]
    simp only [String.append_assoc, String.append_empty] at read ⊢
    exact read
  | insert target columns query =>
    have opens : "insert into " ∈ Sql.writes := by decide
    cases columns with
    | nil =>
      have follows : Sql.Unquoted (" select * from (" ++ (query ++ ") as insertions")) :=
        .before (by decide) (by decide) _
      have read := changed_write_reference swaps opens target follows
      rw [← String.append_assoc, ← String.append_assoc] at read
      exact read
    | cons first rest =>
      let listed := ", ".intercalate ((first :: rest).map warehouse.column)
      have follows : Sql.Unquoted (" (" ++ (listed ++ (") select " ++ (listed ++ (" from (" ++
          (query ++ ") as insertions")))))) :=
        .before (by decide) (by decide) _
      have read := changed_write_reference swaps opens target follows
      simp only [← String.append_assoc] at read
      exact read

end Swapping

/-! ## What publishing touches -/

namespace Table

/-- Whether the table is built beside its object and then takes the place of it. -/
def SwapsIn (table : Table) (run : RunConfig) (existing : Option Existing) : Prop :=
  table.dataset.relation = .table ∧ table.appends run existing = false

/-- The objects that are dropped on the way. -/
def Drops (table : Table) (run : RunConfig) (existing : Option Existing) (object : Sql.Object) :
    Prop :=
  object = table.target.object ∧
      ((table.conflict? existing).isSome = true ∨ table.SwapsIn run existing) ∨
    object = table.target.temporary.object ∧ table.SwapsIn run existing

/-- The objects that publishing touches, in a database where some objects depend on others when it
begins; it makes nothing depend on what it drops. -/
def Affects (table : Table) (run : RunConfig) (existing : Option Existing)
    (depends : Sql.Object → Sql.Object → Prop) (object : Sql.Object) : Prop :=
  object = table.target.object ∨
    object = table.target.temporary.object ∧ table.SwapsIn run existing ∨
    ∃ dropped, table.Drops run existing dropped ∧ Relation.TransGen depends object dropped

section Publishing
variable {warehouse : Warehouse} {table : Table} {run : RunConfig} {existing : Option Existing}
  {depends : Sql.Object → Sql.Object → Prop} {object : Sql.Object}

theorem isSwapped_iff (swaps : warehouse.swaps = true) :
    table.isSwapped warehouse = true ↔ table.dataset.relation = .table := by
  simp [isSwapped, swaps]

theorem rebuild_of_view (isView : table.dataset.relation = .view) (warehouse : Warehouse) :
    table.rebuild warehouse = [.replace .view table.target "" table.query] := by
  simp only [rebuild, isView]

-- Only a table that is built may have a layout behind its name.
theorem layout_of_mem_steps (swaps : warehouse.swaps = true) {step : Step}
    (member : step ∈ table.steps warehouse run existing) :
    step.layout = "" ∨ step.layout = table.layout warehouse := by
  by_cases appends : table.appends run existing = true
  · obtain ⟨columns, steps⟩ := steps_of_appends warehouse appends
    rw [steps, List.mem_singleton] at member
    exact .inl (member ▸ rfl)
  · rw [steps_of_not_appends (Bool.eq_false_iff.mpr appends), List.mem_append] at member
    rcases member with conflicting | rebuilding
    · obtain ⟨relation, _, rfl⟩ := Option.map_eq_some_iff.mp (Option.mem_toList.mp conflicting)
      exact .inl rfl
    · cases relation : table.dataset.relation with
      | view =>
        rw [rebuild_of_view relation, List.mem_singleton] at rebuilding
        exact .inl (rebuilding ▸ rfl)
      | table =>
        rw [rebuild_of_swapped ((isSwapped_iff swaps).mpr relation)] at rebuilding
        simp only [List.mem_cons, List.not_mem_nil, or_false] at rebuilding
        rcases rebuilding with rfl | rfl | rfl | rfl
        · exact .inl rfl
        · exact .inr rfl
        · exact .inl rfl
        · exact .inl rfl

theorem touches_of_rebuild (swaps : warehouse.swaps = true) :
    (∃ step ∈ table.rebuild warehouse, (step.change warehouse).Touches depends object) ↔
      object = table.target.object ∨ table.dataset.relation = .table ∧
        (object = table.target.temporary.object ∨
          Relation.TransGen depends object table.target.object ∨
          Relation.TransGen depends object table.target.temporary.object) := by
  have back : (table.target.temporary.object.1, table.target.name) = table.target.object := rfl
  cases relation : table.dataset.relation with
  | view =>
    rw [rebuild_of_view relation]
    simp [Step.change, Sql.Change.Touches]
  | table =>
    rw [rebuild_of_swapped ((isSwapped_iff swaps).mpr relation)]
    simp only [List.exists_mem_cons_iff, List.not_mem_nil, false_and, exists_false, or_false]
    simp only [Step.change, Sql.Change.Touches, Warehouse.cascades_of_swaps swaps, true_and, back]
    tauto

theorem touches_of_conflict (swaps : warehouse.swaps = true) :
    (∃ step ∈ ((table.conflict? existing).map fun relation =>
        Step.drop relation table.target).toList, (step.change warehouse).Touches depends object) ↔
      (table.conflict? existing).isSome = true ∧ (object = table.target.object ∨
        Relation.TransGen depends object table.target.object) := by
  cases table.conflict? existing <;>
    simp [Step.change, Sql.Change.Touches, Warehouse.cascades_of_swaps swaps]

theorem affects_iff :
    table.Affects run existing depends object ↔
      object = table.target.object ∨
      object = table.target.temporary.object ∧ table.SwapsIn run existing ∨
      ((table.conflict? existing).isSome = true ∨ table.SwapsIn run existing) ∧
        Relation.TransGen depends object table.target.object ∨
      table.SwapsIn run existing ∧
        Relation.TransGen depends object table.target.temporary.object := by
  simp only [Affects, Drops, or_and_right, exists_or, and_assoc, exists_eq_left]

theorem touches_of_steps (swaps : warehouse.swaps = true) :
    (∃ step ∈ table.steps warehouse run existing, (step.change warehouse).Touches depends object) ↔
      table.Affects run existing depends object := by
  rw [affects_iff]
  cases appends : table.appends run existing with
  | true =>
    obtain ⟨columns, steps⟩ := steps_of_appends warehouse appends
    simp [steps, Step.change, Sql.Change.Touches, SwapsIn, appends, conflict?_of_appends appends]
  | false =>
    rw [steps_of_not_appends appends]
    simp only [List.mem_append, or_and_right, exists_or, touches_of_conflict swaps,
      touches_of_rebuild swaps, SwapsIn, appends, and_true]
    tauto

/-- What the statements between the operations before and after them touch. -/
structure Frame (table : Table) (warehouse : Warehouse) (run : RunConfig)
    (existing : Option Existing) (core : List String) : Prop where
  tasks : warehouse.publish table run existing =
    (table.preOps ++ core ++ table.postOps).map Task.plain
  read : ∀ statement ∈ core, (Sql.changed statement).isSome = true
  touched : ∀ depends object, (∃ statement ∈ core, Sql.Touches statement depends object) ↔
    table.Affects run existing depends object

theorem frame_of_swaps (swaps : warehouse.swaps = true) (table : Table) (run : RunConfig)
    (existing : Option Existing) : ∃ core, table.Frame warehouse run existing core := by
  have changed : ∀ step ∈ table.steps warehouse run existing,
      Sql.changed (warehouse.sql step) = some (step.change warehouse) := by
    intro step member
    refine changed_sql swaps ?_
    rcases layout_of_mem_steps swaps member with bare | laid
    · exact bare ▸ by decide
    · exact laid ▸ unquoted_layout swaps table
  refine ⟨(table.steps warehouse run existing).map warehouse.sql, rfl, ?_, ?_⟩
  · intro statement member
    obtain ⟨step, listed, rfl⟩ := List.mem_map.mp member
    rw [changed step listed]
    rfl
  · intro depends object
    rw [← touches_of_steps swaps]
    constructor
    · rintro ⟨statement, member, change, read, touched⟩
      obtain ⟨step, listed, rfl⟩ := List.mem_map.mp member
      rw [changed step listed] at read
      cases read
      exact ⟨step, listed, touched⟩
    · rintro ⟨step, listed, touched⟩
      exact ⟨_, List.mem_map_of_mem listed, _, changed step listed, touched⟩

end Publishing
end Table

/-! ## Projects -/

section Projects
variable {config : ProjectConfig} {declarations : List Declaration}
  {depends : Sql.Object → Sql.Object → Prop}

/-- Publishing a table of the project leaves alone the objects of all targets but its own, in a
database where some objects depend on others. -/
def Framed (config : ProjectConfig) (declarations : List Declaration)
    (depends : Sql.Object → Sql.Object → Prop) : Prop :=
  ∀ table ∈ (compile config declarations).tables,
    ∀ other ∈ (compile config declarations).actions, ∀ target ∈ other.target,
      target ≠ table.target → ∀ run existing, ∃ core,
        config.warehouse.publish table run existing =
          (table.preOps ++ core ++ table.postOps).map Task.plain ∧
        ∀ statement ∈ core, ¬Sql.Touches statement depends target.object

/-- No target shares the object of a table, or the one beside it that the table is built in. -/
def CompiledGraph.Apart (graph : CompiledGraph) : Prop :=
  ∀ table ∈ graph.tables, ∀ other ∈ graph.actions, ∀ target ∈ other.target,
    target ≠ table.target → target.object ≠ table.target.object ∧
      (table.dataset.relation = .table → target.object ≠ table.target.temporary.object)

instance (graph : CompiledGraph) : Decidable graph.Apart :=
  inferInstanceAs (Decidable (∀ table ∈ graph.tables, ∀ other ∈ graph.actions,
    ∀ target ∈ other.target, _ → _ ∧ _))

/-- The object of no other target depends on the object of a table, or on the one beside it. -/
def CompiledGraph.Independent (graph : CompiledGraph)
    (depends : Sql.Object → Sql.Object → Prop) : Prop :=
  ∀ table ∈ graph.tables, ∀ other ∈ graph.actions, ∀ target ∈ other.target,
    target ≠ table.target → ¬Relation.TransGen depends target.object table.target.object ∧
      (table.dataset.relation = .table →
        ¬Relation.TransGen depends target.object table.target.temporary.object)

theorem core_unique {pre post core other : List String}
    (same : (pre ++ core ++ post).map Task.plain = (pre ++ other ++ post).map Task.plain) :
    core = other := by
  have plain : Function.Injective Task.plain := fun left right equal => (Task.mk.inj equal).2
  have joined := List.map_injective_iff.mpr plain same
  exact List.append_cancel_left (List.append_cancel_right joined)

-- Sometime there may be an object of the other kind in the place of a table.
theorem exists_conflict (table : Table) :
    ∃ existing, (table.conflict? existing).isSome = true := by
  cases relation : table.dataset.relation with
  | view => exact ⟨some ⟨table.target, .table, []⟩, by simp [Table.conflict?, relation]⟩
  | table => exact ⟨some ⟨table.target, .view, []⟩, by simp [Table.conflict?, relation]⟩

theorem swapsIn_of_absent {table : Table} (isTable : table.dataset.relation = .table)
    (run : RunConfig) : table.SwapsIn run none :=
  ⟨isTable, by simp [Table.appends]⟩

theorem framed_iff_not_affects (swaps : config.warehouse.swaps = true) :
    Framed config declarations depends ↔
      ∀ table ∈ (compile config declarations).tables,
        ∀ other ∈ (compile config declarations).actions, ∀ target ∈ other.target,
          target ≠ table.target → ∀ run existing,
            ¬table.Affects run existing depends target.object := by
  constructor
  · intro framed table listed other member target owned differs run existing affects
    obtain ⟨core, tasks, spared⟩ :=
      framed table listed other member target owned differs run existing
    obtain ⟨core', frame⟩ := Table.frame_of_swaps swaps table run existing
    obtain rfl := core_unique (tasks.symm.trans frame.tasks)
    obtain ⟨statement, said, touches⟩ := (frame.touched depends target.object).mpr affects
    exact spared statement said touches
  · intro spared table listed other member target owned differs run existing
    obtain ⟨core, frame⟩ := Table.frame_of_swaps swaps table run existing
    refine ⟨core, frame.tasks, fun statement said touches => ?_⟩
    exact spared table listed other member target owned differs run existing
      ((frame.touched depends target.object).mp ⟨statement, said, touches⟩)

-- Any difference between two targets that no reference shows breaks the frame, and so does a target
-- that goes by the name under which a table is built, or an object that depends on a table.
theorem framed_iff (swaps : config.warehouse.swaps = true) :
    Framed config declarations depends ↔
      (compile config declarations).Apart ∧
        (compile config declarations).Independent depends := by
  rw [framed_iff_not_affects swaps]
  constructor
  · intro spared
    constructor
    · intro table listed other member target owned differs
      have spared := spared table listed other member target owned differs .standard none
      rw [Table.affects_iff] at spared
      push Not at spared
      refine ⟨spared.1, fun isTable same => ?_⟩
      exact spared.2.1 same (swapsIn_of_absent isTable _)
    · intro table listed other member target owned differs
      have spared := spared table listed other member target owned differs
      obtain ⟨existing, conflicts⟩ := exists_conflict table
      refine ⟨fun chain => ?_, fun isTable chain => ?_⟩
      · exact spared .standard existing
          (.inr (.inr ⟨_, .inl ⟨rfl, .inl conflicts⟩, chain⟩))
      · exact spared .standard none
          (.inr (.inr ⟨_, .inr ⟨rfl, swapsIn_of_absent isTable _⟩, chain⟩))
  · rintro ⟨apart, independent⟩ table listed other member target owned differs run existing affects
    obtain ⟨elsewhere, beside⟩ := apart table listed other member target owned differs
    obtain ⟨free, freeBeside⟩ := independent table listed other member target owned differs
    rcases affects with same | ⟨same, isTable, _⟩ | ⟨_, ⟨rfl, _⟩ | ⟨rfl, isTable, _⟩, chain⟩
    · exact elsewhere same
    · exact beside isTable same
    · exact free chain
    · exact freeBeside isTable chain

theorem touched_of_compile (swaps : config.warehouse.swaps = true) :
    (compile config declarations).errors = [] →
      ∀ table ∈ (compile config declarations).tables,
        ∀ other ∈ (compile config declarations).actions, ∀ target ∈ other.target,
          Sql.readObject (config.warehouse.reference target).toList = some (target.object, []) ∧
          ∀ run existing, ∃ core,
            config.warehouse.publish table run existing =
              (table.preOps ++ core ++ table.postOps).map Task.plain ∧
            (∀ statement ∈ core, (Sql.changed statement).isSome = true) ∧
            ∀ depends, (∃ statement ∈ core, Sql.Touches statement depends target.object) ↔
              target.object = table.target.object ∨
                target.object = table.target.temporary.object ∧ table.SwapsIn run existing ∨
                ∃ dropped, table.Drops run existing dropped ∧
                  Relation.TransGen depends target.object dropped := by
  rintro - table - other - target -
  constructor
  · have read := Sql.readObject_path target.schema target.name (by decide : Sql.Unquoted "")
    rw [Warehouse.reference_of_swaps swaps]
    simp only [String.append_assoc, String.append_empty] at read ⊢
    exact read
  · intro run existing
    obtain ⟨core, frame⟩ := Table.frame_of_swaps swaps table run existing
    exact ⟨core, frame.tasks, frame.read, fun depends => frame.touched depends target.object⟩

end Projects

def onPostgres : ProjectConfig := { ProjectConfig.standard with warehouse := .postgres }

-- The second table asks for the name under which the first is built.
def clash : List Declaration :=
  [.single (.dataset .table) "orders" "select 1 as amount",
    .single (.dataset .table) "orders_temp" "select 2 as amount"]

-- Two names that come to the same schema and the same object of two databases.
def twins : List Declaration :=
  [{ Declaration.single (.dataset .table) "orders" "select 1 as amount" with
      database := some "live" },
    { Declaration.single (.dataset .view) "weft.orders" "select 2 as amount" with
      database := some "archive" }]

-- A view is built in no other place, and an assertion stands in a schema of its own.
def market : List Declaration :=
  [.single (.dataset .table) "orders" "select 1 as amount",
    .single (.dataset .view) "daily" "select 2 as amount",
    .single (.dataset .view) "daily_temp" "select 3 as amount",
    .single .assertion "orders_temp" "select * from weft.orders where amount < 0"]

/-- One object depends on one other. -/
def OneReads (reader read : Sql.Object) (object dropped : Sql.Object) : Prop :=
  object = reader ∧ dropped = read

theorem eq_of_oneReads {reader read object dropped : Sql.Object}
    (chain : Relation.TransGen (OneReads reader read) object dropped) : dropped = read := by
  cases chain with
  | single last | tail _ last => exact last.2

-- The view of an assertion goes with the table it reads.
theorem not_framed_of_shared_or_dependent_objects :
    (compile onPostgres clash).errors = [] ∧ ¬Framed onPostgres clash (fun _ _ => False) ∧
      (compile onPostgres twins).errors = [] ∧ ¬Framed onPostgres twins (fun _ _ => False) ∧
      (compile onPostgres market).errors = [] ∧
        ¬Framed onPostgres market
          (OneReads ("weft_assertions", "orders_temp") ("weft", "orders")) := by
  have swaps : onPostgres.warehouse.swaps = true := rfl
  refine ⟨by decide, ?_, by decide, ?_, by decide, ?_⟩
  · rw [framed_iff swaps]
    exact fun framed => absurd framed.1 (by decide)
  · rw [framed_iff swaps]
    exact fun framed => absurd framed.1 (by decide)
  · rw [framed_iff swaps]
    rintro ⟨_, independent⟩
    obtain ⟨table, listed, other, member, target, owned, differs, reader, read⟩ :
        ∃ table ∈ (compile onPostgres market).tables,
          ∃ other ∈ (compile onPostgres market).actions, ∃ target ∈ other.target,
            target ≠ table.target ∧ target.object = ("weft_assertions", "orders_temp") ∧
              table.target.object = ("weft", "orders") := by decide
    exact (independent table listed other member target owned differs).1 (.single ⟨reader, read⟩)

-- A view reads an object that is none of the project's.
theorem market_framed :
    onPostgres.warehouse.swaps = true ∧ (compile onPostgres market).errors = [] ∧
      Framed onPostgres market (OneReads ("weft", "daily") ("raw", "sales")) := by
  have swaps : onPostgres.warehouse.swaps = true := rfl
  have sound : (compile onPostgres market).errors = [] := by decide
  have apart : (compile onPostgres market).Apart := by decide
  have foreign : ∀ table ∈ (compile onPostgres market).tables,
      table.target.object ≠ ("raw", "sales") ∧
        table.target.temporary.object ≠ ("raw", "sales") := by decide
  refine ⟨swaps, sound, fun table listed other member target owned differs run existing => ?_⟩
  obtain ⟨_, touched⟩ := touched_of_compile swaps sound table listed other member target owned
  obtain ⟨core, tasks, _, exactly⟩ := touched run existing
  obtain ⟨elsewhere, beside⟩ := apart table listed other member target owned differs
  refine ⟨core, tasks, fun statement said touches => ?_⟩
  rcases (exactly _).mp ⟨statement, said, touches⟩ with
    same | ⟨same, isTable, _⟩ | ⟨dropped, drops, chain⟩
  · exact elsewhere same
  · exact beside isTable same
  · obtain rfl := eq_of_oneReads chain
    rcases drops with ⟨own, _⟩ | ⟨scratch, _⟩
    · exact (foreign table listed).1 own.symm
    · exact (foreign table listed).2 scratch.symm

end SqlPipeline
