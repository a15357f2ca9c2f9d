import Mathlib.Data.List.Forall2
import Mathlib.Logic.Function.Basic
import SqlPipeline.Warehouse.Publish

/-!
What publishing makes of a warehouse. Under a reference there is at most one object, and a statement
that meets an object of the wrong kind fails. Where the lookup has told the truth about the target,
no step fails; in the end the target is of the kind its dataset asks for, and nothing is left beside
it that was not there before.
-/

namespace SqlPipeline

/-- The kind of the object under each reference. -/
abbrev Objects := String → Option Relation

theorem Target.sibling_temporary (target : Target) :
    target.temporary.sibling target.name = target := rfl

namespace Warehouse

/-- What a step makes of the objects; none where it fails. What depends on a dropped object is not
among them. -/
def perform (warehouse : Warehouse) (objects : Objects) : Step → Option Objects
  | .drop relation target =>
      if objects (warehouse.reference target) ∈ [none, some relation] then
        some (Function.update objects (warehouse.reference target) none)
      else none
  | .replace relation target _ _ =>
      if objects (warehouse.reference target) ∈ [none, some relation] then
        some (Function.update objects (warehouse.reference target) (some relation))
      else none
  | .create target _ _ =>
      if objects (warehouse.reference target) = none then
        some (Function.update objects (warehouse.reference target) (some .table))
      else none
  | .rename target name =>
      let renamed := warehouse.reference (target.sibling name)
      if objects (warehouse.reference target) = some .table ∧ objects renamed = none then
        some (Function.update (Function.update objects (warehouse.reference target) none) renamed
          (some .table))
      else none
  | .insert target _ _ =>
      if objects (warehouse.reference target) = some .table then some objects else none

/-- How the statement of a step reads, as far as it matters to the objects. -/
inductive Says (warehouse : Warehouse) : Step → String → Prop where
  | drop (relation : Relation) (target : Target) (cascades : Bool) :
      Says warehouse (.drop relation target)
        ("drop " ++ relation.keyword ++ " if exists " ++ warehouse.reference target ++
          if cascades then " cascade" else "")
  | replace (relation : Relation) (target : Target) (layout query : String) :
      Says warehouse (.replace relation target layout query)
        ("create or replace " ++ relation.keyword ++ " " ++ warehouse.reference target ++ layout
          ++ " as " ++ query)
  | create (target : Target) (layout query : String) :
      Says warehouse (.create target layout query)
        ("create table " ++ warehouse.reference target ++ layout ++ " as " ++ query)
  | rename (target : Target) (name : String) :
      Says warehouse (.rename target name)
        ("alter table " ++ warehouse.reference target ++ " rename to " ++ warehouse.part name)
  | insert (target : Target) (columns : List String) (query rows : String) :
      Says warehouse (.insert target columns query)
        ("insert into " ++ warehouse.reference target ++ rows)

theorem exists_insertInto (reference : String) (columns : List String) (query : String) :
    ∃ rows, Sql.insertInto reference columns query = "insert into " ++ reference ++ rows := by
  cases columns with
  | nil =>
    refine ⟨" select * from (" ++ query ++ ") as insertions", ?_⟩
    change "insert into " ++ reference ++ " select * from (" ++ query ++ ") as insertions" = _
    simp only [String.append_assoc]
  | cons first rest =>
    let listed := ", ".intercalate (first :: rest)
    refine ⟨" (" ++ listed ++ ") select " ++ listed ++ " from (" ++ query ++ ") as insertions", ?_⟩
    change "insert into " ++ reference ++ " (" ++ listed ++ ") select " ++ listed ++ " from (" ++
      query ++ ") as insertions" = _
    simp only [String.append_assoc]

theorem says_sql (warehouse : Warehouse) (step : Step) :
    warehouse.Says step (warehouse.sql step) := by
  cases step with
  | drop relation target => exact .drop relation target _
  | replace relation target layout query => exact .replace relation target layout query
  | create target layout query => exact .create target layout query
  | rename target name => exact .rename target name
  | insert target columns query =>
    obtain ⟨rows, text⟩ := exists_insertInto (warehouse.reference target)
      (columns.map warehouse.column) query
    rw [sql, text]
    exact .insert target columns query rows

/-- One step after the other; the first that fails stops the rest. -/
def performAll (warehouse : Warehouse) (objects : Objects) (steps : List Step) : Option Objects :=
  steps.foldlM warehouse.perform objects

section Steps
variable {warehouse : Warehouse} {objects : Objects} {relation : Relation} {target : Target}

theorem performAll_cons {step : Step} {next : Objects} {rest : List Step}
    (done : warehouse.perform objects step = some next) :
    warehouse.performAll objects (step :: rest) = warehouse.performAll next rest := by
  rw [performAll, List.foldlM_cons, done]
  rfl

theorem perform_drop (free : objects (warehouse.reference target) ∈ [none, some relation]) :
    warehouse.perform objects (.drop relation target) =
      some (Function.update objects (warehouse.reference target) none) :=
  if_pos free

theorem perform_replace (free : objects (warehouse.reference target) ∈ [none, some relation])
    (layout query : String) :
    warehouse.perform objects (.replace relation target layout query) =
      some (Function.update objects (warehouse.reference target) (some relation)) :=
  if_pos free

theorem perform_create (vacant : objects (warehouse.reference target) = none)
    (layout query : String) :
    warehouse.perform objects (.create target layout query) =
      some (Function.update objects (warehouse.reference target) (some .table)) :=
  if_pos vacant

theorem perform_rename {name : String} (built : objects (warehouse.reference target) = some .table)
    (vacant : objects (warehouse.reference (target.sibling name)) = none) :
    warehouse.perform objects (.rename target name) =
      some (Function.update (Function.update objects (warehouse.reference target) none)
        (warehouse.reference (target.sibling name)) (some .table)) :=
  if_pos ⟨built, vacant⟩

theorem perform_insert (built : objects (warehouse.reference target) = some .table)
    (columns : List String) (query : String) :
    warehouse.perform objects (.insert target columns query) = some objects :=
  if_pos built

end Steps

/-! ## References -/

-- Where a table is swapped in, every drop takes along what depends on the object.
theorem cascades_of_swaps {warehouse : Warehouse} (swaps : warehouse.swaps = true) :
    warehouse.cascades = true := by
  cases warehouse with
  | postgres | redshift => rfl
  | bigquery | duckdb | snowflake => cases swaps

-- Behind the name there is more text, so more text is quoted.
theorem part_temporary_ne {warehouse : Warehouse} (swaps : warehouse.swaps = true) (name : String) :
    warehouse.part (name ++ "_temp") ≠ warehouse.part name := by
  have longer : (Sql.doubleQuotes (name ++ "_temp").toList).length =
      (Sql.doubleQuotes name.toList).length + 5 := by
    rw [String.toList_append, Sql.doubleQuotes_append, List.length_append]
    rfl
  have apart : Sql.quoteIdent (name ++ "_temp") ≠ Sql.quoteIdent name := by
    intro same
    have lengths := congrArg (fun text => text.toList.length) same
    simp only [Sql.quoteIdent, String.toList_ofList, List.length_append, List.length_cons,
      List.length_nil] at lengths
    omega
  cases warehouse with
  | postgres | redshift => exact apart
  | bigquery | duckdb | snowflake => cases swaps

theorem reference_temporary_ne {warehouse : Warehouse} (swaps : warehouse.swaps = true)
    (target : Target) : warehouse.reference target.temporary ≠ warehouse.reference target := by
  have apart := part_temporary_ne swaps target.name
  cases warehouse with
  | postgres | redshift =>
    intro same
    have names : Warehouse.part _ target.temporary.name = Warehouse.part _ target.name :=
      String.append_right_inj _ |>.mp same
    exact apart names
  | bigquery | duckdb | snowflake => cases swaps

end Warehouse

namespace Table
open Warehouse

/-! ## Building anew -/

/-- Whether building anew swaps a table in. -/
def isSwapped (table : Table) (warehouse : Warehouse) : Bool :=
  warehouse.swaps && table.dataset.relation == .table

/-- What stands after the object has been built anew. -/
def rebuilt (table : Table) (warehouse : Warehouse) (objects : Objects) : Objects :=
  Function.update
    (if table.isSwapped warehouse then
      Function.update objects (warehouse.reference table.target.temporary) none
    else objects)
    (warehouse.reference table.target) (some table.dataset.relation)

section Rebuild
variable {table : Table} {warehouse : Warehouse} {objects : Objects}

theorem rebuild_of_swapped (swapped : table.isSwapped warehouse = true) :
    table.rebuild warehouse =
      [.drop .table table.target.temporary,
        .create table.target.temporary (table.layout warehouse) table.query,
        .drop .table table.target, .rename table.target.temporary table.target.name] := by
  simp only [isSwapped, Bool.and_eq_true, beq_iff_eq] at swapped
  simp only [rebuild, swapped.2, swapped.1, if_true]

theorem rebuild_of_not_swapped (direct : table.isSwapped warehouse = false) :
    ∃ layout, table.rebuild warehouse =
      [.replace table.dataset.relation table.target layout table.query] := by
  cases relation : table.dataset.relation with
  | view => exact ⟨"", by simp only [rebuild, relation]⟩
  | table =>
    have lacking : warehouse.swaps = false := by simpa [isSwapped, relation] using direct
    exact ⟨table.layout warehouse, by simp [rebuild, relation, lacking]⟩

-- The new table stands beside the old one until the last step, which finds the place vacant.
theorem performAll_swap (swapped : table.isSwapped warehouse = true)
    (free : objects (warehouse.reference table.target) ∈ [none, some .table])
    (spare : objects (warehouse.reference table.target.temporary) ∈ [none, some .table]) :
    warehouse.performAll objects (table.rebuild warehouse) =
      some (table.rebuilt warehouse objects) := by
  obtain ⟨swaps, isTable⟩ := Bool.and_eq_true_iff.mp swapped
  have apart := reference_temporary_ne swaps table.target
  have still : Function.update objects (warehouse.reference table.target.temporary) (some .table)
      (warehouse.reference table.target) ∈ [none, some Relation.table] := by
    rw [Function.update_of_ne apart.symm]
    exact free
  have vacant : Function.update (Function.update objects (warehouse.reference table.target) none)
      (warehouse.reference table.target.temporary) (some .table)
      (warehouse.reference table.target) = none := by
    rw [Function.update_of_ne apart.symm, Function.update_self]
  rw [rebuild_of_swapped swapped, rebuilt, if_pos swapped, beq_iff_eq.mp isTable]
  rw [performAll_cons (perform_drop spare)]
  rw [performAll_cons (perform_create (Function.update_self _ _ _) _ _), Function.update_idem]
  rw [performAll_cons (perform_drop still), Function.update_comm apart]
  rw [performAll_cons (perform_rename (Function.update_self _ _ _) vacant), Function.update_idem,
    Function.update_comm apart.symm, Target.sibling_temporary, Function.update_idem]
  rfl

theorem performAll_rebuild
    (free : objects (warehouse.reference table.target) ∈ [none, some table.dataset.relation])
    (spare : objects (warehouse.reference table.target.temporary) ∈ [none, some .table]) :
    warehouse.performAll objects (table.rebuild warehouse) =
      some (table.rebuilt warehouse objects) := by
  by_cases swapped : table.isSwapped warehouse = true
  · have isTable := beq_iff_eq.mp (Bool.and_eq_true_iff.mp swapped).2
    rw [isTable] at free
    exact performAll_swap swapped free spare
  · obtain ⟨layout, steps⟩ := rebuild_of_not_swapped (Bool.eq_false_iff.mpr swapped)
    rw [steps, rebuilt, if_neg swapped, performAll_cons (perform_replace free _ _)]
    rfl

/-! ## Publishing -/

variable {run : RunConfig} {existing : Option Existing}

theorem conflict?_eq_none_iff :
    table.conflict? existing = none ↔
      existing.map Existing.relation ∈ [none, some table.dataset.relation] := by
  cases existing <;> simp [conflict?, Option.filter_eq_none_iff]

theorem conflict?_eq_some_iff {relation : Relation} :
    table.conflict? existing = some relation ↔
      existing.map Existing.relation = some relation ∧ relation ≠ table.dataset.relation := by
  simp [conflict?, Option.filter_eq_some_iff]

theorem appends_iff :
    table.appends run existing = true ↔ table.dataset = .incremental ∧
      existing.map Existing.relation = some .table ∧
        (run.fullRefresh = false ∨ table.isProtected = true) := by
  cases existing <;> simp [appends, and_assoc]

theorem conflict?_of_appends (appends : table.appends run existing = true) :
    table.conflict? existing = none := by
  obtain ⟨incremental, isTable, _⟩ := appends_iff.mp appends
  exact conflict?_eq_none_iff.mpr (by simp [isTable, incremental, Dataset.relation])

theorem steps_of_appends_to (warehouse : Warehouse) {object : Existing}
    (appends : table.appends run (some object) = true) :
    table.steps warehouse run (some object) =
      [.insert table.target object.columns table.appendSource] := by
  simp [steps, conflict?_of_appends appends, appends]

theorem steps_of_appends (warehouse : Warehouse) (appends : table.appends run existing = true) :
    ∃ columns, table.steps warehouse run existing =
      [.insert table.target columns table.appendSource] := by
  cases existing with
  | none => cases (appends_iff.mp appends).2.1
  | some object => exact ⟨object.columns, steps_of_appends_to warehouse appends⟩

theorem steps_of_not_appends (anew : table.appends run existing = false) :
    table.steps warehouse run existing =
      ((table.conflict? existing).map fun relation => Step.drop relation table.target).toList
        ++ table.rebuild warehouse := by
  cases existing <;> simp [steps, anew]

theorem rebuilt_update (table : Table) (warehouse : Warehouse) (objects : Objects)
    (found : Option Relation) :
    table.rebuilt warehouse
        (Function.update objects (warehouse.reference table.target) found) =
      table.rebuilt warehouse objects := by
  funext reference
  by_cases same : reference = warehouse.reference table.target
  · simp [rebuilt, same]
  · by_cases swapped : table.isSwapped warehouse <;>
      simp [rebuilt, swapped, same, Function.update_apply]

/-- What publishing leaves behind. -/
def published (table : Table) (warehouse : Warehouse) (run : RunConfig)
    (existing : Option Existing) (objects : Objects) : Objects :=
  if table.appends run existing then objects else table.rebuilt warehouse objects

theorem performAll_steps
    (truthful : existing.map Existing.relation = objects (warehouse.reference table.target))
    (spare : objects (warehouse.reference table.target.temporary) ≠ some .view) :
    warehouse.performAll objects (table.steps warehouse run existing) =
      some (table.published warehouse run existing objects) := by
  by_cases appends : table.appends run existing = true
  · obtain ⟨columns, steps⟩ := steps_of_appends warehouse appends
    have built := truthful.symm.trans (appends_iff.mp appends).2.1
    rw [steps, published, if_pos appends, performAll_cons (perform_insert built _ _)]
    rfl
  · have spare : objects (warehouse.reference table.target.temporary) ∈ [none, some .table] := by
      rcases beside : objects (warehouse.reference table.target.temporary) with _ | _ | _
      · simp
      · simp
      · exact absurd beside spare
    rw [steps_of_not_appends (Bool.eq_false_iff.mpr appends), published, if_neg appends]
    cases conflict : table.conflict? existing with
    | none => exact performAll_rebuild (truthful ▸ conflict?_eq_none_iff.mp conflict) spare
    | some relation =>
      have stands := truthful.symm.trans (conflict?_eq_some_iff.mp conflict).1
      have free : objects (warehouse.reference table.target) ∈ [none, some relation] := by
        simp [stands]
      rw [Option.map_some, Option.toList_some, List.singleton_append,
        performAll_cons (perform_drop free), performAll_rebuild, rebuilt_update]
      · simp
      · rw [Function.update_apply]
        split
        · simp
        · exact spare

theorem rename_mem_steps_iff :
    .rename table.target.temporary table.target.name ∈ table.steps warehouse run existing ↔
      table.isSwapped warehouse = true ∧ table.appends run existing = false := by
  cases appends : table.appends run existing with
  | true =>
    obtain ⟨columns, steps⟩ := steps_of_appends warehouse appends
    simp [steps]
  | false =>
    rw [steps_of_not_appends appends]
    by_cases swapped : table.isSwapped warehouse = true
    · simp [rebuild_of_swapped swapped, swapped]
    · obtain ⟨layout, steps⟩ := rebuild_of_not_swapped (Bool.eq_false_iff.mpr swapped)
      simp [steps, swapped]

theorem published_target
    (truthful : existing.map Existing.relation = objects (warehouse.reference table.target)) :
    table.published warehouse run existing objects (warehouse.reference table.target) =
      some table.dataset.relation := by
  by_cases appends : table.appends run existing = true
  · obtain ⟨incremental, isTable, _⟩ := appends_iff.mp appends
    rw [published, if_pos appends, ← truthful, isTable, incremental]
    rfl
  · rw [published, if_neg appends, rebuilt, Function.update_self]

theorem published_temporary
    (renamed : .rename table.target.temporary table.target.name ∈
      table.steps warehouse run existing) :
    table.published warehouse run existing objects
      (warehouse.reference table.target.temporary) = none := by
  obtain ⟨swapped, anew⟩ := rename_mem_steps_iff.mp renamed
  have apart := reference_temporary_ne (Bool.and_eq_true_iff.mp swapped).1 table.target
  rw [published, if_neg (Bool.eq_false_iff.mp anew), rebuilt, if_pos swapped,
    Function.update_of_ne apart, Function.update_self]

theorem published_elsewhere {reference : String}
    (other : reference ≠ warehouse.reference table.target)
    (unswapped : reference = warehouse.reference table.target.temporary →
      .rename table.target.temporary table.target.name ∉ table.steps warehouse run existing) :
    table.published warehouse run existing objects reference = objects reference := by
  rw [rename_mem_steps_iff] at unswapped
  by_cases appends : table.appends run existing = true
  · rw [published, if_pos appends]
  · rw [published, if_neg appends, rebuilt, Function.update_of_ne other]
    by_cases swapped : table.isSwapped warehouse = true
    · rw [if_pos swapped, Function.update_of_ne]
      exact fun same => unswapped same ⟨swapped, Bool.eq_false_iff.mpr appends⟩
    · rw [if_neg swapped]

end Rebuild

/-- What can be relied on once an object has been published. -/
structure Published (table : Table) (warehouse : Warehouse) (run : RunConfig)
    (existing : Option Existing) (objects final : Objects) : Prop where
  tasks : ∃ core, warehouse.publish table run existing =
      (table.preOps ++ core ++ table.postOps).map Task.plain ∧
    List.Forall₂ warehouse.Says (table.steps warehouse run existing) core
  performed : warehouse.performAll objects (table.steps warehouse run existing) = some final
  target : final (warehouse.reference table.target) = some table.dataset.relation
  temporary : .rename table.target.temporary table.target.name ∈
    table.steps warehouse run existing →
      final (warehouse.reference table.target.temporary) = none
  elsewhere : ∀ reference, reference ≠ warehouse.reference table.target →
    (reference = warehouse.reference table.target.temporary →
      .rename table.target.temporary table.target.name ∉ table.steps warehouse run existing) →
      final reference = objects reference

theorem published_of_truthful {table : Table} {warehouse : Warehouse} {run : RunConfig}
    {existing : Option Existing} {objects : Objects}
    (truthful : existing.map Existing.relation = objects (warehouse.reference table.target))
    (spare : objects (warehouse.reference table.target.temporary) ≠ some .view) :
    ∃ final, table.Published warehouse run existing objects final := by
  have texts : List.Forall₂ warehouse.Says (table.steps warehouse run existing)
      ((table.steps warehouse run existing).map warehouse.sql) := by
    rw [List.forall₂_map_right_iff, List.forall₂_same]
    exact fun step _ => warehouse.says_sql step
  exact ⟨_, ⟨_, rfl, texts⟩, performAll_steps truthful spare, published_target truthful,
    published_temporary, fun _ => published_elsewhere⟩

end Table

-- An incremental table whose name is taken by a view, while a table of an earlier run was left
-- beside it.
def orders : Table where
  name := ⟨"orders", by decide⟩
  target := ⟨"sales", "orders", none⟩
  dataset := .incremental
  query := "select 1 as amount"
  incrementalQuery := none
  rowFilter := none
  incrementalFilter := none
  preOps := ["begin"]
  postOps := ["commit"]
  dependencies := []
  tags := []
  disabled := false
  isProtected := true
  redshift := none
  bigquery := none
  fileName := ""

def stock : Objects := fun reference =>
  if reference = "\"sales\".\"orders\"" then some .view
  else if reference = "\"sales\".\"orders_temp\"" then some .table
  else none

example :
    (orders.steps .postgres .standard (some ⟨orders.target, .view, []⟩)).map
        Warehouse.postgres.sql =
      ["drop view if exists \"sales\".\"orders\" cascade",
        "drop table if exists \"sales\".\"orders_temp\" cascade",
        "create table \"sales\".\"orders_temp\" as select 1 as amount",
        "drop table if exists \"sales\".\"orders\" cascade",
        "alter table \"sales\".\"orders_temp\" rename to \"orders\""] := by decide

theorem orders_published :
    (some Relation.view = stock (Warehouse.postgres.reference orders.target)) ∧
      stock (Warehouse.postgres.reference orders.target.temporary) ≠ some .view ∧
      ∃ final, orders.Published .postgres .standard (some ⟨orders.target, .view, []⟩) stock
        final := by
  have truthful : some Relation.view = stock (Warehouse.postgres.reference orders.target) := by
    decide
  have spare : stock (Warehouse.postgres.reference orders.target.temporary) ≠ some .view := by
    decide
  exact ⟨truthful, spare, Table.published_of_truthful truthful spare⟩

end SqlPipeline
