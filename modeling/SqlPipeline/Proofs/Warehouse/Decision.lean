import Mathlib.Data.List.TakeWhile
import SqlPipeline.Proofs.Warehouse.Objects

/-!
What publishing decides. Rows are appended to an incremental table that exists, and everything else
is built anew, once an object of the other kind is out of the way. The decision is made without
looking at the warehouse, which only says how it is carried out: a statement that replaces the
object, or a table that is built beside it and swapped in.
-/

namespace SqlPipeline

/-- What becomes of the object of a table. -/
inductive Decision where
  /-- Rows are added to the columns that exist. -/
  | append (columns : List String)
  /-- The object is built anew, after one of another kind has been dropped. -/
  | rebuild (dropped : Option Relation)
  deriving DecidableEq

/-! ## Statements by their first words -/

namespace Sql

def firstWord (statement : String) : String :=
  String.ofList (statement.toList.takeWhile (· != ' '))

theorem firstWord_append {opening : String} (spaced : ' ' ∈ opening.toList) (rest : String) :
    firstWord (opening ++ rest) = firstWord opening := by
  have stops : (opening.toList.takeWhile (· != ' ')).length ≠ opening.toList.length := by
    intro whole
    have every := (List.takeWhile_prefix (· != ' ')).eq_of_length whole
    have other := List.mem_takeWhile_imp (every.symm ▸ spaced)
    simp at other
  rw [firstWord, String.toList_append, List.takeWhile_append, if_neg stops]
  rfl

theorem firstWord_dropIfExists (reference : String) (relation : Relation) (cascade : Bool) :
    firstWord (dropIfExists reference relation cascade) = "drop" := by
  rw [dropIfExists, String.append_assoc, String.append_assoc, String.append_assoc,
    firstWord_append (by decide)]
  decide

theorem firstWord_insertInto (reference : String) (columns : List String) (query : String) :
    firstWord (insertInto reference columns query) = "insert" := by
  obtain ⟨rows, text⟩ := Warehouse.exists_insertInto reference columns query
  rw [text, String.append_assoc, firstWord_append (by decide)]
  decide

theorem create_ne_dropIfExists {opening : String} (spaced : ' ' ∈ opening.toList)
    (word : firstWord opening = "create") (rest reference : String) (relation : Relation)
    (cascade : Bool) : opening ++ rest ≠ dropIfExists reference relation cascade := by
  intro same
  have dropping := firstWord_dropIfExists reference relation cascade
  rw [← same, firstWord_append spaced, word] at dropping
  exact absurd dropping (by decide)

/-- How a statement that drops or replaces an object of a kind begins. -/
def dropping : Relation → String
  | .table => "drop table if exists "
  | .view => "drop view if exists "

def replacing : Relation → String
  | .table => "create or replace table "
  | .view => "create or replace view "

theorem createOrReplace_eq (relation : Relation) (reference layout query : String) :
    createOrReplace relation reference layout query =
      replacing relation ++ reference ++ layout ++ " as " ++ query := by
  have opening : "create or replace " ++ relation.keyword ++ " " = replacing relation := by
    cases relation <;> decide
  exact congrArg (· ++ reference ++ layout ++ " as " ++ query) opening

theorem dropIfExists_eq (reference : String) (relation : Relation) (cascade : Bool) :
    dropIfExists reference relation cascade =
      dropping relation ++ reference ++ if cascade then " cascade" else "" := by
  have opening : "drop " ++ relation.keyword ++ " if exists " = dropping relation := by
    cases relation <;> decide
  exact congrArg (· ++ reference ++ if cascade then " cascade" else "") opening

-- The kind is spelt out before the reference, so neither can be taken for part of the other.
theorem dropIfExists_inj {left right : String} {relation other : Relation} {cascade : Bool}
    (same : dropIfExists left relation cascade = dropIfExists right other cascade) :
    relation = other ∧ left = right := by
  rw [dropIfExists_eq, dropIfExists_eq, String.append_left_inj] at same
  have long (kind : Relation) : 5 < (dropping kind).toList.length := by cases kind <;> decide
  have letters := congrArg (fun text : String => text.toList[5]?) same
  simp only [String.toList_append, List.getElem?_append_left (long _)] at letters
  have kinds : relation = other := by
    revert letters
    cases relation <;> cases other <;> decide
  subst kinds
  exact ⟨rfl, (String.append_right_inj _).mp same⟩

end Sql

namespace Table

/-- The statements that build the object of a table anew. -/
def replacement (table : Table) (warehouse : Warehouse) : List String :=
  let target := warehouse.reference table.target
  let temporary := warehouse.reference table.target.temporary
  match table.dataset.relation with
  | .view => ["create or replace view " ++ target ++ " as " ++ table.query]
  | .table =>
      if warehouse ∈ [.postgres, .redshift] then
        ["drop table if exists " ++ temporary ++ " cascade",
          "create table " ++ temporary ++ table.layout warehouse ++ " as " ++ table.query,
          "drop table if exists " ++ target ++ " cascade",
          "alter table " ++ temporary ++ " rename to " ++ Sql.quoteIdent table.target.name]
      else ["create or replace table " ++ target ++ table.layout warehouse ++ " as " ++ table.query]

theorem rebuild_sql (table : Table) (warehouse : Warehouse) :
    (table.rebuild warehouse).map warehouse.sql = table.replacement warehouse := by
  unfold rebuild replacement
  cases table.dataset.relation with
  | view =>
    have text := Sql.createOrReplace_eq .view (warehouse.reference table.target) "" table.query
    rw [String.append_empty] at text
    exact congrArg (· :: []) text
  | table =>
    cases warehouse with
    | bigquery | duckdb | snowflake => exact congrArg (· :: []) (Sql.createOrReplace_eq ..)
    | postgres | redshift =>
      refine List.cons_eq_cons.mpr ⟨Sql.dropIfExists_eq .., ?_⟩
      refine List.cons_eq_cons.mpr ⟨rfl, ?_⟩
      exact List.cons_eq_cons.mpr ⟨Sql.dropIfExists_eq .., rfl⟩

/-! ## The decision -/

/-- What is decided from the table, the run and what is known to exist. -/
def decision (table : Table) (run : RunConfig) (existing : Option Existing) : Decision :=
  match existing with
  | some object =>
      if table.appends run existing then .append object.columns
      else .rebuild (table.conflict? existing)
  | none => .rebuild none

section Decided
variable {table : Table} {run : RunConfig} {existing : Option Existing}

theorem decision_of_appends {object : Existing} (appends : table.appends run (some object) = true) :
    table.decision run (some object) = .append object.columns :=
  if_pos appends

theorem decision_of_not_appends (anew : table.appends run existing = false) :
    table.decision run existing = .rebuild (table.conflict? existing) := by
  cases existing with
  | none => rfl
  | some object => exact if_neg (Bool.eq_false_iff.mp anew)

theorem decision_eq_append_iff {columns : List String} :
    table.decision run existing = .append columns ↔
      table.dataset = .incremental ∧ (∃ target, existing = some ⟨target, .table, columns⟩) ∧
        (run.fullRefresh = false ∨ table.isProtected = true) := by
  constructor
  · intro decided
    cases appends : table.appends run existing with
    | false =>
      rw [decision_of_not_appends appends] at decided
      cases decided
    | true =>
      obtain ⟨incremental, isTable, kept⟩ := appends_iff.mp appends
      obtain ⟨⟨target, relation, listed⟩, rfl, same⟩ := Option.map_eq_some_iff.mp isTable
      rw [decision_of_appends appends] at decided
      cases decided
      cases same
      exact ⟨incremental, ⟨target, rfl⟩, kept⟩
  · rintro ⟨incremental, ⟨target, rfl⟩, kept⟩
    exact decision_of_appends (appends_iff.mpr ⟨incremental, rfl, kept⟩)

theorem dropped_of_decision {dropped : Option Relation}
    (decided : table.decision run existing = .rebuild dropped) (relation : Relation) :
    dropped = some relation ↔
      existing.map Existing.relation = some relation ∧ relation ≠ table.dataset.relation := by
  cases appends : table.appends run existing with
  | true =>
    obtain ⟨object, rfl, _⟩ := Option.map_eq_some_iff.mp (appends_iff.mp appends).2.1
    rw [decision_of_appends appends] at decided
    cases decided
  | false =>
    rw [decision_of_not_appends appends] at decided
    cases decided
    exact conflict?_eq_some_iff

end Decided

end Table

namespace Decision

/-- The statements that carry a decision out. -/
def statements (decision : Decision) (table : Table) (warehouse : Warehouse) : List String :=
  match decision with
  | .append columns =>
      [Sql.insertInto (warehouse.reference table.target) (columns.map warehouse.column)
        table.appendSource]
  | .rebuild dropped =>
      (dropped.map fun relation =>
        Sql.dropIfExists (warehouse.reference table.target) relation warehouse.cascades).toList
        ++ table.replacement warehouse

end Decision

theorem Table.steps_sql (table : Table) (warehouse : Warehouse) (run : RunConfig)
    (existing : Option Existing) :
    (table.steps warehouse run existing).map warehouse.sql =
      (table.decision run existing).statements table warehouse := by
  cases appends : table.appends run existing with
  | true =>
    obtain ⟨object, rfl, _⟩ := Option.map_eq_some_iff.mp (Table.appends_iff.mp appends).2.1
    rw [steps_of_appends_to warehouse appends, decision_of_appends appends]
    rfl
  | false =>
    rw [steps_of_not_appends appends, decision_of_not_appends appends, List.map_append,
      rebuild_sql]
    cases table.conflict? existing <;> rfl

/-! ## How it is carried out -/

namespace Decision
variable {table : Table} {warehouse : Warehouse} {statement : String}

theorem firstWord_replacement (member : statement ∈ table.replacement warehouse) :
    Sql.firstWord statement ∈ ["drop", "create", "alter"] := by
  have opens {opening : String} (spaced : ' ' ∈ opening.toList)
      (word : Sql.firstWord opening ∈ ["drop", "create", "alter"]) (rest : String) :
      Sql.firstWord (opening ++ rest) ∈ ["drop", "create", "alter"] :=
    (Sql.firstWord_append spaced rest).symm ▸ word
  unfold Table.replacement at member
  cases relation : table.dataset.relation with
  | view =>
    rw [relation, List.mem_singleton] at member
    rw [member, String.append_assoc, String.append_assoc]
    exact opens (by decide) (by decide) _
  | table =>
    rw [relation] at member
    simp only at member
    split at member
    · simp only [List.mem_cons, List.not_mem_nil, or_false] at member
      rcases member with rfl | rfl | rfl | rfl <;> simp only [String.append_assoc] <;>
        exact opens (by decide) (by decide) _
    · rw [List.mem_singleton] at member
      rw [member, String.append_assoc, String.append_assoc, String.append_assoc]
      exact opens (by decide) (by decide) _

theorem firstWord_rebuild {dropped : Option Relation}
    (member : statement ∈ (rebuild dropped).statements table warehouse) :
    Sql.firstWord statement ∈ ["drop", "create", "alter"] := by
  rcases List.mem_append.mp member with conflicting | rebuilding
  · obtain ⟨relation, _, rfl⟩ := Option.map_eq_some_iff.mp (Option.mem_toList.mp conflicting)
    rw [Sql.firstWord_dropIfExists]
    exact List.mem_cons_self
  · exact firstWord_replacement rebuilding

theorem firstWord_append {columns : List String}
    (member : statement ∈ (append columns).statements table warehouse) :
    Sql.firstWord statement = "insert" := by
  rw [List.mem_singleton.mp member]
  exact Sql.firstWord_insertInto ..

theorem replacement_of_swaps (swaps : warehouse.swaps = true)
    (isTable : table.dataset.relation = .table) :
    table.replacement warehouse =
      Sql.swap (warehouse.reference table.target.temporary) (warehouse.reference table.target)
        (warehouse.part table.target.name)
        ("create table " ++ warehouse.reference table.target.temporary ++ table.layout warehouse
          ++ " as " ++ table.query) := by
  rw [← Table.rebuild_sql, Table.rebuild_sql_of_swaps table warehouse swaps isTable]
  rfl

-- The first drop is that of the temporary table, and the one of the target comes after the new
-- table has been built.
theorem created_before_drop (swaps : warehouse.swaps = true) {relation : Relation}
    {before after : List String}
    (split : table.replacement warehouse =
      before ++ Sql.dropIfExists (warehouse.reference table.target) relation warehouse.cascades
        :: after) :
    "create table " ++ warehouse.reference table.target.temporary ++ table.layout warehouse
      ++ " as " ++ table.query ∈ before := by
  cases kind : table.dataset.relation with
  | view =>
    have listed : Sql.dropIfExists (warehouse.reference table.target) relation warehouse.cascades ∈
        table.replacement warehouse := split ▸ List.mem_append_right before List.mem_cons_self
    rw [Table.replacement, kind] at listed
    have same := List.mem_singleton.mp listed
    rw [String.append_assoc, String.append_assoc] at same
    exact absurd same.symm (Sql.create_ne_dropIfExists (by decide) (by decide) _ _ _ _)
  | table =>
    rw [replacement_of_swaps swaps kind, Warehouse.cascades_of_swaps swaps] at split
    match before, split with
    | [], split =>
      have apart := Warehouse.reference_temporary_ne swaps table.target
      exact absurd (Sql.dropIfExists_inj (List.cons.inj split).1).2 apart
    | [_], split =>
      have same := (List.cons.inj (List.cons.inj split).2).1
      rw [String.append_assoc, String.append_assoc, String.append_assoc] at same
      exact absurd same (Sql.create_ne_dropIfExists (by decide) (by decide) _ _ _ _)
    | _ :: _ :: _, split =>
      rw [(List.cons.inj (List.cons.inj split).2).1]
      exact List.mem_cons_of_mem _ List.mem_cons_self

end Decision

namespace Table

/-- What is decided for a table, whatever the warehouse. -/
structure Decides (table : Table) (run : RunConfig) (existing : Option Existing)
    (decision : Decision) : Prop where
  appended : ∀ columns, decision = .append columns ↔
    table.dataset = .incremental ∧ (∃ target, existing = some ⟨target, .table, columns⟩) ∧
      (run.fullRefresh = false ∨ table.isProtected = true)
  dropped : ∀ dropped, decision = .rebuild dropped → ∀ relation, dropped = some relation ↔
    existing.map Existing.relation = some relation ∧ relation ≠ table.dataset.relation
  guarded : table.isProtected = true → table.dataset = .incremental →
    existing.map Existing.relation = some .table → ∃ columns, decision = .append columns

/-- How a warehouse carries a decision out. -/
structure CarriesOut (table : Table) (run : RunConfig) (existing : Option Existing)
    (decision : Decision) (warehouse : Warehouse) : Prop where
  tasks : warehouse.publish table run existing =
    (table.preOps ++ decision.statements table warehouse ++ table.postOps).map Task.plain
  appends : ∀ columns, decision = .append columns →
    ∀ statement ∈ decision.statements table warehouse, Sql.firstWord statement = "insert"
  rebuilds : ∀ dropped, decision = .rebuild dropped →
    ∀ statement ∈ decision.statements table warehouse,
      Sql.firstWord statement ∈ ["drop", "create", "alter"]
  ordered : warehouse ∈ [.postgres, .redshift] →
    existing.map Existing.relation = some table.dataset.relation →
    ∀ before relation after, decision.statements table warehouse =
        before ++ Sql.dropIfExists (warehouse.reference table.target) relation warehouse.cascades
          :: after →
      "create table " ++ warehouse.reference table.target.temporary ++ table.layout warehouse
        ++ " as " ++ table.query ∈ before

theorem decides_decision (table : Table) (run : RunConfig) (existing : Option Existing) :
    table.Decides run existing (table.decision run existing) := by
  refine ⟨fun columns => decision_eq_append_iff, fun dropped => dropped_of_decision, ?_⟩
  intro kept incremental isTable
  obtain ⟨⟨target, relation, columns⟩, rfl, same⟩ := Option.map_eq_some_iff.mp isTable
  cases same
  exact ⟨columns, decision_eq_append_iff.mpr ⟨incremental, ⟨target, rfl⟩, .inr kept⟩⟩

theorem carriesOut_decision (table : Table) (run : RunConfig) (existing : Option Existing)
    (warehouse : Warehouse) :
    table.CarriesOut run existing (table.decision run existing) warehouse := by
  refine ⟨?_, ?_, ?_, ?_⟩
  · rw [← steps_sql]
    rfl
  · intro columns decided statement member
    rw [decided] at member
    exact Decision.firstWord_append member
  · intro dropped decided statement member
    rw [decided] at member
    exact Decision.firstWord_rebuild member
  · intro swaps agrees before relation after split
    have swaps : warehouse.swaps = true := by
      rcases List.mem_cons.mp swaps with rfl | listed
      · rfl
      · rw [List.mem_singleton.mp listed]
        rfl
    cases decided : table.decision run existing with
    | append columns =>
      have listed : Sql.dropIfExists (warehouse.reference table.target) relation
          warehouse.cascades ∈ (Decision.append columns).statements table warehouse :=
        decided ▸ split ▸ List.mem_append_right before List.mem_cons_self
      have word := Decision.firstWord_append listed
      rw [Sql.firstWord_dropIfExists] at word
      exact absurd word (by decide)
    | rebuild dropped =>
      have free : dropped = none := by
        refine Option.eq_none_iff_forall_ne_some.mpr fun kind found => ?_
        obtain ⟨stands, other⟩ := (dropped_of_decision decided kind).mp found
        exact other (Option.some.inj (stands.symm.trans agrees))
      subst free
      rw [decided] at split
      exact Decision.created_before_drop swaps split

end Table

theorem published_as_decided (table : Table) (run : RunConfig) (existing : Option Existing) :
    ∃ decision, table.Decides run existing decision ∧
      ∀ warehouse, table.CarriesOut run existing decision warehouse :=
  ⟨table.decision run existing, table.decides_decision run existing,
    table.carriesOut_decision run existing⟩

/-- A run that rebuilds every incremental table it may rebuild. -/
def refresh : RunConfig := { RunConfig.standard with fullRefresh := true }

-- A protected table keeps its rows under a full refresh; a plain one is swapped, and the old table
-- goes once the new one is there.
theorem orders_as_decided :
    Warehouse.redshift.publish orders refresh (some ⟨orders.target, .table, ["amount"]⟩) =
      ["begin", "insert into \"sales\".\"orders\" (\"amount\") select \"amount\" from " ++
        "(select 1 as amount) as insertions", "commit"].map Task.plain ∧
    "create table \"sales\".\"orders_temp\" as select 1 as amount" ∈
      ["drop table if exists \"sales\".\"orders_temp\" cascade",
        "create table \"sales\".\"orders_temp\" as select 1 as amount"] := by
  constructor
  · obtain ⟨decision, decides, carried⟩ :=
      published_as_decided orders refresh (some ⟨orders.target, .table, ["amount"]⟩)
    have decided : decision = .append ["amount"] :=
      (decides.appended ["amount"]).mpr ⟨rfl, ⟨orders.target, rfl⟩, .inr rfl⟩
    rw [(carried .redshift).tasks, decided]
    decide
  · obtain ⟨decision, decides, carried⟩ := published_as_decided
      { orders with dataset := .table } .standard (some ⟨orders.target, .table, ["amount"]⟩)
    have decided : decision = .rebuild none := by
      cases decision with
      | append columns => exact absurd ((decides.appended columns).mp rfl).1 (by decide)
      | rebuild dropped =>
        cases dropped with
        | none => rfl
        | some relation =>
          obtain ⟨stands, other⟩ := (decides.dropped _ rfl relation).mp rfl
          exact absurd (Option.some.inj stands).symm other
    exact (carried .postgres).ordered (by decide) rfl _ .table
      ["alter table \"sales\".\"orders_temp\" rename to \"orders\""] (by rw [decided]; decide)

end SqlPipeline
