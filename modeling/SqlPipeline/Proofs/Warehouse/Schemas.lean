import Mathlib.Data.List.Permutation
import SqlPipeline.Proofs.Build
import SqlPipeline.Proofs.Text.Bytes
import SqlPipeline.Session

/-!
The schemas that are prepared. The setup of a run creates every schema that one of its nodes writes
to, each once, and no other. The reference it creates a schema under is the one that the objects in
it are written with, only without their names.
-/

namespace SqlPipeline

/-! ## The order of schemas -/

/-- Schemas in no database go first. The others go by their database, and within one, like those in
none, by their own name. -/
def PreparedBefore (left right : Option String × String) : Prop :=
  match left.1, right.1 with
  | none, none => Text.bytes left.2 < Text.bytes right.2
  | none, some _ => True
  | some _, none => False
  | some database, some other =>
      Text.bytes database < Text.bytes other ∨
        database = other ∧ Text.bytes left.2 < Text.bytes right.2

section Places
variable {place other third : Option String × String} {places : List (Option String × String)}

theorem schemaLt_iff : schemaLt place other = true ↔ PreparedBefore place other := by
  obtain ⟨database, schema⟩ := place
  obtain ⟨database', schema'⟩ := other
  unfold schemaLt PreparedBefore
  cases database with
  | none => cases database' <;> simp [Target.databaseLt, Text.bytes_lt_iff]
  | some database =>
    cases database' with
    | none => simp [Target.databaseLt]
    | some other =>
      by_cases same : database = other
      · simp [same, Text.bytes_lt_iff]
      · simp [same, Target.databaseLt, Text.bytes_lt_iff]

theorem PreparedBefore.trans (first : PreparedBefore place other)
    (second : PreparedBefore other third) : PreparedBefore place third := by
  obtain ⟨database, schema⟩ := place
  obtain ⟨database', schema'⟩ := other
  obtain ⟨database'', schema''⟩ := third
  unfold PreparedBefore at *
  simp only [Text.bytes_lt_iff] at *
  cases database <;> cases database' <;> cases database'' <;> simp only at *
  · exact first.trans second
  · rename_i left middle right
    rcases first with before | ⟨rfl, before⟩
    · rcases second with after | ⟨rfl, after⟩
      · exact Or.inl (before.trans after)
      · exact Or.inl before
    · rcases second with after | ⟨rfl, after⟩
      · exact Or.inl after
      · exact Or.inr ⟨rfl, before.trans after⟩

theorem preparedBefore_of_not (late : ¬ PreparedBefore place other) (different : other ≠ place) :
    PreparedBefore other place := by
  obtain ⟨database, schema⟩ := place
  obtain ⟨database', schema'⟩ := other
  unfold PreparedBefore at *
  simp only [Text.bytes_lt_iff] at *
  cases database with
  | none =>
    cases database' with
    | none => exact lt_of_le_of_ne (String.not_lt.mp late) fun same => different (same ▸ rfl)
    | some other => exact absurd trivial late
  | some database =>
    cases database' with
    | none => trivial
    | some other =>
      simp only [not_or, not_and] at late
      obtain ⟨notBefore, notInside⟩ := late
      by_cases same : other = database
      · subst same
        refine Or.inr ⟨rfl, lt_of_le_of_ne (String.not_lt.mp (notInside rfl)) ?_⟩
        exact fun same => different (same ▸ rfl)
      · exact Or.inl (lt_of_le_of_ne (String.not_lt.mp notBefore) same)

/-! ## Entering schemas -/

theorem mem_enterSchema_iff : other ∈ enterSchema place places ↔ other = place ∨ other ∈ places := by
  induction places with
  | nil => exact List.mem_cons
  | cons first rest ih =>
    unfold enterSchema
    split
    · exact List.mem_cons
    · split
      · rename_i same
        subst same
        simp
      · rw [List.mem_cons, ih, List.mem_cons, or_left_comm]

theorem pairwise_enterSchema (sorted : places.Pairwise PreparedBefore) :
    (enterSchema place places).Pairwise PreparedBefore := by
  induction places with
  | nil => exact List.pairwise_singleton _ place
  | cons first rest ih =>
    obtain ⟨least, sortedRest⟩ := List.pairwise_cons.mp sorted
    unfold enterSchema
    split
    · rename_i before
      have before := schemaLt_iff.mp before
      refine List.pairwise_cons.mpr ⟨?_, sorted⟩
      intro later member
      rcases List.mem_cons.mp member with rfl | member
      · exact before
      · exact before.trans (least later member)
    · rename_i late
      split
      · exact sorted
      · rename_i different
        refine List.pairwise_cons.mpr ⟨?_, ih sortedRest⟩
        intro later member
        rcases mem_enterSchema_iff.mp member with rfl | member
        · exact preparedBefore_of_not (mt schemaLt_iff.mpr late) (Ne.symm different)
        · exact least later member

end Places

theorem pairwise_foldr_enterSchema (places : List (Option String × String)) :
    (places.foldr enterSchema []).Pairwise PreparedBefore := by
  induction places with
  | nil => exact List.Pairwise.nil
  | cons first rest ih => exact pairwise_enterSchema ih

theorem mem_foldr_enterSchema_iff {place : Option String × String}
    {places : List (Option String × String)} :
    place ∈ places.foldr enterSchema [] ↔ place ∈ places := by
  induction places with
  | nil => exact Iff.rfl
  | cons first rest ih => rw [List.foldr_cons, mem_enterSchema_iff, ih, List.mem_cons]

theorem pairwise_schemasOf (nodes : List ExecutionNode) :
    (schemasOf nodes).Pairwise PreparedBefore :=
  pairwise_foldr_enterSchema _

theorem mem_schemasOf_iff {nodes : List ExecutionNode} {place : Option String × String} :
    place ∈ schemasOf nodes ↔
      ∃ node ∈ nodes, ∃ target, node.target = some target ∧
        place = (target.database, target.schema) := by
  rw [schemasOf, mem_foldr_enterSchema_iff, List.mem_map]
  simp only [List.mem_filterMap]
  constructor
  · rintro ⟨target, ⟨node, member, found⟩, rfl⟩
    exact ⟨node, member, target, found, rfl⟩
  · rintro ⟨node, member, target, found, rfl⟩
    exact ⟨target, ⟨node, member, found⟩, rfl⟩

/-! ## References -/

namespace Warehouse

-- Only where names are quoted one by one is the reference of a schema a part of that of an object.
theorem reference_eq_append {warehouse : Warehouse} (parted : warehouse ≠ .bigquery)
    (target : Target) :
    warehouse.reference target =
      warehouse.schemaReference target.schema target.database ++ "." ++
        Sql.quoteIdent (warehouse.folded target.name) := by
  obtain ⟨schema, name, database⟩ := target
  cases warehouse with
  | bigquery => exact absurd rfl parted
  | duckdb | snowflake | postgres | redshift => cases database <;> rfl

theorem exists_path_bigquery (target : Target) :
    ∃ path, Warehouse.bigquery.schemaReference target.schema target.database =
        Sql.quoteBacktick path ∧
      Warehouse.bigquery.reference target = Sql.quoteBacktick (path ++ "." ++ target.name) := by
  obtain ⟨schema, name, database⟩ := target
  cases database with
  | none => exact ⟨schema, rfl, rfl⟩
  | some project => exact ⟨project ++ "." ++ schema, rfl, rfl⟩

end Warehouse

/-! ## The setup -/

theorem setup_of_build {graph : CompiledGraph} {run : RunConfig} {lookup : Lookup} {built : Built}
    (good : build graph run lookup = .ok built) :
    built.graph.setup = setupTasks graph.config.warehouse built.graph.nodes := by
  obtain ⟨_, _, _, _, _, _, _, _, rfl⟩ := stages_of_build good
  rfl

theorem prepared_of_build {graph : CompiledGraph} {run : RunConfig} {lookup : Lookup}
    {built : Built} (good : build graph run lookup = .ok built) :
    (∃ places : List (Option String × String),
      places.Pairwise PreparedBefore ∧
      (∀ place, place ∈ places ↔ ∃ node ∈ built.graph.nodes, ∃ target,
        node.target = some target ∧ place = (target.database, target.schema)) ∧
      built.graph.setup = places.map fun place =>
        ⟨.statement, "create schema if not exists " ++
          graph.config.warehouse.schemaReference place.2 place.1⟩) ∧
    ∀ node ∈ built.graph.nodes, ∀ target, node.target = some target →
      ∃ reference,
        ⟨.statement, "create schema if not exists " ++ reference⟩ ∈ built.graph.setup ∧
        reference = graph.config.warehouse.schemaReference target.schema target.database ∧
        (graph.config.warehouse ≠ .bigquery →
          graph.config.warehouse.reference target = reference ++ "." ++
            Sql.quoteIdent (graph.config.warehouse.folded target.name)) ∧
        (graph.config.warehouse = .bigquery → ∃ path, reference = Sql.quoteBacktick path ∧
          graph.config.warehouse.reference target =
            Sql.quoteBacktick (path ++ "." ++ target.name)) := by
  have setup := setup_of_build good
  refine ⟨⟨schemasOf built.graph.nodes, pairwise_schemasOf _, fun place => mem_schemasOf_iff, setup⟩,
    fun node member target found => ⟨_, ?_, rfl, ?_, ?_⟩⟩
  · rw [setup]
    have place := mem_schemasOf_iff.mpr ⟨node, member, target, found, rfl⟩
    exact List.mem_map.mpr ⟨_, place, rfl⟩
  · exact fun parted => Warehouse.reference_eq_append parted target
  · intro whole
    rw [whole]
    exact Warehouse.exists_path_bigquery target

-- Two schemas of one name, one of them in a database, and an operation that writes nothing.
def granary : List Declaration :=
  [{ Declaration.single (.dataset .view) "rye" "select 1" with
      schema := some "south", database := some "field" },
    { Declaration.single (.dataset .view) "oats" "select 2" with schema := some "south" },
    { Declaration.single (.dataset .view) "barley" "select 3" with
      schema := some "south", database := some "field" },
    Declaration.single .operations "weigh" "run weigh"]

def granaryConfig : ProjectConfig := { ProjectConfig.standard with warehouse := .bigquery }

def granaryTable : List (String × List String) :=
  [("barley", []), ("oats", []), ("rye", []), ("weigh", [])]

theorem build_granary :
    (build (compile granaryConfig granary) .standard Catalog.empty.lookup).map
        (fun built => (built.graph.nodes.map ExecutionNode.target, built.graph.setup)) =
      .ok ([none, some ⟨"south", "rye", some "field"⟩, some ⟨"south", "oats", none⟩,
          some ⟨"south", "barley", some "field"⟩],
        [.plain "create schema if not exists \x60south\x60",
          .plain "create schema if not exists \x60field.south\x60"]) := by
  have table : (compile granaryConfig granary).dependencyTable = granaryTable := by decide
  have found : Dag.build granaryTable = .ok (Dag.ofTable granaryTable) := by cbv
  have sorted : (Dag.ofTable granaryTable).sorted = .ok ["weigh", "rye", "oats", "barley"] := by
    cbv
  rw [build_of_order (by decide) (by decide) (table ▸ found) CompiledGraph.selected_standard
    sorted]
  decide

theorem granary_prepared :
    ∃ built, build (compile granaryConfig granary) .standard Catalog.empty.lookup = .ok built ∧
      built.graph.nodes.map ExecutionNode.target =
        [none, some ⟨"south", "rye", some "field"⟩, some ⟨"south", "oats", none⟩,
          some ⟨"south", "barley", some "field"⟩] ∧
      built.graph.setup =
        [.plain "create schema if not exists \x60south\x60",
          .plain "create schema if not exists \x60field.south\x60"] ∧
      ∀ node ∈ built.graph.nodes, ∀ target, node.target = some target →
        ∃ path, Warehouse.bigquery.schemaReference target.schema target.database =
            Sql.quoteBacktick path ∧
          Warehouse.bigquery.reference target =
            Sql.quoteBacktick (path ++ "." ++ target.name) := by
  obtain ⟨built, good, same⟩ := map_eq_ok_iff.mp build_granary
  obtain ⟨targets, setup⟩ := Prod.mk.inj same
  refine ⟨built, good, targets, setup, fun node member target found => ?_⟩
  obtain ⟨_, _, rfl, _, whole⟩ := (prepared_of_build good).2 node member target found
  exact whole rfl

end SqlPipeline
