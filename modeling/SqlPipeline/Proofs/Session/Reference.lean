import SqlPipeline.Proofs.Session.Agreement

/-!
Referring to a dataset before and after it is declared. Once declared, a dataset is referred to by
the target that is recorded for it, and that never changes again. Before, its target is made up from
the name alone, and the default database of the project is left out. So the two references are the
same where the project has no default database, or the warehouse writes none, and only there.
-/

namespace SqlPipeline

/-- A dataset that is kept as an object of its own, and leaves it to the project where. -/
structure Declaration.Unplaced (declaration : Declaration) : Prop where
  dataset : ∃ flavour, declaration.kind = .dataset flavour ∧ flavour ≠ .inline
  schema : declaration.schema = none
  database : declaration.database = none

/-! ## References with and without a database -/

namespace Warehouse

theorem length_quoteBacktick_append (left right : String) :
    (Sql.quoteBacktick (left ++ right)).length =
      (Sql.escapeBackticks left.toList).length + (Sql.quoteBacktick right).length := by
  simp only [Sql.quoteBacktick, Sql.escapeBackticks, String.toList_append, List.flatMap_append,
    String.length_ofList, List.length_append, List.length_cons, List.length_nil]
  omega

-- A reference with a database is longer by the database and a dot.
theorem reference_eq_withDatabase_iff (warehouse : Warehouse) {target : Target}
    (plain : target.database = none) (database : Option String) :
    warehouse.reference (target.withDatabase database) = warehouse.reference target ↔
      database = none ∨ warehouse = .postgres ∨ warehouse = .redshift := by
  obtain ⟨schema, name, _⟩ := target
  subst plain
  cases database with
  | none => exact iff_of_true rfl (Or.inl rfl)
  | some database =>
    have mark : ".".length = 1 := rfl
    cases warehouse with
    | postgres => exact iff_of_true rfl (Or.inr (Or.inl rfl))
    | redshift => exact iff_of_true rfl (Or.inr (Or.inr rfl))
    | bigquery =>
      refine iff_of_false (fun same => ?_) (by simp)
      have lengths := congrArg String.length same
      simp only [reference, Target.withDatabase, Target.path, String.append_assoc,
        length_quoteBacktick_append] at lengths
      have dot : (Sql.escapeBackticks ".".toList).length = 1 := by decide
      omega
    | duckdb | snowflake =>
      refine iff_of_false (fun same => ?_) (by simp)
      have lengths := congrArg String.length same
      simp only [reference, Target.withDatabase, String.length_append] at lengths
      omega

end Warehouse

theorem ProjectConfig.database_target (config : ProjectConfig) (name : String)
    (schema : Option String) : (config.target name schema).database = none := by
  unfold target
  split <;> rfl

/-! ## Sessions -/

namespace Session

/-- The session that has taken in some declarations. -/
def after (config : ProjectConfig) (declarations : List Declaration) : Session :=
  declarations.foldl (fun session declaration => (session.declare declaration).1) (start config)

theorem keeps_after (config : ProjectConfig) (declarations : List Declaration) :
    (after config declarations).Keeps config declarations :=
  (keeps_start config).declareAll declarations

section Resolve
variable {session : Session}

theorem resolve_of_free {name : String} (free : name ∉ session.names) :
    session.resolve name =
      session.config.warehouse.reference (session.config.target name none) := by
  rw [names_eq] at free
  simp only [List.mem_append, List.mem_map, not_or, not_exists, not_and] at free
  obtain ⟨⟨⟨tables, operations⟩, assertions⟩, -⟩ := free
  have noTable : (session.tables.find? fun record => record.name.text == name) = none := by
    simpa using tables
  have noOperation : (session.operations.find? fun record => record.name.text == name) = none := by
    simpa using operations
  have noAssertion : (session.assertions.find? fun record => record.name.text == name) = none := by
    simpa using assertions
  simp only [resolve, knownTarget?, noTable, noOperation, noAssertion]
  rfl

theorem Keeps.find?_tables {config : ProjectConfig} {declared : List Declaration}
    (keeps : Keeps session config declared) {table : Table} (member : table ∈ session.tables) :
    (session.tables.find? fun record => record.name.text == table.name.text) = some table := by
  have registered : ∀ record ∈ session.tables,
      Action.table record ∈ session.graph.registry .table :=
    fun record known => List.mem_map_of_mem known
  cases found : session.tables.find? fun record => record.name.text == table.name.text with
  | none =>
    have absent := List.find?_eq_none.mp found table member
    simp at absent
  | some record =>
    have known := List.mem_of_find?_eq_some found
    have named : record.name.text = table.name.text := by simpa using List.find?_some found
    have same := CompiledGraph.InOrder.eq_of_name (keeps.sorted .table) (registered record known)
      (registered table member) named
    rw [Action.table.inj same]

theorem Keeps.resolve_of_table {config : ProjectConfig} {declared : List Declaration}
    (keeps : Keeps session config declared) {table : Table} (member : table ∈ session.tables)
    (kept : table.dataset ≠ .inline) :
    session.resolve table.name.text = config.warehouse.reference table.target := by
  unfold resolve
  rw [keeps.find?_tables member, keeps.config]
  exact if_neg kept

end Resolve

-- What a dataset that sets no place of its own is registered with.
theorem Keeps.exists_table {session : Session} {config : ProjectConfig}
    {declared : List Declaration} (keeps : Keeps session config declared)
    (distinct : (declared.map Declaration.name).Nodup) {declaration : Declaration}
    (listed : declaration ∈ declared) (unplaced : declaration.Unplaced)
    (named : declaration.name ≠ "") :
    ∃ table ∈ session.tables, table.name.text = declaration.name ∧ table.dataset ≠ .inline ∧
      table.target =
        (config.target declaration.name none).withDatabase config.defaultDatabase := by
  obtain ⟨⟨flavour, kind, kept⟩, schema, database⟩ := unplaced
  let name : ActionName := ⟨declaration.name, named⟩
  have record : (declaration.action config name).name = name := action_name ..
  have found := first?_of_mem distinct listed
  rw [kind] at found
  have member : declaration.action config name ∈ session.graph.registry .table := by
    rw [keeps.mem_iff, record]
    exact ⟨declaration, found, rfl⟩
  obtain ⟨table, known, same⟩ := List.mem_map.mp member
  unfold Declaration.action at same
  rw [kind] at same
  obtain rfl := Action.table.inj same
  refine ⟨_, known, rfl, kept, ?_⟩
  simp only [Declaration.targetIn, Declaration.databaseIn, schema, database]
  rfl

end Session

/-! ## Before and after -/

section Unplaced
variable {config : ProjectConfig} {declarations earlier later : List Declaration}
  {declaration : Declaration}

theorem resolve_before (distinct : (declarations.map Declaration.name).Nodup)
    (listed : declaration ∈ declarations) (split : declarations = earlier ++ later)
    (waits : declaration ∈ earlier → declaration.name = "") :
    (Session.after config earlier).resolve declaration.name =
      config.warehouse.reference (config.target declaration.name none) := by
  have keeps := Session.keeps_after config earlier
  have free : declaration.name ∉ (Session.after config earlier).names := by
    rw [keeps.mem_names_iff]
    rintro ⟨named, taken⟩
    obtain ⟨other, member, same⟩ := List.mem_map.mp taken
    have known : other ∈ declarations := split ▸ List.mem_append_left later member
    have only : other = declaration := List.inj_on_of_nodup_map distinct known listed same
    exact named (waits (only ▸ member))
  rw [Session.resolve_of_free free, keeps.config]

theorem resolve_after (distinct : (declarations.map Declaration.name).Nodup)
    (unplaced : declaration.Unplaced) (named : declaration.name ≠ "")
    (split : declarations = earlier ++ later) (taken : declaration ∈ earlier) :
    (Session.after config earlier).resolve declaration.name =
      config.warehouse.reference
        ((config.target declaration.name none).withDatabase config.defaultDatabase) := by
  have keeps := Session.keeps_after config earlier
  rw [split, List.map_append] at distinct
  obtain ⟨table, member, same, kept, target⟩ :=
    keeps.exists_table distinct.of_append_left taken unplaced named
  rw [← same, keeps.resolve_of_table member kept, target, same]

theorem exists_compiled_table (distinct : (declarations.map Declaration.name).Nodup)
    (listed : declaration ∈ declarations) (unplaced : declaration.Unplaced)
    (named : declaration.name ≠ "") :
    ∃ table ∈ (compile config declarations).tables, table.name.text = declaration.name ∧
      table.target =
        (config.target declaration.name none).withDatabase config.defaultDatabase := by
  obtain ⟨table, member, same, -, target⟩ :=
    (Session.keeps_after config declarations).exists_table distinct listed unplaced named
  exact ⟨_, List.mem_map_of_mem member, same, target⟩

end Unplaced

theorem resolve_of_unplaced (config : ProjectConfig) {declarations : List Declaration}
    (distinct : (declarations.map Declaration.name).Nodup) {declaration : Declaration}
    (listed : declaration ∈ declarations) (unplaced : declaration.Unplaced) :
    (∀ earlier later, declarations = earlier ++ later →
      (declaration ∈ earlier → declaration.name = "") →
      (Session.after config earlier).resolve declaration.name =
        config.warehouse.reference (config.target declaration.name none)) ∧
    (declaration.name ≠ "" →
      ∃ table ∈ (compile config declarations).tables, table.name.text = declaration.name ∧
        (∀ earlier later, declarations = earlier ++ later → declaration ∈ earlier →
          (Session.after config earlier).resolve declaration.name =
            config.warehouse.reference table.target) ∧
        (config.warehouse.reference table.target =
            config.warehouse.reference (config.target declaration.name none) ↔
          config.defaultDatabase = none ∨
            config.warehouse = .postgres ∨ config.warehouse = .redshift)) := by
  refine ⟨fun earlier later split waits => resolve_before distinct listed split waits, ?_⟩
  intro named
  obtain ⟨table, member, same, target⟩ := exists_compiled_table distinct listed unplaced named
  refine ⟨table, member, same, fun earlier later split taken => ?_, ?_⟩
  · rw [target]
    exact resolve_after distinct unplaced named split taken
  · rw [target]
    exact Warehouse.reference_eq_withDatabase_iff config.warehouse
      (config.database_target declaration.name none) config.defaultDatabase

/-- A project whose tables stand in a database unless they say otherwise. -/
def booksConfig : ProjectConfig := { ProjectConfig.standard with defaultDatabase := some "live" }

def ledger : Declaration := .single (.dataset .table) "ledger" "select 1 as amount"

-- A view over a table that is declared after it.
def books : List Declaration :=
  [.single (.dataset .view) "totals" "select sum(amount) from ledger", ledger]

theorem unplaced_ledger : ledger.Unplaced := ⟨⟨.table, rfl, nofun⟩, rfl, rfl⟩

/-- What the view puts in for the table names no database, and the table is built in one. -/
theorem resolve_changes_with_declaration :
    (books.map Declaration.name).Nodup ∧ ledger ∈ books ∧ ledger.Unplaced ∧
      (Session.after booksConfig (books.take 1)).resolve "ledger" = "\"weft\".\"ledger\"" ∧
      (Session.after booksConfig books).resolve "ledger" = "\"live\".\"weft\".\"ledger\"" ∧
      (Session.after booksConfig (books.take 1)).resolve "ledger" ≠
        (Session.after booksConfig books).resolve "ledger" :=
  ⟨by decide, by decide, unplaced_ledger, by decide, by decide, by decide⟩

-- Postgres writes no database, so the same project is referred to in one way only.
theorem books_resolve :
    (books.map Declaration.name).Nodup ∧ ledger ∈ books ∧ ledger.Unplaced ∧
      ∃ table ∈ (compile { booksConfig with warehouse := .postgres } books).tables,
        table.name.text = "ledger" ∧
          (Session.after { booksConfig with warehouse := .postgres } (books.take 1)).resolve
              "ledger" = Warehouse.postgres.reference table.target ∧
          (Session.after { booksConfig with warehouse := .postgres } books).resolve "ledger" =
            Warehouse.postgres.reference table.target := by
  have distinct : (books.map Declaration.name).Nodup := by decide
  have listed : ledger ∈ books := List.mem_cons_of_mem _ List.mem_cons_self
  obtain ⟨before, declared⟩ := resolve_of_unplaced { booksConfig with warehouse := .postgres }
    distinct listed unplaced_ledger
  obtain ⟨table, member, named, after, agree⟩ := declared (by decide)
  refine ⟨distinct, listed, unplaced_ledger, table, member, named, ?_, ?_⟩
  · rw [agree.mpr (Or.inr (Or.inl rfl))]
    exact before (books.take 1) (books.drop 1) rfl (by decide)
  · exact after books [] rfl (by decide)

end SqlPipeline
