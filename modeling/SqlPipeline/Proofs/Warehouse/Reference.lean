import Mathlib.Data.List.Basic
import Mathlib.Logic.Basic
import SqlPipeline.Proofs.Sql.Path
import SqlPipeline.Warehouse.Reference

/-!
References read back. Where every name is quoted on its own, a reference reads back as the names it
was written from, in the case the warehouse keeps them in. BigQuery quotes the dotted path as a
whole, so its references tell paths apart and not the targets behind them: a dot inside a name
reads like one between two names.
-/

namespace SqlPipeline

namespace Target

/-- The names of a target, from the outermost one on. -/
def names (target : Target) : List String :=
  target.database.toList ++ [target.schema, target.name]

-- A list of two names is never one of three, so whether there is a database shows.
theorem map_names_eq_iff {fold : String → String} {left right : Target} :
    left.names.map fold = right.names.map fold ↔
      left.database.map fold = right.database.map fold ∧
        fold left.schema = fold right.schema ∧ fold left.name = fold right.name := by
  obtain ⟨schema, name, database⟩ := left
  obtain ⟨schema', name', database'⟩ := right
  cases database <;> cases database' <;> simp [names]

theorem names_injective : Function.Injective names := by
  intro left right same
  obtain ⟨database, schema, name⟩ := map_names_eq_iff.mp (congrArg (List.map id) same)
  rw [Option.map_id_fun] at database
  cases left
  cases right
  cases database
  cases schema
  cases name
  rfl

theorem path_eq_intercalate (target : Target) : target.path = ".".intercalate target.names := by
  obtain ⟨schema, name, database⟩ := target
  cases database <;> rfl

end Target

namespace Warehouse

/-- The names that a reference spells out. -/
def named (warehouse : Warehouse) (target : Target) : List String :=
  match warehouse with
  | .bigquery | .duckdb | .snowflake => target.names
  | .postgres | .redshift => [target.schema, target.name]

theorem named_ne_nil (warehouse : Warehouse) (target : Target) :
    (warehouse.named target).map warehouse.folded ≠ [] := by
  cases warehouse <;> simp [named, Target.names]

theorem map_folded (warehouse : Warehouse) (kept : warehouse ≠ .snowflake)
    (identifiers : List String) : identifiers.map warehouse.folded = identifiers := by
  cases warehouse with
  | snowflake => exact absurd rfl kept
  | bigquery | duckdb | postgres | redshift => exact List.map_id _

theorem reference_eq_quotedPath {warehouse : Warehouse} (parted : warehouse ≠ .bigquery)
    (target : Target) :
    warehouse.reference target =
      Sql.quotedPath ((warehouse.named target).map warehouse.folded) := by
  obtain ⟨schema, name, database⟩ := target
  cases warehouse with
  | bigquery => exact absurd rfl parted
  | duckdb | snowflake => cases database <;> rfl
  | postgres | redshift => cases database <;> rfl

theorem readPath_reference {warehouse : Warehouse} (parted : warehouse ≠ .bigquery)
    (target : Target) :
    Sql.readPath (warehouse.reference target).toList =
      some ((warehouse.named target).map warehouse.folded, []) := by
  rw [reference_eq_quotedPath parted]
  exact Sql.readPath_whole (named_ne_nil warehouse target)

-- Nothing of a target shows in its reference but the names that are spelt out.
theorem reference_eq_iff {warehouse : Warehouse} (parted : warehouse ≠ .bigquery)
    {left right : Target} :
    warehouse.reference left = warehouse.reference right ↔
      (warehouse.named left).map warehouse.folded =
        (warehouse.named right).map warehouse.folded := by
  rw [reference_eq_quotedPath parted, reference_eq_quotedPath parted]
  exact Sql.quotedPath_inj (named_ne_nil warehouse left) (named_ne_nil warehouse right)

end Warehouse

theorem quoted_references_read_back :
    (∀ (ident : String) (rest : List Char),
      Sql.readIdent ((Sql.quoteIdent ident).toList ++ rest) = some (ident.toList, rest) ↔
        rest.head? ≠ some '"') ∧
    (∀ target : Target,
      Sql.readPath (Warehouse.duckdb.reference target).toList =
          some (target.database.toList ++ [target.schema, target.name], []) ∧
        Sql.readPath (Warehouse.postgres.reference target).toList =
          some ([target.schema, target.name], []) ∧
        Sql.readPath (Warehouse.redshift.reference target).toList =
          some ([target.schema, target.name], []) ∧
        Sql.readPath (Warehouse.snowflake.reference target).toList =
          some ((target.database.toList ++ [target.schema, target.name]).map Text.upper, [])) ∧
    ∀ left right : Target,
      (Warehouse.duckdb.reference left = Warehouse.duckdb.reference right ↔ left = right) ∧
        (Warehouse.postgres.reference left = Warehouse.postgres.reference right ↔
          left.schema = right.schema ∧ left.name = right.name) ∧
        (Warehouse.redshift.reference left = Warehouse.redshift.reference right ↔
          left.schema = right.schema ∧ left.name = right.name) ∧
        (Warehouse.snowflake.reference left = Warehouse.snowflake.reference right ↔
          left.database.map Text.upper = right.database.map Text.upper ∧
            Text.upper left.schema = Text.upper right.schema ∧
              Text.upper left.name = Text.upper right.name) := by
  have duckdb : Warehouse.duckdb ≠ .bigquery := nofun
  have postgres : Warehouse.postgres ≠ .bigquery := nofun
  have redshift : Warehouse.redshift ≠ .bigquery := nofun
  have snowflake : Warehouse.snowflake ≠ .bigquery := nofun
  refine ⟨Sql.readIdent_quoteIdent_iff, fun target => ⟨?_, ?_, ?_, ?_⟩,
    fun left right => ⟨?_, ?_, ?_, ?_⟩⟩
  · rw [Warehouse.readPath_reference duckdb, Warehouse.map_folded .duckdb nofun]
    rfl
  · rw [Warehouse.readPath_reference postgres, Warehouse.map_folded .postgres nofun]
    rfl
  · rw [Warehouse.readPath_reference redshift, Warehouse.map_folded .redshift nofun]
    rfl
  · exact Warehouse.readPath_reference snowflake target
  · rw [Warehouse.reference_eq_iff duckdb, Warehouse.map_folded .duckdb nofun,
      Warehouse.map_folded .duckdb nofun]
    exact Target.names_injective.eq_iff
  · rw [Warehouse.reference_eq_iff postgres]
    simp [Warehouse.named, Warehouse.folded]
  · rw [Warehouse.reference_eq_iff redshift]
    simp [Warehouse.named, Warehouse.folded]
  · rw [Warehouse.reference_eq_iff snowflake]
    exact Target.map_names_eq_iff

/-! ## Dotted paths in backticks -/

/-- Whether no name of a target has a dot in it. -/
def Target.Undotted (target : Target) : Prop := ∀ name ∈ target.names, '.' ∉ name.toList

instance (target : Target) : Decidable target.Undotted :=
  inferInstanceAs (Decidable (∀ name ∈ target.names, '.' ∉ name.toList))

-- Without dots of their own the names are what the path falls into at its dots.
theorem Target.Undotted.splitOn_path {target : Target} (undotted : target.Undotted) :
    target.path.toList.splitOn '.' = target.names.map String.toList := by
  have apart : ∀ part ∈ target.names.map String.toList, '.' ∉ part := by
    intro part member
    obtain ⟨name, listed, rfl⟩ := List.mem_map.mp member
    exact undotted name listed
  have some : target.names.map String.toList ≠ [] := by simp [names]
  have dotted : target.path.toList = ['.'].intercalate (target.names.map String.toList) := by
    rw [path_eq_intercalate, String.toList_intercalate]
    rfl
  rw [dotted, List.splitOn_intercalate '.' apart some]

theorem Target.Undotted.eq_of_path {left right : Target} (first : left.Undotted)
    (second : right.Undotted) (same : left.path = right.path) : left = right := by
  have parts := first.splitOn_path
  rw [same, second.splitOn_path] at parts
  have toList : Function.Injective String.toList := fun _ _ => String.toList_inj.mp
  exact names_injective (List.map_injective_iff.mpr toList parts).symm

theorem Warehouse.reference_bigquery (target : Target) :
    Warehouse.bigquery.reference target = Sql.quoteBacktick target.path := by
  obtain ⟨schema, name, database⟩ := target
  cases database <;> rfl

theorem backtick_references_read_back :
    (∀ target : Target, '\\' ∉ target.path.toList →
      Sql.readBacktick (Warehouse.bigquery.reference target).toList =
        some (target.path.toList, [])) ∧
    ∀ left right : Target,
      (Warehouse.bigquery.reference left = Warehouse.bigquery.reference right ↔
        left.path = right.path) ∧
      (left ≠ right → Warehouse.bigquery.reference left = Warehouse.bigquery.reference right →
        ¬left.Undotted ∨ ¬right.Undotted) := by
  refine ⟨fun target plain => ?_, fun left right => ?_⟩
  · have read := Sql.readBacktick_quoteBacktick plain []
    rwa [List.append_nil, ← Warehouse.reference_bigquery] at read
  · have shared : Warehouse.bigquery.reference left = Warehouse.bigquery.reference right ↔
        left.path = right.path := by
      rw [Warehouse.reference_bigquery, Warehouse.reference_bigquery]
      exact Sql.quoteBacktick_injective.eq_iff
    refine ⟨shared, fun differ same => ?_⟩
    rw [← not_and_or]
    rintro ⟨first, second⟩
    exact differ (first.eq_of_path second (shared.mp same))

-- A mark in one name and dots in another.
def lake : Target := ⟨"raw\x60s", "orders.v2", some "proj"⟩

-- The same path, with the dots between the names in other places.
def shore : Target := ⟨"proj.raw\x60s.orders", "v2", none⟩

theorem lake_read_back :
    '\\' ∉ lake.path.toList ∧
      Sql.readBacktick (Warehouse.bigquery.reference lake).toList = some (lake.path.toList, []) ∧
      lake ≠ shore ∧ Warehouse.bigquery.reference lake = Warehouse.bigquery.reference shore ∧
      (¬lake.Undotted ∨ ¬shore.Undotted) := by
  obtain ⟨read, shared⟩ := backtick_references_read_back
  have plain : '\\' ∉ lake.path.toList := by decide
  have differ : lake ≠ shore := by decide
  have same : Warehouse.bigquery.reference lake = Warehouse.bigquery.reference shore :=
    (shared lake shore).1.mpr (by decide)
  exact ⟨plain, read lake plain, differ, same, (shared lake shore).2 differ same⟩

/-- A backslash before the closing mark takes its meaning away, so the identifier never ends; and
two targets go by one reference where only the places of their dots tell them apart. -/
theorem backtick_references_unfaithful :
    (¬∀ target : Target,
      Sql.readBacktick (Warehouse.bigquery.reference target).toList =
        some (target.path.toList, [])) ∧
      ¬∀ left right : Target, left ≠ right →
        Warehouse.bigquery.reference left ≠ Warehouse.bigquery.reference right := by
  constructor
  · intro faithful
    have unread : Sql.readBacktick
        (Warehouse.bigquery.reference ⟨"weft", "orders\\", none⟩).toList = none := by decide
    rw [faithful] at unread
    cases unread
  · intro distinct
    have shared : Warehouse.bigquery.reference ⟨"raw", "orders.v2", none⟩ =
        Warehouse.bigquery.reference ⟨"orders", "v2", some "raw"⟩ := by decide
    exact distinct _ _ (by decide) shared

end SqlPipeline
