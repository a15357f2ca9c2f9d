import SqlPipeline.Proofs.Record.Fields
import SqlPipeline.Record.Action

/-!
Actions written as JSON and read again. For every record: what it writes are fields under its
names, in their order, and what is read of them is the record. The inputs of a test come back
sorted by name.
-/

namespace SqlPipeline

open Document Json

@[simp] theorem ActionName.ofDocument?_toJson (name : ActionName) :
    ofDocument? name.toJson = some name := by
  simp [ofDocument?, toJson, ofText?_text]

@[simp] theorem Dataset.ofDocument?_toJson (dataset : Dataset) :
    ofDocument? dataset.toJson = some dataset := by
  cases dataset <;> rfl

theorem Target.written (target : Target) : Written fieldNames target.toJson :=
  .record (.field (.text _) (.field (.text _) (.lastGiven .text)))

@[simp] theorem Target.ofDocument?_toJson (target : Target) :
    ofDocument? target.toJson = some target := by
  rw [ofDocument?, target.written.fields? (by decide)]
  simp [toJson, asRecord?, ofFields?, required?_eq, optional?_eq, List.lookup_cons]

@[simp] theorem Target.isNull_toJson (target : Target) : target.toJson.isNull = false := rfl

theorem RedshiftLayout.written (layout : RedshiftLayout) : Written fieldNames layout.toJson := by
  simp only [toJson, List.append_assoc]
  exact .record (.given .text (.given .text (.filled (.lastGiven .text))))

@[simp] theorem RedshiftLayout.ofDocument?_toJson (layout : RedshiftLayout) :
    ofDocument? layout.toJson = some layout := by
  rw [ofDocument?, layout.written.fields? (by decide)]
  simp [toJson, asRecord?, ofFields?, defaulted?_eq, optional?_eq, List.lookup_append]

theorem BigQueryLayout.written (layout : BigQueryLayout) : Written fieldNames layout.toJson :=
  .record (.given .text .lastFilled)

@[simp] theorem BigQueryLayout.ofDocument?_toJson (layout : BigQueryLayout) :
    ofDocument? layout.toJson = some layout := by
  rw [ofDocument?, layout.written.fields? (by decide)]
  simp [toJson, asRecord?, ofFields?, defaulted?_eq, optional?_eq, List.lookup_append]

theorem Table.written (table : Table) : Written fieldNames table.toJson := by
  simp only [toJson, List.append_assoc, List.cons_append, List.nil_append]
  apply Written.record
  apply Fields.field (.text _)
  apply Fields.field table.target.written.plain
  apply Fields.field (.text _)
  apply Fields.field (.text _)
  apply Fields.given .text
  apply Fields.given .text
  apply Fields.given .text
  apply Fields.filled
  apply Fields.filled
  apply Fields.field (.listed .text _)
  apply Fields.filled
  apply Fields.field (.bool _)
  apply Fields.field (.bool _)
  apply Fields.given fun layout => layout.written.plain
  apply Fields.given fun layout => layout.written.plain
  exact Fields.field (.text _) .nil

@[simp] theorem Table.ofDocument?_toJson (table : Table) :
    ofDocument? table.toJson = some table := by
  have redshift := readOr_given RedshiftLayout.ofDocument?_toJson (fun _ => rfl) table.redshift
  have bigquery := readOr_given BigQueryLayout.ofDocument?_toJson (fun _ => rfl) table.bigquery
  rw [ofDocument?, table.written.fields? (by decide)]
  simp [toJson, asRecord?, ofFields?, required?_eq, defaulted?_eq, optional?_eq,
    List.lookup_append, List.lookup_cons, redshift, bigquery]

theorem Operation.written (operation : Operation) : Written fieldNames operation.toJson := by
  simp only [toJson, List.append_assoc, List.cons_append, List.nil_append]
  apply Written.record
  apply Fields.field (.text _)
  apply Fields.given fun target => target.written.plain
  apply Fields.field (.bool _)
  apply Fields.field (.listed .text _)
  apply Fields.field (.listed .text _)
  apply Fields.filled
  exact Fields.field (.text _) .nil

@[simp] theorem Operation.ofDocument?_toJson (operation : Operation) :
    ofDocument? operation.toJson = some operation := by
  have target := readOr_given Target.ofDocument?_toJson (fun _ => rfl) operation.target
  rw [ofDocument?, operation.written.fields? (by decide)]
  simp [toJson, asRecord?, ofFields?, required?_eq, defaulted?_eq, optional?_eq,
    List.lookup_append, List.lookup_cons, target]

theorem Assertion.written (assertion : Assertion) : Written fieldNames assertion.toJson := by
  simp only [toJson, List.cons_append, List.nil_append]
  apply Written.record
  apply Fields.field (.text _)
  apply Fields.field assertion.target.written.plain
  apply Fields.field (.text _)
  apply Fields.field (.listed .text _)
  apply Fields.filled
  exact Fields.field (.text _) .nil

@[simp] theorem Assertion.ofDocument?_toJson (assertion : Assertion) :
    ofDocument? assertion.toJson = some assertion := by
  rw [ofDocument?, assertion.written.fields? (by decide)]
  simp [toJson, asRecord?, ofFields?, required?_eq, defaulted?_eq, List.lookup_append,
    List.lookup_cons]

theorem Test.written (test : Test) : Written fieldNames test.toJson := by
  simp only [toJson, List.cons_append, List.nil_append]
  apply Written.record
  apply Fields.field (.text _)
  apply Fields.field (.text _)
  apply Fields.field (.text _)
  split
  · exact Fields.leftOut (Fields.field (.text _) .nil)
  · exact Fields.field (.dictionary _) (Fields.field (.text _) .nil)

/-- The inputs of a test as they are kept: by name, one text under each. -/
def Test.Kept (test : Test) : Prop :=
  test.inputs.Pairwise fun earlier later => earlier.1 < later.1

/-- The test that a reader makes of one with its inputs in any order. -/
def Test.sorted (test : Test) : Test := { test with inputs := Sorted.entries test.inputs }

theorem Test.sorted_eq_self_iff (test : Test) : test.sorted = test ↔ test.Kept := by
  rw [Kept, ← Sorted.entries_eq_self_iff]
  constructor
  · exact fun same => congrArg Test.inputs same
  · exact fun same => congrArg (fun inputs => { test with inputs }) same

theorem Test.ofDocument?_toJson (test : Test) : ofDocument? test.toJson = some test.sorted := by
  rw [ofDocument?, test.written.fields? (by decide)]
  by_cases empty : test.inputs = []
  · simp [toJson, asRecord?, ofFields?, required?_eq, defaulted?_eq, List.lookup_cons, empty,
      sorted, Sorted.entries]
  · simp [toJson, asRecord?, ofFields?, required?_eq, defaulted?_eq, List.lookup_cons, empty,
      sorted]

end SqlPipeline
