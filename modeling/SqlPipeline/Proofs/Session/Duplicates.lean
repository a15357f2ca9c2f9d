import SqlPipeline.Proofs.Build
import SqlPipeline.Proofs.Session.Registry

/-!
Names that are taken. A declaration is told that its name is taken exactly where an earlier one has
it, in whichever registry that one stands. So in a graph without errors a name means one action:
neither the table of dependencies nor a look-up by name can confuse two.
-/

namespace SqlPipeline

/-- Whether an error says that a name is taken. -/
def CompileError.tellsTaken (error : CompileError) : Bool :=
  "Duplicate action name detected".toList.isPrefixOf error.message.toList

namespace Declaration

/-! ## The wording -/

-- Bytes are cheap to compare where the texts are given, characters are not.
theorem firstByte_of_begins {opening text : String} (begins : opening.toList <+: text.toList)
    (nonempty : opening.toByteArray.data.toList ≠ []) :
    text.toByteArray.data.toList.head? = opening.toByteArray.data.toList.head? := by
  obtain ⟨rest, whole⟩ := begins
  have split : text = opening ++ String.ofList rest := by
    rw [← String.toList_inj, String.toList_append, String.toList_ofList, whole]
  rw [split, String.toByteArray_append, ByteArray.data_append, Array.toList_append]
  exact List.head?_append_of_ne_nil _ nonempty

theorem tellsTaken_complaint (declaration : Declaration) (name : String) :
    (declaration.complaint (.duplicateName name)).tellsTaken = true := by
  have split : (Violation.duplicateName name).message = "Duplicate action name detected" ++
      (", names must be unique across tables, operations, assertions and tests: \"" ++ name
        ++ "\"") := by
    rw [← String.append_assoc, ← String.append_assoc]
    change _ ++ _ ++ _ = _
    congr 2
  rw [CompileError.tellsTaken, List.isPrefixOf_iff_prefix, complaint, split, String.toList_append]
  exact List.prefix_append _ _

theorem not_tellsTaken_complaint (declaration : Declaration) {violation : Violation}
    (other : ∀ name, violation ≠ .duplicateName name) :
    (declaration.complaint violation).tellsTaken = false := by
  have apart : violation.message.toByteArray.data.toList.head? ≠ some 68 := by
    cases violation with
    | duplicateName name => exact absurd rfl (other name)
    | noStatement kind =>
      cases kind with
      | dataset flavour => cases flavour <;> decide
      | assertion | operations | test => decide
    | _ => decide
  rw [CompileError.tellsTaken, Bool.eq_false_iff, Ne, List.isPrefixOf_iff_prefix]
  exact fun begins => apart (firstByte_of_begins begins (by decide))

theorem not_duplicateName_of_mem {declaration : Declaration} {violation : Violation}
    (breaks : violation ∈ declaration.violations) (name : String) :
    violation ≠ .duplicateName name := by
  rintro rfl
  unfold violations at breaks
  simp only [List.mem_append, List.mem_ite_nil_right, List.mem_singleton, reduceCtorEq, and_false,
    or_self] at breaks

/-! ## What is noted of a taken name -/

theorem tellsTaken_complaints (declaration : Declaration) (earlier : List String) :
    (declaration.complaints earlier).filter CompileError.tellsTaken =
      if declaration.name ≠ "" ∧ declaration.name ∈ earlier then
        [declaration.complaint (.duplicateName declaration.name)]
      else [] := by
  by_cases unnamed : declaration.name = ""
  · rw [complaints_of_unnamed unnamed, if_neg fun taken => taken.1 unnamed]
    have other : (declaration.complaint .emptyName).tellsTaken = false :=
      not_tellsTaken_complaint declaration fun name => nofun
    exact List.filter_cons_of_neg (Bool.eq_false_iff.mp other)
  · have rules : (declaration.violations.map declaration.complaint).filter
        CompileError.tellsTaken = [] := by
      rw [List.filter_eq_nil_iff]
      intro error noted
      obtain ⟨violation, breaks, rfl⟩ := List.mem_map.mp noted
      rw [not_tellsTaken_complaint declaration (not_duplicateName_of_mem breaks)]
      exact Bool.false_ne_true
    rw [complaints_of_named unnamed, broken, List.map_append, List.filter_append, rules,
      List.nil_append]
    by_cases taken : declaration.name ∈ earlier <;>
      simp [taken, unnamed, tellsTaken_complaint]

end Declaration

/-- A name means one action, wherever the names of a graph are used. -/
structure CompiledGraph.Unambiguous (graph : CompiledGraph) : Prop where
  named : ∀ action ∈ graph.actions, action.name.text ≠ ""
  distinct : (graph.actions.map fun action => action.name.text).Nodup
  found : ∀ action ∈ graph.executable, graph.find? action.name.text = some action
  keyed : graph.dependencyTable.Perm
    (graph.executable.map fun action => (action.name.text, action.dependencies))

theorem unambiguous_of_sound {config : ProjectConfig} {declarations : List Declaration}
    (sound : (compile config declarations).errors = []) :
    (compile config declarations).Unambiguous := by
  obtain ⟨declared, distinct⟩ := names_of_compile sound
  refine ⟨fun action _ => action.name.nonempty, ?_, ?_, CompiledGraph.perm_dependencyTable distinct⟩
  · exact declared.nodup_iff.mpr (errors_eq_nil_iff.mp sound).1
  · exact fun action member => CompiledGraph.find?_of_mem distinct member

theorem taken_names_of_compile (config : ProjectConfig) (declarations : List Declaration) :
    (compile config declarations).errors.filter CompileError.tellsTaken =
      ((Declaration.withEarlier declarations).filter fun entry =>
          entry.1.name ≠ "" ∧ entry.1.name ∈ entry.2).map (fun entry =>
        ⟨entry.1.fileName, some entry.1.name, (Violation.duplicateName entry.1.name).message⟩) ∧
    ((compile config declarations).errors = [] →
      (∀ declaration ∈ declarations, declaration.name ≠ "") ∧
      (declarations.map Declaration.name).Nodup ∧ (compile config declarations).Unambiguous) := by
  constructor
  · rw [errors_of_compile]
    exact Declaration.filter_complaints
      (fun entry => Declaration.tellsTaken_complaints entry.1 entry.2)
      (Declaration.withEarlier declarations)
  · intro sound
    obtain ⟨distinct, proper⟩ := errors_eq_nil_iff.mp sound
    exact ⟨fun declaration listed => (proper declaration listed).1, distinct,
      unambiguous_of_sound sound⟩

-- A table, an assertion about it and a test of it, each under a name of its own.
def shop : List Declaration :=
  [.single (.dataset .table) "orders" "select 1 as amount",
    .single .assertion "orders.positive" "select * from orders where amount < 0",
    { Declaration.single .test "orders_test" "select 1" with dataset := some "orders" }]

-- A second file takes the name of the table for an operation, and that of the test for a view.
example :
    (compile .standard (shop ++ [.single .operations "orders" "analyze",
        .single (.dataset .view) "orders_test" "select 2"])).errors.map
      (fun error => (error.fileName, error.actionName)) =
      [("orders.sql", some "orders"), ("orders_test.sql", some "orders_test")] := by decide

theorem shop_unambiguous :
    (compile .standard shop).errors = [] ∧ (compile .standard shop).Unambiguous := by
  have sound : (compile .standard shop).errors = [] := by decide
  exact ⟨sound, ((taken_names_of_compile .standard shop).2 sound).2.2⟩

end SqlPipeline
