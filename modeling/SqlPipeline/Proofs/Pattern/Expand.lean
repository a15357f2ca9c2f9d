import SqlPipeline.Proofs.Pattern.Match
import SqlPipeline.Proofs.Sorted
import SqlPipeline.Session

/-!
Expanding twice. An expanded list can hold names with stars in them, and a second expansion reads
them as patterns again. Each of them matches itself, so it stays, and whatever else it matches was
matched by the pattern that brought it in.
-/

namespace SqlPipeline

namespace Pattern

theorem mem_expand {name : String} {listed known : List String} :
    name ∈ expand listed known ↔
      name ∈ listed ∧ isWildcard name = false ∨
        name ∈ known ∧ ∃ pattern ∈ listed, isWildcard pattern = true ∧
          covers pattern name = true := by
  simp only [expand, Sorted.mem_names, List.mem_append, List.mem_filter, mem_union,
    Bool.not_eq_true', and_assoc]

theorem pairwise_expand (listed known : List String) : (expand listed known).Pairwise (· < ·) :=
  Sorted.pairwise_names _

theorem expand_expand (listed known : List String) :
    expand (expand listed known) known = expand listed known := by
  apply (pairwise_expand _ known).eq_of_mem_iff (pairwise_expand listed known)
  intro name
  rw [mem_expand]
  constructor
  · rintro (⟨member, _⟩ | ⟨inside, pattern, member, wild, covered⟩)
    · exact member
    · rcases mem_expand.mp member with ⟨_, plain⟩ | ⟨_, outer, first, star, brought⟩
      · rw [wild] at plain
        cases plain
      · exact mem_expand.mpr (Or.inr ⟨inside, outer, first, star, covers_trans brought covered⟩)
  · intro member
    cases wild : isWildcard name with
    | false => exact Or.inl ⟨member, rfl⟩
    | true =>
      rcases mem_expand.mp member with ⟨_, plain⟩ | ⟨inside, _⟩
      · rw [wild] at plain
        cases plain
      · exact Or.inr ⟨inside, name, member, wild, covers_refl name⟩

end Pattern

namespace CompiledGraph

theorem expanded_expanded (graph : CompiledGraph) : graph.expanded.expanded = graph.expanded := by
  have names := graph.names_expanded
  conv_lhs => rw [expanded]
  simp only [names]
  simp [expanded, Function.comp_def, Pattern.expand_expand]

/-- The graph with every list of dependencies emptied. -/
def withoutDependencies (graph : CompiledGraph) : CompiledGraph :=
  { graph with
    tables := graph.tables.map fun record => { record with dependencies := [] }
    operations := graph.operations.map fun record => { record with dependencies := [] }
    assertions := graph.assertions.map fun record => { record with dependencies := [] } }

theorem withoutDependencies_expanded (graph : CompiledGraph) :
    graph.expanded.withoutDependencies = graph.withoutDependencies := by
  simp [withoutDependencies, expanded, Function.comp_def]

end CompiledGraph

theorem expansion_idempotent :
    (∀ listed known,
      Pattern.expand (Pattern.expand listed known) known = Pattern.expand listed known) ∧
    (∀ graph : CompiledGraph, graph.expanded.expanded = graph.expanded ∧
      graph.expanded.withoutDependencies = graph.withoutDependencies) ∧
    (∀ session : Session, session.compile.expanded = session.compile) ∧
    ∀ config declarations,
      (compile config declarations).expanded = compile config declarations := by
  refine ⟨Pattern.expand_expand, ?_, ?_, ?_⟩
  · intro graph
    exact ⟨graph.expanded_expanded, graph.withoutDependencies_expanded⟩
  · intro session
    exact session.graph.expanded_expanded
  · intro config declarations
    exact CompiledGraph.expanded_expanded _

end SqlPipeline
