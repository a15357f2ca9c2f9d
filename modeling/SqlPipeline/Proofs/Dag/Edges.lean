import Mathlib.Logic.Relation
import SqlPipeline.Dag

/-!
The edges of a dependency graph. They lead from dependencies to dependents, between names of the
table alone, and an entry that is listed twice makes no second edge.
-/

namespace SqlPipeline.Dag

def Leads (dag : Dag) (node next : String) : Prop := (node, next) ∈ dag.edges

def Acyclic (dag : Dag) : Prop := ∀ node, ¬ Relation.TransGen dag.Leads node node

-- Both ends of an edge are nodes; the searches rely on it for whatever they come upon.
def Closed (dag : Dag) : Prop :=
  ∀ node next, dag.Leads node next → node ∈ dag.nodes ∧ next ∈ dag.nodes

theorem mem_successors {dag : Dag} {node next : String} :
    next ∈ dag.successors node ↔ dag.Leads node next := by
  simp only [successors, Leads, List.mem_map, List.mem_filter, beq_iff_eq, Prod.exists]
  constructor
  · rintro ⟨_, _, ⟨member, rfl⟩, rfl⟩
    exact member
  · intro member
    exact ⟨node, next, ⟨member, rfl⟩, rfl⟩

theorem mem_predecessors {dag : Dag} {node other : String} :
    other ∈ dag.predecessors node ↔ dag.Leads other node := by
  simp only [predecessors, Leads, List.mem_map, List.mem_filter, beq_iff_eq, Prod.exists]
  constructor
  · rintro ⟨_, _, ⟨member, rfl⟩, rfl⟩
    exact member
  · intro member
    exact ⟨other, node, ⟨member, rfl⟩, rfl⟩

/-! ## Tables -/

/-- An action of the table lists a name which is one of the table as well. -/
def Depends (table : List (String × List String)) (dependent dependency : String) : Prop :=
  dependency ∈ table.map Prod.fst ∧ ∃ listed, (dependent, listed) ∈ table ∧ dependency ∈ listed

theorem mem_addEdge {edges : List (String × String)} {edge other : String × String} :
    other ∈ addEdge edges edge ↔ other = edge ∨ other ∈ edges := by
  unfold addEdge
  split
  · rename_i known
    constructor
    · exact Or.inr
    · rintro (rfl | member)
      · exact known
      · exact member
  · exact List.mem_cons

theorem mem_foldl_addEdge (declared edges : List (String × String)) (edge : String × String) :
    edge ∈ declared.foldl addEdge edges ↔ edge ∈ declared ∨ edge ∈ edges := by
  induction declared generalizing edges with
  | nil => simp
  | cons first rest ih =>
    rw [List.foldl_cons, ih, mem_addEdge, List.mem_cons, or_left_comm, or_assoc]

theorem mem_declaredEdges {names : List String} {table : List (String × List String)}
    {dependency dependent : String} :
    (dependency, dependent) ∈ declaredEdges names table ↔
      dependency ∈ names ∧ ∃ listed, (dependent, listed) ∈ table ∧ dependency ∈ listed := by
  simp only [declaredEdges, List.mem_flatMap, List.mem_map, List.mem_filter,
    List.contains_iff_mem, Prod.mk.injEq]
  constructor
  · rintro ⟨⟨name, listed⟩, member, _, ⟨depends, known⟩, rfl, rfl⟩
    exact ⟨known, listed, member, depends⟩
  · rintro ⟨known, listed, member, depends⟩
    exact ⟨(dependent, listed), member, dependency, ⟨depends, known⟩, rfl, rfl⟩

theorem leads_ofTable {table : List (String × List String)} {dependency dependent : String} :
    (ofTable table).Leads dependency dependent ↔ Depends table dependent dependency := by
  rw [Leads, ofTable, mem_foldl_addEdge, mem_declaredEdges]
  simp [Depends]

theorem closed_ofTable (table : List (String × List String)) : (ofTable table).Closed := by
  intro dependency dependent leads
  obtain ⟨known, listed, member, _⟩ := leads_ofTable.mp leads
  exact ⟨known, List.mem_map_of_mem member⟩

theorem transGen_leads_iff {table : List (String × List String)} {dependency dependent : String} :
    Relation.TransGen (ofTable table).Leads dependency dependent ↔
      Relation.TransGen (Depends table) dependent dependency := by
  have swapped : (ofTable table).Leads = Function.swap (Depends table) := by
    funext first second
    exact propext leads_ofTable
  rw [swapped, Relation.transGen_swap]

theorem acyclic_ofTable {table : List (String × List String)} :
    (ofTable table).Acyclic ↔ ∀ name, ¬ Relation.TransGen (Depends table) name name :=
  forall_congr' fun _ => not_congr transGen_leads_iff

end SqlPipeline.Dag
