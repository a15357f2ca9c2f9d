import Mathlib.Data.List.Permutation
import SqlPipeline.Proofs.Dag.Order

/-!
The ancestors of a node. Whatever the search has come upon is reached against the edges, and what it
has come upon and taken off the stack has all its dependencies among the nodes found. So nothing is
missing once the stack is empty, and nothing is found twice.
-/

namespace SqlPipeline.Dag

/-! ## Edges that are there once -/

theorem nodup_addEdge {edges : List (String × String)} {edge : String × String}
    (once : edges.Nodup) : (addEdge edges edge).Nodup := by
  unfold addEdge
  split
  · exact once
  · rename_i fresh
    exact List.nodup_cons.mpr ⟨fresh, once⟩

theorem nodup_foldl_addEdge {edges : List (String × String)} (once : edges.Nodup)
    (declared : List (String × String)) : (declared.foldl addEdge edges).Nodup := by
  induction declared generalizing edges with
  | nil => exact once
  | cons first rest ih => exact ih (nodup_addEdge once)

theorem nodup_predecessors {dag : Dag} (once : dag.edges.Nodup) (node : String) :
    (dag.predecessors node).Nodup := by
  refine List.Nodup.map_on ?_ (once.filter _)
  rintro ⟨first, _⟩ member ⟨second, _⟩ memberToo same
  have left := (List.mem_filter.mp member).2
  have right := (List.mem_filter.mp memberToo).2
  simp only [beq_iff_eq] at left right same
  rw [same, left, right]

/-! ## The search -/

/-- The dependencies of a node that have not been found yet. -/
def missing (dag : Dag) (found : List String) (node : String) : List String :=
  (dag.predecessors node).filter fun other => dag.nodes.contains other && !found.contains other

/-- How far a search for the ancestors of a node has come. -/
structure Gathers (dag : Dag) (start : String) (found stack : List String) : Prop where
  once : found.Nodup
  reached : ∀ node ∈ found, Relation.TransGen dag.Leads node start
  pending : ∀ node ∈ stack, node = start ∨ node ∈ found
  covered : ∀ node, node = start ∨ node ∈ found → node ∉ stack →
    ∀ other, dag.Leads other node → other ∈ found

section Search
variable {dag : Dag} {start node : String} {found stack : List String}

theorem mem_missing (closed : dag.Closed) {other : String} :
    other ∈ dag.missing found node ↔ dag.Leads other node ∧ other ∉ found := by
  simp only [missing, List.mem_filter, mem_predecessors, Bool.and_eq_true, List.contains_iff_mem,
    Bool.not_eq_true', ← Bool.not_eq_true]
  constructor
  · rintro ⟨leads, _, fresh⟩
    exact ⟨leads, fresh⟩
  · rintro ⟨leads, fresh⟩
    exact ⟨leads, (closed other node leads).1, fresh⟩

theorem collect_cons :
    dag.collect found (node :: stack) =
      dag.collect ((dag.missing found node).reverse ++ found)
        ((dag.missing found node).reverse ++ stack) := by
  rw [collect, missing]
  split
  · rename_i none
    rw [none]
    rfl
  · rename_i some
    rw [some]

theorem Gathers.step (gathers : Gathers dag start found (node :: stack)) (closed : dag.Closed)
    (edges : dag.edges.Nodup) :
    Gathers dag start ((dag.missing found node).reverse ++ found)
      ((dag.missing found node).reverse ++ stack) := by
  have mem_added {other : String} :
      other ∈ (dag.missing found node).reverse ++ found ↔
        dag.Leads other node ∧ other ∉ found ∨ other ∈ found := by
    rw [List.mem_append, List.mem_reverse, mem_missing closed]
  have top := gathers.pending node List.mem_cons_self
  constructor
  · refine List.Nodup.append ?_ gathers.once ?_
    · exact List.nodup_reverse.mpr ((nodup_predecessors edges node).filter _)
    · intro other added before
      exact ((mem_missing closed).mp (List.mem_reverse.mp added)).2 before
  · intro other member
    rcases mem_added.mp member with ⟨leads, _⟩ | before
    · rcases top with rfl | before
      · exact .single leads
      · exact (gathers.reached node before).head leads
    · exact gathers.reached other before
  · intro other waits
    rcases List.mem_append.mp waits with added | waits
    · exact Or.inr (List.mem_append_left _ added)
    · exact (gathers.pending other (List.mem_cons_of_mem _ waits)).imp_right
        (List.mem_append_right _)
  · intro other known done further leads
    rw [List.mem_append, not_or] at done
    by_cases same : other = node
    · subst same
      by_cases before : further ∈ found
      · exact mem_added.mpr (Or.inr before)
      · exact mem_added.mpr (Or.inl ⟨leads, before⟩)
    · have known : other = start ∨ other ∈ found := by
        refine known.imp_right fun member => ?_
        exact (List.mem_append.mp member).resolve_left done.1
      have done : other ∉ node :: stack := fun waits =>
        (List.mem_cons.mp waits).elim same done.2
      exact mem_added.mpr (Or.inr (gathers.covered other known done further leads))

theorem gathers_collect (closed : dag.Closed) (edges : dag.edges.Nodup)
    (gathers : Gathers dag start found stack) :
    Gathers dag start (dag.collect found stack) [] := by
  induction found, stack using collect.induct dag with
  | case1 found =>
    rw [collect]
    exact gathers
  | case2 found node stack none ih =>
    have next := gathers.step closed edges
    rw [collect_cons, missing, none] at *
    exact ih next
  | case3 found node stack first more some added ih =>
    have next := gathers.step closed edges
    rw [collect_cons, missing, some] at *
    exact ih next

theorem gathers_start (dag : Dag) (start : String) : Gathers dag start [] [start] := by
  constructor
  · exact List.nodup_nil
  · exact nofun
  · exact fun node waits => Or.inl (List.mem_singleton.mp waits)
  · intro node known done
    exact absurd (List.mem_singleton.mpr (known.resolve_right List.not_mem_nil)) done

theorem Gathers.mem_iff (gathers : Gathers dag start found []) :
    node ∈ found ↔ Relation.TransGen dag.Leads node start := by
  constructor
  · exact gathers.reached node
  · intro path
    induction path using Relation.TransGen.head_induction_on with
    | single leads => exact gathers.covered start (Or.inl rfl) List.not_mem_nil _ leads
    | head leads _ ih => exact gathers.covered _ (Or.inr ih) List.not_mem_nil _ leads

end Search

/-! ## Ancestors -/

theorem nodup_edges_ofTable (table : List (String × List String)) :
    (ofTable table).edges.Nodup :=
  nodup_foldl_addEdge List.nodup_nil _

theorem gathers_ancestors {dag : Dag} (closed : dag.Closed) (edges : dag.edges.Nodup)
    (name : String) : Gathers dag name (dag.collect [] [name]) [] :=
  gathers_collect closed edges (gathers_start dag name)

section Ancestors
variable {table : List (String × List String)} {name other : String}

theorem nodup_ancestors : ((ofTable table).ancestors name).Nodup := by
  unfold ancestors
  split
  · exact List.nodup_reverse.mpr
      (gathers_ancestors (closed_ofTable table) (nodup_edges_ofTable table) name).once
  · exact List.nodup_nil

-- Only an action of the table depends on anything, so a name that is none has no ancestors.
theorem mem_ancestors_iff :
    other ∈ (ofTable table).ancestors name ↔ Relation.TransGen (Depends table) name other := by
  rw [← transGen_leads_iff]
  unfold ancestors
  split
  · rw [List.mem_reverse]
    exact (gathers_ancestors (closed_ofTable table) (nodup_edges_ofTable table) name).mem_iff
  · rename_i unknown
    constructor
    · exact nofun
    · intro path
      obtain ⟨last, _, leads⟩ := Relation.TransGen.tail'_iff.mp path
      have known : (ofTable table).contains name = true :=
        List.contains_iff_mem.mpr (closed_ofTable table last name leads).2
      exact absurd known unknown

theorem ancestors_of_unknown (unknown : name ∉ table.map Prod.fst) :
    (ofTable table).ancestors name = [] :=
  if_neg fun known => unknown (List.contains_iff_mem.mp known)

end Ancestors

theorem ancestors_of_build {table : List (String × List String)} {dag : Dag}
    (built : build table = .ok dag) (name : String) :
    (dag.ancestors name).Nodup ∧
    (∀ other, other ∈ dag.ancestors name ↔ Relation.TransGen (Depends table) name other) ∧
    name ∉ dag.ancestors name ∧
    (name ∉ table.map Prod.fst → dag.ancestors name = []) ∧
    ∀ listed, (name, listed) ∈ table → ∀ dependency ∈ listed,
      (dependency ∈ dag.ancestors name ↔ dependency ∈ table.map Prod.fst) ∧
      ∀ other ∈ dag.ancestors dependency, other ∈ dag.ancestors name := by
  obtain ⟨rfl, acyclic⟩ := ofTable_of_build built
  refine ⟨nodup_ancestors, fun other => mem_ancestors_iff, ?_, ancestors_of_unknown, ?_⟩
  · intro member
    exact acyclic name (mem_ancestors_iff.mp member)
  · intro listed entry dependency lists
    constructor
    · rw [mem_ancestors_iff]
      constructor
      · intro path
        obtain ⟨last, _, depends⟩ := Relation.TransGen.tail'_iff.mp path
        exact depends.1
      · intro known
        exact .single ⟨known, listed, entry, lists⟩
    · intro other member
      have path := mem_ancestors_iff.mp member
      obtain ⟨first, ⟨_, further, listedToo, _⟩, _⟩ := Relation.TransGen.head'_iff.mp path
      have depends : Depends table name dependency :=
        ⟨List.mem_map_of_mem listedToo, listed, entry, lists⟩
      exact mem_ancestors_iff.mpr (path.head depends)

-- Two ways lead back to the same source, one of them listed twice, and one name is unknown.
def diamond : List (String × List String) :=
  [("left", ["source"]), ("right", ["source", "source"]), ("sink", ["left", "right", "elsewhere"]),
    ("source", [])]

example : (ofTable diamond).ancestors "sink" = ["right", "left", "source"] := by cbv

theorem ancestors_of_diamond :
    build diamond = .ok (ofTable diamond) ∧ ((ofTable diamond).ancestors "sink").Nodup ∧
      ∀ other, other ∈ (ofTable diamond).ancestors "sink" ↔
        Relation.TransGen (Depends diamond) "sink" other := by
  have built : build diamond = .ok (ofTable diamond) := by cbv
  obtain ⟨once, mem_iff, _⟩ := ancestors_of_build built "sink"
  exact ⟨built, once, mem_iff⟩

end SqlPipeline.Dag
