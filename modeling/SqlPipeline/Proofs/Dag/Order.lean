import Mathlib.Data.List.Nodup
import SqlPipeline.Proofs.Dag.Search

/-!
The order of a graph. The check of a finished list accepts it exactly when no node of it depends on
a later one, and where there is such an order there can be no cycle. The search finishes the nodes
of a graph without cycles in such an order; a node at which the order is refused lies on a cycle.
-/

namespace SqlPipeline.Dag

/-! ## The check -/

-- After its first node a search may meet only nodes that earlier ones have discovered.
theorem retrace_met {dag : Dag} {discovered result : List String} {stack : List String} :
    retrace dag discovered true stack = .ok result ↔
      (∀ node ∈ stack, node ∈ discovered) ∧ result = discovered := by
  induction stack with
  | nil => simp [retrace, eq_comm]
  | cons node rest ih =>
    rw [retrace]
    by_cases seen : node ∈ discovered
    · simp [seen, ih]
    · simp [seen]

theorem retrace_first {dag : Dag} {discovered result : List String} {node : String}
    (fresh : node ∉ discovered) :
    retrace dag discovered false [node] = .ok result ↔
      (∀ other, dag.Leads other node → other ∈ node :: discovered) ∧
        result = node :: discovered := by
  have behind : (∀ other ∈ ((dag.predecessors node).filter fun other =>
      !(node :: discovered).contains other).reverse, other ∈ node :: discovered) ↔
        ∀ other, dag.Leads other node → other ∈ node :: discovered := by
    simp only [List.mem_reverse, List.mem_filter, mem_predecessors, Bool.not_eq_true',
      ← Bool.not_eq_true, List.contains_iff_mem]
    constructor
    · intro met other leads
      by_cases seen : other ∈ node :: discovered
      · exact seen
      · exact met other ⟨leads, seen⟩
    · rintro met other ⟨leads, _⟩
      exact met other leads
  rw [retrace, if_neg fresh, if_neg Bool.false_ne_true]
  simp only [List.append_nil]
  rw [retrace_met, behind]

/-- A list that is still to be checked, with the nodes before it discovered. -/
structure Unchecked (dag : Dag) (discovered order : List String) : Prop where
  fresh : ∀ node ∈ order, node ∉ discovered
  once : order.Nodup
  inside : ∀ node ∈ order, ∀ other, dag.Leads other node → other ∈ discovered ∨ other ∈ order

section Recheck
variable {dag : Dag} {discovered order rest : List String} {node : String}

theorem Unchecked.tail (unchecked : Unchecked dag discovered (node :: rest)) :
    Unchecked dag (node :: discovered) rest := by
  obtain ⟨absent, onceRest⟩ := List.nodup_cons.mp unchecked.once
  refine ⟨?_, onceRest, ?_⟩
  · intro other member seen
    rcases List.mem_cons.mp seen with rfl | seen
    · exact absent member
    · exact unchecked.fresh other (List.mem_cons_of_mem _ member) seen
  · intro later member other leads
    rw [List.mem_cons]
    rcases unchecked.inside later (List.mem_cons_of_mem _ member) other leads with seen | listed
    · exact Or.inl (Or.inr seen)
    · exact (List.mem_cons.mp listed).imp_left Or.inl

-- A dependency that is not discovered yet is still to come, and that is what gets refused.
theorem Unchecked.later (unchecked : Unchecked dag discovered (node :: rest)) {other : String}
    (leads : dag.Leads other node) (fresh : other ∉ node :: discovered) : other ∈ rest := by
  rw [List.mem_cons, not_or] at fresh
  have listed := (unchecked.inside node List.mem_cons_self other leads).resolve_left fresh.2
  exact (List.mem_cons.mp listed).resolve_left fresh.1

theorem recheck_eq_ok_iff (unchecked : Unchecked dag discovered order) :
    recheck dag discovered order = .ok () ↔
      order.Pairwise fun earlier later => ¬ dag.Leads later earlier := by
  induction order generalizing discovered with
  | nil => simp [recheck]
  | cons node rest ih =>
    have first : (∀ other, dag.Leads other node → other ∈ node :: discovered) ↔
        ∀ later ∈ rest, ¬ dag.Leads later node := by
      constructor
      · intro before later member leads
        exact unchecked.tail.fresh later member (before later leads)
      · intro none other leads
        by_contra fresh
        exact none other (unchecked.later leads fresh) leads
    rw [recheck, bind_eq_ok_iff, List.pairwise_cons, ← first]
    simp only [retrace_first (unchecked.fresh node List.mem_cons_self), and_assoc,
      exists_and_left, exists_eq_left, ih unchecked.tail]

end Recheck

theorem mem_of_retrace_met {dag : Dag} {discovered stack : List String} {node : String}
    (failed : retrace dag discovered true stack = .error node) :
    node ∈ stack ∧ node ∉ discovered := by
  induction stack with
  | nil =>
    rw [retrace] at failed
    cases failed
  | cons first rest ih =>
    rw [retrace] at failed
    by_cases seen : first ∈ discovered
    · rw [if_pos seen] at failed
      obtain ⟨member, fresh⟩ := ih failed
      exact ⟨List.mem_cons_of_mem _ member, fresh⟩
    · rw [if_neg seen, if_pos rfl] at failed
      cases failed
      exact ⟨List.mem_cons_self, seen⟩

theorem leads_of_retrace {dag : Dag} {discovered : List String} {first node : String}
    (failed : retrace dag discovered false [first] = .error node) :
    dag.Leads node first ∧ node ∉ first :: discovered := by
  rw [retrace] at failed
  split at failed
  · rw [retrace] at failed
    cases failed
  · rw [if_neg Bool.false_ne_true] at failed
    simp only [List.append_nil] at failed
    obtain ⟨member, fresh⟩ := mem_of_retrace_met failed
    rw [List.mem_reverse, List.mem_filter, mem_predecessors] at member
    exact ⟨member.1, fresh⟩

-- The node that is refused stands further behind, and there is a way to it from the one before it.
theorem cycle_of_recheck {dag : Dag} {discovered order : List String} {node : String}
    (unchecked : Unchecked dag discovered order)
    (ordered : order.Pairwise fun earlier later =>
      dag.Leads later earlier → Relation.TransGen dag.Leads earlier later)
    (failed : recheck dag discovered order = .error node) :
    Relation.TransGen dag.Leads node node := by
  induction order generalizing discovered with
  | nil => cases failed
  | cons first rest ih =>
    obtain ⟨leadsBack, orderedRest⟩ := List.pairwise_cons.mp ordered
    rw [recheck] at failed
    rcases bind_eq_error_iff.mp failed with failed | ⟨middle, passed, failed⟩
    · obtain ⟨leads, fresh⟩ := leads_of_retrace failed
      exact (leadsBack node (unchecked.later leads fresh) leads).head leads
    · obtain ⟨_, rfl⟩ := (retrace_first (unchecked.fresh first List.mem_cons_self)).mp passed
      exact ih unchecked.tail orderedRest failed

/-! ## The order -/

section Order
variable {dag : Dag} {order : List String}

/-- What an order has to be: all nodes, each of them once, with dependencies first. -/
structure Orders (dag : Dag) (order : List String) : Prop where
  once : order.Nodup
  mem_iff : ∀ node, node ∈ order ↔ node ∈ dag.nodes
  first : ∀ node next, dag.Leads node next → order.idxOf node < order.idxOf next

theorem Orders.acyclic (orders : Orders dag order) : dag.Acyclic := by
  have further : ∀ node next, Relation.TransGen dag.Leads node next →
      order.idxOf node < order.idxOf next := by
    intro node next path
    induction path with
    | single leads => exact orders.first _ _ leads
    | tail _ leads ih => exact Nat.lt_trans ih (orders.first _ _ leads)
  intro node cycle
  exact Nat.lt_irrefl _ (further node node cycle)

theorem sound_nil (dag : Dag) : Sound dag ⟨[], []⟩ [] := by
  constructor <;> simp

theorem orders_of_pairwise (closed : dag.Closed) (once : order.Nodup)
    (mem_iff : ∀ node, node ∈ order ↔ node ∈ dag.nodes) (loopless : ∀ node, ¬ dag.Leads node node)
    (ordered : order.Pairwise fun earlier later => ¬ dag.Leads later earlier) :
    Orders dag order := by
  refine ⟨once, mem_iff, ?_⟩
  intro node next leads
  obtain ⟨known, knownNext⟩ := closed node next leads
  have inside := List.idxOf_lt_length_of_mem ((mem_iff node).mpr known)
  have insideNext := List.idxOf_lt_length_of_mem ((mem_iff next).mpr knownNext)
  have different : order.idxOf node ≠ order.idxOf next := by
    intro same
    have equal : node = next := by
      rw [← List.getElem_idxOf inside, ← List.getElem_idxOf insideNext]
      simp only [same]
    exact loopless node (equal ▸ leads)
  by_contra behind
  have apart := List.pairwise_iff_getElem.mp ordered _ _ insideNext inside (by omega)
  rw [List.getElem_idxOf, List.getElem_idxOf] at apart
  exact apart leads

theorem Sound.mem_iff {search : Search} (sound : Sound dag search [])
    (covered : ∀ node ∈ dag.nodes, node ∈ search.discovered) (node : String) :
    node ∈ search.finished ↔ node ∈ dag.nodes := by
  constructor
  · intro member
    exact sound.inside node (sound.marked node member)
  · intro known
    exact (sound.pending node (covered node known)).resolve_right List.not_mem_nil

theorem Sound.unchecked {search : Search} (closed : dag.Closed) (sound : Sound dag search [])
    (covered : ∀ node ∈ dag.nodes, node ∈ search.discovered) :
    Unchecked dag [] search.finished := by
  refine ⟨fun _ _ => List.not_mem_nil, sound.once, ?_⟩
  intro node _ other leads
  exact Or.inr ((sound.mem_iff covered other).mpr (closed other node leads).1)

theorem searched_of_visitAll (closed : dag.Closed) {search : Search}
    (visited : visitAll dag ⟨[], []⟩ dag.nodes = .ok search) :
    Sound dag search [] ∧ Deep dag search [] ∧ ∀ node ∈ dag.nodes, node ∈ search.discovered := by
  have start : Deep dag ⟨[], []⟩ [] := by constructor <;> simp
  obtain ⟨sound, grown⟩ := sound_visitAll closed (fun _ known => known) (sound_nil dag) visited
  exact ⟨sound, deep_visitAll closed (fun _ known => known) (sound_nil dag) start visited,
    fun node known => grown node (Or.inr known)⟩

theorem orders_of_order (closed : dag.Closed) (found : dag.order = .ok order) :
    Orders dag order := by
  obtain ⟨search, visited, checked⟩ := bind_eq_ok_iff.mp found
  obtain ⟨sound, _, covered⟩ := searched_of_visitAll closed visited
  cases accepted : recheck dag [] search.finished with
  | error node =>
    rw [accepted] at checked
    cases checked
  | ok =>
    rw [accepted] at checked
    cases checked
    refine orders_of_pairwise closed sound.once (sound.mem_iff covered) ?_
      ((recheck_eq_ok_iff (sound.unchecked closed covered)).mp accepted)
    intro node leads
    exact sound.loopless node (covered node (closed node node leads).1) leads

-- Where the order is refused, either a node leads to itself or a node stands behind one that it
-- leads to; the search then was still open to that one, so there is a way back.
theorem cycle_of_order (closed : dag.Closed) {node : String} (failed : dag.order = .error node) :
    Relation.TransGen dag.Leads node node := by
  rcases bind_eq_error_iff.mp failed with failed | ⟨search, visited, failed⟩
  · exact .single (leads_of_visitAll failed)
  · obtain ⟨sound, deep, covered⟩ := searched_of_visitAll closed visited
    cases checked : recheck dag [] search.finished with
    | ok =>
      rw [checked] at failed
      cases failed
    | error other =>
      rw [checked] at failed
      cases failed
      exact cycle_of_recheck (sound.unchecked closed covered) deep.ordered checked

theorem sorted_cases (closed : dag.Closed) :
    dag.Acyclic ∧ (∃ order, dag.sorted = .ok order ∧ Orders dag order) ∨
      ¬ dag.Acyclic ∧ ∃ cycle, dag.sorted = .error (.circularDependency cycle) := by
  cases found : dag.order with
  | ok order =>
    have orders := orders_of_order closed found
    exact Or.inl ⟨orders.acyclic, order, by rw [sorted, found], orders⟩
  | error node =>
    refine Or.inr ⟨?_, dag.cycleFrom node, by rw [sorted, found]⟩
    exact fun acyclic => acyclic node (cycle_of_order closed found)

end Order

/-! ## Building -/

theorem build_of_named {table : List (String × List String)} (named : "" ∉ table.map Prod.fst) :
    build table = (ofTable table).sorted.map fun _ => ofTable table :=
  if_neg named

theorem build_of_cyclic {table : List (String × List String)} (named : "" ∉ table.map Prod.fst)
    (cyclic : ∃ name, Relation.TransGen (Depends table) name name) :
    ∃ cycle, build table = .error (.circularDependency cycle) := by
  obtain ⟨name, around⟩ := cyclic
  rcases sorted_cases (closed_ofTable table) with ⟨acyclic, _⟩ | ⟨_, cycle, sorted⟩
  · exact absurd around (acyclic_ofTable.mp acyclic name)
  · refine ⟨cycle, ?_⟩
    rw [build_of_named named, sorted]
    rfl

theorem build_of_acyclic {table : List (String × List String)} (named : "" ∉ table.map Prod.fst)
    (acyclic : ∀ name, ¬ Relation.TransGen (Depends table) name name) :
    ∃ order, build table = .ok (ofTable table) ∧ (ofTable table).sorted = .ok order ∧
      Orders (ofTable table) order := by
  rcases sorted_cases (closed_ofTable table) with ⟨_, order, sorted, orders⟩ | ⟨cyclic, _⟩
  · refine ⟨order, ?_, sorted, orders⟩
    rw [build_of_named named, sorted]
    rfl
  · exact absurd (acyclic_ofTable.mpr acyclic) cyclic

theorem build_eq_emptyActionName_iff {table : List (String × List String)} :
    build table = .error .emptyActionName ↔ "" ∈ table.map Prod.fst := by
  constructor
  · intro refused
    by_contra named
    rcases sorted_cases (closed_ofTable table) with ⟨_, _, sorted, _⟩ | ⟨_, _, sorted⟩
    · rw [build_of_named named, sorted] at refused
      cases refused
    · rw [build_of_named named, sorted] at refused
      cases refused
  · intro empty
    exact if_pos empty

-- A graph is handed out only as it was declared, and only where nothing depends on itself.
theorem ofTable_of_build {table : List (String × List String)} {dag : Dag}
    (built : build table = .ok dag) :
    dag = ofTable table ∧ ∀ name, ¬ Relation.TransGen (Depends table) name name := by
  have named : "" ∉ table.map Prod.fst := by
    intro empty
    rw [build_eq_emptyActionName_iff.mpr empty] at built
    cases built
  have acyclic : ∀ name, ¬ Relation.TransGen (Depends table) name name := by
    intro name around
    obtain ⟨cycle, failed⟩ := build_of_cyclic named ⟨name, around⟩
    rw [failed] at built
    cases built
  obtain ⟨_, same, _⟩ := build_of_acyclic named acyclic
  rw [same] at built
  cases built
  exact ⟨rfl, acyclic⟩

theorem build_of_table (table : List (String × List String)) :
    (build table = .error .emptyActionName ↔ "" ∈ table.map Prod.fst) ∧
    ("" ∉ table.map Prod.fst →
      ((∃ cycle, build table = .error (.circularDependency cycle)) ↔
        ∃ name, Relation.TransGen (Depends table) name name) ∧
      ((∀ name, ¬ Relation.TransGen (Depends table) name name) →
        ∃ dag order, build table = .ok dag ∧ dag.sorted = .ok order ∧ order.Nodup ∧
          (∀ name, name ∈ order ↔ name ∈ table.map Prod.fst) ∧
          ∀ dependent dependency, Depends table dependent dependency →
            order.idxOf dependency < order.idxOf dependent)) := by
  constructor
  · exact build_eq_emptyActionName_iff
  intro named
  constructor
  · constructor
    · rintro ⟨cycle, failed⟩
      by_contra acyclic
      push Not at acyclic
      obtain ⟨_, built, _⟩ := build_of_acyclic named acyclic
      rw [built] at failed
      cases failed
    · exact build_of_cyclic named
  · intro acyclic
    obtain ⟨order, built, sorted, orders⟩ := build_of_acyclic named acyclic
    refine ⟨ofTable table, order, built, sorted, orders.once, orders.mem_iff, ?_⟩
    intro dependent dependency depends
    exact orders.first dependency dependent (leads_ofTable.mpr depends)

-- One action, one that depends on it, and a name that is none of the table's.
def chain : List (String × List String) := [("early", []), ("late", ["early", "elsewhere"])]

theorem chain_depends {dependent dependency : String}
    (depends : Depends chain dependent dependency) :
    dependent = "late" ∧ dependency = "early" := by
  obtain ⟨known, listed, member, lists⟩ := depends
  simp only [chain, List.map_cons, List.map_nil, List.mem_cons, List.not_mem_nil, or_false] at known
  simp only [chain, List.mem_cons, Prod.mk.injEq, List.not_mem_nil, or_false] at member
  rcases member with ⟨rfl, rfl⟩ | ⟨rfl, rfl⟩
  · cases lists
  · simp only [List.mem_cons, List.not_mem_nil, or_false] at lists
    refine ⟨rfl, ?_⟩
    rcases known with rfl | rfl
    · rfl
    · simp at lists

theorem build_chain :
    "" ∉ chain.map Prod.fst ∧ (∀ name, ¬ Relation.TransGen (Depends chain) name name) ∧
      ∃ dag order, build chain = .ok dag ∧ dag.sorted = .ok order ∧ order.Nodup ∧
        (∀ name, name ∈ order ↔ name ∈ chain.map Prod.fst) ∧
        ∀ dependent dependency, Depends chain dependent dependency →
          order.idxOf dependency < order.idxOf dependent := by
  have named : "" ∉ chain.map Prod.fst := by decide
  have acyclic : ∀ name, ¬ Relation.TransGen (Depends chain) name name := by
    intro name cycle
    obtain ⟨first, start, _⟩ := Relation.TransGen.head'_iff.mp cycle
    obtain ⟨last, _, finish⟩ := Relation.TransGen.tail'_iff.mp cycle
    have late := (chain_depends start).1
    have early := (chain_depends finish).2
    simp [late] at early
  exact ⟨named, acyclic, ((build_of_table chain).2 named).2 acyclic⟩

end SqlPipeline.Dag
