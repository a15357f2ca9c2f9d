import SqlPipeline.Proofs.Dag.Edges
import SqlPipeline.Proofs.Except

/-!
The depth-first search. Every discovered node is finished or stands on the stack, so nothing is left
open when the stack is empty. What stands above an open node is reached from it. So a successor that
is still open when its node is finished leads back there, which closes a cycle; in a graph without
cycles all successors have been finished before.
-/

namespace SqlPipeline.Dag

structure Sound (dag : Dag) (search : Search) (stack : List String) : Prop where
  marked : ∀ node ∈ search.finished, node ∈ search.discovered
  inside : ∀ node ∈ search.discovered, node ∈ dag.nodes
  pending : ∀ node ∈ search.discovered, node ∈ search.finished ∨ node ∈ stack
  known : ∀ node ∈ stack, node ∈ dag.nodes
  once : search.finished.Nodup
  loopless : ∀ node ∈ search.discovered, ¬ dag.Leads node node

def ahead (dag : Dag) (search : Search) (node : String) : List String :=
  (dag.successors node).filter fun next => !(node :: search.discovered).contains next

section Steps
variable {dag : Dag} {search : Search} {node : String} {stack : List String}

theorem mem_ahead {next : String} :
    next ∈ dag.ahead search node ↔ dag.Leads node next ∧ next ∉ node :: search.discovered := by
  rw [ahead, List.mem_filter, mem_successors, Bool.not_eq_true', ← Bool.not_eq_true,
    List.contains_iff_mem]

theorem discovered_finish : (search.finish node).discovered = search.discovered := by
  unfold Search.finish
  split <;> rfl

theorem mem_finish {other : String} :
    other ∈ (search.finish node).finished ↔ other = node ∨ other ∈ search.finished := by
  unfold Search.finish
  split
  · rename_i before
    constructor
    · exact Or.inr
    · rintro (rfl | member)
      · exact before
      · exact member
  · exact List.mem_cons

theorem nodup_finish (once : search.finished.Nodup) : (search.finish node).finished.Nodup := by
  unfold Search.finish
  split
  · exact once
  · rename_i fresh
    exact List.nodup_cons.mpr ⟨fresh, once⟩

theorem Sound.discover (sound : Sound dag search (node :: stack)) (closed : dag.Closed)
    (loopless : ¬ dag.Leads node node) :
    Sound dag { search with discovered := node :: search.discovered }
      ((dag.ahead search node).reverse ++ node :: stack) := by
  constructor
  · intro other member
    exact List.mem_cons_of_mem _ (sound.marked other member)
  · intro other member
    rcases List.mem_cons.mp member with rfl | member
    · exact sound.known other List.mem_cons_self
    · exact sound.inside other member
  · intro other member
    rcases List.mem_cons.mp member with rfl | member
    · exact Or.inr (List.mem_append_right _ List.mem_cons_self)
    · exact (sound.pending other member).imp_right fun later => List.mem_append_right _ later
  · intro other member
    rcases List.mem_append.mp member with above | below
    · exact (closed node other (mem_ahead.mp (List.mem_reverse.mp above)).1).2
    · exact sound.known other below
  · exact sound.once
  · intro other member
    rcases List.mem_cons.mp member with rfl | member
    · exact loopless
    · exact sound.loopless other member

theorem Sound.finish (sound : Sound dag search (node :: stack)) (seen : node ∈ search.discovered) :
    Sound dag (search.finish node) stack := by
  constructor
  · rw [discovered_finish]
    intro other member
    rcases mem_finish.mp member with rfl | member
    · exact seen
    · exact sound.marked other member
  · rw [discovered_finish]
    exact sound.inside
  · rw [discovered_finish]
    intro other member
    rw [mem_finish]
    rcases sound.pending other member with before | waits
    · exact Or.inl (Or.inr before)
    · exact (List.mem_cons.mp waits).imp_left Or.inl
  · intro other member
    exact sound.known other (List.mem_cons_of_mem _ member)
  · exact nodup_finish sound.once
  · rw [discovered_finish]
    exact sound.loopless

theorem Sound.push (sound : Sound dag search []) (known : node ∈ dag.nodes) :
    Sound dag search [node] := by
  refine ⟨sound.marked, sound.inside, ?_, ?_, sound.once, sound.loopless⟩
  · intro other member
    exact (sound.pending other member).imp_right fun none => absurd none List.not_mem_nil
  · intro other member
    exact List.mem_singleton.mp member ▸ known

-- What is not fresh although it is a node has been discovered.
theorem Sound.seen (sound : Sound dag search (node :: stack))
    (stale : ¬ (node ∈ dag.nodes ∧ node ∉ search.discovered)) : node ∈ search.discovered := by
  have known := sound.known node List.mem_cons_self
  by_cases seen : node ∈ search.discovered
  · exact seen
  · exact absurd ⟨known, seen⟩ stale

end Steps

theorem sound_visit {dag : Dag} (closed : dag.Closed) {search result : Search}
    {stack : List String} (sound : Sound dag search stack)
    (found : visit dag search stack = .ok result) :
    Sound dag result [] ∧
      ∀ node, node ∈ search.discovered ∨ node ∈ stack → node ∈ result.discovered := by
  induction search, stack using visit.induct dag with
  | case1 search =>
    rw [visit] at found
    cases found
    exact ⟨sound, fun node member => member.resolve_right List.not_mem_nil⟩
  | case2 search node stack fresh loops =>
    rw [visit, dif_pos fresh, if_pos loops] at found
    cases found
  | case3 search node stack fresh discovered loopless ahead ih =>
    rw [visit, dif_pos fresh, if_neg loopless] at found
    have loopless : ¬ dag.Leads node node := fun leads => loopless (mem_successors.mpr leads)
    obtain ⟨whole, grown⟩ := ih (sound.discover closed loopless) found
    refine ⟨whole, ?_⟩
    rintro other (member | member)
    · exact grown other (Or.inl (List.mem_cons_of_mem _ member))
    · exact grown other (Or.inr (List.mem_append_right _ member))
  | case4 search node stack stale ih =>
    rw [visit, dif_neg stale] at found
    have seen := sound.seen stale
    obtain ⟨whole, grown⟩ := ih (sound.finish seen) found
    rw [discovered_finish] at grown
    refine ⟨whole, ?_⟩
    rintro other (member | member)
    · exact grown other (Or.inl member)
    · rcases List.mem_cons.mp member with rfl | member
      · exact grown other (Or.inl seen)
      · exact grown other (Or.inr member)

theorem sound_visitAll {dag : Dag} (closed : dag.Closed) {search result : Search}
    {starts : List String} (known : ∀ node ∈ starts, node ∈ dag.nodes)
    (sound : Sound dag search []) (found : visitAll dag search starts = .ok result) :
    Sound dag result [] ∧
      ∀ node, node ∈ search.discovered ∨ node ∈ starts → node ∈ result.discovered := by
  induction starts generalizing search with
  | nil =>
    cases found
    exact ⟨sound, fun node member => member.resolve_right List.not_mem_nil⟩
  | cons first rest ih =>
    have knownRest : ∀ node ∈ rest, node ∈ dag.nodes := fun node member =>
      known node (List.mem_cons_of_mem _ member)
    rw [visitAll] at found
    split at found
    · rename_i seen
      obtain ⟨whole, grown⟩ := ih knownRest sound found
      refine ⟨whole, ?_⟩
      rintro node (member | member)
      · exact grown node (Or.inl member)
      · rcases List.mem_cons.mp member with rfl | member
        · exact grown node (Or.inl seen)
        · exact grown node (Or.inr member)
    · obtain ⟨middle, visited, later⟩ := bind_eq_ok_iff.mp found
      have pushed := sound.push (known first List.mem_cons_self)
      obtain ⟨part, grownPart⟩ := sound_visit closed pushed visited
      obtain ⟨whole, grown⟩ := ih knownRest part later
      refine ⟨whole, ?_⟩
      rintro node (member | member)
      · exact grown node (Or.inl (grownPart node (Or.inl member)))
      · rcases List.mem_cons.mp member with rfl | member
        · exact grown node (Or.inl (grownPart node (Or.inr List.mem_cons_self)))
        · exact grown node (Or.inr member)

/-! ## Open nodes -/

/-- What stands above an open node on the stack is reached from it and holds all its successors that
are not discovered. So a node that is left behind in the order by one of its successors is reached
from that successor. -/
structure Deep (dag : Dag) (search : Search) (stack : List String) : Prop where
  settled : ∀ node ∈ search.finished, ∀ next, dag.Leads node next →
    next ∈ search.finished ∨ Relation.TransGen dag.Leads next node
  ordered : search.finished.Pairwise fun earlier later =>
    dag.Leads later earlier → Relation.TransGen dag.Leads earlier later
  below : ∀ above node rest, stack = above ++ node :: rest → node ∈ search.discovered →
    node ∉ search.finished → node ∉ above →
      (∀ other ∈ above, Relation.TransGen dag.Leads node other) ∧
        ∀ next, dag.Leads node next → next ∈ search.discovered ∨ next ∈ above

section Steps
variable {dag : Dag} {search : Search} {node : String} {stack : List String}

-- The node on top is open only to those that stand on the way to it.
theorem Deep.leads_top (deep : Deep dag search (node :: stack))
    (sound : Sound dag search (node :: stack)) {other : String} (different : other ≠ node)
    (seen : other ∈ search.discovered) (unfinished : other ∉ search.finished) :
    Relation.TransGen dag.Leads other node := by
  have waits := (sound.pending other seen).resolve_left unfinished
  obtain ⟨above, rest, split, absent⟩ := List.eq_append_cons_of_mem waits
  have reach := (deep.below above other rest split seen unfinished absent).1
  cases above with
  | nil =>
    obtain ⟨rfl, _⟩ := List.cons.inj split
    exact absurd rfl different
  | cons top above =>
    obtain ⟨rfl, _⟩ := List.cons.inj split
    exact reach node List.mem_cons_self

theorem split_of_not_mem {pushed rest above below : List String} {other : String}
    (split : pushed ++ rest = above ++ other :: below) (absent : other ∉ pushed) :
    ∃ between, above = pushed ++ between ∧ rest = between ++ other :: below := by
  rcases List.append_eq_append_iff.mp split with found | ⟨between, same, later⟩
  · exact found
  · cases between with
    | nil => exact ⟨[], by simpa using same.symm, by simpa using later.symm⟩
    | cons first between =>
      obtain ⟨rfl, _⟩ := List.cons.inj later
      exact absurd (same ▸ List.mem_append_right _ List.mem_cons_self) absent

theorem Deep.discover (deep : Deep dag search (node :: stack)) :
    Deep dag { search with discovered := node :: search.discovered }
      ((dag.ahead search node).reverse ++ node :: stack) := by
  have leaps : ∀ other ∈ (dag.ahead search node).reverse, dag.Leads node other := by
    intro other member
    exact (mem_ahead.mp (List.mem_reverse.mp member)).1
  refine ⟨deep.settled, deep.ordered, ?_⟩
  intro above other rest split seen unfinished absent
  have unpushed : other ∉ (dag.ahead search node).reverse := by
    intro member
    exact (mem_ahead.mp (List.mem_reverse.mp member)).2 seen
  obtain ⟨between, rfl, later⟩ := split_of_not_mem split unpushed
  cases between with
  | nil =>
    obtain ⟨rfl, rfl⟩ := List.cons.inj later
    rw [List.append_nil]
    refine ⟨fun other member => .single (leaps other member), ?_⟩
    intro next leads
    by_cases marked : next ∈ node :: search.discovered
    · exact Or.inl marked
    · exact Or.inr (List.mem_reverse.mpr (mem_ahead.mpr ⟨leads, marked⟩))
  | cons top between =>
    obtain ⟨rfl, rfl⟩ := List.cons.inj later
    have different : other ≠ node := by
      rintro rfl
      exact absent (List.mem_append_right _ List.mem_cons_self)
    have seen := (List.mem_cons.mp seen).resolve_left different
    have absent : other ∉ node :: between := fun member =>
      absent (List.mem_append_right _ member)
    obtain ⟨reach, covered⟩ := deep.below (node :: between) other rest rfl seen unfinished absent
    constructor
    · intro far member
      rcases List.mem_append.mp member with pushed | before
      · exact (reach node List.mem_cons_self).tail (leaps far pushed)
      · exact reach far before
    · intro next leads
      exact (covered next leads).imp (List.mem_cons_of_mem _) (List.mem_append_right _)

-- A successor that is still open when its node is finished stands below it, so it leads there.
theorem Deep.settled_top (deep : Deep dag search (node :: stack))
    (sound : Sound dag search (node :: stack)) (seen : node ∈ search.discovered) {next : String}
    (leads : dag.Leads node next) :
    next ∈ (search.finish node).finished ∨ Relation.TransGen dag.Leads next node := by
  rw [mem_finish]
  by_cases done : node ∈ search.finished
  · exact (deep.settled node done next leads).imp_left Or.inr
  have covered := (deep.below [] node stack rfl seen done List.not_mem_nil).2 next leads
  have known := covered.resolve_right List.not_mem_nil
  by_cases same : next = node
  · exact Or.inl (Or.inl same)
  by_cases finished : next ∈ search.finished
  · exact Or.inl (Or.inr finished)
  · exact Or.inr (deep.leads_top sound same known finished)

theorem Deep.finish (deep : Deep dag search (node :: stack))
    (sound : Sound dag search (node :: stack)) (seen : node ∈ search.discovered) :
    Deep dag (search.finish node) stack := by
  constructor
  · intro other member next leads
    rcases mem_finish.mp member with rfl | member
    · exact deep.settled_top sound seen leads
    · rw [mem_finish]
      exact (deep.settled other member next leads).imp_left Or.inr
  · unfold Search.finish
    split
    · exact deep.ordered
    · rename_i fresh
      refine List.pairwise_cons.mpr ⟨?_, deep.ordered⟩
      intro later member leads
      exact (deep.settled later member node leads).resolve_left fresh
  · intro above other rest split seenOther unfinished absent
    rw [discovered_finish] at seenOther ⊢
    rw [mem_finish, not_or] at unfinished
    have absent : other ∉ node :: above := by
      intro member
      exact (List.mem_cons.mp member).elim unfinished.1 absent
    have split : node :: stack = (node :: above) ++ other :: rest := by
      rw [split, List.cons_append]
    obtain ⟨reach, covered⟩ :=
      deep.below (node :: above) other rest split seenOther unfinished.2 absent
    constructor
    · intro far member
      exact reach far (List.mem_cons_of_mem _ member)
    · intro next leads
      rcases covered next leads with known | before
      · exact Or.inl known
      · rcases List.mem_cons.mp before with rfl | before
        · exact Or.inl seen
        · exact Or.inr before

theorem Deep.push (deep : Deep dag search []) (fresh : node ∉ search.discovered) :
    Deep dag search [node] := by
  refine ⟨deep.settled, deep.ordered, ?_⟩
  intro above other rest split seen unfinished absent
  cases above with
  | nil =>
    obtain ⟨rfl, _⟩ := List.cons.inj split
    exact absurd seen fresh
  | cons first above =>
    have short := congrArg List.length split
    simp at short

end Steps

theorem deep_visit {dag : Dag} (closed : dag.Closed) {search result : Search}
    {stack : List String} (sound : Sound dag search stack) (deep : Deep dag search stack)
    (found : visit dag search stack = .ok result) : Deep dag result [] := by
  induction search, stack using visit.induct dag with
  | case1 search =>
    rw [visit] at found
    cases found
    exact deep
  | case2 search node stack fresh loops =>
    rw [visit, dif_pos fresh, if_pos loops] at found
    cases found
  | case3 search node stack fresh discovered loopless ahead ih =>
    rw [visit, dif_pos fresh, if_neg loopless] at found
    exact ih (sound.discover closed fun leads => loopless (mem_successors.mpr leads)) deep.discover
      found
  | case4 search node stack stale ih =>
    rw [visit, dif_neg stale] at found
    have seen := sound.seen stale
    exact ih (sound.finish seen) (deep.finish sound seen) found

theorem deep_visitAll {dag : Dag} (closed : dag.Closed) {search result : Search}
    {starts : List String} (known : ∀ node ∈ starts, node ∈ dag.nodes) (sound : Sound dag search [])
    (deep : Deep dag search []) (found : visitAll dag search starts = .ok result) :
    Deep dag result [] := by
  induction starts generalizing search with
  | nil =>
    cases found
    exact deep
  | cons first rest ih =>
    have knownRest : ∀ node ∈ rest, node ∈ dag.nodes := fun node member =>
      known node (List.mem_cons_of_mem _ member)
    rw [visitAll] at found
    split at found
    · exact ih knownRest sound deep found
    · rename_i fresh
      obtain ⟨middle, visited, later⟩ := bind_eq_ok_iff.mp found
      have pushed := sound.push (known first List.mem_cons_self)
      exact ih knownRest (sound_visit closed pushed visited).1
        (deep_visit closed pushed (deep.push fresh) visited) later

/-! ## Loops

The search is ended by nothing but a node that leads to itself. -/

theorem leads_of_visit {dag : Dag} {search : Search} {stack : List String} {node : String}
    (failed : visit dag search stack = .error node) : dag.Leads node node := by
  induction search, stack using visit.induct dag with
  | case1 search =>
    rw [visit] at failed
    cases failed
  | case2 search other stack fresh loops =>
    rw [visit, dif_pos fresh, if_pos loops] at failed
    cases failed
    exact mem_successors.mp loops
  | case3 search other stack fresh discovered loopless ahead ih =>
    rw [visit, dif_pos fresh, if_neg loopless] at failed
    exact ih failed
  | case4 search other stack stale ih =>
    rw [visit, dif_neg stale] at failed
    exact ih failed

theorem leads_of_visitAll {dag : Dag} {search : Search} {starts : List String} {node : String}
    (failed : visitAll dag search starts = .error node) : dag.Leads node node := by
  induction starts generalizing search with
  | nil => cases failed
  | cons first rest ih =>
    rw [visitAll] at failed
    split at failed
    · exact ih failed
    · rcases bind_eq_error_iff.mp failed with failed | ⟨middle, _, failed⟩
      · exact leads_of_visit failed
      · exact ih failed

end SqlPipeline.Dag
