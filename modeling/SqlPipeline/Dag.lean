import SqlPipeline.Error
import SqlPipeline.Sorted

/-!
The dependency graph of a project. Its nodes are the declared names in order; an edge leads from
a dependency to the action that declares it, once however often it is declared, and the edges of
a node are followed from the newest to the oldest. A graph is handed out only when it has no cycle.
-/

namespace SqlPipeline

structure Dag where
  nodes : List String
  /-- Dependency and dependent, the newest edge first. -/
  edges : List (String × String)
  deriving DecidableEq

namespace Dag

def successors (dag : Dag) (node : String) : List String :=
  (dag.edges.filter fun edge => edge.1 == node).map Prod.snd

def predecessors (dag : Dag) (node : String) : List String :=
  (dag.edges.filter fun edge => edge.2 == node).map Prod.fst

def contains (dag : Dag) (node : String) : Bool := dag.nodes.contains node

def addEdge (edges : List (String × String)) (edge : String × String) : List (String × String) :=
  if edge ∈ edges then edges else edge :: edges

/-- The edges a table of dependencies declares between its own names, in the order of the table. -/
def declaredEdges (names : List String) (table : List (String × List String)) :
    List (String × String) :=
  table.flatMap fun entry =>
    (entry.2.filter fun dependency => names.contains dependency).map fun dependency =>
      (dependency, entry.1)

/-- The graph of a table of dependencies by name, cyclic or not. -/
def ofTable (table : List (String × List String)) : Dag :=
  let names := table.map Prod.fst
  ⟨names, (declaredEdges names table).foldl addEdge []⟩

/-- The nodes that a search has not marked yet; what bounds every search below. -/
def unmarked (dag : Dag) (marked : List String) : List String :=
  dag.nodes.filter fun node => !marked.contains node

theorem unmarked_cons_lt (dag : Dag) (marked : List String) (node : String)
    (known : node ∈ dag.nodes) (fresh : node ∉ marked) :
    (dag.unmarked (node :: marked)).length < (dag.unmarked marked).length := by
  have narrower : dag.unmarked (node :: marked) =
      (dag.unmarked marked).filter fun other => other != node := by
    simp only [unmarked, List.filter_filter]
    apply List.filter_congr
    intro other _
    rw [List.contains_cons, Bool.not_or]
    rfl
  rw [narrower]
  apply List.length_filter_lt_length_iff_exists.mpr
  refine ⟨node, ?_, by simp⟩
  simp [unmarked, known, fresh]

theorem unmarked_append_le (dag : Dag) (more marked : List String) :
    (dag.unmarked (more ++ marked)).length ≤ (dag.unmarked marked).length := by
  have narrower : dag.unmarked (more ++ marked) =
      (dag.unmarked marked).filter fun other => !more.contains other := by
    simp only [unmarked, List.filter_filter]
    apply List.filter_congr
    intro other _
    rw [List.contains_append, Bool.not_or]
  rw [narrower]
  exact List.length_filter_le ..

/-! ## Depth-first order

A node is marked as discovered when it first comes to the top of the stack, and stays there until
everything it leads to is finished. The newest finished node stands first, so that the finished
list read from the front is the order wanted. -/

structure Search where
  discovered : List String
  finished : List String
  deriving DecidableEq

/-- A node already finished stays where it is. -/
def Search.finish (search : Search) (node : String) : Search :=
  if node ∈ search.finished then search
  else { search with finished := node :: search.finished }

/-- Works off the stack; a node that leads to itself ends the search. -/
def visit (dag : Dag) (search : Search) : List String → Except String Search
  | [] => .ok search
  | node :: stack =>
      if _fresh : node ∈ dag.nodes ∧ node ∉ search.discovered then
        let discovered := node :: search.discovered
        if node ∈ dag.successors node then .error node
        else
          let ahead := (dag.successors node).filter fun next => !discovered.contains next
          visit dag { search with discovered } (ahead.reverse ++ node :: stack)
      else visit dag (search.finish node) stack
termination_by stack => ((dag.unmarked search.discovered).length, stack.length)
decreasing_by
  · exact Prod.Lex.left _ _ (unmarked_cons_lt dag _ node _fresh.1 _fresh.2)
  · have same : (search.finish node).discovered = search.discovered := by
      unfold Search.finish; split <;> rfl
    rw [same]
    exact Prod.Lex.right _ (by simp)

/-- Starts at every node that no earlier start has discovered. -/
def visitAll (dag : Dag) (search : Search) : List String → Except String Search
  | [] => .ok search
  | node :: rest =>
      if node ∈ search.discovered then visitAll dag search rest
      else (visit dag search [node]).bind fun next => visitAll dag next rest

/-! ## The check of an order

An order is checked by a search against the edges from each of its nodes in turn. What earlier
searches have discovered is left out, so that a search which comes upon a second node has found a
dependency that stands behind. -/

/-- Works off the stack; `met` says whether this search has come upon a node. -/
def retrace (dag : Dag) (discovered : List String) (met : Bool) :
    List String → Except String (List String)
  | [] => .ok discovered
  | node :: stack =>
      if node ∈ discovered then retrace dag discovered met stack
      else if met then .error node
      else
        let discovered := node :: discovered
        let behind := (dag.predecessors node).filter fun other => !discovered.contains other
        retrace dag discovered true (behind.reverse ++ stack)
termination_by stack => ((!met).toNat, stack.length)
decreasing_by
  · exact Prod.Lex.right _ (by simp)
  · rename_i notMet
    exact Prod.Lex.left _ _ (by simp [notMet])

def recheck (dag : Dag) (discovered : List String) : List String → Except String Unit
  | [] => .ok ()
  | node :: rest =>
      (retrace dag discovered false [node]).bind fun discovered => recheck dag discovered rest

/-- All nodes, dependencies first, or a node where a cycle was noticed. -/
def order (dag : Dag) : Except String (List String) :=
  (visitAll dag ⟨[], []⟩ dag.nodes).bind fun search =>
    (recheck dag [] search.finished).map fun _ => search.finished

/-! ## Graphs without cycles -/

/-- The way from a node along the newest edges, up to the first node met again. -/
def trail (dag : Dag) (seen : List String) (node : String) : List String :=
  match (dag.successors node).head? with
  | none => []
  | some next =>
      if _fresh : next ∈ dag.nodes ∧ next ∉ seen then next :: trail dag (next :: seen) next
      else [next]
termination_by (dag.unmarked seen).length
decreasing_by exact unmarked_cons_lt dag _ next _fresh.1 _fresh.2

def cycleFrom (dag : Dag) (node : String) : List String := node :: trail dag [node] node

/-- The order of the nodes; where there is none, the way that shows it. -/
def sorted (dag : Dag) : Except ProjectError (List String) :=
  match dag.order with
  | .ok nodes => .ok nodes
  | .error node => .error (.circularDependency (dag.cycleFrom node))

/-- The graph of a table of dependencies that is sorted by name. -/
def build (table : List (String × List String)) : Except ProjectError Dag :=
  let dag := ofTable table
  if "" ∈ dag.nodes then .error .emptyActionName
  else dag.sorted.map fun _ => dag

/-! ## Ancestors -/

/-- Dependencies of the nodes on the stack and, in turn, of all that are found; the newest first. -/
def collect (dag : Dag) (found : List String) : List String → List String
  | [] => found
  | node :: stack =>
      match _fresh : (dag.predecessors node).filter fun other =>
          dag.nodes.contains other && !found.contains other with
      | [] => collect dag found stack
      | first :: more =>
          let added := (first :: more).reverse
          collect dag (added ++ found) (added ++ stack)
termination_by stack => ((dag.unmarked found).length, stack.length)
decreasing_by
  · exact Prod.Lex.right _ (by simp)
  · apply Prod.Lex.left
    have member : first ∈ first :: more := by simp
    simp only [← _fresh, List.mem_filter, List.contains_eq_mem, Bool.and_eq_true,
      decide_eq_true_eq, Bool.not_eq_true', decide_eq_false_iff_not] at member
    rw [List.reverse_cons, List.append_assoc]
    exact Nat.lt_of_le_of_lt (unmarked_append_le dag more.reverse ([first] ++ found))
      (unmarked_cons_lt dag found first member.2.1 member.2.2)

/-- Everything an action depends on, directly or not, in the order it is come upon. -/
def ancestors (dag : Dag) (action : String) : List String :=
  if dag.contains action then (dag.collect [] [action]).reverse else []

end Dag
end SqlPipeline
