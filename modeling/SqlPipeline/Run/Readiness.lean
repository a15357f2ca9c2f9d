/-!
Readiness. Nodes are known by their position. Each has a counter of the dependencies it still waits
for, one for every entry of its list that names a node, and each has the list of positions that wait
for it, one for every such entry. A node is released when its counter comes down to zero.
-/

namespace SqlPipeline

structure Readiness where
  remaining : List Nat
  dependents : List (List Nat)
  deriving DecidableEq

namespace Readiness

/-- The last position of a name. -/
def position? (names : List String) (name : String) : Option Nat :=
  (names.zipIdx.reverse.find? fun entry => entry.1 == name).map Prod.snd

/-- One node's entries that name the node at a position. -/
def entriesFor (names : List String) (position : Nat) (listed : List String) : List String :=
  listed.filter fun name => position? names name == some position

/-- The positions that wait for a position, in order. -/
def waitingFor (names : List String) (dependencies : List (List String)) (position : Nat) :
    List Nat :=
  dependencies.zipIdx.flatMap fun entry =>
    (entriesFor names position entry.1).map fun _ => entry.2

/-- The counters of nodes that have these names and dependencies. -/
def ofNodes (names : List String) (dependencies : List (List String)) : Readiness where
  remaining := dependencies.map fun listed => (listed.filter names.contains).length
  dependents := (List.range names.length).map (waitingFor names dependencies)

/-- The nodes that wait for nothing. -/
def initial (readiness : Readiness) : List Nat :=
  (readiness.remaining.zipIdx.filter fun entry => entry.1 == 0).map Prod.snd

/-- Counts down once for every position listed; those that come to zero, in order, and the
counters afterwards. -/
def countDown (remaining : List Nat) : List Nat → List Nat × List Nat
  | [] => ([], remaining)
  | position :: rest =>
      match remaining[position]? with
      | none => countDown remaining rest
      | some count =>
          let next := countDown (remaining.set position (count - 1)) rest
          (if count - 1 = 0 then position :: next.1 else next.1, next.2)

/-- A node is done: what this releases, and the counters afterwards. -/
def complete (readiness : Readiness) (position : Nat) : List Nat × Readiness :=
  let counted := countDown readiness.remaining ((readiness.dependents[position]?).getD [])
  (counted.1, { readiness with remaining := counted.2 })

theorem countDown_nil (remaining : List Nat) : countDown remaining [] = ([], remaining) := rfl

end Readiness
end SqlPipeline
