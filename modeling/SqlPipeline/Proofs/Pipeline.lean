import SqlPipeline.Proofs.Build
import SqlPipeline.Proofs.Run.Success
import SqlPipeline.Proofs.Session

/-!
From declarations to a finished run. What compiles without errors and without a cycle can be built,
and what was built runs to success on a database that accepts it. The names that the compiler keeps
apart, the order that the builder finds and the counters of the run fit together.
-/

namespace SqlPipeline
open Run

-- Which of the possible moves comes next is left open, and the database may be any that accepts.
theorem success_of_sound {config : ProjectConfig} {declarations : List Declaration}
    {lookup : Lookup} (sound : (compile config declarations).errors = [])
    (acyclic : ∀ name, ¬ Relation.TransGen (compile config declarations).DependsOn name name)
    (answers : ∀ target, ∃ existing, lookup target = .ok existing) :
    ((compile config declarations).actions.map fun action => action.name.text).Perm
      (declarations.map Declaration.name) ∧
    ∃ built, build (compile config declarations) .standard lookup = .ok built ∧
      Covers (compile config declarations) lookup built.graph ∧
      (∀ states : Nat → State, states 0 = start built.graph →
        ¬ ∀ time, ∃ move, (states time).move? move = some (states (time + 1))) ∧
      ∀ script, Accepting built.graph script → ∀ moves state, Trace built.graph moves state →
        .cancel ∉ moves → Follows script moves →
        (∃ rest ending, .cancel ∉ rest ∧ Trace built.graph (moves ++ rest) ending ∧
          Follows script (moves ++ rest) ∧ ending.closed = true) ∧
        (state.closed = true → Fulfils built.graph state) := by
  obtain ⟨declared, distinct⟩ := names_of_compile sound
  obtain ⟨built, good, covers⟩ := build_of_sound sound distinct acyclic answers
  refine ⟨declared, built, good, covers, fun states _ => not_endless states, ?_⟩
  intro script accepting moves state run quiet follows
  refine ⟨follows.exists_end run, ?_⟩
  exact fulfils_of_planned covers.distinct covers.first run (accepting.planned follows quiet)

-- A table, an operation that depends on every name of the schema, an assertion that waits for the
-- operation, and a view that is disabled.
def sales : List Declaration :=
  [.single (.dataset .table) "sales.orders" "select 1 as amount",
    { Declaration.single .operations "cleanup" "delete from log" with
      dependencies := ["sales.*"] },
    { Declaration.single .assertion "check" "select * from orders where amount < 0" with
      dependencies := ["cleanup", "old"] },
    { Declaration.single (.dataset .view) "old" "select 2" with disabled := true }]

example :
    ((compile .standard sales).executable.map fun action =>
        (action.name.text, action.dependencies)) =
      [("old", []), ("sales.orders", []), ("cleanup", ["sales.orders"]),
        ("check", ["cleanup", "old"])] := by decide

theorem sales_acyclic :
    ∀ name, ¬ Relation.TransGen (compile .standard sales).DependsOn name name :=
  CompiledGraph.acyclic_of_rank (["old", "sales.orders", "cleanup", "check"].idxOf ·) (by decide)

theorem sales_succeed :
    ∃ built moves state, build (compile .standard sales) .standard Catalog.empty.lookup = .ok built ∧
      Covers (compile .standard sales) Catalog.empty.lookup built.graph ∧
      Trace built.graph moves state ∧ state.closed = true ∧ Fulfils built.graph state := by
  have sound : (compile .standard sales).errors = [] := by decide
  obtain ⟨_, built, good, covers, _, runs⟩ :=
    success_of_sound sound sales_acyclic fun target => ⟨Catalog.empty.get? target, rfl⟩
  have clear : ∀ kind, (Outcome.rows Rows.empty).Accepts kind := fun _ => ⟨_, rfl, fun _ => rfl⟩
  have accepting : Accepting built.graph fun _ _ => .rows Rows.empty :=
    ⟨fun _ task _ => clear task.kind, fun _ _ _ task _ _ => clear task.kind⟩
  have begun : Follows (fun _ _ => .rows Rows.empty) [] := by
    intro owner index outcome found
    cases found
  obtain ⟨⟨rest, ending, quiet, run, follows, closed⟩, _⟩ :=
    runs _ accepting [] _ .start (by simp) begun
  exact ⟨built, rest, ending, good, covers, run, closed,
    (runs _ accepting rest ending run quiet follows).2 closed⟩

end SqlPipeline
