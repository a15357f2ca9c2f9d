import Mathlib.Data.List.Chain
import Mathlib.Data.List.Permutation
import Mathlib.Data.String.Basic
import SqlPipeline.Proofs.Dag.Order

/-!
What the report of a circular dependency shows. It begins at a name on a cycle and goes on, time and
again, to the last by name of the actions that depend on the one before. So each name depends on the
one before it, but the way may leave the cycle: it leads back to its beginning exactly if that is
where the last dependents lead.
-/

namespace SqlPipeline.Dag

/-! ## Ways along a function -/

section Ways
variable {Name : Type} {Next : Name → Name → Prop} {first last : Name} {between rest : List Name}

-- In a way along a function, what comes after any name but the last stands in the way as well.
theorem mem_of_isChain (unique : Relator.RightUnique Next) (chain : (first :: rest).IsChain Next)
    {name other : Name} (member : name ∈ (first :: rest).dropLast) (next : Next name other) :
    other ∈ rest := by
  induction rest generalizing first with
  | nil => cases member
  | cons second rest ih =>
    obtain ⟨step, later⟩ := List.isChain_cons_cons.mp chain
    rcases List.mem_cons.mp member with rfl | member
    · rw [unique next step]
      exact List.mem_cons_self
    · exact List.mem_cons_of_mem _ (ih later member)

theorem transGen_of_isChain (chain : (first :: between ++ [last]).IsChain Next) :
    Relation.TransGen Next first last := by
  induction between generalizing first with
  | nil => exact .single (List.isChain_pair.mp chain)
  | cons second between ih =>
    obtain ⟨step, later⟩ := List.isChain_cons_cons.mp chain
    exact (ih later).head step

theorem closes_iff (unique : Relator.RightUnique Next)
    (chain : (first :: between ++ [last]).IsChain Next) (apart : (first :: between).Nodup)
    (ending : last ∈ first :: between ∨ ∀ other, ¬ Next last other) :
    last = first ↔ Relation.TransGen Next first first := by
  constructor
  · rintro rfl
    exact transGen_of_isChain chain
  · intro around
    have inside {name other : Name} (member : name ∈ first :: between) (next : Next name other) :
        other ∈ between ++ [last] := by
      have early : name ∈ (first :: between ++ [last]).dropLast := by
        rwa [List.dropLast_concat]
      exact mem_of_isChain unique chain early next
    have reached {name : Name} (path : Relation.TransGen Next first name) :
        name ∈ between ++ [last] := by
      induction path with
      | single next => exact inside List.mem_cons_self next
      | tail _ next ih =>
        rcases List.mem_append.mp ih with member | member
        · exact inside (List.mem_cons_of_mem _ member) next
        · obtain rfl := List.mem_singleton.mp member
          exact inside (ending.resolve_right fun none => none _ next) next
    rcases List.mem_append.mp (reached around) with member | member
    · exact absurd member (List.nodup_cons.mp apart).1
    · exact (List.mem_singleton.mp member).symm

end Ways

/-! ## The way along the newest edges -/

def Newest (dag : Dag) (node next : String) : Prop := (dag.successors node).head? = some next

section Trail
variable {dag : Dag} {seen : List String} {node : String}

theorem exists_newest {next : String} (leads : dag.Leads node next) :
    ∃ other, dag.Newest node other := by
  obtain ⟨first, rest, same⟩ := List.exists_cons_of_ne_nil
    (List.ne_nil_of_mem (mem_successors.mpr leads))
  exact ⟨first, by rw [Newest, same]; rfl⟩

theorem trail_of_fresh {next : String} (newest : dag.Newest node next)
    (fresh : next ∈ dag.nodes ∧ next ∉ seen) :
    dag.trail seen node = next :: dag.trail (next :: seen) next := by
  rw [trail, newest]
  exact dif_pos fresh

theorem trail_of_stale {next : String} (newest : dag.Newest node next)
    (stale : ¬ (next ∈ dag.nodes ∧ next ∉ seen)) : dag.trail seen node = [next] := by
  rw [trail, newest]
  exact dif_neg stale

theorem trail_of_none (none : (dag.successors node).head? = none) : dag.trail seen node = [] := by
  rw [trail, none]

theorem isChain_trail : (node :: dag.trail seen node).IsChain dag.Newest := by
  induction seen, node using trail.induct dag with
  | case1 seen node none =>
    rw [trail_of_none none]
    exact .singleton node
  | case2 seen node next newest fresh ih =>
    rw [trail_of_fresh newest fresh]
    exact .cons_cons newest ih
  | case3 seen node next newest stale =>
    rw [trail_of_stale newest stale]
    exact List.isChain_pair.mpr newest

-- It goes through fresh nodes until a node comes up again or there is no edge to follow.
theorem exists_ending (closed : dag.Closed) {next : String} (newest : dag.Newest node next) :
    ∃ (between : List String) (last : String), dag.trail seen node = between ++ [last] ∧
      between.Nodup ∧ (∀ other ∈ between, other ∉ seen) ∧
      (last ∈ seen ∨ last ∈ between ∨ ∀ other, ¬ dag.Newest last other) := by
  induction seen, node using trail.induct dag generalizing next with
  | case1 seen node none =>
    cases none.symm.trans newest
  | case2 seen node second found fresh ih =>
    rw [trail_of_fresh found fresh]
    cases stops : (dag.successors second).head? with
    | none =>
      rw [trail_of_none stops]
      refine ⟨[], second, rfl, List.nodup_nil, nofun, Or.inr (Or.inr ?_)⟩
      intro other goes
      cases stops.symm.trans goes
    | some third =>
      obtain ⟨between, last, same, apart, unseen, ending⟩ := ih stops
      refine ⟨second :: between, last, by rw [same]; rfl, ?_, ?_, ?_⟩
      · exact List.nodup_cons.mpr ⟨fun member => unseen second member List.mem_cons_self, apart⟩
      · intro other member
        rcases List.mem_cons.mp member with rfl | member
        · exact fresh.2
        · exact fun before => unseen other member (List.mem_cons_of_mem _ before)
      · rw [List.mem_cons] at ending ⊢
        tauto
  | case3 seen node second found stale =>
    rw [trail_of_stale found stale]
    have known : second ∈ dag.nodes :=
      (closed node second (mem_successors.mp (List.mem_of_mem_head? found))).2
    refine ⟨[], second, rfl, List.nodup_nil, nofun, Or.inl ?_⟩
    by_contra fresh
    exact stale ⟨known, fresh⟩

/-- The way from a node along newest edges. It ends where it comes to a node again or can not go
on. -/
structure Way (dag : Dag) (first : String) (between : List String) (last : String) : Prop where
  chain : (first :: between ++ [last]).IsChain dag.Newest
  apart : (first :: between).Nodup
  ending : last ∈ first :: between ∨ ∀ other, ¬ dag.Newest last other

-- From a node that leads anywhere the way takes at least one step.
theorem exists_way (closed : dag.Closed) {next : String} (leads : dag.Leads node next) :
    ∃ between last, dag.cycleFrom node = node :: between ++ [last] ∧ Way dag node between last := by
  obtain ⟨first, newest⟩ := exists_newest leads
  obtain ⟨between, last, same, apart, unseen, ending⟩ :=
    @exists_ending dag [node] node closed first newest
  have chain : (node :: dag.trail [node] node).IsChain dag.Newest := isChain_trail
  rw [same] at chain
  refine ⟨between, last, by rw [cycleFrom, same]; rfl, chain, ?_, ?_⟩
  · exact List.nodup_cons.mpr ⟨fun member => unseen node member List.mem_cons_self, apart⟩
  · rw [List.mem_singleton] at ending
    rw [List.mem_cons, or_assoc]
    exact ending

end Trail

/-! ## The last dependent by name -/

/-- The last by name of the actions that depend on one. -/
def Latest (table : List (String × List String)) (dependency dependent : String) : Prop :=
  Depends table dependent dependency ∧ ∀ other, Depends table other dependency → other ≤ dependent

theorem Latest.unique (table : List (String × List String)) : Relator.RightUnique (Latest table) :=
  fun _ _ _ one other => le_antisymm (other.2 _ one.1) (one.2 _ other.1)

theorem sublist_foldl_addEdge (declared edges : List (String × String)) :
    (declared.foldl addEdge edges).Sublist (declared.reverse ++ edges) := by
  induction declared generalizing edges with
  | nil => exact List.Sublist.refl edges
  | cons first rest ih =>
    rw [List.foldl_cons, List.reverse_cons, List.append_assoc]
    refine (ih (addEdge edges first)).trans (List.Sublist.append_left ?_ _)
    unfold addEdge
    split
    · exact List.sublist_cons_self first edges
    · exact List.Sublist.refl _

section Table
variable {table : List (String × List String)} {name next : String}

-- Edges are declared in the order of the names that declare them, so the newest leads to the last.
theorem pairwise_edges (sorted : (table.map Prod.fst).Pairwise (· < ·)) :
    (ofTable table).edges.Pairwise fun newer older => older.2 ≤ newer.2 := by
  have declared : (declaredEdges (table.map Prod.fst) table).Pairwise
      fun older newer => older.2 ≤ newer.2 := by
    refine List.pairwise_flatMap.mpr ⟨?_, ?_⟩
    · intro entry _
      exact List.pairwise_map.mpr (List.pairwise_of_forall fun _ _ => le_rfl)
    · refine (List.pairwise_map.mp sorted).imp ?_
      intro earlier later before older member newer memberToo
      obtain ⟨_, _, rfl⟩ := List.mem_map.mp member
      obtain ⟨_, _, rfl⟩ := List.mem_map.mp memberToo
      exact le_of_lt before
  have newestFirst := List.pairwise_reverse.mpr declared
  refine List.Pairwise.sublist (sublist_foldl_addEdge _ []) ?_
  rwa [List.append_nil]

theorem latest_of_newest (sorted : (table.map Prod.fst).Pairwise (· < ·))
    (newest : (ofTable table).Newest name next) : Latest table name next := by
  have ranked : ((ofTable table).successors name).Pairwise fun newer older => older ≤ newer :=
    List.pairwise_map.mpr ((pairwise_edges sorted).filter _)
  obtain ⟨rest, same⟩ := List.head?_eq_some_iff.mp newest
  have mem_iff {other : String} : other ∈ next :: rest ↔ Depends table other name := by
    rw [← same, mem_successors, leads_ofTable]
  rw [same] at ranked
  refine ⟨mem_iff.mp List.mem_cons_self, ?_⟩
  intro other depends
  rcases List.mem_cons.mp (mem_iff.mpr depends) with rfl | later
  · exact le_rfl
  · exact (List.pairwise_cons.mp ranked).1 other later

theorem newest_iff (sorted : (table.map Prod.fst).Pairwise (· < ·)) :
    (ofTable table).Newest name next ↔ Latest table name next := by
  constructor
  · exact latest_of_newest sorted
  · intro latest
    obtain ⟨other, newest⟩ := exists_newest (leads_ofTable.mpr latest.1)
    rwa [Latest.unique table latest (latest_of_newest sorted newest)]

-- Where nothing else hangs off a cycle, its only dependents are the last ones.
theorem latest_around
    (alone : ∀ name, Relation.TransGen (Depends table) name name → ∀ one other,
      Depends table one name → Depends table other name → one = other)
    {first : String} (around : Relation.TransGen (Depends table) first first) :
    Relation.TransGen (Latest table) first first := by
  have latest {dependency dependent : String} (depends : Depends table dependent dependency)
      (back : Relation.TransGen (Depends table) dependency dependency) :
      Latest table dependency dependent :=
    ⟨depends, fun other also => le_of_eq (alone dependency back other dependent also depends)⟩
  have ahead {name : String} (path : Relation.TransGen (Depends table) name first)
      (back : Relation.ReflTransGen (Depends table) first name) :
      Relation.TransGen (Latest table) first name := by
    induction path using Relation.TransGen.head_induction_on with
    | single depends =>
      exact .single (latest depends (Relation.TransGen.tail' back depends))
    | head depends path ih =>
      have onward := back.tail depends
      exact (ih onward).tail (latest depends (path.trans_left onward))
  exact ahead around .refl

end Table

/-! ## The report -/

/-- Names of which each depends on the one before it, and the last is the first again. -/
def Circular (table : List (String × List String)) (names : List String) : Prop :=
  ∃ first between, names = first :: between ++ [first] ∧
    names.IsChain fun dependency dependent => Depends table dependent dependency

/-- What the report of a circular dependency shows, whether or not it ends where it began. -/
structure Shows (table : List (String × List String)) (first : String) (between : List String)
    (last : String) : Prop where
  around : Relation.TransGen (Depends table) first first
  chain : (first :: between ++ [last]).IsChain (Latest table)
  apart : (first :: between).Nodup
  ending : last ∈ first :: between ∨ ∀ other, ¬ Depends table other last

section Report
variable {table : List (String × List String)} {first last : String} {between cycle : List String}

theorem cycleFrom_of_build (failed : build table = .error (.circularDependency cycle)) :
    ∃ node, cycle = (ofTable table).cycleFrom node ∧
      Relation.TransGen (Depends table) node node := by
  have named : "" ∉ table.map Prod.fst := by
    intro empty
    rw [build_eq_emptyActionName_iff.mpr empty] at failed
    cases failed
  rw [build_of_named named, sorted] at failed
  cases found : (ofTable table).order with
  | ok order =>
    rw [found] at failed
    cases failed
  | error node =>
    rw [found] at failed
    cases failed
    exact ⟨node, rfl, transGen_leads_iff.mp (cycle_of_order (closed_ofTable table) found)⟩

theorem exists_shows (sorted : (table.map Prod.fst).Pairwise (· < ·))
    (around : Relation.TransGen (Depends table) first first) :
    ∃ between last, (ofTable table).cycleFrom first = first :: between ++ [last] ∧
      Shows table first between last := by
  obtain ⟨before, _, depends⟩ := Relation.TransGen.tail'_iff.mp around
  obtain ⟨between, last, same, way⟩ :=
    exists_way (closed_ofTable table) (leads_ofTable.mpr depends)
  refine ⟨between, last, same, around, ?_, way.apart, way.ending.imp_right ?_⟩
  · exact way.chain.imp fun _ _ => (newest_iff sorted).mp
  · intro none other depends
    obtain ⟨next, newest⟩ := exists_newest (leads_ofTable.mpr depends)
    exact none next newest

theorem last_eq_of_circular (circular : Circular table (first :: between ++ [last])) :
    last = first := by
  obtain ⟨start, others, same, _⟩ := circular
  have ends := congrArg List.getLast? same
  simp only [List.getLast?_concat, Option.some.injEq] at ends
  exact ends.trans (List.cons.inj same).1.symm

theorem Shows.circular_iff (shows : Shows table first between last) :
    Circular table (first :: between ++ [last]) ↔ last = first := by
  constructor
  · exact last_eq_of_circular
  · rintro rfl
    exact ⟨last, between, rfl, shows.chain.imp fun _ _ latest => latest.1⟩

theorem Shows.last_eq_iff (shows : Shows table first between last) :
    last = first ↔ Relation.TransGen (Latest table) first first := by
  refine closes_iff (Latest.unique table) shows.chain shows.apart ?_
  exact shows.ending.imp_right fun none other latest => none other latest.1

end Report

theorem shows_of_build {table : List (String × List String)}
    (sorted : (table.map Prod.fst).Pairwise (· < ·)) {cycle : List String}
    (failed : build table = .error (.circularDependency cycle)) :
    (ProjectError.circularDependency cycle).message? =
        some ("[E007] Circular dependency detected: " ++ " -> ".intercalate cycle) ∧
    ∃ first between last, cycle = first :: between ++ [last] ∧ Shows table first between last ∧
      (Circular table cycle ↔ Relation.TransGen (Latest table) first first) ∧
      ((∀ name, Relation.TransGen (Depends table) name name → ∀ one other,
          Depends table one name → Depends table other name → one = other) →
        Circular table cycle) := by
  refine ⟨rfl, ?_⟩
  obtain ⟨first, rfl, around⟩ := cycleFrom_of_build failed
  obtain ⟨between, last, same, shows⟩ := exists_shows sorted around
  have circular_iff := shows.circular_iff.trans shows.last_eq_iff
  rw [same]
  exact ⟨first, between, last, rfl, shows, circular_iff, fun alone =>
    circular_iff.mpr (latest_around alone around)⟩

-- What the two of a cycle depend on is never in the way.
example :
    build [("clean", ["load", "ship"]), ("load", []), ("ship", ["clean"])] =
      .error (.circularDependency ["ship", "clean", "ship"]) := by cbv

-- A report hangs off the cycle, and it comes after the other dependent by name.
def detour : List (String × List String) :=
  [("ledger", ["orders"]), ("orders", ["ledger"]), ("report", ["ledger"])]

theorem build_detour :
    build detour = .error (.circularDependency ["orders", "ledger", "report"]) := by
  cbv

theorem detour_shows :
    (detour.map Prod.fst).Pairwise (· < ·) ∧
      build detour = .error (.circularDependency ["orders", "ledger", "report"]) ∧
      ∃ first between last, ["orders", "ledger", "report"] = first :: between ++ [last] ∧
        Shows detour first between last ∧
        (Circular detour ["orders", "ledger", "report"] ↔
          Relation.TransGen (Latest detour) first first) := by
  have sorted : (detour.map Prod.fst).Pairwise (· < ·) := by decide
  obtain ⟨_, first, between, last, same, shows, circular_iff, _⟩ :=
    shows_of_build sorted build_detour
  exact ⟨sorted, build_detour, first, between, last, same, shows, circular_iff⟩

theorem not_circular_of_detour :
    ¬ ∀ (table : List (String × List String)) (cycle : List String),
      (table.map Prod.fst).Pairwise (· < ·) →
      build table = .error (.circularDependency cycle) → Circular table cycle := by
  intro always
  have circular : Circular detour ("orders" :: ["ledger"] ++ ["report"]) :=
    always detour _ (by decide) build_detour
  exact absurd (last_eq_of_circular circular) (by decide)

end SqlPipeline.Dag
