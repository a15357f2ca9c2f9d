import Mathlib.Data.List.Count
import Mathlib.Data.List.Nodup
import SqlPipeline.Run.Readiness

/-!
The counters of a run. When the nodes at some positions are done, the counter of a node is the
number of its entries that name a node which is not done. So no counter is ever taken below zero,
and a node is released by the completion of the last node that it waits for, and by no other.
-/

namespace SqlPipeline.Readiness

/-! ## Positions -/

section Positions
variable {names : List String} {name : String} {position : Nat}

theorem getElem?_of_position? (found : position? names name = some position) :
    names[position]? = some name := by
  obtain ⟨⟨entry, index⟩, last, same⟩ := Option.map_eq_some_iff.mp found
  have hit := List.find?_some last
  have member := List.mem_reverse.mp (List.mem_of_find?_eq_some last)
  have stored := List.mem_zipIdx_iff_getElem?.mp member
  simp only [beq_iff_eq] at hit same stored
  subst hit same
  exact stored

theorem isSome_position? : (position? names name).isSome = names.contains name := by
  rw [Bool.eq_iff_iff, List.contains_iff_mem, position?, Option.isSome_map, List.find?_isSome]
  constructor
  · rintro ⟨⟨entry, index⟩, member, hit⟩
    have stored := List.mem_zipIdx_iff_getElem?.mp (List.mem_reverse.mp member)
    simp only [beq_iff_eq] at hit stored
    exact hit ▸ List.mem_of_getElem? stored
  · intro member
    obtain ⟨index, stored⟩ := List.mem_iff_getElem?.mp member
    exact ⟨(name, index),
      List.mem_reverse.mpr (List.mem_zipIdx_iff_getElem?.mpr stored), by simp⟩

-- Where names are distinct it does not matter that the last position counts.
theorem position?_of_getElem? (distinct : names.Nodup) (stored : names[position]? = some name) :
    position? names name = some position := by
  have known : (position? names name).isSome := by
    rw [isSome_position?, List.contains_iff_mem]
    exact List.mem_of_getElem? stored
  obtain ⟨other, found⟩ := Option.isSome_iff_exists.mp known
  have same : names[position]? = names[other]? := by rw [stored, getElem?_of_position? found]
  have inside := (List.getElem?_eq_some_iff.mp stored).1
  rw [found, (List.getElem?_inj inside distinct).mp same]

end Positions

/-! ## Counting down -/

theorem getElem?_countDown (remaining positions : List Nat) (position : Nat) :
    (countDown remaining positions).2[position]? =
      remaining[position]?.map fun left => left - positions.count position := by
  induction positions generalizing remaining with
  | nil => simp [countDown]
  | cons first rest ih =>
    simp only [countDown]
    split
    · rename_i absent
      rw [ih]
      by_cases same : first = position
      · subst same
        simp [absent]
      · rw [List.count_cons_of_ne same]
    · rename_i left present
      simp only
      rw [ih]
      by_cases same : first = position
      · subst same
        have inside := (List.getElem?_eq_some_iff.mp present).1
        simp only [List.getElem?_set_self inside, present, List.count_cons_self, Option.map_some,
          Option.some.injEq]
        omega
      · rw [List.getElem?_set_ne same, List.count_cons_of_ne same]

-- Every position is listed at most as often as its counter allows.
def Affords (remaining positions : List Nat) : Prop :=
  ∀ position left, remaining[position]? = some left → positions.count position ≤ left

theorem Affords.tail {remaining rest : List Nat} {first left : Nat}
    (affords : Affords remaining (first :: rest)) (present : remaining[first]? = some left) :
    Affords (remaining.set first (left - 1)) rest := by
  intro position other stored
  have inside := (List.getElem?_eq_some_iff.mp present).1
  by_cases same : first = position
  · subst same
    have enough := affords first left present
    rw [List.count_cons_self] at enough
    rw [List.getElem?_set_self inside, Option.some.injEq] at stored
    omega
  · rw [List.getElem?_set_ne same] at stored
    have enough := affords position other stored
    rwa [List.count_cons_of_ne same] at enough

-- A position can be listed several times; only the last time brings its counter to zero.
theorem count_countDown {remaining positions : List Nat} (affords : Affords remaining positions)
    (position : Nat) :
    (countDown remaining positions).1.count position =
      if position ∈ positions ∧ remaining[position]? = some (positions.count position) then 1
      else 0 := by
  induction positions generalizing remaining with
  | nil => simp [countDown]
  | cons first rest ih =>
    simp only [countDown]
    split
    · rename_i absent
      have affordsRest : Affords remaining rest := by
        intro other left stored
        exact Nat.le_trans List.count_le_count_cons (affords other left stored)
      rw [ih affordsRest]
      by_cases same : first = position
      · subst same
        simp [absent]
      · simp [List.count_cons_of_ne same, Ne.symm same]
    · rename_i left present
      have inside := (List.getElem?_eq_some_iff.mp present).1
      have enough := affords first left present
      rw [List.count_cons_self] at enough
      have later := ih (affords.tail present)
      simp only
      generalize (countDown (remaining.set first (left - 1)) rest).1 = released at later ⊢
      by_cases same : first = position
      · subst same
        simp only [List.getElem?_set_self inside, Option.some.injEq] at later
        simp only [List.mem_cons, true_or, true_and, present, Option.some.injEq,
          List.count_cons_self]
        by_cases last : left - 1 = 0
        · have gone : first ∉ rest := by
            rw [← List.count_eq_zero]
            omega
          simp only [last, if_true, List.count_cons_self]
          rw [later, if_neg (by simp [gone]), if_pos (by omega)]
        · simp only [last, if_false]
          rw [later]
          by_cases exact : left - 1 = rest.count first
          · have again : first ∈ rest := List.count_pos_iff.mp (by omega)
            rw [if_pos ⟨again, exact⟩, if_pos (by omega)]
          · rw [if_neg (fun both => exact both.2), if_neg (by omega)]
      · rw [List.getElem?_set_ne same] at later
        have other : (if left - 1 = 0 then first :: released else released).count position =
            released.count position := by
          split
          · exact List.count_cons_of_ne same
          · rfl
        rw [other, later]
        simp [List.count_cons_of_ne same, Ne.symm same]

theorem mem_countDown {remaining positions : List Nat} (affords : Affords remaining positions)
    (position : Nat) :
    position ∈ (countDown remaining positions).1 ↔
      position ∈ positions ∧ remaining[position]? = some (positions.count position) := by
  rw [← List.count_pos_iff, count_countDown affords]
  split
  · rename_i both
    simp only [Nat.one_pos, true_iff]
    exact both
  · rename_i other
    simp only [Nat.lt_irrefl, false_iff]
    exact other

theorem nodup_countDown {remaining positions : List Nat} (affords : Affords remaining positions) :
    (countDown remaining positions).1.Nodup := by
  rw [List.nodup_iff_count_le_one]
  intro position
  rw [count_countDown affords]
  split <;> omega

/-! ## What waits for a position -/

theorem count_waitingFrom (entries : List String → List String) (dependencies : List (List String))
    (first position : Nat) :
    ((dependencies.zipIdx first).flatMap fun entry =>
      (entries entry.1).map fun _ => entry.2).count position =
      if first ≤ position then
        ((dependencies[position - first]?).map fun listed => (entries listed).length).getD 0
      else 0 := by
  induction dependencies generalizing first with
  | nil => simp
  | cons listed rest ih =>
    rw [List.zipIdx_cons, List.flatMap_cons, List.count_append, ih, List.map_const',
      List.count_replicate]
    by_cases same : first = position
    · subst same
      have beyond : ¬ first + 1 ≤ first := by omega
      simp [beyond]
    · by_cases later : first + 1 ≤ position
      · have next : position - first = position - (first + 1) + 1 := by omega
        simp [same, later, next, Nat.le_of_succ_le later]
      · have before : ¬ first ≤ position := by omega
        simp [same, later, before]

theorem count_waitingFor (names : List String) (dependencies : List (List String))
    (position other : Nat) :
    (waitingFor names dependencies position).count other =
      ((dependencies[other]?).map fun listed =>
        (entriesFor names position listed).length).getD 0 := by
  have count := count_waitingFrom (entriesFor names position) dependencies 0 other
  simpa [waitingFor] using count

/-! ## The counters after completions -/

/-- The number of entries that name a node which is not done. -/
def pending (names : List String) (done : List Nat) (listed : List String) : Nat :=
  listed.countP fun name => (position? names name).any fun position => !done.contains position

def Free (names : List String) (done : List Nat) (listed : List String) : Prop :=
  ∀ name ∈ listed, ∀ position, position? names name = some position → position ∈ done

section Pending
variable {names : List String} {done : List Nat} {listed : List String}

theorem pending_eq_zero_iff : pending names done listed = 0 ↔ Free names done listed := by
  rw [pending, List.countP_eq_zero]
  constructor
  · intro none name member position found
    have settled := none name member
    simpa [found] using settled
  · intro free name member
    cases found : position? names name with
    | none => simp
    | some position => simpa using free name member position found

theorem pending_nil : pending names [] listed = (listed.filter names.contains).length := by
  rw [pending, ← List.countP_eq_length_filter]
  congr 1
  funext name
  rw [← isSome_position?]
  cases position? names name <;> rfl

theorem pending_cons {position : Nat} (fresh : position ∉ done) :
    pending names done listed =
      pending names (position :: done) listed + (entriesFor names position listed).length := by
  induction listed with
  | nil => rfl
  | cons name rest ih =>
    simp only [pending, entriesFor, List.countP_cons, List.filter_cons] at ih ⊢
    rw [ih]
    generalize List.countP _ rest = later
    generalize List.filter _ rest = entries
    cases found : position? names name with
    | none => simp
    | some other =>
      by_cases same : other = position
      · subst same
        simp [fresh]
        omega
      · simp [same]
        omega

end Pending

/-- The counters are those of a run in which the nodes at some positions are done. -/
structure Counts (names : List String) (dependencies : List (List String)) (done : List Nat)
    (readiness : Readiness) : Prop where
  remaining : readiness.remaining = dependencies.map (pending names done)
  dependents : readiness.dependents = (List.range names.length).map (waitingFor names dependencies)

theorem counts_ofNodes (names : List String) (dependencies : List (List String)) :
    Counts names dependencies [] (ofNodes names dependencies) :=
  ⟨List.map_congr_left fun _ _ => pending_nil.symm, rfl⟩

section Counts
variable {names : List String} {dependencies : List (List String)} {done : List Nat}
  {readiness : Readiness} {position : Nat}

theorem Counts.waiting (counts : Counts names dependencies done readiness)
    (inside : position < names.length) :
    (readiness.dependents[position]?).getD [] = waitingFor names dependencies position := by
  simp [counts.dependents, inside]

theorem Counts.affords (counts : Counts names dependencies done readiness)
    (fresh : position ∉ done) :
    Affords readiness.remaining (waitingFor names dependencies position) := by
  intro other left stored
  rw [counts.remaining, List.getElem?_map, Option.map_eq_some_iff] at stored
  obtain ⟨listed, known, rfl⟩ := stored
  rw [count_waitingFor, known, Option.map_some, Option.getD_some, pending_cons fresh]
  omega

theorem Counts.complete (counts : Counts names dependencies done readiness)
    (fresh : position ∉ done) (inside : position < names.length) :
    Counts names dependencies (position :: done) (readiness.complete position).2 := by
  refine ⟨?_, counts.dependents⟩
  apply List.ext_getElem?
  intro other
  simp only [Readiness.complete, counts.waiting inside]
  rw [getElem?_countDown, counts.remaining, List.getElem?_map, List.getElem?_map, Option.map_map]
  cases known : dependencies[other]? with
  | none => rfl
  | some listed =>
    have split : pending names done listed =
        pending names (position :: done) listed + (entriesFor names position listed).length :=
      pending_cons fresh
    simp only [Option.map_some, Function.comp_apply, count_waitingFor, known, Option.getD_some,
      Option.some.injEq]
    omega

-- A completion releases the nodes for which it was the last one to wait for.
theorem Counts.mem_complete (counts : Counts names dependencies done readiness)
    (fresh : position ∉ done) (inside : position < names.length) (other : Nat) :
    other ∈ (readiness.complete position).1 ↔
      ∃ listed, dependencies[other]? = some listed ∧
        Free names (position :: done) listed ∧ ¬ Free names done listed := by
  simp only [Readiness.complete, counts.waiting inside]
  rw [mem_countDown (counts.affords fresh), ← List.count_pos_iff, count_waitingFor,
    counts.remaining, List.getElem?_map]
  cases known : dependencies[other]? with
  | none => simp
  | some listed =>
    have split : pending names done listed =
        pending names (position :: done) listed + (entriesFor names position listed).length :=
      pending_cons fresh
    simp only [Option.map_some, Option.getD_some, Option.some.injEq, exists_eq_left',
      ← pending_eq_zero_iff]
    omega

theorem Counts.nodup_complete (counts : Counts names dependencies done readiness)
    (fresh : position ∉ done) (inside : position < names.length) :
    (readiness.complete position).1.Nodup := by
  simp only [Readiness.complete, counts.waiting inside]
  exact nodup_countDown (counts.affords fresh)

theorem Counts.mem_initial (counts : Counts names dependencies done readiness) (other : Nat) :
    other ∈ readiness.initial ↔
      ∃ listed, dependencies[other]? = some listed ∧ Free names done listed := by
  simp only [Readiness.initial, List.mem_map, List.mem_filter, Prod.exists, exists_eq_right,
    List.mem_zipIdx_iff_getElem?, beq_iff_eq, counts.remaining, List.getElem?_map,
    Option.map_eq_some_iff, pending_eq_zero_iff]

end Counts

theorem nodup_initial (readiness : Readiness) : readiness.initial.Nodup := by
  have part : List.Sublist readiness.initial (readiness.remaining.zipIdx.map Prod.snd) :=
    List.Sublist.map _ List.filter_sublist
  apply part.nodup
  rw [List.zipIdx_map_snd]
  exact List.nodup_range'

end SqlPipeline.Readiness
