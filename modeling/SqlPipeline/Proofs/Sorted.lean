import Mathlib.Data.List.Sort
import Mathlib.Data.String.Basic
import SqlPipeline.Sorted

/-!
Lists in strictly increasing order of a key. Entering a record keeps the order, so the names of a
list come out in the one order that is strictly increasing.
-/

namespace SqlPipeline.Sorted

section Enter
variable {Record : Type} {key : Record → String} {record : Record} {kept : List Record}

theorem mem_of_mem_enter {other : Record} (member : other ∈ enter key record kept) :
    other = record ∨ other ∈ kept := by
  induction kept with
  | nil => exact Or.inl (List.mem_singleton.mp member)
  | cons first rest ih =>
    unfold enter at member
    split at member
    · exact List.mem_cons.mp member
    · split at member
      · exact Or.inr member
      · rcases List.mem_cons.mp member with rfl | later
        · exact Or.inr List.mem_cons_self
        · exact (ih later).imp_right (List.mem_cons_of_mem _)

theorem pairwise_enter (sorted : kept.Pairwise fun earlier later => key earlier < key later) :
    (enter key record kept).Pairwise fun earlier later => key earlier < key later := by
  induction kept with
  | nil => exact List.pairwise_singleton _ record
  | cons first rest ih =>
    obtain ⟨least, sortedRest⟩ := List.pairwise_cons.mp sorted
    unfold enter
    split
    · rename_i before
      refine List.pairwise_cons.mpr ⟨?_, sorted⟩
      intro later member
      rcases List.mem_cons.mp member with rfl | member
      · exact before
      · exact String.lt_trans before (least later member)
    · rename_i notBefore
      split
      · exact sorted
      · rename_i different
        refine List.pairwise_cons.mpr ⟨?_, ih sortedRest⟩
        intro later member
        rcases mem_of_mem_enter member with rfl | member
        · exact lt_of_le_of_ne (String.not_lt.mp notBefore) (Ne.symm different)
        · exact least later member

-- Under a key that is free the record comes in, and nothing else happens.
theorem perm_enter (free : key record ∉ kept.map key) :
    (enter key record kept).Perm (record :: kept) := by
  induction kept with
  | nil => exact .refl _
  | cons first rest ih =>
    rw [List.map_cons, List.mem_cons, not_or] at free
    unfold enter
    split
    · exact .refl _
    · rw [if_neg free.1]
      exact ((ih free.2).cons first).trans (.swap record first rest)

-- Where the key is taken, the record that came first stays the only one.
theorem enter_of_taken (sorted : kept.Pairwise fun earlier later => key earlier < key later)
    (taken : key record ∈ kept.map key) : enter key record kept = kept := by
  induction kept with
  | nil => cases taken
  | cons first rest ih =>
    obtain ⟨least, sortedRest⟩ := List.pairwise_cons.mp sorted
    rw [List.map_cons, List.mem_cons] at taken
    unfold enter
    rcases taken with same | later
    · rw [if_neg (same ▸ String.lt_irrefl _), if_pos same]
    · obtain ⟨other, member, same⟩ := List.mem_map.mp later
      have behind : key first < key record := same ▸ least other member
      rw [if_neg (String.lt_asymm behind), if_neg (ne_of_gt behind), ih sortedRest later]

theorem mem_enter_iff (sorted : kept.Pairwise fun earlier later => key earlier < key later)
    {other : Record} :
    other ∈ enter key record kept ↔
      other ∈ kept ∨ other = record ∧ key record ∉ kept.map key := by
  by_cases taken : key record ∈ kept.map key
  · simp [enter_of_taken sorted taken, taken]
  · rw [(perm_enter taken).mem_iff, List.mem_cons]
    simp [taken, or_comm]

theorem map_enter {Other : Type} {otherKey : Other → String} {change : Record → Other}
    (same : ∀ record, otherKey (change record) = key record) :
    (enter key record kept).map change = enter otherKey (change record) (kept.map change) := by
  induction kept with
  | nil => rfl
  | cons first rest ih =>
    simp only [enter, List.map_cons, same]
    split
    · rfl
    · split
      · rfl
      · rw [List.map_cons, ih]

end Enter

section Entries
variable {Value : Type} {kept listed : List (String × Value)}

theorem perm_put {name : String} {value : Value} (free : name ∉ kept.map Prod.fst) :
    (put name value kept).Perm ((name, value) :: kept) := by
  induction kept with
  | nil => exact .refl _
  | cons first rest ih =>
    rw [List.map_cons, List.mem_cons, not_or] at free
    unfold put
    split
    · exact .refl _
    · rw [if_neg free.1]
      exact ((ih free.2).cons first).trans (.swap (name, value) first rest)

theorem perm_foldl_put (distinct : ((listed ++ kept).map Prod.fst).Nodup) :
    (listed.foldl (fun kept entry => put entry.1 entry.2 kept) kept).Perm (listed ++ kept) := by
  induction listed generalizing kept with
  | nil => exact .refl _
  | cons entry rest ih =>
    have middle : (entry :: rest ++ kept).Perm (rest ++ entry :: kept) :=
      List.perm_middle.symm
    rw [List.cons_append, List.map_cons, List.nodup_cons] at distinct
    have free : entry.1 ∉ kept.map Prod.fst := by
      intro member
      rw [List.map_append] at distinct
      exact distinct.1 (List.mem_append_right _ member)
    have stored : (put entry.1 entry.2 kept).Perm (entry :: kept) := perm_put free
    have later : (rest ++ put entry.1 entry.2 kept).Perm (entry :: rest ++ kept) :=
      (stored.append_left rest).trans middle.symm
    refine (ih ?_).trans later
    exact ((later.map Prod.fst).nodup_iff).mpr (List.nodup_cons.mpr distinct)

-- Names that differ all keep their entries.
theorem perm_entries (distinct : (listed.map Prod.fst).Nodup) : (entries listed).Perm listed := by
  have stored := @perm_foldl_put Value [] listed
  rw [List.append_nil] at stored
  exact stored distinct

theorem mem_keys_put {name other : String} {value : Value} :
    other ∈ (put name value kept).map Prod.fst ↔ other = name ∨ other ∈ kept.map Prod.fst := by
  induction kept with
  | nil => simp [put]
  | cons first rest ih =>
    unfold put
    split
    · simp
    · split
      · rename_i same
        subst same
        simp
      · rw [List.map_cons, List.mem_cons, ih, List.map_cons, List.mem_cons, or_left_comm]

theorem mem_keys_foldl_put {name : String} :
    name ∈ (listed.foldl (fun kept entry => put entry.1 entry.2 kept) kept).map Prod.fst ↔
      name ∈ listed.map Prod.fst ∨ name ∈ kept.map Prod.fst := by
  induction listed generalizing kept with
  | nil => simp
  | cons entry rest ih =>
    rw [List.foldl_cons, ih, mem_keys_put, List.map_cons, List.mem_cons, or_left_comm, or_assoc]

-- No name gets lost, however often it is listed.
theorem mem_keys_entries {name : String} :
    name ∈ (entries listed).map Prod.fst ↔ name ∈ listed.map Prod.fst := by
  rw [entries, mem_keys_foldl_put]
  simp

theorem pairwise_put {name : String} {value : Value}
    (sorted : kept.Pairwise fun earlier later => earlier.1 < later.1) :
    (put name value kept).Pairwise fun earlier later => earlier.1 < later.1 := by
  induction kept with
  | nil => exact List.pairwise_singleton _ (name, value)
  | cons first rest ih =>
    obtain ⟨least, sortedRest⟩ := List.pairwise_cons.mp sorted
    unfold put
    split
    · rename_i before
      apply List.Pairwise.cons _ sorted
      intro later member
      rcases List.mem_cons.mp member with rfl | member
      · exact before
      · exact String.lt_trans before (least later member)
    · rename_i notBefore
      split
      · rename_i same
        subst same
        exact List.Pairwise.cons least sortedRest
      · rename_i different
        apply List.Pairwise.cons _ (ih sortedRest)
        intro later member
        rcases mem_keys_put.mp (List.mem_map_of_mem member) with same | member
        · rw [same]
          exact lt_of_le_of_ne (String.not_lt.mp notBefore) (Ne.symm different)
        · obtain ⟨other, inRest, same⟩ := List.mem_map.mp member
          exact same ▸ least other inRest

theorem pairwise_foldl_put (sorted : kept.Pairwise fun earlier later => earlier.1 < later.1) :
    (listed.foldl (fun kept entry => put entry.1 entry.2 kept) kept).Pairwise
      fun earlier later => earlier.1 < later.1 := by
  induction listed generalizing kept with
  | nil => exact sorted
  | cons entry rest ih => exact ih (pairwise_put sorted)

theorem pairwise_entries :
    (entries listed).Pairwise fun earlier later => earlier.1 < later.1 :=
  pairwise_foldl_put List.Pairwise.nil

-- Sorting changes nothing exactly where the entries are sorted already.
theorem entries_eq_self_iff :
    entries listed = listed ↔ listed.Pairwise fun earlier later => earlier.1 < later.1 := by
  constructor
  · intro same
    exact same ▸ pairwise_entries
  · intro sorted
    have distinct : (listed.map Prod.fst).Nodup :=
      List.pairwise_map.mpr (sorted.imp fun before => ne_of_lt before)
    apply (perm_entries distinct).eq_of_pairwise _ pairwise_entries sorted
    intro left right _ _ before after
    exact absurd after (String.lt_asymm before)

end Entries

theorem pairwise_names (listed : List String) : (names listed).Pairwise (· < ·) := by
  induction listed with
  | nil => exact List.Pairwise.nil
  | cons first rest ih => exact pairwise_enter ih

end SqlPipeline.Sorted
