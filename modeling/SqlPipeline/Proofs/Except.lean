import Mathlib.Data.List.Forall2

/-!
Computations that can fail. What is done for one item of a list after the other comes to results for
all of them, or to the failure of the first item that fails.
-/

namespace SqlPipeline

section Steps
variable {Fault Other First Second : Type} {first : Except Fault First}

theorem bind_eq_ok_iff {next : First → Except Fault Second} {result : Second} :
    first.bind next = .ok result ↔ ∃ middle, first = .ok middle ∧ next middle = .ok result := by
  cases first <;> simp [Except.bind]

theorem bind_eq_error_iff {next : First → Except Fault Second} {fault : Fault} :
    first.bind next = .error fault ↔
      first = .error fault ∨ ∃ middle, first = .ok middle ∧ next middle = .error fault := by
  cases first <;> simp [Except.bind]

theorem map_eq_ok_iff {change : First → Second} {result : Second} :
    first.map change = .ok result ↔ ∃ middle, first = .ok middle ∧ change middle = result := by
  cases first <;> simp [Except.map]

theorem map_eq_error_iff {change : First → Second} {fault : Fault} :
    first.map change = .error fault ↔ first = .error fault := by
  cases first <;> simp [Except.map]

theorem mapError_eq_ok_iff {change : Fault → Other} {result : First} :
    first.mapError change = .ok result ↔ first = .ok result := by
  cases first <;> simp [Except.mapError]

end Steps

/-! ## The first of a list -/

/-- The first item of a list that has a property. -/
def First {Item : Type} (Has : Item → Prop) (items : List Item) (item : Item) : Prop :=
  Has item ∧ ∃ before after, items = before ++ item :: after ∧ ∀ other ∈ before, ¬ Has other

section First
variable {Item : Type} {Has : Item → Prop} {items : List Item} {item : Item}

theorem First.mem (first : First Has items item) : item ∈ items := by
  obtain ⟨_, before, after, rfl, _⟩ := first
  exact List.mem_append_right _ List.mem_cons_self

theorem First.head (has : Has item) : First Has (item :: items) item :=
  ⟨has, [], items, rfl, nofun⟩

theorem First.cons {other : Item} (hasNot : ¬ Has other) (first : First Has items item) :
    First Has (other :: items) item := by
  obtain ⟨has, before, after, rfl, none⟩ := first
  exact ⟨has, other :: before, after, rfl, List.forall_mem_cons.mpr ⟨hasNot, none⟩⟩

theorem find?_eq_some_iff_first {keep : Item → Bool}
    (decides : ∀ item, keep item = true ↔ Has item) :
    items.find? keep = some item ↔ First Has items item := by
  simp only [List.find?_eq_some_iff_append, First, decides, Bool.not_eq_true', ← Bool.not_eq_true]

theorem exists_first (member : item ∈ items) (has : Has item) :
    ∃ first, First Has items first := by
  induction items with
  | nil => cases member
  | cons other rest ih =>
    by_cases here : Has other
    · exact ⟨other, .head here⟩
    · rcases List.mem_cons.mp member with rfl | later
      · exact absurd has here
      · obtain ⟨first, found⟩ := ih later
        exact ⟨first, found.cons here⟩

end First

/-! ## One item after the other -/

theorem exists_mapM {Item Result Fault : Type} {make : Item → Except Fault Result}
    {items : List Item} (good : ∀ item ∈ items, ∃ result, make item = .ok result) :
    ∃ results, items.mapM make = .ok results := by
  induction items with
  | nil => exact ⟨[], rfl⟩
  | cons item rest ih =>
    obtain ⟨result, first⟩ := good item List.mem_cons_self
    obtain ⟨results, later⟩ := ih fun other member => good other (List.mem_cons_of_mem _ member)
    refine ⟨result :: results, ?_⟩
    rw [List.mapM_cons, first, later]
    rfl

theorem forall₂_of_mapM {Item Result Fault : Type} {make : Item → Except Fault Result}
    {items : List Item} {results : List Result} (good : items.mapM make = .ok results) :
    List.Forall₂ (fun item result => make item = .ok result) items results := by
  induction items generalizing results with
  | nil =>
    cases good
    exact .nil
  | cons item rest ih =>
    rw [List.mapM_cons] at good
    obtain ⟨result, first, good⟩ := bind_eq_ok_iff.mp good
    obtain ⟨others, later, good⟩ := bind_eq_ok_iff.mp good
    cases good
    exact .cons first (ih later)

theorem exists_of_forall₂ {Item Result : Type} {Related : Item → Result → Prop} {items : List Item}
    {results : List Result} (all : List.Forall₂ Related items results) {result : Result}
    (member : result ∈ results) : ∃ item ∈ items, Related item result := by
  induction all with
  | nil => cases member
  | cons first _ ih =>
    rcases List.mem_cons.mp member with rfl | later
    · exact ⟨_, List.mem_cons_self, first⟩
    · obtain ⟨item, listed, related⟩ := ih later
      exact ⟨item, List.mem_cons_of_mem _ listed, related⟩

section Failure
variable {Item Result Fault : Type} {items : List Item} {item : Item}
  {make other : Item → Except Fault Result} {fault : Fault}

theorem mapM_of_first (first : First (fun item => ∃ fault, make item = .error fault) items item)
    (failed : make item = .error fault) : items.mapM make = .error fault := by
  obtain ⟨_, before, after, rfl, none⟩ := first
  have good : ∀ earlier ∈ before, ∃ result, make earlier = .ok result := by
    intro earlier member
    cases made : make earlier with
    | ok result => exact ⟨result, rfl⟩
    | error fault => exact absurd ⟨fault, made⟩ (none earlier member)
  obtain ⟨results, made⟩ := exists_mapM good
  rw [List.mapM_append, made, List.mapM_cons, failed]
  rfl

theorem first_of_mapM (failed : items.mapM make = .error fault) :
    ∃ item, First (fun item => ∃ fault, make item = .error fault) items item ∧
      make item = .error fault := by
  induction items with
  | nil => cases failed
  | cons item rest ih =>
    rw [List.mapM_cons] at failed
    rcases bind_eq_error_iff.mp failed with failed | ⟨result, made, failed⟩
    · exact ⟨item, .head ⟨fault, failed⟩, failed⟩
    · rcases bind_eq_error_iff.mp failed with failed | ⟨_, _, failed⟩
      · obtain ⟨first, found, refused⟩ := ih failed
        refine ⟨first, found.cons ?_, refused⟩
        rintro ⟨fault, failed⟩
        rw [made] at failed
        cases failed
      · cases failed

theorem mapM_congr (same : ∀ item ∈ items, make item = other item) :
    items.mapM make = items.mapM other := by
  induction items with
  | nil => rfl
  | cons item rest ih =>
    rw [List.mapM_cons, List.mapM_cons, same item List.mem_cons_self,
      ih fun later member => same later (List.mem_cons_of_mem _ member)]

end Failure
end SqlPipeline
