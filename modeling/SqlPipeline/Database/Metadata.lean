import SqlPipeline.Database.Error
import SqlPipeline.Relation

/-!
What exists in a warehouse. A lookup answers for a target with the object that stands there, with
nothing, or with an error. A catalog is a lookup that is known beforehand; it holds one object for
a target, the one entered last.
-/

namespace SqlPipeline

abbrev Lookup := Target → Except DbError (Option Existing)

structure Catalog where
  objects : List Existing

namespace Catalog

def empty : Catalog := ⟨[]⟩

def insert (catalog : Catalog) (object : Existing) : Catalog :=
  ⟨object :: catalog.objects.filter fun other => other.target != object.target⟩

def ofList (objects : List Existing) : Catalog :=
  objects.foldl insert empty

def get? (catalog : Catalog) (target : Target) : Option Existing :=
  catalog.objects.find? fun object => object.target == target

def size (catalog : Catalog) : Nat := catalog.objects.length

def lookup (catalog : Catalog) : Lookup := fun target => .ok (catalog.get? target)

-- What is entered is found again, and no other target changes.
theorem get?_insert (catalog : Catalog) (object : Existing) (target : Target) :
    (catalog.insert object).get? target =
      if object.target = target then some object else catalog.get? target := by
  by_cases same : object.target = target
  · simp [get?, insert, same]
  · simp only [get?, insert, List.find?_cons, beq_eq_false_iff_ne.mpr same, if_neg same,
      List.find?_filter]
    congr 1
    funext candidate
    by_cases here : candidate.target = target
    · simp [here, Ne.symm same]
    · simp [here]

end Catalog
end SqlPipeline
