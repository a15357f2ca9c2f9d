/-!
Names of actions. A name is any text but the empty one.
-/

namespace SqlPipeline

structure ActionName where
  text : String
  nonempty : text ≠ ""
  deriving DecidableEq

namespace ActionName

def ofText? (text : String) : Option ActionName :=
  if nonempty : text ≠ "" then some ⟨text, nonempty⟩ else none

theorem ofText?_text (name : ActionName) : ofText? name.text = some name := by
  simp [ofText?, name.nonempty]

theorem ofText?_eq_none_iff (text : String) : ofText? text = none ↔ text = "" := by
  simp [ofText?]

end ActionName
end SqlPipeline
