import SqlPipeline.Yaml.Read

/-!
Following aliases. A short document can stand for a very long one, since aliases may stand for
nodes with aliases inside. So a reader follows them at most a hundred times as often as the
document has marks. What a reader passes over does not count.
-/

namespace SqlPipeline.Yaml

/-- What a reader looks at. -/
inductive Outline where
  | passed
  /-- A value, a list of values, or values by name. -/
  | flat
  | list (item : Outline)
  | record (field : String → Outline)

/-- One for an alias, which is followed to the node it stands for. -/
def step (yaml : Yaml) : Nat :=
  match yaml.node with
  | .alias _ => 1
  | _ => 0

def items (yaml : Yaml) : List Yaml :=
  match yaml.target with
  | .list items => items.map yaml.part
  | _ => []

def entries (yaml : Yaml) : List (Yaml × Yaml) :=
  match yaml.target with
  | .record entries => entries.map fun entry => (yaml.part entry.1, yaml.part entry.2)
  | _ => []

/-- How often a reader follows an alias. -/
def follows : Outline → Yaml → Nat
  | .passed, _ => 0
  | .flat, yaml =>
      yaml.step + (yaml.items.map step).sum
        + (yaml.entries.map fun entry => entry.1.step + entry.2.step).sum
  | .list item, yaml => yaml.step + (yaml.items.map (follows item)).sum
  | .record field, yaml =>
      yaml.step + (yaml.entries.map fun entry =>
        entry.1.step + follows (field (entry.1.asText?.getD "")) entry.2).sum

/-- Reads a text of a known outline. -/
def decode? {α : Type} (outline : Outline) (value? : Yaml → Option α) (text : String) : Option α :=
  do
    let yaml ← read? text
    let value ← value? yaml
    if yaml.follows outline ≤ 100 * yaml.node.marks then some value else none

end SqlPipeline.Yaml
