/-!
Targets: the warehouse object an action writes, `[database.]schema.name`.
-/

namespace SqlPipeline

structure Target where
  schema : String
  name : String
  database : Option String
  deriving DecidableEq

namespace Target

/-- A target without a database. -/
def inSchema (schema name : String) : Target := ⟨schema, name, none⟩

def withDatabase (target : Target) (database : Option String) : Target :=
  { target with database }

/-- The object of another name in the same schema and database. -/
def sibling (target : Target) (name : String) : Target := { target with name }

/-- Where a table is built before it takes its place. -/
def temporary (target : Target) : Target := target.sibling (target.name ++ "_temp")

def path (target : Target) : String :=
  match target.database with
  | some database => database ++ "." ++ target.schema ++ "." ++ target.name
  | none => target.schema ++ "." ++ target.name

/-- Absent before present, present ones by their text. -/
def databaseLt : Option String → Option String → Bool
  | none, none => false
  | none, some _ => true
  | some _, none => false
  | some left, some right => left < right

/-- Targets are ordered by schema, then name, then database. -/
def lt (left right : Target) : Bool :=
  if left.schema = right.schema then
    if left.name = right.name then databaseLt left.database right.database
    else left.name < right.name
  else left.schema < right.schema

def sorted (targets : List Target) : List Target :=
  targets.mergeSort fun left right => !right.lt left

end Target
end SqlPipeline
