/-!
Tasks: the SQL statements of an action, one by one. A plain statement has done its work when the
warehouse accepts it; a check passes when the count it returns is zero.
-/

namespace SqlPipeline

inductive TaskKind where
  | statement
  | assertion
  deriving DecidableEq

namespace TaskKind

def name : TaskKind → String
  | .statement => "statement"
  | .assertion => "assertion"

def all : List TaskKind := [.statement, .assertion]

end TaskKind

structure Task where
  kind : TaskKind
  statement : String
  deriving DecidableEq

namespace Task

def plain (sql : String) : Task := ⟨.statement, sql⟩

def check (sql : String) : Task := ⟨.assertion, sql⟩

end Task
end SqlPipeline
