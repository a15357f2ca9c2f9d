import SqlPipeline.Config

/-!
What can go wrong before anything is built: files that are missing or unreadable, text of the wrong
shape, configuration that makes no sense, names that are empty, dependencies that run in circles.
-/

namespace SqlPipeline

/-- Why a file could not be read as text. -/
inductive FileFault where
  | missing
  | throughFile
  | directory
  | nameTooLong
  | zeroByte
  | notText
  deriving DecidableEq

def FileFault.message : FileFault → String
  | .missing => "No such file or directory (os error 2)"
  | .throughFile => "Not a directory (os error 20)"
  | .directory => "Is a directory (os error 21)"
  | .nameTooLong => "File name too long (os error 36)"
  | .zeroByte => "file name contained an unexpected NUL byte"
  | .notText => "stream did not contain valid UTF-8"

def ConfigFault.message : ConfigFault → String
  | .emptyDefaultSchema => "default_schema cannot be empty"
  | .emptyAssertionSchema => "assertion_schema cannot be empty"
  | .badSuffix suffix =>
      "schema_suffix '" ++ suffix
        ++ "' must be non-empty and contain only letters, digits and underscores"

/-- The rule that a run configuration breaks when it is not valid. -/
def RunConfig.rule : String :=
  "include_dependencies should only be supplied along with nodes"

inductive ProjectError where
  | configNotFound (path : String)
  | configShape
  | configInvalid (fault : ConfigFault)
  | runConfigInvalid
  | emptyActionName
  | circularDependency (cycle : List String)
  | unreadable (path : String) (fault : FileFault)
  | declarationShape
  | jsonShape
  deriving DecidableEq

def cycleText (cycle : List String) : String := " -> ".intercalate cycle

/-- The wording of an error; none where the wording belongs to the reader of the text. -/
def ProjectError.message? : ProjectError → Option String
  | .configNotFound path => some ("[E001] Config file not found: " ++ path)
  | .configShape => none
  | .configInvalid fault => some ("[E003] Invalid config: " ++ fault.message)
  | .runConfigInvalid => some ("[E004] Invalid run config: " ++ RunConfig.rule)
  | .emptyActionName => some "[E005] Empty name: action name in DAG"
  | .circularDependency cycle =>
      some ("[E007] Circular dependency detected: " ++ cycleText cycle)
  | .unreadable path fault => some ("[E016] Failed to read '" ++ path ++ "': " ++ fault.message)
  | .declarationShape => none
  | .jsonShape => none

end SqlPipeline
