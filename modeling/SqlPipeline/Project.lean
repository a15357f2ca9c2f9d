import SqlPipeline.Files
import SqlPipeline.Record.Config
import SqlPipeline.Record.Declaration
import SqlPipeline.Yaml.Follow

/-!
The files of a project: its configuration and lists of declarations, both in YAML. A configuration
is checked as soon as it is read; declarations are not.
-/

namespace SqlPipeline

/-- A layout passes over fields that it does not know. -/
def layoutOutline (known : List String) : Yaml.Outline :=
  .record fun name => if known.contains name then .flat else .passed

def Declaration.outline : Yaml.Outline :=
  .list (.record fun name =>
    if name = "redshift" then layoutOutline RedshiftLayout.fieldNames
    else if name = "bigquery" then layoutOutline BigQueryLayout.fieldNames
    else .flat)

/-- A file of the configuration that must be there. -/
def ProjectConfig.load (folder : Folder) (file : String) : Except ProjectError ProjectConfig := do
  if folder.holds file then
    let text ← folder.read file
    match Yaml.decode? .flat ofDocument? text with
    | none => throw .configShape
    | some config =>
        match config.fault? with
        | none => return config
        | some fault => throw (.configInvalid fault)
  else throw (.configNotFound (folder.pathOf file))

/-- The configuration of a project, under the first of its two names that is there. -/
def ProjectConfig.loadFrom (folder : Folder) : Except ProjectError ProjectConfig :=
  if ¬folder.holds "weft.yml" ∧ folder.holds "weft.yaml" then load folder "weft.yaml"
  else load folder "weft.yml"

def Declaration.load (folder : Folder) (file : String) :
    Except ProjectError (List Declaration) := do
  let text ← folder.read file
  match Yaml.decode? outline listOfDocument? text with
  | some declarations => return declarations
  | none => throw .declarationShape

-- A configuration that was loaded is valid.
theorem ProjectConfig.fault?_of_load {folder : Folder} {file : String} {config : ProjectConfig}
    (loaded : load folder file = .ok config) : config.fault? = none := by
  unfold load at loaded
  split at loaded
  · simp only [bind, Except.bind] at loaded
    split at loaded
    · cases loaded
    · split at loaded
      · cases loaded
      · split at loaded
        · cases loaded
          assumption
        · cases loaded
  · cases loaded

end SqlPipeline
