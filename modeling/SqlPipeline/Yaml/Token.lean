import SqlPipeline.Yaml.Scalar
import SqlPipeline.Yaml.Tag

/-!
Lexemes of YAML text. Blocks have no brackets of their own, so where they open and close is marked
by lexemes without a character, and so are keys that nothing stands in front of.
-/

namespace SqlPipeline.Yaml

inductive Token where
  | directive (directive : Directive)
  | documentStart
  | documentEnd
  | openBlockList
  | openBlockRecord
  | closeBlock
  | openList
  | closeList
  | openRecord
  | closeRecord
  | item
  | comma
  | key
  | value
  | alias (name : String)
  | anchor (name : String)
  | tag (tag : Tag)
  | scalar (style : Style) (text : String)
  deriving DecidableEq

end SqlPipeline.Yaml
