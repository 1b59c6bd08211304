import LintRules.Yaml.Tag

/-!
# YAML tokens

A YAML text is a sequence of tokens: indicators, scalars, names of anchors, tags and directives,
and the marks that indentation stands for (`blockSequenceStart`, `blockMappingStart`,
`blockEnd`).  The end of the text is the end of the list of tokens.
-/

namespace LintRules
namespace Yaml

/-- A token of a YAML text. -/
inductive Token where
  | versionDirective (major minor : Nat)
  | tagDirective (handle : String) (lead : Tag)
  | documentStart
  | documentEnd
  | blockSequenceStart
  | blockMappingStart
  | blockEnd
  | flowSequenceStart
  | flowSequenceEnd
  | flowMappingStart
  | flowMappingEnd
  | blockEntry
  | flowEntry
  | key
  | value
  | alias (name : String)
  | anchor (name : String)
  /-- A tag as written: its handle, empty for a tag in angle brackets, and the rest. -/
  | tag (handle : String) (suffix : Tag)
  /-- A scalar; `plain` when it is written without quotes and not as a block. -/
  | scalar (text : String) (plain : Bool)
  deriving DecidableEq, Repr

end Yaml
end LintRules
