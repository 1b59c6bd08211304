import LintRules.Text.Octets

/-!
# YAML tags

A tag says what a node is to be read as.  It is written in ASCII, with any other octet as an escape
`%hh`, so that a tag need not be a text: it is a sequence of octets, and an octet zero ends it.

A tag that begins with `!` belongs to the text itself.  Such a tag has a name if the octets after
the `!` are a text; the name of a `!` alone is `!`.

* `Tag.ofText`, `Tag.ofOctets`: the tag with a spelling.
* `Tag.name?`: the name of a tag of the text's own.
-/

namespace LintRules
namespace Yaml

/-- A tag, as the octets of its spelling. -/
structure Tag where
  octets : List UInt8
  deriving DecidableEq, Repr, Inhabited

namespace Tag

/-- The tag with a spelling. -/
def ofText (text : String) : Tag := ⟨Text.octets text⟩

/-- The tag that octets spell; an octet zero ends it. -/
def ofOctets (octets : List UInt8) : Tag := ⟨octets.takeWhile (· ≠ 0)⟩

/-- The tag that two parts spell together. -/
def append (lead rest : Tag) : Tag := ⟨lead.octets ++ rest.octets⟩

instance : Append Tag := ⟨append⟩

/-- The tag `!`, which has no handle and no suffix. -/
def bare : Tag := ⟨[33]⟩

/-- Whether the tag belongs to the text itself. -/
def isLocal (tag : Tag) : Bool := tag.octets.head? == some 33

/-- The name of a tag of the text's own. -/
def name? (tag : Tag) : Option String :=
  match tag.octets with
  | [] => none
  | o :: rest =>
    if o ≠ 33 then none
    else Text.ofOctets? (if rest.isEmpty then [o] else rest)

end Tag
end Yaml
end LintRules
