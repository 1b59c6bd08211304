import LintRules.Manifest.Basic

/-!
# Reading manifests

A manifest is a YAML document with the fields `kind`, `description`, `terms`, `rules` and
`processor`, all of which may be missing.  Fields of other names are refused, at the root and
further down.

* `Manifest.read`: the manifest that a document holds.
* `Manifest.ofText`: the manifest of a text, or why it cannot be read.
-/

namespace LintRules

open Yaml

namespace Term

/-- The fields of a term; the pattern may not have been read yet. -/
def shape : RecordShape (Option String × Term) where
  expected := "struct TermSpec"
  fields := [
    ⟨"pattern", fun place node (_, term) => do
      return (some (← readText "a string" place node), term)⟩,
    ⟨"replacement", fun place node (pattern, term) => do
      let replacement ← readOptional (readText "a string" place) node
      return (pattern, { term with replacement })⟩,
    ⟨"message", fun place node (pattern, term) => do
      let message ← readOptional (readText "a string" place) node
      return (pattern, { term with message })⟩]

/-- A term must have a pattern. -/
def finish : Option String × Term → Except ShapeError Term
  | (some pattern, term) => .ok { term with pattern }
  | (none, _) => .error (.misfit none (.missingField "pattern"))

/-- The term at a node. -/
def read : Location → Node → Except ShapeError Term :=
  readRecord shape (none, { pattern := "" }) finish

end Term

namespace TermRule

/-- The fields of a rule inside a preset or a plugin. -/
def shape : RecordShape TermRule where
  expected := "struct RuleManifest"
  fields := [
    ⟨"description", fun place node rule => do
      let description ← readOptional (readText "a string" place) node
      return { rule with description }⟩,
    ⟨"terms", fun place node rule => do
      return { rule with terms := ← readList Term.read place node }⟩]

/-- The rule at a node. -/
def read : Location → Node → Except ShapeError TermRule := readRecord shape {} .ok

end TermRule

namespace Manifest

/-- The field of a processor; it may not have been read yet. -/
def processorShape : RecordShape (Option (List String)) where
  expected := "struct ProcessorManifest"
  fields := [
    ⟨"extensions", fun place node _ => do
      return some (← readList (readText "a string") place node)⟩]

/-- A processor must have extensions. -/
def finishProcessor : Option (List String) → Except ShapeError (List String)
  | some extensions => .ok extensions
  | none => .error (.misfit none (.missingField "extensions"))

/-- The kinds under the names that a manifest gives them. -/
def kinds : List (String × PackageKind) :=
  [("rule", .rule), ("preset", .preset), ("plugin", .plugin)]

/-- The fields of a manifest. -/
def shape : RecordShape Manifest where
  expected := "struct PackageManifest"
  fields := [
    ⟨"kind", fun place node manifest => do
      return { manifest with kind := ← readVariant kinds place node }⟩,
    ⟨"description", fun place node manifest => do
      let description ← readOptional (readText "a string" place) node
      return { manifest with description }⟩,
    ⟨"terms", fun place node manifest => do
      return { manifest with terms := ← readList Term.read place node }⟩,
    ⟨"rules", fun place node manifest => do
      let rules ← readOptional (readTable TermRule.read place) node
      return { manifest with rules }⟩,
    ⟨"processor", fun place node manifest => do
      let extensions ← readOptional (readRecord processorShape none finishProcessor place) node
      return { manifest with extensions }⟩]

/-- The manifest that a document holds. -/
def read (document : Document) : Except ShapeError Manifest := document.readRecord shape {} .ok

/-- The manifest of a text. -/
def ofText (text : String) : Except Unreadable Manifest := readDocument shape.isRead read text

/-- The manifest in a file. -/
def ofFile (files : Files) (path : Path) : Except LoadError Manifest :=
  match files.text path with
  | .error why => .error (.file path why)
  | .ok text =>
    match ofText text with
    | .error why => .error (.unreadable path why)
    | .ok manifest => .ok manifest

end Manifest
end LintRules
