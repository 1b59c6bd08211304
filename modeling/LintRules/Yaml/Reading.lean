import LintRules.Table
import LintRules.Yaml.Shape

/-!
# Reading YAML nodes for their shape

Each reader takes a place and a node, and returns what it expects or the first error in document
order.  Aliases are followed everywhere.

* `readText`: the text of any scalar, as it is written.
* `readOptional`: nothing for an empty or null scalar.
* `readList`, `readTable`, `readRecord`: collections; a plain scalar without text is an empty one.
* `readVariant`: one of a few names, written as a scalar or as a tag.
* `readDocument`: the document of a text, or why there is none to read.

A record is read field by field into a value that starts without any field.  Its fields are a list
of `Field`s, so that what a record accepts can be read off that list.
-/

namespace LintRules
namespace Yaml

variable {α ρ : Type}

/-- The complaint that `node` is not what is expected.  A scalar with a core tag that it does not
fit is wrong in itself. -/
def misfitOf (node : Node) (expected : String) : Misfit :=
  match node with
  | .scalar text plain tag =>
    match Atom.ofScalar text plain tag with
    | .ok a => .wrongType (.atom a) expected
    | .error core => .wrongValue text core.text
  | .seq .. => .wrongType .sequence expected
  | .map .. => .wrongType .map expected
  | .alias _ => .wrongType (.atom .null) expected

/-- Follows an alias and hands the node on. -/
def withDirect (node : Node) (read : Node → Except ShapeError α) : Except ShapeError α :=
  match node.direct? with
  | some node => read node
  | none => .error .tooManyAliases

/-- The text of a scalar. -/
def readText (expected : String) (place : Location) (node : Node) : Except ShapeError String :=
  withDirect node fun
    | .scalar text .. => .ok text
    | node => misfitAt place (misfitOf node expected)

/-- Whether a node stands for a value that is left out; a scalar with the null tag must. -/
def isAbsent : Node → Except ShapeError Bool
  | .scalar text true tag =>
    match tag with
    | none => .ok (text = "" || Atom.isNull text)
    | some tag =>
      if coreTag? tag ≠ some .null then .ok false
      else if Atom.isNull text then .ok true
      else .error (.misfit none (.wrongValue text CoreTag.null.text))
  | _ => .ok false

/-- A value that may be left out. -/
def readOptional (read : Node → Except ShapeError α) (node : Node) :
    Except ShapeError (Option α) :=
  withDirect node fun node => do
    if ← isAbsent node then return none
    else return some (← read node)

/-- Whether a node is left out where a collection is due. -/
def isBlankNode : Node → Bool
  | .scalar text plain _ => plain && text = ""
  | _ => false

/-! ## Lists and tables -/

/-- Reads items one after another. -/
def readItems (read : Location → Node → Except ShapeError α) (place : Location) :
    Nat → List Node → Except ShapeError (List α)
  | _, [] => .ok []
  | index, node :: rest => do
    let a ← read (.item index :: place) node
    return a :: (← readItems read place (index + 1) rest)

/-- A list of items. -/
def readList (read : Location → Node → Except ShapeError α) (place : Location) (node : Node) :
    Except ShapeError (List α) :=
  withDirect node fun
    | .seq _ items => placing place (readItems read place 0 items)
    | node =>
      if isBlankNode node then .ok [] else misfitAt place (misfitOf node "a sequence")

/-- Reads entries with texts as keys one after another. -/
def readEntries (read : Location → Node → Except ShapeError α) (place : Location) :
    List (Node × Node) → Except ShapeError (List (String × α))
  | [] => .ok []
  | (key, value) :: rest => do
    let name ← readText "a string" place key
    let a ← read (.ofKey key :: place) value
    return (name, a) :: (← readEntries read place rest)

/-- A mapping from texts.  Of a repeated key the first entry gives the place in the table and the
last one the value. -/
def readTable (read : Location → Node → Except ShapeError α) (place : Location) (node : Node) :
    Except ShapeError (Table α) :=
  withDirect node fun
    | .map _ entries => (placing place (readEntries read place entries)).map Table.ofList
    | node =>
      if isBlankNode node then .ok .empty else misfitAt place (misfitOf node "a map")

/-! ## Records -/

/-- A field of a record: its name, and how its value changes the record read so far. -/
structure Field (ρ : Type) where
  name : String
  read : Location → Node → ρ → Except ShapeError ρ

/-- What a record looks like. -/
structure RecordShape (ρ : Type) where
  /-- What is expected, in words. -/
  expected : String
  fields : List (Field ρ)
  /-- Whether fields of other names are left unread; otherwise they are refused. -/
  lenient : Bool := false

/-- Whether a record has a use for the value of a field. -/
def RecordShape.isRead (shape : RecordShape ρ) (name : String) : Bool :=
  !shape.lenient || shape.fields.any (·.name == name)

/-- Reads the fields of a record in document order.  `seen` are the names of those before. -/
def readFields (shape : RecordShape ρ) (place : Location) (seen : List String) (record : ρ) :
    List (Node × Node) → Except ShapeError ρ
  | [] => .ok record
  | (key, value) :: rest => do
    let name ← readText "field identifier" place key
    match shape.fields.find? (·.name == name) with
    | none =>
      if shape.lenient then readFields shape place seen record rest
      else misfitAt place (.unknownField name (shape.fields.map (·.name)))
    | some field =>
      if seen.contains name then misfitAt place (.duplicateField name)
      else
        let record ← field.read (.ofKey key :: place) value record
        readFields shape place (name :: seen) record rest

/-- A record: its fields are read into `start`, and `finish` sees to those that are missing. -/
def readRecord {σ : Type} (shape : RecordShape ρ) (start : ρ)
    (finish : ρ → Except ShapeError σ) (place : Location) (node : Node) : Except ShapeError σ :=
  withDirect node fun
    | .map _ entries =>
      placing place (do finish (← readFields shape place [] start entries))
    | node =>
      if isBlankNode node then placing place (finish start)
      else misfitAt place (misfitOf node shape.expected)

/-- The record that a document holds; an empty document is a record without fields. -/
def Document.readRecord {σ : Type} (shape : RecordShape ρ) (start : ρ)
    (finish : ρ → Except ShapeError σ) : Document → Except ShapeError σ
  | .empty => placing [] (finish start)
  | .root node => Yaml.readRecord shape start finish [] node

/-! ## Variants -/

/-- The name that a tag of the text's own gives. -/
def localTag? (tag : Option Tag) : Option String := tag.bind Tag.name?

/-- One of the named values. -/
def pickVariant (variants : List (String × α)) (place : Option Location) (name : String) :
    Except ShapeError α :=
  match variants.find? (·.1 == name) with
  | some v => .ok v.2
  | none => .error (.misfit place (.unknownVariant name (variants.map (·.1))))

/-- A name given by a tag, whose node holds nothing. -/
def readTaggedVariant (variants : List (String × α)) (place : Location) (name : String)
    (node : Node) : Except ShapeError α := do
  let a ← pickVariant variants none name
  match node with
  | .scalar text plain _ =>
    if plain && (text = "" || Atom.isNull text) then .ok a
    else misfitAt place (.wrongValue text CoreTag.null.text)
  | node => misfitAt place (misfitOf node "unit")

/-- One of a few names. -/
def readVariant (variants : List (String × α)) (place : Location) (node : Node) :
    Except ShapeError α :=
  withDirect node fun node =>
    let tag := match node with
      | .scalar _ _ tag | .seq tag _ | .map tag _ => localTag? tag
      | .alias _ => none
    match tag, node with
    | some name, node => readTaggedVariant variants place name node
    | none, .scalar text .. => pickVariant variants (some place) text
    | none, node => misfitAt place (misfitOf node "a YAML tag starting with '!'")

/-! ## Texts -/

/-- Why a text cannot be read. -/
inductive Unreadable where
  /-- The text is not one well-formed document. -/
  | malformed
  /-- Its document has the wrong shape. -/
  | misshapen (e : ShapeError)
  deriving DecidableEq, Repr

/-- The reason in words. -/
def Unreadable.message : Unreadable → String
  | .malformed => "not a single well-formed YAML document"
  | .misshapen e => e.message

/-- What the document of a text holds; `isRead` tells for which keys of the root `read` looks at the
value. -/
def readDocument (isRead : String → Bool) (read : Document → Except ShapeError α)
    (text : String) : Except Unreadable α :=
  match Document.ofText? isRead text with
  | none => .error .malformed
  | some document =>
    match read document with
    | .ok a => .ok a
    | .error e => .error (.misshapen e)

end Yaml
end LintRules
