import LintRules.Json.Printer
import LintRules.Yaml.Reading

/-!
# YAML values of any shape

Where a document may hold any value, such as the options of a rule, the value is read as a
`Value`: scalars by what they stand for, collections, and values under a tag of the text's own.

How strict the reading is depends on the use and is given by a `Reading`: whether tags are kept or
refused, and whether a mapping may hold two equal keys.  Collections may nest up to a given depth.

* `Value.read`: the value of a node, or the first error in document order.
* `Value.same`: equality of values, in which the order of a mapping does not count.
* `Value.toJson`: the JSON value, or why a key of some mapping in it is not a text in JSON.
-/

namespace LintRules
namespace Yaml

open Decimal

/-- A value of any shape. -/
inductive Value where
  | null
  | bool (b : Bool)
  | int (n : Int)
  | float (x : Binary64)
  | text (s : String)
  | seq (items : List Value)
  | map (entries : List (Value × Value))
  | tagged (tag : String) (value : Value)
  deriving Inhabited

namespace Value

/-- The value of a scalar. -/
def ofAtom : Atom → Value
  | .null => .null
  | .bool b => .bool b
  | .int n => .int n
  | .float x => .float x
  | .text s => .text s

/-! ## Equality -/

/-- A tag without the mark before it, unless it is nothing else. -/
def bareTag (tag : String) : String :=
  match Text.afterPrefix? "!" tag with
  | some rest => if rest = "" then tag else rest
  | none => tag

mutual

/-- Whether two values are equal.  A whole number is not equal to a floating point number, and the
order of a mapping does not count. -/
def same : Value → Value → Bool
  | .null, .null => true
  | .bool a, .bool b => a == b
  | .int a, .int b => a == b
  | .float a, .float b => a.same b
  | .text a, .text b => a == b
  | .seq as, .seq bs => sameItems as bs
  | .map as, .map bs => as.length == bs.length && sameEntries as bs
  | .tagged t a, .tagged u b => bareTag t == bareTag u && same a b
  | _, _ => false

/-- Whether two lists have equal items. -/
def sameItems : List Value → List Value → Bool
  | [], [] => true
  | a :: as, b :: bs => same a b && sameItems as bs
  | _, _ => false

/-- Whether each entry of the first mapping is one of the second. -/
def sameEntries : List (Value × Value) → List (Value × Value) → Bool
  | [], _ => true
  | (k, v) :: rest, bs => bs.any (fun e => same k e.1 && same v e.2) && sameEntries rest bs

end

/-! ## Reading -/

/-- A floating point number as a key of a mapping. -/
def floatText : Binary64 → String
  | .undefined => ".nan"
  | .infinite negative => if negative then "-.inf" else ".inf"
  | x => (Layout.between (-5) 15).text x

/-- A key that occurs twice, in words. -/
def duplicateText : Value → String
  | .null => "with null key"
  | .bool b => "with key " ++ ticked (if b then "true" else "false")
  | .int n => "with key " ++ toString n
  | .float x => "with key " ++ floatText x
  | .text s => "with key " ++ Text.quoted s
  | .seq _ | .map _ | .tagged .. => "in YAML map"

/-- How values of any shape are read. -/
structure Reading where
  /-- Whether tags are kept; otherwise they are refused. -/
  tags : Bool
  /-- Whether a mapping may hold equal keys. -/
  equalKeys : Bool
  /-- What is expected, in words. -/
  expected : String

/-- A value that is kept as it is. -/
def Reading.anyValue : Reading := ⟨true, false, "any YAML value"⟩

/-- A value that is looked at once more before its type is known. -/
def Reading.undecided : Reading := ⟨false, true, "any value"⟩

/-- The value of a scalar.  Whole numbers of more than 64 bits are refused. -/
def readAtom (how : Reading) (place : Location) : Except CoreTag Atom → String →
    Except ShapeError Value
  | .ok (.int n), _ =>
    if isNarrow n then .ok (.int n)
    else misfitAt place (.wrongType (.atom (.int n)) how.expected)
  | .ok a, _ => .ok (ofAtom a)
  | .error core, written => misfitAt place (.wrongValue written core.text)

/-- Puts a value under its tag, if it has one.  The value is told whether a tag is read. -/
def underTag (how : Reading) (place : Location) (tagRead : Bool) (tag : Option Tag)
    (value : Bool → Except ShapeError Value) : Except ShapeError Value :=
  match if tagRead then none else localTag? tag with
  | none => value tagRead
  | some name =>
    if how.tags then (value true).map (.tagged name) else misfitAt place .tagRefused

/-- How deep collections may nest in a document, the root being the first one. -/
def depthLimit : Nat := 128

mutual

/-- The value of a node; collections may nest `room` deep.  `tagRead` tells that a tag is read
already, so that the one of the node does not count.  That is so for the keys of a mapping under a
tag. -/
def readUnder (how : Reading) (room : Nat) (place : Location) (tagRead : Bool) :
    Node → Except ShapeError Value
  | .alias none => .error .tooManyAliases
  | .alias (some node) => readUnder how room place false node
  | .scalar written plain tag =>
    underTag how place tagRead tag fun tagRead =>
      readAtom how place (Atom.ofScalar written plain (if tagRead then none else tag)) written
  | .seq tag items =>
    underTag how place tagRead tag fun _ =>
      match room with
      | 0 => .error .tooDeep
      | room + 1 => (readEach how room place 0 items).map .seq
  | .map tag entries =>
    underTag how place tagRead tag fun tagRead =>
      match room with
      | 0 => .error .tooDeep
      | room + 1 => (readPairs how room place tagRead [] entries).map .map

/-- The values of items one after another. -/
def readEach (how : Reading) (room : Nat) (place : Location) (index : Nat) :
    List Node → Except ShapeError (List Value)
  | [] => .ok []
  | node :: rest => do
    let v ← readUnder how room (.item index :: place) false node
    let vs ← readEach how room place (index + 1) rest
    return v :: vs

/-- The keys and values of entries one after another; `before` are the entries before them. -/
def readPairs (how : Reading) (room : Nat) (place : Location) (tagRead : Bool)
    (before : List (Value × Value)) : List (Node × Node) → Except ShapeError (List (Value × Value))
  | [] => .ok before
  | (key, value) :: rest => do
    let k ← readUnder how room place tagRead key
    match if how.equalKeys then none else before.find? (fun e => same k e.1) with
    | some (first, _) => misfitAt place (.duplicateKey (duplicateText first))
    | none =>
      let v ← readUnder how room (.ofKey key :: place) false value
      readPairs how room place tagRead (before ++ [(k, v)]) rest

end

/-- The value of a node; collections may nest `room` deep. -/
def read (how : Reading) (room : Nat) (place : Location) (node : Node) :
    Except ShapeError Value :=
  readUnder how room place false node

/-! ## As JSON -/

/-- Why a key is not a text in JSON. -/
inductive KeyError where
  | notText
  | notFinite
  deriving DecidableEq, Repr

/-- The reason in words. -/
def KeyError.message : KeyError → String
  | .notText => "key must be a string"
  | .notFinite => "float key must be finite (got NaN or +/-inf)"

/-- The text of a key. -/
def keyText : Value → Except KeyError String
  | .text s => .ok s
  | .bool b => .ok (if b then "true" else "false")
  | .int n => .ok (toString n)
  | .float x => if x.isFinite then .ok (Json.numberLayout.text x) else .error .notFinite
  | .null | .seq _ | .map _ | .tagged .. => .error .notText

mutual

/-- The JSON value; objects are sorted by name, and of equal names the last counts. -/
def toJson : Value → Except KeyError Json
  | .null => .ok .null
  | .bool b => .ok (.bool b)
  | .int n => .ok (.int n)
  | .float x => .ok (Json.ofFloat x)
  | .text s => .ok (.str s)
  | .seq items => (itemsToJson items).map .arr
  | .map entries => (entriesToJson entries).map Json.ofMembers
  | .tagged tag value => (toJson value).map fun v => .obj [("!" ++ bareTag tag, v)]

/-- The JSON values of items. -/
def itemsToJson : List Value → Except KeyError (List Json)
  | [] => .ok []
  | v :: rest => do
    let j ← toJson v
    let js ← itemsToJson rest
    return j :: js

/-- The members of a mapping. -/
def entriesToJson : List (Value × Value) → Except KeyError (List (String × Json))
  | [] => .ok []
  | (k, v) :: rest => do
    let name ← keyText k
    let j ← toJson v
    let js ← entriesToJson rest
    return (name, j) :: js

end

end Value
end Yaml
end LintRules
