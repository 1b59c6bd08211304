import LintRules.Json.Draft
import LintRules.Json.Printer
import LintRules.Table

/-!
# Reading JSON texts for their shape

A reader takes the draft of a value and returns what it expects or the first thing that is wrong
in the order of the text: either the text is not JSON there, or it is and has the wrong shape.

A record is an object with given fields, of which others are left unread, or an array of the
values of its fields in order.  An array may end early, but must not go on after the last field.
-/

namespace LintRules
namespace Json

variable {α ρ : Type}

/-- What is wrong about the shape of a value. -/
inductive Misfit where
  | wrongType (found : String) (expected : String)
  | missingField (name : String)
  | duplicateField (name : String)
  /-- An array with too few values. -/
  | wrongLength (length : Nat) (expected : String)
  deriving DecidableEq, Repr

/-- What is wrong, in words. -/
def Misfit.message : Misfit → String
  | .wrongType found expected => "invalid type: " ++ found ++ ", expected " ++ expected
  | .missingField name => "missing field \x60" ++ name ++ "\x60"
  | .duplicateField name => "duplicate field \x60" ++ name ++ "\x60"
  | .wrongLength length expected =>
    "invalid length " ++ toString length ++ ", expected " ++ expected

/-- Why a text is refused. -/
inductive Refusal where
  /-- The text is not JSON. -/
  | notJson
  /-- A value has the wrong shape. -/
  | shape (what : Misfit)
  deriving DecidableEq, Repr

/-- A value of the wrong shape; it is described as it stands, and one that cannot be read is not
JSON. -/
def misfit (expected : String) (draft : Draft) : Except Refusal α :=
  let wrong (found : String) : Except Refusal α := .error (.shape (.wrongType found expected))
  match draft with
  | .null => wrong "null"
  | .bool b => wrong (if b then "boolean \x60true\x60" else "boolean \x60false\x60")
  | .number n =>
    match n.value? with
    | some (.int n) => wrong ("integer \x60" ++ toString n ++ "\x60")
    | some (.float x) => wrong ("floating point \x60" ++ numberLayout.text x ++ "\x60")
    | _ => .error .notJson
  | .string (some s) => wrong ("string " ++ Text.quoted s)
  | .array .. => wrong "sequence"
  | .object .. => wrong "map"
  | .string none | .broken => .error .notJson

/-- A text. -/
def readText (expected : String) : Draft → Except Refusal String
  | .string (some s) => .ok s
  | draft => misfit expected draft

/-- A value or null. -/
def readOptional (read : Draft → Except Refusal α) : Draft → Except Refusal (Option α)
  | .null => .ok none
  | draft => (read draft).map some

/-- Items one after another. -/
def readEach (read : Draft → Except Refusal α) : List Draft → Except Refusal (List α)
  | [] => .ok []
  | draft :: rest => do
    let a ← read draft
    let more ← readEach read rest
    return a :: more

/-- A list of values. -/
def readList (read : Draft → Except Refusal α) : Draft → Except Refusal (List α)
  | .array items closed => do
    let l ← readEach read items
    if closed then .ok l else .error .notJson
  | draft => misfit "a sequence" draft

/-- Members one after another. -/
def readEachMember (read : Draft → Except Refusal α) :
    List (Option String × Draft) → Except Refusal (List (String × α))
  | [] => .ok []
  | (none, _) :: _ => .error .notJson
  | (some name, draft) :: rest => do
    let a ← read draft
    let more ← readEachMember read rest
    return (name, a) :: more

/-- A mapping from texts; of a repeated name the first member gives the place and the last one the
value. -/
def readTable (read : Draft → Except Refusal α) : Draft → Except Refusal (Table α)
  | .object members closed => do
    let l ← readEachMember read members
    if closed then .ok (Table.ofList l) else .error .notJson
  | draft => misfit "a map" draft

/-- A value of any shape whose collections nest at most `room` deep; objects are sorted by name. -/
def readAny (room : Nat) (draft : Draft) : Except Refusal Json :=
  if room < draft.depth then .error .notJson
  else match draft.toJson? with
    | some v => .ok v.sorted
    | none => .error .notJson

/-! ## Records -/

/-- A field of a record: its name, and how its value changes the record read so far. -/
structure Field (ρ : Type) where
  name : String
  read : Draft → ρ → Except Refusal ρ

/-- The members of a record one after another; `seen` are the names of those before. -/
def readFields (fields : List (Field ρ)) (seen : List String) (record : ρ) :
    List (Option String × Draft) → Except Refusal (List String × ρ)
  | [] => .ok (seen, record)
  | (none, _) :: _ => .error .notJson
  | (some name, draft) :: rest =>
    match fields.find? (·.name == name) with
    | none => if draft.isWhole then readFields fields seen record rest else .error .notJson
    | some field =>
      if seen.contains name then .error (.shape (.duplicateField name))
      else do
        let record ← field.read draft record
        readFields fields (name :: seen) record rest

/-- The items of a record one after another: the record, and the number of items read. -/
def readPlaces (record : ρ) : List (Field ρ) → List Draft → Except Refusal (ρ × Nat)
  | field :: fields, draft :: rest => do
    let record ← field.read draft record
    let (record, n) ← readPlaces record fields rest
    return (record, n + 1)
  | _, _ => .ok (record, 0)

/-- A record with the fields `fields`.  With `complete` none of them may be missing. -/
def readRecord (expected : String) (fields : List (Field ρ)) (complete : Bool) (start : ρ) :
    Draft → Except Refusal ρ
  | .object members closed => do
    let (seen, record) ← readFields fields [] start members
    if !closed then .error .notJson
    else
      match (if complete then fields.find? (!seen.contains ·.name) else none) with
      | some field => .error (.shape (.missingField field.name))
      | none => .ok record
  | .array items closed => do
    let (record, n) ← readPlaces start fields items
    if n < fields.length then
      if !closed then .error .notJson
      else if complete then
        .error (.shape (.wrongLength n
          (expected ++ " with " ++ toString fields.length ++ " elements")))
      else .ok record
    else if closed && items.length == n then .ok record
    else .error .notJson
  | draft => misfit expected draft

/-- What a text holds. -/
def Source.read (read : Draft → Except Refusal α) (source : Source) : Except Refusal α :=
  match read source.root with
  | .ok a => if source.clean then .ok a else .error .notJson
  | .error e => .error e

end Json
end LintRules
