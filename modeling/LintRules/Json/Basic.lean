import LintRules.Decimal.Binary64

/-!
# JSON values

The members of an object are kept in a list, in the order in which they are written.  Where an
order is prescribed the list is built in that order: `Json.ofMembers` sorts members by name, and
of members with one name keeps the last.
-/

namespace LintRules

/-- A JSON value.  Whole numbers and floating point numbers are told apart. -/
inductive Json where
  | null
  | bool (b : Bool)
  | int (n : Int)
  | float (x : Decimal.Binary64)
  | str (s : String)
  | arr (items : List Json)
  | obj (members : List (String × Json))
  deriving Inhabited

namespace Json

/-- Puts a member where its name belongs in a list sorted by name; a member of the same name is
replaced. -/
def insertMember (name : String) (value : Json) : List (String × Json) → List (String × Json)
  | [] => [(name, value)]
  | m :: rest =>
    if name < m.1 then (name, value) :: m :: rest
    else if name = m.1 then (name, value) :: rest
    else m :: insertMember name value rest

/-- The object with the given members, sorted by name; the last of equal names counts. -/
def ofMembers (members : List (String × Json)) : Json :=
  .obj (members.foldl (fun l m => insertMember m.1 m.2 l) [])

/-- The number, or `null` where JSON has no way to write it. -/
def ofFloat (x : Decimal.Binary64) : Json := if x.isFinite then .float x else .null

/-- A text, or `null`. -/
def ofText? : Option String → Json
  | some s => .str s
  | none => .null

mutual

/-- The value with the members of every object in it sorted by name. -/
def sorted : Json → Json
  | .arr items => .arr (sortedItems items)
  | .obj members => ofMembers (sortedMembers members)
  | .null => .null
  | .bool b => .bool b
  | .int n => .int n
  | .float x => .float x
  | .str s => .str s

/-- `sorted` on every item of a list. -/
def sortedItems : List Json → List Json
  | [] => []
  | v :: rest => v.sorted :: sortedItems rest

/-- `sorted` on the value of every member of a list. -/
def sortedMembers : List (String × Json) → List (String × Json)
  | [] => []
  | (name, v) :: rest => (name, v.sorted) :: sortedMembers rest

end

end Json
end LintRules
