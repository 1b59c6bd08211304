import LintRules.Table
import LintRules.Yaml.Written

/-!
# YAML nodes

A `Node` is a value of a YAML text with its aliases followed: an alias holds the node that it
stands for.

An anchor gets a number when its node begins, which is the number of different anchor names met
before it, and an alias stands for the last node of the text whose anchor got the number of its
name.  So an alias may stand for a node around it, and following it never ends; aliases inside
aliases are followed to a fixed depth only, deeper than any reader goes.

No more than a hundred aliases for each event of the text are followed (a scalar and an alias are
one event, a collection is two); the next one is `alias none`.  Whoever reads a root mapping may
leave the values of some of its keys unread; the aliases in them are not followed, and the values
are left out.

* `Document.ofText?`: the document that a text holds.
* `Node.ofWritten?`: the node of a root as it is written, or `none` for an alias without anchor.
-/

namespace LintRules
namespace Yaml

/-- A node of a YAML text. -/
inductive Node where
  | scalar (text : String) (plain : Bool) (tag : Option Tag)
  | seq (tag : Option Tag) (items : List Node)
  | map (tag : Option Tag) (entries : List (Node × Node))
  /-- An alias and the node it stands for; `none` after too many aliases. -/
  | alias (target : Option Node)
  deriving Inhabited

/-! ## Numbers of anchors -/

namespace Written

/-- Anchor names with their latest numbers. -/
abbrev Numbers := List (String × Nat)

/-- Gives an anchor its number. -/
def enterAnchor (known : Numbers) : Option String → Option Nat × Numbers
  | none => (none, known)
  | some name => (some known.length, Entries.put name known.length known)

mutual

/-- Replaces names by numbers; `none` when an alias has no anchor before it. -/
def number? (known : Numbers) : Written String → Option (Written Nat × Numbers)
  | .alias name => (Entries.find? name known).map fun n => (.alias n, known)
  | .scalar marks text plain =>
    let (anchor, known) := enterAnchor known marks.anchor
    some (.scalar ⟨anchor, marks.tag⟩ text plain, known)
  | .seq marks items =>
    let (anchor, known) := enterAnchor known marks.anchor
    match numberItems? known items with
    | some (items, known) => some (.seq ⟨anchor, marks.tag⟩ items, known)
    | none => none
  | .map marks entries =>
    let (anchor, known) := enterAnchor known marks.anchor
    match numberEntries? known entries with
    | some (entries, known) => some (.map ⟨anchor, marks.tag⟩ entries, known)
    | none => none

/-- `number?` on items one after another. -/
def numberItems? (known : Numbers) :
    List (Written String) → Option (List (Written Nat) × Numbers)
  | [] => some ([], known)
  | w :: rest =>
    match number? known w with
    | none => none
    | some (w, known) =>
      match numberItems? known rest with
      | none => none
      | some (rest, known) => some (w :: rest, known)

/-- `number?` on keys and values one after another. -/
def numberEntries? (known : Numbers) :
    List (Written String × Written String) →
      Option (List (Written Nat × Written Nat) × Numbers)
  | [] => some ([], known)
  | (k, v) :: rest =>
    match number? known k with
    | none => none
    | some (k, known) =>
      match number? known v with
      | none => none
      | some (v, known) =>
        match numberEntries? known rest with
        | none => none
        | some (rest, known) => some ((k, v) :: rest, known)

end

/-! ## Following aliases -/

/-- A node under its number, if it has an anchor. -/
def underAnchor (marks : Marks Nat) (w : Written Nat) : List (Nat × Written Nat) :=
  marks.anchor.toList.map (·, w)

mutual

/-- The nodes with an anchor, in the order in which they begin. -/
def anchored : Written Nat → List (Nat × Written Nat)
  | .alias _ => []
  | .scalar marks text plain => underAnchor marks (.scalar marks text plain)
  | .seq marks items => underAnchor marks (.seq marks items) ++ anchoredItems items
  | .map marks entries => underAnchor marks (.map marks entries) ++ anchoredEntries entries

/-- The nodes with an anchor among items. -/
def anchoredItems : List (Written Nat) → List (Nat × Written Nat)
  | [] => []
  | w :: rest => anchored w ++ anchoredItems rest

/-- The nodes with an anchor among keys and values. -/
def anchoredEntries : List (Written Nat × Written Nat) → List (Nat × Written Nat)
  | [] => []
  | (k, v) :: rest => anchored k ++ (anchored v ++ anchoredEntries rest)

end

mutual

/-- The number of events of a node. -/
def events : Written Nat → Nat
  | .alias _ => 1
  | .scalar .. => 1
  | .seq _ items => 2 + eventsOfItems items
  | .map _ entries => 2 + eventsOfEntries entries

/-- The number of events of items. -/
def eventsOfItems : List (Written Nat) → Nat
  | [] => 0
  | w :: rest => events w + eventsOfItems rest

/-- The number of events of keys and values. -/
def eventsOfEntries : List (Written Nat × Written Nat) → Nat
  | [] => 0
  | (k, v) :: rest => events k + events v + eventsOfEntries rest

end

mutual

/-- The node, with `follow` for its aliases.  `used` counts the aliases followed so far. -/
def expand (follow : Nat → Nat → Node × Nat) (used : Nat) : Written Nat → Node × Nat
  | .alias n => follow used n
  | .scalar marks text plain => (.scalar text plain marks.tag, used)
  | .seq marks items =>
    let (items, used) := expandItems follow used items
    (.seq marks.tag items, used)
  | .map marks entries =>
    let (entries, used) := expandEntries follow used entries
    (.map marks.tag entries, used)

/-- `expand` on items one after another. -/
def expandItems (follow : Nat → Nat → Node × Nat) (used : Nat) :
    List (Written Nat) → List Node × Nat
  | [] => ([], used)
  | w :: rest =>
    let (node, used) := expand follow used w
    let (nodes, used) := expandItems follow used rest
    (node :: nodes, used)

/-- `expand` on keys and values one after another. -/
def expandEntries (follow : Nat → Nat → Node × Nat) (used : Nat) :
    List (Written Nat × Written Nat) → List (Node × Node) × Nat
  | [] => ([], used)
  | (k, v) :: rest =>
    let (k, used) := expand follow used k
    let (v, used) := expand follow used v
    let (nodes, used) := expandEntries follow used rest
    ((k, v) :: nodes, used)

end

/-- The node that an alias stands for, with aliases in it followed to the given depth and no more
than `limit` in all. -/
def follow (targets : List (Nat × Written Nat)) (limit : Nat) :
    (depth : Nat) → (used n : Nat) → Node × Nat
  | 0, used, _ => (.alias none, used)
  | depth + 1, used, n =>
    if limit ≤ used then (.alias none, used)
    else
      match targets.find? (·.1 == n) with
      | none => (.alias none, used)
      | some (_, w) =>
        let (node, used) := expand (follow targets limit depth) (used + 1) w
        (.alias (some node), used)

end Written

/-- How deep aliases inside aliases are followed. -/
def Node.aliasDepth : Nat := 130

/-- The node itself, or the one that an alias stands for. -/
def Node.direct? : Node → Option Node
  | .alias none => none
  | .alias (some node) => direct? node
  | node => some node

/-- What stands where a value is left out. -/
def Node.blank : Node := .scalar "" true none

/-- Whether the value of a key is read; `isRead` tells so for the text of a key. -/
def Node.isReadKey (isRead : String → Bool) (key : Node) : Bool :=
  match key.direct? with
  | some (.scalar text ..) => isRead text
  | _ => true

namespace Written

/-- `expandEntries` without the values that are not read. -/
def expandFields (isRead : String → Bool) (follow : Nat → Nat → Node × Nat) (used : Nat) :
    List (Written Nat × Written Nat) → List (Node × Node) × Nat
  | [] => ([], used)
  | (k, v) :: rest =>
    let (k, used) := expand follow used k
    let (v, used) := if k.isReadKey isRead then expand follow used v else (.blank, used)
    let (nodes, used) := expandFields isRead follow used rest
    ((k, v) :: nodes, used)

/-- `expand` on a root of which only the values of some keys are read. -/
def expandRoot (isRead : String → Bool) (follow : Nat → Nat → Node × Nat) :
    Written Nat → Node
  | .map marks entries => .map marks.tag (expandFields isRead follow 0 entries).1
  | w => (expand follow 0 w).1

end Written

/-- The node of a root as it is written, with the values of the keys that are read. -/
def Node.ofWritten? (isRead : String → Bool) (w : Written String) : Option Node :=
  (Written.number? [] w).map fun (w, _) =>
    w.expandRoot isRead (Written.follow w.anchored.reverse (100 * w.events) Node.aliasDepth)

/-! ## Documents -/

/-- What a YAML text holds: nothing, or one node. -/
inductive Document where
  | empty
  | root (node : Node)
  deriving Inhabited

/-- The document of a text, as far as it is read; `none` when the text is not well formed or holds
more documents. -/
def Document.ofText? (isRead : String → Bool) (text : String) : Option Document :=
  match Written.ofText? text with
  | none => none
  | some none => some .empty
  | some (some w) => (Node.ofWritten? isRead w).map .root

end Yaml
end LintRules
