/-!
# Columns

Fitting a text into a column of a report: an optional limit cuts it to that many characters,
then blanks fill it to the width.  Both count characters, not bytes.

`length_fit` gives the width of the result.
-/

namespace LintRules
namespace Text

/-- Where the text stands in its column. -/
inductive Side where
  | left
  | right
  /-- In the middle; an odd blank goes after the text. -/
  | middle
  deriving DecidableEq, Repr

/-- A column: where the text stands, how wide it is at least, and how much of the text it takes. -/
structure Column where
  side : Side := .left
  width : Nat := 0
  limit : Option Nat := none
  deriving DecidableEq, Repr

/-- The number of blanks before the text, out of `spare` blanks. -/
def Side.before (side : Side) (spare : Nat) : Nat :=
  match side with
  | .left => 0
  | .right => spare
  | .middle => spare / 2

theorem Side.before_le (side : Side) (spare : Nat) : side.before spare ≤ spare := by
  cases side <;> simp only [Side.before] <;> omega

/-- The text cut to the limit and filled with blanks. -/
def Column.fit (column : Column) (text : List Char) : List Char :=
  let kept := match column.limit with
    | some limit => text.take limit
    | none => text
  let spare := column.width - kept.length
  List.replicate (column.side.before spare) ' ' ++ kept ++
    List.replicate (spare - column.side.before spare) ' '

/-- A fitted text fills the column, unless what is kept of it is longer. -/
theorem Column.length_fit (column : Column) (text : List Char) :
    (column.fit text).length =
      max column.width (match column.limit with
        | some limit => min limit text.length
        | none => text.length) := by
  have hb := column.side.before_le
  cases h : column.limit with
  | none =>
    have := hb (column.width - text.length)
    simp only [Column.fit, h, List.length_append, List.length_replicate]
    omega
  | some limit =>
    have := hb (column.width - (text.take limit).length)
    simp only [Column.fit, h, List.length_append, List.length_replicate, List.length_take] at *
    omega

/-- `text` on the left of a column of the given width. -/
def padRight (width : Nat) (text : String) : String :=
  String.ofList (Column.fit { width := width } text.toList)

end Text
end LintRules
