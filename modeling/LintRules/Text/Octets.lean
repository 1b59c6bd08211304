/-!
# Texts as octets

A text is stored as the octets of UTF-8.  Octets that come from elsewhere may be no text; then the
lines before the first line that is none can still be read.

* `octets`, `ofOctets?`: the octets of a text, and the text of octets.
* `ofOctets?_octets`: a text is what its octets stand for.
* `ofLegibleLines`: the text of the lines before the first one that is no text.
-/

namespace LintRules
namespace Text

/-- The octets of a text. -/
def octets (text : String) : List UInt8 := text.toUTF8.data.toList

/-- The text that octets stand for. -/
def ofOctets? (octets : List UInt8) : Option String := String.fromUTF8? ⟨octets.toArray⟩

/-- A text is what its octets stand for. -/
theorem ofOctets?_octets (text : String) : ofOctets? (octets text) = some text := by
  have h : (⟨(octets text).toArray⟩ : ByteArray) = text.toUTF8 := by
    simp [octets]
  rw [ofOctets?, h, String.fromUTF8?, String.toUTF8_eq_toByteArray, dif_pos text.isValidUTF8]
  rfl

/-- The lines of octets with their line feeds. -/
def octetLines : List UInt8 → List (List UInt8)
  | [] => []
  | o :: rest =>
    if o = 10 then [o] :: octetLines rest
    else
      match octetLines rest with
      | [] => [[o]]
      | line :: more => (o :: line) :: more

/-- Nothing is lost between lines. -/
theorem flatten_octetLines (octets : List UInt8) : (octetLines octets).flatten = octets := by
  induction octets with
  | nil => rfl
  | cons o rest ih =>
    rw [octetLines]
    split
    · rw [List.flatten_cons, ih]
      rfl
    · split
      · next h =>
        rw [h] at ih
        rw [← ih]
        rfl
      · next line more h =>
        rw [h] at ih
        rw [← ih]
        rfl

/-- The text of the lines before the first one that is no text. -/
def ofLegibleLines : List (List UInt8) → String
  | [] => ""
  | line :: rest =>
    match ofOctets? line with
    | some text => text ++ ofLegibleLines rest
    | none => ""

end Text
end LintRules
