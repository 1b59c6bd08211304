import LintRules.Json.Basic

/-!
# JSON texts as far as they can be read

Whoever reads a JSON text for a particular shape may find that a value has the wrong shape before
the place where the text stops being JSON, or the other way round; the first of the two counts.
So reading a text never fails: it yields a `Draft`, which holds what the text says up to the
first place that is not JSON, and there an open collection or `Draft.broken`.

* `Numeral.value?`: the number that a numeral stands for; `none` when it is too large.
* `Source.ofText`: the draft of a text, and whether nothing but blanks follows it.
* `Source.toJson?`: the value, when all of the text is JSON.
-/

namespace LintRules
namespace Json

open Decimal

/-- A number as it is written. -/
structure Numeral where
  negative : Bool
  whole : List Nat
  /-- The digits after the point, if there is a point. -/
  places : Option (List Nat)
  /-- Whether the exponent is negative, and its digits. -/
  exponent : Option (Bool × List Nat)
  deriving DecidableEq, Repr, Inhabited

/-- A JSON text up to the place where it stops being one. -/
inductive Draft where
  | null
  | bool (b : Bool)
  | number (n : Numeral)
  /-- A string; `none` when it holds half of a surrogate pair and so is no text. -/
  | string (s : Option String)
  /-- The items read; `closed` when the closing bracket was reached. -/
  | array (items : List Draft) (closed : Bool)
  /-- The members read; `closed` when the closing brace was reached.  The name of a member is
  `none` when it is no text. -/
  | object (members : List (Option String × Draft)) (closed : Bool)
  /-- No value can be read here. -/
  | broken
  deriving Inhabited

/-- A draft and what follows it in the text. -/
structure Source where
  root : Draft
  /-- The root is followed by blanks only. -/
  clean : Bool
  deriving Inhabited

/-! ## Numerals -/

namespace Numeral

/-- The largest whole number that a significand or a whole number may have. -/
def limit : Nat := 18446744073709551615

/-- Appends digits to a significand as long as it stays within the limit, and returns the digits
that are left. -/
def absorb (significand : Nat) : List Nat → Nat × List Nat
  | [] => (significand, [])
  | d :: rest =>
    if significand * 10 + d ≤ limit then absorb (significand * 10 + d) rest
    else (significand, d :: rest)

/-- `10 ^ n` as a floating point number, for `n` up to 308. -/
def power (n : Nat) : Binary64 := Binary64.ofDecimal false 1 n

/-- Scales `x` by `10 ^ exponent`, dividing in steps of `10 ^ 308`; `none` when the result is too
large.  Three steps take any significand to zero, so `steps` never runs out. -/
def scale (x : Binary64) (exponent : Int) : (steps : Nat) → Option Binary64
  | 0 => some (.zero false)
  | steps + 1 =>
    if exponent.natAbs ≤ 308 then
      if 0 ≤ exponent then
        let y := x.product (power exponent.toNat)
        if y.isFinite then some y else none
      else some (x.quotient (power (-exponent).toNat))
    else if x.same (.zero false) then some x
    else if 0 ≤ exponent then none
    else scale (x.quotient (power 308)) (exponent + 308) steps

/-- The whole number of a list of digits. -/
def ofDigits (digits : List Nat) : Nat := digits.foldl (fun n d => n * 10 + d) 0

/-- The floating point number of a numeral: the significand holds as many digits as fit, further
digits before the point raise the exponent, and further digits after it are dropped. -/
def float? (n : Numeral) : Option Binary64 :=
  let (significand, left) := absorb 0 n.whole
  let (significand, places) := match n.places with
    | none => (significand, (0 : Int))
    | some places =>
      let (significand, unread) := absorb significand places
      (significand, (places.length : Int) - unread.length)
  let start : Int := left.length - places
  let exponent : Option Int := match n.exponent with
    | none => some start
    | some (negative, digits) =>
      let e : Int := ofDigits digits
      if e ≤ 2147483647 then some (if negative then start - e else start + e)
      else none
  let magnitude := match exponent, n.exponent with
    | some e, _ => scale (Binary64.ofDecimal false significand 0) e 4
    | none, some (false, _) => if significand = 0 then some (.zero false) else none
    | none, _ => some (.zero false)
  magnitude.map fun x => if n.negative then x.negate else x

/-- The number that a numeral stands for: a whole number of 64 bits where the numeral has neither
point nor exponent and the number fits, a floating point number otherwise.  Minus zero is a
floating point number. -/
def value? (n : Numeral) : Option Json :=
  let whole := ofDigits n.whole
  if n.places.isNone && n.exponent.isNone && whole ≤ limit then
    if !n.negative then some (.int whole)
    else if 0 < whole && whole ≤ 9223372036854775808 then some (.int (-whole))
    else some (.float (Binary64.ofDecimal true whole 0))
  else n.float?.map .float

end Numeral

/-! ## Reading -/

/-- Drops the blanks of JSON. -/
def skipBlanks : List Char → List Char
  | [] => []
  | c :: text =>
    if c = ' ' ∨ c = '\n' ∨ c = '\t' ∨ c = '\r' then skipBlanks text else c :: text

/-- The value of a decimal digit. -/
def digit? (c : Char) : Option Nat :=
  if '0' ≤ c ∧ c ≤ '9' then some (c.toNat - '0'.toNat) else none

/-- The digits at the beginning of a text. -/
def takeDigits : List Char → List Nat × List Char
  | [] => ([], [])
  | c :: text =>
    match digit? c with
    | some d => let (ds, rest) := takeDigits text; (d :: ds, rest)
    | none => ([], c :: text)

/-- The value of a hexadecimal digit. -/
def hexDigit? (c : Char) : Option Nat :=
  if '0' ≤ c ∧ c ≤ '9' then some (c.toNat - '0'.toNat)
  else if 'a' ≤ c ∧ c ≤ 'f' then some (c.toNat - 'a'.toNat + 10)
  else if 'A' ≤ c ∧ c ≤ 'F' then some (c.toNat - 'A'.toNat + 10)
  else none

/-- Four hexadecimal digits. -/
def hex4? : List Char → Option (Nat × List Char)
  | a :: b :: c :: d :: rest => do
    let a ← hexDigit? a
    let b ← hexDigit? b
    let c ← hexDigit? c
    let d ← hexDigit? d
    some (((a * 16 + b) * 16 + c) * 16 + d, rest)
  | _ => none

/-- A piece of a string: a character, or half of a surrogate pair. -/
inductive Unit16 where
  | char (c : Char)
  | half (code : Nat)
  deriving DecidableEq

/-- Joins halves of surrogate pairs; `none` when one is left over. -/
def joinUnits : List Unit16 → Option (List Char)
  | [] => some []
  | .char c :: rest => (joinUnits rest).map (c :: ·)
  | .half a :: .half b :: rest =>
    if a < 0xDC00 ∧ 0xDC00 ≤ b then
      (joinUnits rest).map (Char.ofNat (0x10000 + (a - 0xD800) * 0x400 + (b - 0xDC00)) :: ·)
    else none
  | .half _ :: _ => none

/-- The rest of a string after its opening quote, or `none` when it is not well formed. -/
def stringUnits (fuel : Nat) (text : List Char) : Option (List Unit16 × List Char) :=
  match fuel, text with
  | 0, _ | _, [] => none
  | _ + 1, '"' :: rest => some ([], rest)
  | fuel + 1, '\\' :: 'u' :: rest => do
    let (code, rest) ← hex4? rest
    let (units, rest) ← stringUnits fuel rest
    let unit := if 0xD800 ≤ code ∧ code ≤ 0xDFFF then .half code else .char (Char.ofNat code)
    some (unit :: units, rest)
  | fuel + 1, '\\' :: c :: rest => do
    let e ← match c with
      | '"' => some '"'
      | '\\' => some '\\'
      | '/' => some '/'
      | 'b' => some '\x08'
      | 'f' => some '\x0c'
      | 'n' => some '\n'
      | 'r' => some '\r'
      | 't' => some '\t'
      | _ => none
    let (units, rest) ← stringUnits fuel rest
    some (.char e :: units, rest)
  | fuel + 1, c :: rest =>
    if c = '\\' ∨ c.toNat < 0x20 then none
    else do
      let (units, rest) ← stringUnits fuel rest
      some (.char c :: units, rest)

/-- A numeral and what follows it, or `none` when it is not well formed. -/
def numeral? (text : List Char) : Option (Numeral × List Char) := do
  let (negative, text) := match text with
    | '-' :: rest => (true, rest)
    | _ => (false, text)
  let (whole, text) := takeDigits text
  if whole.isEmpty || (whole.head? == some 0 && whole.length ≠ 1) then none
  let (places, text) ← match text with
    | '.' :: rest =>
      let (places, rest) := takeDigits rest
      if places.isEmpty then none else some (some places, rest)
    | _ => some (none, text)
  let (exponent, text) ← match text with
    | c :: rest =>
      if c = 'e' ∨ c = 'E' then
        let (minus, rest) := match rest with
          | '+' :: rest => (false, rest)
          | '-' :: rest => (true, rest)
          | rest => (false, rest)
        let (digits, rest) := takeDigits rest
        if digits.isEmpty then none else some (some (minus, digits), rest)
      else some (none, text)
    | [] => some (none, text)
  some (⟨negative, whole, places, exponent⟩, text)

/-- Removes a word from the beginning of a text. -/
def afterWord? : List Char → List Char → Option (List Char)
  | [], text => some text
  | w :: word, c :: text => if w = c then afterWord? word text else none
  | _ :: _, [] => none

mutual

/-- A value at the beginning of a text and what follows it; nothing follows a value that breaks
off.  Every call on the rest of the text takes a character first, so that `fuel` above the length
of the text never runs out. -/
def readValue (fuel : Nat) (text : List Char) : Draft × Option (List Char) :=
  match fuel with
  | 0 => (.broken, none)
  | fuel + 1 =>
    match skipBlanks text with
    | '[' :: rest => readArray fuel rest
    | '{' :: rest => readObject fuel rest
    | '"' :: rest =>
      match stringUnits (rest.length + 1) rest with
      | some (units, rest) => (.string ((joinUnits units).map String.ofList), some rest)
      | none => (.broken, none)
    | c :: rest =>
      if c = '-' ∨ (digit? c).isSome then
        match numeral? (c :: rest) with
        | some (n, rest) => (.number n, some rest)
        | none => (.broken, none)
      else
        match afterWord? "null".toList (c :: rest), afterWord? "true".toList (c :: rest),
            afterWord? "false".toList (c :: rest) with
        | some rest, _, _ => (.null, some rest)
        | _, some rest, _ => (.bool true, some rest)
        | _, _, some rest => (.bool false, some rest)
        | none, none, none => (.broken, none)
    | [] => (.broken, none)

/-- An array after its opening bracket. -/
def readArray (fuel : Nat) (text : List Char) : Draft × Option (List Char) :=
  match skipBlanks text with
  | ']' :: rest => (.array [] true, some rest)
  | [] => (.array [] false, none)
  | text =>
    match readItems fuel text with
    | (items, rest) => (.array items rest.isSome, rest)

/-- The items of an array up to its closing bracket. -/
def readItems (fuel : Nat) (text : List Char) : List Draft × Option (List Char) :=
  match fuel with
  | 0 => ([], none)
  | fuel + 1 =>
    match readValue fuel text with
    | (item, none) => ([item], none)
    | (item, some rest) =>
      match skipBlanks rest with
      | ']' :: rest => ([item], some rest)
      | ',' :: rest =>
        match skipBlanks rest with
        | ']' :: _ => ([item], none)
        | rest => match readItems fuel rest with
          | (items, rest) => (item :: items, rest)
      | _ => ([item], none)

/-- An object after its opening brace. -/
def readObject (fuel : Nat) (text : List Char) : Draft × Option (List Char) :=
  match skipBlanks text with
  | '}' :: rest => (.object [] true, some rest)
  | text =>
    match readMembers fuel text with
    | (members, rest) => (.object members rest.isSome, rest)

/-- The members of an object up to its closing brace. -/
def readMembers (fuel : Nat) (text : List Char) :
    List (Option String × Draft) × Option (List Char) :=
  match fuel with
  | 0 => ([], none)
  | fuel + 1 =>
    match skipBlanks text with
    | '"' :: rest =>
      match stringUnits (rest.length + 1) rest with
      | none => ([], none)
      | some (units, rest) =>
        let name := (joinUnits units).map String.ofList
        match skipBlanks rest with
        | ':' :: rest =>
          match readValue fuel rest with
          | (value, none) => ([(name, value)], none)
          | (value, some rest) =>
            match skipBlanks rest with
            | '}' :: rest => ([(name, value)], some rest)
            | ',' :: rest =>
              match readMembers fuel rest with
              | (members, rest) => ((name, value) :: members, rest)
            | _ => ([(name, value)], none)
        | _ => ([(name, .broken)], none)
    | _ => ([], none)

end

/-- The draft of a whole text. -/
def Source.ofText (text : String) : Source :=
  match readValue (2 * text.length + 2) text.toList with
  | (root, some rest) => ⟨root, (skipBlanks rest).isEmpty⟩
  | (root, none) => ⟨root, false⟩

/-! ## Values -/

mutual

/-- The value of a draft that is complete; members keep the order of the text. -/
def Draft.toJson? : Draft → Option Json
  | .null => some .null
  | .bool b => some (.bool b)
  | .number n => n.value?
  | .string s => s.map .str
  | .array items true => (toItems? items).map .arr
  | .object members true => (toMembers? members).map .obj
  | .array _ false | .object _ false | .broken => none

/-- The values of a list of drafts. -/
def toItems? : List Draft → Option (List Json)
  | [] => some []
  | d :: rest =>
    match d.toJson?, toItems? rest with
    | some v, some vs => some (v :: vs)
    | _, _ => none

/-- The values of a list of members. -/
def toMembers? : List (Option String × Draft) → Option (List (String × Json))
  | [] => some []
  | (name, d) :: rest =>
    match name, d.toJson?, toMembers? rest with
    | some name, some v, some vs => some ((name, v) :: vs)
    | _, _, _ => none

end

mutual

/-- Whether the text does not stop being JSON inside a draft. -/
def Draft.isWhole : Draft → Bool
  | .array items closed => closed && areWholeItems items
  | .object members closed => closed && areWholeMembers members
  | .broken => false
  | .null | .bool _ | .number _ | .string _ => true

/-- Whether all items are whole. -/
def areWholeItems : List Draft → Bool
  | [] => true
  | d :: rest => d.isWhole && areWholeItems rest

/-- Whether the values of all members are whole. -/
def areWholeMembers : List (Option String × Draft) → Bool
  | [] => true
  | (_, d) :: rest => d.isWhole && areWholeMembers rest

end

mutual

/-- How deep collections nest in a draft. -/
def Draft.depth : Draft → Nat
  | .array items _ => depthOfItems items + 1
  | .object members _ => depthOfMembers members + 1
  | .null | .bool _ | .number _ | .string _ | .broken => 0

/-- The greatest depth among items. -/
def depthOfItems : List Draft → Nat
  | [] => 0
  | d :: rest => max d.depth (depthOfItems rest)

/-- The greatest depth among the values of members. -/
def depthOfMembers : List (Option String × Draft) → Nat
  | [] => 0
  | (_, d) :: rest => max d.depth (depthOfMembers rest)

end

/-- The value of a text all of which is JSON. -/
def Source.toJson? (s : Source) : Option Json :=
  if s.clean then s.root.toJson? else none

end Json
end LintRules
