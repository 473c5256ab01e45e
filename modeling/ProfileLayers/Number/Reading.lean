/-
**Reading decimal numbers.**

A decimal number is a sign, digits with at most one point among them, and an exponent.  A point
needs a digit on one side, an exponent needs a digit.

Main definitions:

* `ProfileLayers.DecimalText` — the parts of a decimal number;
* `ProfileLayers.readDecimal?` — splitting a text into them;
* `ProfileLayers.readBinary64?` — the nearest floating point number.
-/

import ProfileLayers.Number.Binary64
import ProfileLayers.Number.Digits

set_option relaxedAutoImplicit false
set_option autoImplicit false

namespace ProfileLayers

/-- An optional sign: whether it is a minus, and the characters after it. -/
def readSign : List Char → Bool × List Char
  | '-' :: cs => (true, cs)
  | '+' :: cs => (false, cs)
  | cs => (false, cs)

/-- The parts of a decimal number. -/
structure DecimalText where
  negative : Bool
  whole : List Char
  fraction : List Char
  exponent : Int
deriving Repr, DecidableEq, Inhabited

/-- The value of a decimal number, rounded once. -/
def DecimalText.toBinary64 (d : DecimalText) : Binary64 :=
  .ofDecimal d.negative (Nat.ofDigitChars 10 (d.whole ++ d.fraction) 0)
    (d.exponent - d.fraction.length)

/-- The exponent at the end of a number: none, or a letter, a sign and digits. -/
def readExponent? : List Char → Option Int
  | [] => some 0
  | c :: cs =>
      if c == 'e' || c == 'E' then
        let (negative, cs) := readSign cs
        let (digits, rest) := spanDigits cs
        if digits.isEmpty || !rest.isEmpty then none
        else
          let n : Int := Nat.ofDigitChars 10 digits 0
          some (if negative then -n else n)
      else none

/-- A text that is a decimal number throughout. -/
def readDecimal? (cs : List Char) : Option DecimalText := do
  let (negative, cs) := readSign cs
  let (whole, rest) := spanDigits cs
  let (fraction, rest) :=
    match rest with
    | '.' :: rest => spanDigits rest
    | rest => ([], rest)
  if whole.isEmpty && fraction.isEmpty then none
  else
    let exponent ← readExponent? rest
    pure ⟨negative, whole, fraction, exponent⟩

/-- The floating point number nearest to a decimal number. -/
def readBinary64? (cs : List Char) : Option Binary64 := (readDecimal? cs).map (·.toBinary64)

end ProfileLayers
