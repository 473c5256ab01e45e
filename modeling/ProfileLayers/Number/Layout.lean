/-
**Writing decimals.**

A decimal is written with a point among its digits or with an exponent, depending on its size.  The
record `NumberLayout` holds the decisions of one text format.

Main definitions:

* `ProfileLayers.NumberLayout` — the decisions;
* `ProfileLayers.NumberLayout.positional`, `ProfileLayers.NumberLayout.scientific` — the two ways;
* `ProfileLayers.NumberLayout.write` — the text of a floating point number.
-/

import ProfileLayers.Number.Shortest

set_option relaxedAutoImplicit false
set_option autoImplicit false

namespace ProfileLayers

/-- How a text format writes floating point numbers. -/
structure NumberLayout where
  /-- The least power of ten that is written with a point, if there is one. -/
  leastPositional : Option Int
  /-- The power of ten from which on numbers are written with an exponent. -/
  leastScientific : Int
  /-- The sign of an exponent that is not negative. -/
  exponentSign : String
  tie : Tie
  /-- The texts of an infinity without its sign, and of what is not a number. -/
  infinity : String
  negativeInfinity : String
  nan : String
deriving Repr, DecidableEq, Inhabited

namespace NumberLayout

/-- Digits with a point before those that `exponent` puts after it; whole numbers get a zero after
the point. -/
def positional (digits : List Char) (exponent : Int) : List Char :=
  if 0 ≤ exponent then digits ++ List.replicate exponent.toNat '0' ++ ['.', '0']
  else
    let places := (-exponent).toNat
    if places < digits.length then
      digits.take (digits.length - places) ++ '.' :: digits.drop (digits.length - places)
    else '0' :: '.' :: (List.replicate (places - digits.length) '0' ++ digits)

/-- One digit before the point, and the power of ten. -/
def scientific (sign : String) (digits : List Char) (power : Int) : List Char :=
  let fraction := if digits.length ≤ 1 then [] else '.' :: digits.drop 1
  let mark := if power < 0 then ['-'] else sign.toList
  digits.take 1 ++ fraction ++ 'e' :: (mark ++ Nat.toDigits 10 power.natAbs)

/-- The text of a positive decimal. -/
def decimal (layout : NumberLayout) (d : Decimal) : List Char :=
  let digits := Nat.toDigits 10 d.digits
  let power := d.exponent + digits.length - 1
  let isPositional := (layout.leastPositional.all fun least => least ≤ power) &&
    power < layout.leastScientific
  if isPositional then positional digits d.exponent
  else scientific layout.exponentSign digits power

/-- The text of a floating point number. -/
def write (layout : NumberLayout) : Binary64 → String
  | .nan => layout.nan
  | .infinite negative => if negative then layout.negativeInfinity else layout.infinity
  | .finite negative mantissa exponent =>
      let sign := if negative then ['-'] else []
      let magnitude :=
        if mantissa == 0 then ['0', '.', '0']
        else layout.decimal (shortest layout.tie mantissa exponent)
      String.ofList (sign ++ magnitude)

end NumberLayout

end ProfileLayers
