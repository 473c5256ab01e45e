/-
**Floating point numbers of 64 bits.**

The numbers of the binary64 format are kept as what they denote: a sign and a natural number times a
power of two, or an infinity, or not a number.  All that is done with them is exact arithmetic on
natural numbers followed by one rounding to the nearest, so reading and printing have a meaning that
proofs can see.

Main definitions:

* `ProfileLayers.Binary64` — the numbers;
* `ProfileLayers.Binary64.ofQuotient` — the number nearest to a quotient, ties to even;
* `ProfileLayers.Binary64.ofInt`, `ProfileLayers.Binary64.ofDecimal` — the number nearest to an
  integer, and to a decimal number;
* `ProfileLayers.Binary64.same` — equality of values: the two zeros are one number.
-/

import ProfileLayers.Number.Powers

set_option relaxedAutoImplicit false
set_option autoImplicit false

namespace ProfileLayers

/-- A number of the binary64 format.  The finite ones are `mantissa * 2 ^ exponent` with a mantissa
below `2 ^ 53`, which is at least `2 ^ 52` unless the exponent is the least one, `-1074`. -/
inductive Binary64 where
  | finite (negative : Bool) (mantissa : Nat) (exponent : Int)
  | infinite (negative : Bool)
  | nan
deriving Repr, DecidableEq, Inhabited

namespace Binary64

/-- The exponent of the least numbers. -/
def leastExponent : Int := -1074

/-- The exponent of the greatest numbers. -/
def greatestExponent : Int := 971

/-- Zero with a sign. -/
def zero (negative : Bool) : Binary64 := .finite negative 0 leastExponent

/-! ### Rounding -/

/-- The quotient rounded to the nearest natural number, a half to the even one. -/
def roundQuotient (num den : Nat) : Nat :=
  let q := num / den
  let r := num % den
  if den < 2 * r || (den == 2 * r && q % 2 == 1) then q + 1 else q

/-- The quotient `num / den` in units of `2 ^ exponent`, as a numerator and a denominator. -/
def inUnits (num den : Nat) (exponent : Int) : Nat × Nat :=
  if 0 ≤ exponent then (num, den * powerOfTwo exponent.toNat)
  else (num * powerOfTwo (-exponent).toNat, den)

/-- The number nearest to `num / den`, ties to the even mantissa; too large a quotient gives an
infinity. -/
def ofQuotient (negative : Bool) (num den : Nat) : Binary64 :=
  if num == 0 || den == 0 then zero negative
  else
    let estimate := max ((num.log2 : Int) - den.log2 - 53) leastExponent
    let (n, d) := inUnits num den estimate
    let exponent := if powerOfTwo 53 ≤ n / d then estimate + 1 else estimate
    let (n, d) := inUnits num den exponent
    let rounded := roundQuotient n d
    let (mantissa, exponent) :=
      if rounded == powerOfTwo 53 then (powerOfTwo 52, exponent + 1) else (rounded, exponent)
    if greatestExponent < exponent then .infinite negative
    else .finite negative mantissa exponent

/-- The number nearest to an integer. -/
def ofInt (i : Int) : Binary64 := ofQuotient (i < 0) i.natAbs 1

/-- The number nearest to `digits * 10 ^ exponent`.  Decimals far outside the range are decided by
their size alone. -/
def ofDecimal (negative : Bool) (digits : Nat) (exponent : Int) : Binary64 :=
  let size := (Nat.toDigits 10 digits).length + exponent
  if digits == 0 || size < -330 then zero negative
  else if 320 < size then .infinite negative
  else if 0 ≤ exponent then ofQuotient negative (digits * powerOfTen exponent.toNat) 1
  else ofQuotient negative digits (powerOfTen (-exponent).toNat)

/-! ### Comparing -/

/-- Equality of values: the two zeros are equal, and so is what is not a number to itself. -/
def same : Binary64 → Binary64 → Bool
  | .finite _ 0 _, .finite _ 0 _ => true
  | x, y => x == y

end Binary64

end ProfileLayers
