/-
**The shortest decimal of a floating point number.**

Every real number between the two midpoints to its neighbours is read back as the same floating
point number; the midpoints themselves are when the mantissa is even.  A number is written with the
fewest digits that lie in that interval, and among those with the digits nearest to it.

The test for `n` digits looks at the two points around the number on the grid of `n`-digit
decimals.  If any point of the grid lies in the interval, one of these two does.

Main definitions:

* `ProfileLayers.Decimal` — a natural number times a power of ten;
* `ProfileLayers.Tie` — what becomes of a number in the middle of the two points;
* `ProfileLayers.Interval` — a number with the ends of its interval, as multiples of one unit;
* `ProfileLayers.shortest` — the shortest decimal.
-/

import ProfileLayers.Number.Binary64

set_option relaxedAutoImplicit false
set_option autoImplicit false

namespace ProfileLayers

/-- The number `digits * 10 ^ exponent`. -/
structure Decimal where
  digits : Nat
  exponent : Int
deriving Repr, DecidableEq, Inhabited

/-- The choice between two decimals that are equally near. -/
inductive Tie where
  /-- The greater one. -/
  | up
  /-- The one whose last digit is even. -/
  | even
deriving Repr, DecidableEq, Inhabited

/-- A positive number and the ends of the interval that is read back as it, all as multiples of the
unit `num / den`. -/
structure Interval where
  low : Nat
  mid : Nat
  high : Nat
  closed : Bool
  num : Nat
  den : Nat
deriving Repr, DecidableEq, Inhabited

namespace Interval

/-- The interval of `mantissa * 2 ^ exponent`.  Below a power of two the neighbour is nearer. -/
def ofFinite (mantissa : Nat) (exponent : Int) : Interval :=
  let unit := exponent - 2
  { low := if mantissa == powerOfTwo 52 && exponent != Binary64.leastExponent then 4 * mantissa - 1
      else 4 * mantissa - 2
    mid := 4 * mantissa
    high := 4 * mantissa + 2
    closed := mantissa % 2 == 0
    num := powerOfTwo unit.toNat
    den := powerOfTwo (-unit).toNat }

/-- The power of ten that is greater than the number by less than a factor of ten, as an
exponent. -/
def magnitude (i : Interval) : Int :=
  let n := i.mid * i.num
  if i.den ≤ n then (Nat.toDigits 10 (n / i.den)).length
  else 1 - (Nat.toDigits 10 (i.den / n)).length

/-- The decimal on the grid of multiples of `10 ^ exponent` that is nearest to the number among
those in the interval, if there is one. -/
def onGrid (i : Interval) (tie : Tie) (exponent : Int) : Option Decimal :=
  let scale := i.num * powerOfTen (-exponent).toNat
  let grid := i.den * powerOfTen exponent.toNat
  let (low, mid, high) := (i.low * scale, i.mid * scale, i.high * scale)
  let below := mid / grid
  let above := below + 1
  let belowIn := low < below * grid || (i.closed && low == below * grid)
  let aboveIn := above * grid < high || (i.closed && above * grid == high)
  let preferAbove :=
    let toBelow := mid - below * grid
    let toAbove := above * grid - mid
    toAbove < toBelow || (toAbove == toBelow && (tie == .up || below % 2 == 1))
  match belowIn, aboveIn with
  | true, true => some ⟨if preferAbove then above else below, exponent⟩
  | true, false => some ⟨below, exponent⟩
  | false, true => some ⟨above, exponent⟩
  | false, false => none

/-- The first hit on grids of ever more digits; seventeen digits always suffice. -/
def search (i : Interval) (tie : Tie) : Nat → Int → Decimal
  | 0, exponent =>
      ⟨i.mid * i.num * powerOfTen (-exponent).toNat / (i.den * powerOfTen exponent.toNat), exponent⟩
  | more + 1, exponent => (i.onGrid tie exponent).getD (i.search tie more (exponent - 1))

end Interval

/-- The decimal without one zero at the end, if it has one. -/
def Decimal.dropZero (d : Decimal) : Decimal :=
  if d.digits % 10 == 0 && d.digits != 0 then ⟨d.digits / 10, d.exponent + 1⟩ else d

/-- The shortest decimal of the positive number `mantissa * 2 ^ exponent`.  A grid point that is a
power of ten has one digit more than its grid, a zero. -/
def shortest (tie : Tie) (mantissa : Nat) (exponent : Int) : Decimal :=
  let i := Interval.ofFinite mantissa exponent
  (i.search tie 17 (i.magnitude - 1)).dropZero

end ProfileLayers
