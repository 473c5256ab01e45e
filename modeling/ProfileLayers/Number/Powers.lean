/-
**Powers and widths.**

The sizes of numbers are bounded by powers of two, and their decimal places are powers of ten.

Main definitions:

* `ProfileLayers.powerOfTwo`, `ProfileLayers.powerOfTen` — the powers;
* `ProfileLayers.isInt64` — the integers of 64 bits with a sign.

Main results:

* `ProfileLayers.isInt64_iff_powers`, `ProfileLayers.isInt64_iff` — the bounds of the integers of 64
  bits, as powers and in full.
-/

set_option relaxedAutoImplicit false
set_option autoImplicit false

namespace ProfileLayers

/-! ### Powers -/

/-- A power of two. -/
def powerOfTwo (n : Nat) : Nat := Nat.pow 2 n

/-- A power of ten. -/
def powerOfTen (n : Nat) : Nat := Nat.pow 10 n

/-! ### Widths -/

/-- The integers of 64 bits. -/
def isInt64 (i : Int) : Bool :=
  decide (-(powerOfTwo 63 : Int) ≤ i) && decide (i < (powerOfTwo 63 : Int))

theorem isInt64_iff_powers (i : Int) :
    isInt64 i = true ↔ -(powerOfTwo 63 : Int) ≤ i ∧ i < powerOfTwo 63 := by
  rw [isInt64, Bool.and_eq_true, decide_eq_true_eq, decide_eq_true_eq]

theorem isInt64_iff (i : Int) :
    isInt64 i = true ↔ -9223372036854775808 ≤ i ∧ i ≤ 9223372036854775807 := by
  have h : (powerOfTwo 63 : Int) = 9223372036854775808 := rfl
  rw [isInt64_iff_powers, h]
  omega

end ProfileLayers
