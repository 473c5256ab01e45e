/-
**Digits.**

Main definitions:

* `ProfileLayers.hexDigit?` — the value of a hexadecimal digit;
* `ProfileLayers.numeral?` — the number that digits spell in a base;
* `ProfileLayers.spanDigits` — the decimal digits at the front of a text;
* `ProfileLayers.charOfNumber?` — the character with a number.

Main results:

* `ProfileLayers.hexDigit?_digitChar` — a hexadecimal digit that was written is read back;
* `ProfileLayers.charOfNumber?_toNat` — a character is found by its number;
* `ProfileLayers.isDigit_of_mem_repr`, `ProfileLayers.head?_repr_ne_zero`,
  `ProfileLayers.ofDigitChars_repr` — a number is written in digits without a zero at the front, and
  they are read back as the number;
* `ProfileLayers.numeral?_repr` — these digits spell the number in base ten;
* `ProfileLayers.toList_intRepr`, `ProfileLayers.intRepr_injective` — an integer is written with its
  sign, and different integers are written differently;
* `ProfileLayers.spanDigits_append` — digits are read up to the first character that is none;
* `ProfileLayers.append_bracket_digits_inj` — digits behind a bracket at the end can be read back.
-/

set_option relaxedAutoImplicit false
set_option autoImplicit false

namespace ProfileLayers

/-- The value of a hexadecimal digit in either case. -/
def hexDigit? (c : Char) : Option Nat :=
  if c.isDigit then some (c.toNat - '0'.toNat)
  else if 'a' ≤ c && c ≤ 'f' then some (c.toNat - 'a'.toNat + 10)
  else if 'A' ≤ c && c ≤ 'F' then some (c.toNat - 'A'.toNat + 10)
  else none

/-- The value of a digit below `base`, for bases up to sixteen; hexadecimal digits have either
case. -/
def digitBelow? (base : Nat) (c : Char) : Option Nat :=
  (hexDigit? c).filter fun value => value < base

/-- The number that digits spell, continuing from `n`. -/
def numeralFrom? (base : Nat) : Nat → List Char → Option Nat
  | n, [] => some n
  | n, c :: cs => (digitBelow? base c).bind fun d => numeralFrom? base (base * n + d) cs

/-- The number that one or more digits spell. -/
def numeral? (base : Nat) (cs : List Char) : Option Nat :=
  if cs.isEmpty then none else numeralFrom? base 0 cs

/-- The decimal digits at the front and the characters after them. -/
def spanDigits (cs : List Char) : List Char × List Char :=
  (cs.takeWhile Char.isDigit, cs.dropWhile Char.isDigit)

/-- The character with this number, if there is one. -/
def charOfNumber? (n : Nat) : Option Char :=
  if h : n.isValidChar then some (Char.ofNatAux n h) else none

theorem hexDigit?_digitChar (n : Nat) (h : n < 16) : hexDigit? (Nat.digitChar n) = some n := by
  have all : ∀ k : Fin 16, hexDigit? (Nat.digitChar k.val) = some k.val := by decide
  exact all ⟨n, h⟩

theorem charOfNumber?_toNat (c : Char) : charOfNumber? c.toNat = some c := by
  have h : c.toNat.isValidChar := c.valid
  rw [charOfNumber?, dif_pos h]
  rfl

/-! ### Decimal numbers -/

theorem isDigit_of_mem_repr (k : Nat) (c : Char) (h : c ∈ k.repr.toList) : c.isDigit = true := by
  rw [Nat.toList_repr] at h
  exact Nat.isDigit_of_mem_toDigits (by decide) (by decide) h

theorem repr_toList_ne_nil (k : Nat) : k.repr.toList ≠ [] := by
  rw [Nat.toList_repr]
  exact Nat.toDigits_ne_nil

/-- A character that is no digit does not occur in a natural number. -/
theorem not_mem_repr (k : Nat) (c : Char) (h : c.isDigit = false) : c ∉ k.repr.toList := by
  intro hc
  rw [isDigit_of_mem_repr k c hc] at h
  contradiction

/-- Nor is it the first one. -/
theorem repr_ne_cons (k : Nat) (c : Char) (h : c.isDigit = false) (cs : List Char) :
    k.repr.toList ≠ c :: cs :=
  fun hk => not_mem_repr k c h (hk ▸ List.mem_cons_self)

/-- A positive number does not begin with a zero. -/
theorem head?_repr_ne_zero (k : Nat) (h : 0 < k) : k.repr.toList.head? ≠ some '0' := by
  rw [Nat.toList_repr]
  induction k using Nat.strongRecOn with
  | ind k ih =>
      by_cases hk : k < 10
      · have all : ∀ d : Fin 10, 0 < d.val → Nat.digitChar d.val ≠ '0' := by decide
        rw [Nat.toDigits_of_lt_base hk]
        simpa using all ⟨k, hk⟩ h
      · have hfront := ih (k / 10) (by omega) (by omega)
        obtain ⟨c, cs, hcs⟩ :=
          List.exists_cons_of_ne_nil (Nat.toDigits_ne_nil (n := k / 10) (b := 10))
        rw [Nat.toDigits_of_base_le (by decide) (by omega)]
        rw [hcs] at hfront ⊢
        exact hfront

/-- Digits are read up to the first character that is none. -/
theorem spanDigits_append (digits rest : List Char) (hdigits : ∀ c ∈ digits, c.isDigit = true)
    (hrest : ∀ c, rest.head? = some c → c.isDigit = false) :
    spanDigits (digits ++ rest) = (digits, rest) := by
  have hnone : rest.takeWhile Char.isDigit = [] ∧ rest.dropWhile Char.isDigit = rest := by
    cases rest with
    | nil => exact ⟨rfl, rfl⟩
    | cons c rest =>
        have hc := hrest c rfl
        exact ⟨by simp [hc], by simp [hc]⟩
  rw [spanDigits, List.takeWhile_append_of_pos hdigits, List.dropWhile_append_of_pos hdigits,
    hnone.1, hnone.2, List.append_nil]

@[simp] theorem ofDigitChars_repr (k : Nat) : Nat.ofDigitChars 10 k.repr.toList 0 = k := by
  rw [Nat.toList_repr, Nat.ofDigitChars_ten_toDigits]

/-- Different natural numbers have different digits. -/
theorem eq_of_toList_repr_eq (j k : Nat) (h : j.repr.toList = k.repr.toList) : j = k := by
  rw [← ofDigitChars_repr j, ← ofDigitChars_repr k, h]

theorem digitBelow?_of_isDigit (c : Char) (h : c.isDigit = true) :
    digitBelow? 10 c = some (c.toNat - '0'.toNat) := by
  have hvalue : c.toNat - '0'.toNat < 10 := by
    simp only [Char.isDigit, Bool.and_eq_true, decide_eq_true_eq, UInt32.le_iff_toNat_le] at h
    have hhigh : c.toNat ≤ 57 := h.2
    have hzero : '0'.toNat = 48 := rfl
    omega
  rw [digitBelow?, hexDigit?, if_pos h, Option.filter_some, if_pos (decide_eq_true hvalue)]

/-- What decimal digits spell is computed from them in turn. -/
theorem numeralFrom?_of_isDigit (n : Nat) (cs : List Char) (h : ∀ c ∈ cs, c.isDigit = true) :
    numeralFrom? 10 n cs = some (Nat.ofDigitChars 10 cs n) := by
  induction cs generalizing n with
  | nil => rfl
  | cons c cs ih =>
      obtain ⟨hc, hcs⟩ := List.forall_mem_cons.1 h
      rw [numeralFrom?, digitBelow?_of_isDigit c hc, Option.bind_some, ih _ hcs,
        Nat.ofDigitChars_cons]

/-- The digits of a number spell it. -/
theorem numeral?_repr (k : Nat) : numeral? 10 k.repr.toList = some k := by
  rw [numeral?, if_neg (by simp), numeralFrom?_of_isDigit 0 _
    (isDigit_of_mem_repr k), ofDigitChars_repr]

/-- Digits behind a bracket can be read back: they are the longest run of digits at the end. -/
theorem append_bracket_digits_inj (cs ds xs ys : List Char) (hxs : ∀ c ∈ xs, c.isDigit = true)
    (hys : ∀ c ∈ ys, c.isDigit = true) (h : cs ++ '[' :: xs = ds ++ '[' :: ys) :
    cs = ds ∧ xs = ys := by
  have hend : ∀ front digits : List Char, (∀ c ∈ digits, c.isDigit = true) →
      (front ++ '[' :: digits).reverse.takeWhile Char.isDigit = digits.reverse := by
    intro front digits hdigits
    rw [List.reverse_append, List.reverse_cons, List.append_assoc, List.takeWhile_append_of_pos]
    · simp
    · intro c hc
      exact hdigits c (List.mem_reverse.1 hc)
  have hdigits : xs = ys := by
    apply List.reverse_inj.1
    rw [← hend cs xs hxs, ← hend ds ys hys, h]
  rw [hdigits] at h
  exact ⟨List.append_cancel_right h, hdigits⟩

/-- An integer is written with its sign and the digits of its size. -/
theorem toList_intRepr (i : Int) :
    i.repr.toList = (if decide (i < 0) then ['-'] else []) ++ i.natAbs.repr.toList := by
  rw [Int.repr_eq_if]
  by_cases h : i < 0
  · have hsize : (-i).toNat = i.natAbs := by omega
    simp [h, hsize, Int.not_le.2 h]
  · have hsize : i.toNat = i.natAbs := by omega
    simp [h, hsize, Int.not_lt.1 h]

/-- An integer is written with a hyphen before the digits of its size, or with these alone. -/
theorem intRepr_cases (i : Int) :
    (i < 0 ∧ i.repr.toList = '-' :: i.natAbs.repr.toList) ∨
      (0 ≤ i ∧ i.repr.toList = i.natAbs.repr.toList) := by
  rw [toList_intRepr]
  by_cases hneg : i < 0
  · exact .inl ⟨hneg, by rw [if_pos (decide_eq_true hneg)]; rfl⟩
  · exact .inr ⟨Int.not_lt.1 hneg, by simp [hneg]⟩

/-- An integer begins with its sign or a digit. -/
theorem exists_cons_intRepr (i : Int) :
    ∃ c cs, i.repr.toList = c :: cs ∧ (c = '-' ∨ c.isDigit = true) := by
  rcases intRepr_cases i with ⟨-, hi⟩ | ⟨-, hi⟩
  · exact ⟨'-', _, hi, .inl rfl⟩
  · obtain ⟨d, ds, hds⟩ := List.exists_cons_of_ne_nil (repr_toList_ne_nil i.natAbs)
    have hd := isDigit_of_mem_repr i.natAbs d (hds ▸ List.mem_cons_self)
    exact ⟨d, ds, hi.trans hds, .inr hd⟩

/-- A character that is neither a sign nor a digit does not occur in an integer. -/
theorem not_mem_intRepr (i : Int) (c : Char) (hsign : c ≠ '-') (hdigit : c.isDigit = false) :
    c ∉ i.repr.toList := by
  rcases intRepr_cases i with ⟨-, hi⟩ | ⟨-, hi⟩
  · rw [hi, List.mem_cons, not_or]
    exact ⟨hsign, not_mem_repr i.natAbs c hdigit⟩
  · rw [hi]
    exact not_mem_repr i.natAbs c hdigit

/-- Different integers are written differently. -/
theorem intRepr_injective (i j : Int) (h : i.repr = j.repr) : i = j := by
  have hchars := congrArg String.toList h
  rcases intRepr_cases i with ⟨hi, hri⟩ | ⟨hi, hri⟩ <;>
    rcases intRepr_cases j with ⟨hj, hrj⟩ | ⟨hj, hrj⟩ <;> rw [hri, hrj] at hchars
  · have hsize := eq_of_toList_repr_eq i.natAbs j.natAbs (List.cons.inj hchars).2
    omega
  · exact absurd hchars.symm (repr_ne_cons j.natAbs '-' rfl _)
  · exact absurd hchars (repr_ne_cons i.natAbs '-' rfl _)
  · have hsize := eq_of_toList_repr_eq i.natAbs j.natAbs hchars
    omega

end ProfileLayers
