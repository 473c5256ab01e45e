/-
**Blank characters and trimming.**

Profile names and list items are trimmed before they are used, and a text with nothing but blanks
counts as empty.  Blank means the Unicode property `White_Space`, which has twenty-five members and
not only the four that `Char.isWhitespace` knows.

Main definitions:

* `ProfileLayers.isBlank` — the class of characters;
* `ProfileLayers.trimBlanks`, `ProfileLayers.trim` — a text without the blanks at its two ends;
* `ProfileLayers.isBlankText` — nothing is left after trimming.

Main results:

* `ProfileLayers.trimFront_eq_self_iff`, `ProfileLayers.trimBack_eq_self_iff` — an end is trimmed
  exactly when the character there is not blank;
* `ProfileLayers.trimBlanks_eq_nil_iff` — trimming leaves nothing exactly when all is blank.
-/

set_option relaxedAutoImplicit false
set_option autoImplicit false

namespace ProfileLayers

/-! ### The class -/

/-- The characters with the Unicode property `White_Space`. -/
def isBlank (c : Char) : Bool :=
  let n := c.toNat
  (0x09 ≤ n && n ≤ 0x0D) || n == 0x20 || n == 0x85 || n == 0xA0 || n == 0x1680 ||
    (0x2000 ≤ n && n ≤ 0x200A) || n == 0x2028 || n == 0x2029 || n == 0x202F || n == 0x205F ||
    n == 0x3000

/-! ### Trimming -/

/-- The characters without the blanks at the front. -/
def trimFront (cs : List Char) : List Char := cs.dropWhile isBlank

/-- The characters without the blanks at the end. -/
def trimBack (cs : List Char) : List Char := (cs.reverse.dropWhile isBlank).reverse

/-- The characters without the blanks at the two ends. -/
def trimBlanks (cs : List Char) : List Char := trimBack (trimFront cs)

/-- The text without the blanks at its two ends. -/
def trim (s : String) : String := String.ofList (trimBlanks s.toList)

/-- Nothing but blanks: the text is empty once it is trimmed. -/
def isBlankText (s : String) : Bool := s.toList.all isBlank

@[simp] theorem trimFront_nil : trimFront [] = [] := rfl

@[simp] theorem trimBack_nil : trimBack [] = [] := rfl

theorem trimFront_eq_nil_iff (cs : List Char) : trimFront cs = [] ↔ cs.all isBlank = true := by
  induction cs with
  | nil => simp
  | cons c cs ih => cases h : isBlank c <;> simp_all [trimFront]

theorem trimBack_eq_nil_iff (cs : List Char) : trimBack cs = [] ↔ cs.all isBlank = true := by
  have h := trimFront_eq_nil_iff cs.reverse
  rw [List.all_reverse] at h
  rw [← h, trimBack, List.reverse_eq_nil_iff, trimFront]

theorem trimFront_eq_self_iff (cs : List Char) :
    trimFront cs = cs ↔ ∀ c, cs.head? = some c → isBlank c = false := by
  cases cs with
  | nil => simp
  | cons c cs =>
      cases h : isBlank c with
      | false => simp [trimFront, h]
      | true =>
          simp only [trimFront, List.dropWhile_cons, h, if_true, List.head?_cons,
            Option.some.injEq, forall_eq', Bool.true_eq_false, iff_false]
          intro e
          have := congrArg List.length e
          have := (List.dropWhile_sublist isBlank (l := cs)).length_le
          simp at *
          omega

theorem trimBack_eq_self_iff (cs : List Char) :
    trimBack cs = cs ↔ ∀ c, cs.getLast? = some c → isBlank c = false := by
  have h := trimFront_eq_self_iff cs.reverse
  rw [List.head?_reverse] at h
  rw [← h]
  constructor
  · intro e
    have := congrArg List.reverse e
    simpa [trimBack, trimFront] using this
  · intro e
    have := congrArg List.reverse e
    simpa [trimBack, trimFront] using this

/-- Trimming the end leaves the front in place. -/
theorem head?_trimBack (cs : List Char) (c : Char) (h : (trimBack cs).head? = some c) :
    cs.head? = some c := by
  have hp : trimBack cs <+: cs := by
    have := List.dropWhile_suffix isBlank (l := cs.reverse)
    simpa [trimBack] using List.reverse_prefix.2 this
  obtain ⟨t, ht⟩ := hp
  rw [← ht]
  cases e : trimBack cs with
  | nil => simp [e] at h
  | cons d ds => simpa [e] using h

theorem trimBlanks_eq_nil_iff (cs : List Char) : trimBlanks cs = [] ↔ cs.all isBlank = true := by
  rw [trimBlanks, trimBack_eq_nil_iff]
  constructor
  · intro h
    rw [← trimFront_eq_nil_iff]
    cases e : trimFront cs with
    | nil => rfl
    | cons c t =>
        have hc : isBlank c = false := by
          have := List.head?_dropWhile_not isBlank (l := cs)
          rw [show cs.dropWhile isBlank = c :: t from e] at this
          simpa using this
        rw [e] at h
        simp [hc] at h
  · intro h
    simp [(trimFront_eq_nil_iff cs).2 h]

end ProfileLayers
