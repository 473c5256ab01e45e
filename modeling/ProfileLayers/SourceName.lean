/-
**Names of document sources.**

A document source is named after the declaration of its document.  Several documents can have the
same declaration, so each repetition of a name gets a number of its own.  One tally of all names is
carried along the list, and each name is looked up in it before it is counted.

Main definitions:

* `ProfileLayers.documentName` — the name after a declaration;
* `ProfileLayers.Tally` — how often each name occurred;
* `ProfileLayers.numberRepeats` — numbering repetitions.

Main results:

* `ProfileLayers.Tally.count_after` — a tally counts each name apart from the others;
* `ProfileLayers.numberFrom_append` — names are numbered from the front on.
-/

import ProfileLayers.Profile.Expression

set_option relaxedAutoImplicit false
set_option autoImplicit false

namespace ProfileLayers

/-- The declaration as it was written in brackets, or a label for documents without one, after a
common first part. -/
def documentName (first label : String) (e : Expression) : String :=
  first ++ " [" ++ e.raw.getD label ++ "]"

/-- A name that occurred `before` times already. -/
def numbered (name : String) (before : Nat) : String :=
  match before with
  | 0 => name
  | k + 1 => name ++ "[" ++ k.repr ++ "]"

/-- How often each name occurred so far. -/
structure Tally where
  count : String → Nat

namespace Tally

/-- No name occurred. -/
def empty : Tally := ⟨fun _ => 0⟩

/-- One more occurrence of a name. -/
def add (tally : Tally) (name : String) : Tally where
  count other := if other = name then tally.count name + 1 else tally.count other

/-- Names that occur one after another. -/
def after (tally : Tally) (names : List String) : Tally := names.foldl add tally

end Tally

/-- Numbers the repetitions in a list of names, with a tally of those before them. -/
def numberFrom (tally : Tally) : List String → List String
  | [] => []
  | name :: names => numbered name (tally.count name) :: numberFrom (tally.add name) names

/-- Numbers the repetitions of each name: the first stays as it is, the next get the numbers from
zero on in brackets. -/
def numberRepeats (names : List String) : List String := numberFrom .empty names

/-! ### Counting -/

namespace Tally

@[simp] theorem count_empty (name : String) : empty.count name = 0 := rfl

/-- Counting a name leaves the other counts alone. -/
theorem count_add (tally : Tally) (name other : String) :
    (tally.add name).count other = tally.count other + if name == other then 1 else 0 := by
  by_cases h : other = name
  · simp [add, h]
  · have hne : ¬ name = other := fun e => h e.symm
    simp [add, h, hne]

/-- Names that were counted add to each count how often they hold the name. -/
theorem count_after (tally : Tally) (names : List String) (name : String) :
    (tally.after names).count name = tally.count name + names.count name := by
  induction names generalizing tally with
  | nil => rfl
  | cons first names ih =>
      have hstep : tally.after (first :: names) = (tally.add first).after names := rfl
      rw [hstep, ih, count_add, List.count_cons, Nat.add_assoc, Nat.add_comm (names.count name)]

end Tally

/-! ### Each name in its turn -/

theorem length_numberFrom (tally : Tally) (names : List String) :
    (numberFrom tally names).length = names.length := by
  induction names generalizing tally with
  | nil => rfl
  | cons name names ih => simp [numberFrom, ih]

@[simp] theorem length_numberRepeats (names : List String) :
    (numberRepeats names).length = names.length := length_numberFrom .empty names

/-- The names that follow are numbered with a tally of those before them. -/
theorem numberFrom_append (tally : Tally) (names more : List String) :
    numberFrom tally (names ++ more) =
      numberFrom tally names ++ numberFrom (tally.after names) more := by
  induction names generalizing tally with
  | nil => rfl
  | cons name names ih => simp [numberFrom, ih, Tally.after]

end ProfileLayers
