/-
**Matching treats its lists as sets.**

The names of an expression and the active profiles are lists, but a search only asks whether some
name of a list matches, and whether a list is empty.  Neither depends on the order of the names or
on how often one of them is listed, and the raw text of an expression is not looked at.  The
emptiness of the active profiles does matter: it decides whether blank names count as active.

The outcome for one side of an expression may be that nothing was declared.  The outcome for the
whole never is, for the positive side is asked only if it names something.

Main definitions:

* `ProfileLayers.Expression.SameNames` — expressions that name the same profiles on both sides;
* `ProfileLayers.Matcher.whileActive` — the same search while other profiles are active.

Main results:

* `ProfileLayers.NameTest.status_congr` — the outcome for one list of names;
* `ProfileLayers.Matcher.whileActive_names` — every search is one while certain
  profiles are active;
* `ProfileLayers.Matcher.status_ne_abstain`, `ProfileLayers.Matcher.status_of_vetoed` — every search
  decides, and a veto decides against the document;
* `ProfileLayers.Matcher.matching_has_set_semantics` — **matching has set semantics and always
  decides**.
-/

import ProfileLayers.Proofs.FirstOccurrence
import ProfileLayers.Proofs.OutsideProfiles
import ProfileLayers.Proofs.Veto

set_option relaxedAutoImplicit false
set_option autoImplicit false

namespace ProfileLayers

/-! ### The same names -/

/-- The expressions name the same profiles on both sides, in any order and any number of times;
their raw texts may be different. -/
structure Expression.SameNames (e f : Expression) : Prop where
  positive : ∀ p, p ∈ e.positive ↔ p ∈ f.positive
  negative : ∀ p, p ∈ e.negative ↔ p ∈ f.negative

theorem isEmpty_congr_of_mem {names others : List String} (h : ∀ p, p ∈ names ↔ p ∈ others) :
    names.isEmpty = others.isEmpty := by
  rw [Bool.eq_iff_iff, List.isEmpty_iff, List.isEmpty_iff, List.eq_nil_iff_forall_not_mem,
    List.eq_nil_iff_forall_not_mem]
  exact forall_congr' fun p => not_congr (h p)

/-- The outcome for a list of names depends on which names are listed, and on which names match. -/
theorem NameTest.status_congr {t u : NameTest} {names others : List String}
    (haccepts : t.accepts = u.accepts) (h : ∀ p, p ∈ names ↔ p ∈ others) :
    t.status names = u.status others := by
  have hany : names.any t.accepts = others.any u.accepts := by
    rw [Bool.eq_iff_iff, List.any_eq_true, List.any_eq_true, haccepts]
    exact exists_congr fun p => and_congr_left' (h p)
  rw [status, status, isEmpty_congr_of_mem h, hany]

theorem ProfileSet.perm_ofList {names others : List String} (h : ∀ p, p ∈ names ↔ p ∈ others) :
    (ofList names).names.Perm (ofList others).names := by
  rw [List.perm_ext_iff_of_nodup (ofList names).nodup (ofList others).nodup]
  intro p
  rw [← mem_def, ← mem_def, mem_ofList, mem_ofList]
  exact h p

namespace Matcher

/-! ### The same search -/

/-- The same search while these profiles are active. -/
def whileActive (m : Matcher) (names : List String) : Matcher :=
  match m with
  | .generic _ => .generic (.ofList names)
  | .default _ => .default (.ofList names)
  | .specific profile _ => .specific profile (.ofList names)

@[simp] theorem active_whileActive (m : Matcher) (names : List String) :
    (m.whileActive names).active = .ofList names := by
  cases m <;> rfl

/-- Every matcher is a search while its own profiles are active. -/
theorem whileActive_names (m : Matcher) : m.whileActive m.active.names = m := by
  cases m <;> rw [whileActive, active, ProfileSet.ofList_names]

theorem positiveTest_whileActive_congr (m : Matcher) {names others : List String}
    (h : ∀ p, p ∈ names ↔ p ∈ others) :
    (m.whileActive names).positiveTest.accepts = (m.whileActive others).positiveTest.accepts := by
  cases m with
  | generic => exact NameTest.accepts_activeOrBlank_congr (ProfileSet.perm_ofList h)
  | default => rfl
  | specific => rfl

section TwoRuns

variable (m : Matcher) {names others : List String} {e f : Expression}
  (hactive : ∀ p, p ∈ names ↔ p ∈ others) (hsame : e.SameNames f)
include hactive hsame

theorem positiveStatus_whileActive_congr :
    (m.whileActive names).positiveStatus e = (m.whileActive others).positiveStatus f :=
  NameTest.status_congr (positiveTest_whileActive_congr m hactive) hsame.positive

theorem negativeStatus_whileActive_congr :
    (m.whileActive names).negativeStatus e = (m.whileActive others).negativeStatus f := by
  rw [negativeStatus, negativeStatus, active_whileActive, active_whileActive]
  exact NameTest.status_congr
    (NameTest.accepts_activeOrBlank_congr (ProfileSet.perm_ofList hactive)) hsame.negative

theorem status_whileActive_congr :
    (m.whileActive names).status e = (m.whileActive others).status f := by
  rw [status, status, negativeStatus_whileActive_congr m hactive hsame,
    positiveStatus_whileActive_congr m hactive hsame, isEmpty_congr_of_mem hsame.positive,
    isEmpty_congr_of_mem hsame.negative]

end TwoRuns

/-! ### Every search decides -/

theorem status_ne_abstain (m : Matcher) (e : Expression) : m.status e ≠ .abstain := by
  rw [status]
  split
  · exact Status.noConfusion
  · split
    · exact Status.noConfusion
    · rename_i hpositive
      rw [positiveStatus, NameTest.status, if_neg hpositive]
      split <;> exact Status.noConfusion

/-- A veto decides against the document, whatever its positive profiles are. -/
theorem status_of_vetoed (m : Matcher) (e : Expression) (h : m.negativeStatus e = .found) :
    m.status e = .notFound := by
  have hnegative : e.negative.isEmpty = false := by
    obtain ⟨p, hp, -⟩ := (NameTest.status_eq_found_iff _ _).1 h
    exact List.isEmpty_eq_false_iff.2 (List.ne_nil_of_mem hp)
  rw [status, hnegative, h]
  rfl

/-- **Matching has set semantics and always decides.**  Two expressions that name the same profiles,
in any order and any number of times and with any raw texts, have the same outcomes in two searches
of the same kind while the same profiles are active, again in any order: for their positive
profiles, for their negated ones and as a whole.  The outcome as a whole is never that nothing was
declared, and if a negated profile is found, the document does not apply. -/
theorem matching_has_set_semantics (m : Matcher) (names others : List String) (e f : Expression)
    (hactive : ∀ p, p ∈ names ↔ p ∈ others)
    (hpositive : ∀ p, p ∈ e.positive ↔ p ∈ f.positive)
    (hnegative : ∀ p, p ∈ e.negative ↔ p ∈ f.negative) :
    ((m.whileActive names).status e = (m.whileActive others).status f ∧
      (m.whileActive names).positiveStatus e = (m.whileActive others).positiveStatus f ∧
      (m.whileActive names).negativeStatus e = (m.whileActive others).negativeStatus f) ∧
    m.status e ≠ .abstain ∧ (m.negativeStatus e = .found → m.status e = .notFound) := by
  have hsame : e.SameNames f := ⟨hpositive, hnegative⟩
  refine ⟨⟨?_, ?_, ?_⟩, m.status_ne_abstain e, m.status_of_vetoed e⟩
  · exact status_whileActive_congr m hactive hsame
  · exact positiveStatus_whileActive_congr m hactive hsame
  · exact negativeStatus_whileActive_congr m hactive hsame

/-- The search for `qa` while `q` and `a` are active, with repetitions on both sides and a lone
negation mark: the two expressions have the same outcomes. -/
theorem repeated_names_match_alike :
    let e : Expression := ⟨["dev", "dev", "qa"], ["b", ""], none⟩
    let f : Expression := ⟨["qa", "dev"], ["", "b", ""], some "qa, !"⟩
    let m := Matcher.specific "qa" .empty
    (∀ p, p ∈ ["q", "a", "q"] ↔ p ∈ ["a", "q"]) ∧ (∀ p, p ∈ e.positive ↔ p ∈ f.positive) ∧
      (∀ p, p ∈ e.negative ↔ p ∈ f.negative) ∧
      (m.whileActive ["q", "a", "q"]).status e = .found ∧
      (m.whileActive ["a", "q"]).status f = .found := by
  intro e f m
  have hactive : ∀ p, p ∈ ["q", "a", "q"] ↔ p ∈ ["a", "q"] := by
    intro p
    simp only [List.mem_cons, List.not_mem_nil, or_false]
    tauto
  have hpositive : ∀ p, p ∈ e.positive ↔ p ∈ f.positive := by
    intro p
    simp only [e, f, List.mem_cons, List.not_mem_nil, or_false]
    tauto
  have hnegative : ∀ p, p ∈ e.negative ↔ p ∈ f.negative := by
    intro p
    simp only [e, f, List.mem_cons, List.not_mem_nil, or_false]
    tauto
  obtain ⟨⟨hstatus, -⟩, -⟩ :=
    matching_has_set_semantics m ["q", "a", "q"] ["a", "q"] e f hactive hpositive hnegative
  have hfound : (m.whileActive ["q", "a", "q"]).status e = .found := by decide
  exact ⟨hactive, hpositive, hnegative, hfound, hstatus ▸ hfound⟩

end Matcher

end ProfileLayers
