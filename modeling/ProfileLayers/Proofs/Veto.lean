/-
**The veto at selection and at reading.**

Whether a negated profile keeps a document out is decided twice: by the search, when documents are
selected, and by the conditional source, whenever it is read.  The source looks for the negated
names among the active ones.  The search does so as well while some profile is active, but while
none is, it takes blank names for active.  An expression that was declared has one blank name at
most, the empty one behind a lone negation mark, and that one alone makes the two differ.

Main definitions:

* `ProfileLayers.Expression.IsDeclared` — expressions that were read from a text or bound from the
  keys of a document.

Main results:

* `ProfileLayers.Expression.IsDeclared.eq_empty_of_isBlankText` — a declared negated name that is
  blank is empty;
* `ProfileLayers.Matcher.negativeStatus_eq_found_iff` — the veto of a search;
* `ProfileLayers.Matcher.veto_agrees_with_reading_iff` — **when the two vetoes agree**.
-/

import ProfileLayers.Proofs.FirstOccurrence
import ProfileLayers.Proofs.Selection

set_option relaxedAutoImplicit false
set_option autoImplicit false

namespace ProfileLayers

/-! ### Negated names that were declared -/

/-- Expressions that were read from a text or bound from the keys of a document. -/
inductive Expression.IsDeclared : Expression → Prop where
  | parse (text : String) : IsDeclared (.parse text)
  | bind (m : PropertyMap) : IsDeclared (Declarations.bind m).appliesTo

/-- A blank name behind the mark of a token is empty, for nothing blank is left at the end of the
token. -/
theorem IsToken.eq_empty_of_negated? {token : String} (htoken : IsToken token) (name : String)
    (h : Expression.negated? token = some name) (hblank : isBlankText name = true) : name = "" := by
  obtain ⟨-, text, rfl⟩ := htoken
  have hchars : trimBlanks text.toList = '!' :: name.toList := by
    rw [Expression.negated?, trim, String.toList_ofList] at h
    split at h
    · rename_i cs hcs
      cases h
      rw [hcs, String.toList_ofList]
    · exact absurd h (Option.some_ne_none name).symm
  by_cases hempty : name.toList = []
  · exact String.toList_eq_nil_iff.1 hempty
  · have hend : (trimBlanks text.toList).getLast? = some (name.toList.getLast hempty) := by
      rw [hchars, List.getLast?_cons, List.getLast?_eq_some_getLast hempty, Option.getD_some]
    have hnot := isBlank_of_getLast?_trimBlanks _ _ hend
    have hall := List.all_eq_true.1 hblank _ (List.getLast_mem hempty)
    rw [hnot] at hall
    exact absurd hall Bool.false_ne_true

/-- A declared expression sorts tokens. -/
theorem Expression.IsDeclared.exists_tokens {e : Expression} (h : e.IsDeclared) :
    ∃ tokens raw, e = { Expression.ofTokens tokens with raw := raw } ∧
      ∀ token ∈ tokens, IsToken token := by
  cases h with
  | parse text => exact ⟨splitList text, some text, rfl, isToken_of_mem_splitList text⟩
  | bind m => exact Declarations.exists_tokens_of_bind m

/-- A declared negated name that is blank is empty. -/
theorem Expression.IsDeclared.eq_empty_of_isBlankText {e : Expression} (h : e.IsDeclared)
    (name : String) (hname : name ∈ e.negative) (hblank : isBlankText name = true) : name = "" := by
  obtain ⟨tokens, raw, rfl, htokens⟩ := h.exists_tokens
  obtain ⟨token, htoken, hnegated⟩ := List.mem_filterMap.1 hname
  exact (htokens token htoken).eq_empty_of_negated? name hnegated hblank

/-! ### The two vetoes -/

theorem NameTest.status_eq_found_iff (t : NameTest) (names : List String) :
    t.status names = .found ↔ ∃ p ∈ names, t.accepts p = true := by
  rw [← List.any_eq_true, status]
  cases names with
  | nil => simp
  | cons p ps => cases (p :: ps).any t.accepts <;> simp

/-- A conditional source is vetoed if one of its negated profiles is active. -/
theorem isUnvetoed_eq_false_iff (active : ProfileSet) (vetoes : List String) :
    isUnvetoed active vetoes = false ↔ ∃ p ∈ vetoes, p ∈ active := by
  rw [isUnvetoed, Bool.not_eq_false', List.any_eq_true]
  simp only [ProfileSet.contains_iff]

namespace Matcher

/-- A search vetoes a declared expression if one of its negated profiles is active, or if a lone
negation mark is declared and no profile is active. -/
theorem negativeStatus_eq_found_iff (m : Matcher) (e : Expression) (he : e.IsDeclared) :
    m.negativeStatus e = .found ↔
      (∃ p ∈ e.negative, p ∈ m.active) ∨ (m.active.names = [] ∧ "" ∈ e.negative) := by
  rw [negativeStatus, NameTest.status_eq_found_iff, NameTest.activeOrBlank]
  split
  · rename_i hempty
    have hnone := (ProfileSet.isEmpty_iff m.active).1 hempty
    constructor
    · rintro ⟨p, hp, hblank⟩
      rw [he.eq_empty_of_isBlankText p hp hblank] at hp
      exact .inr ⟨hnone, hp⟩
    · rintro (⟨p, -, hactive⟩ | ⟨-, hp⟩)
      · rw [ProfileSet.mem_def, hnone] at hactive
        exact absurd hactive List.not_mem_nil
      · exact ⟨"", hp, rfl⟩
  · rename_i hsome
    have hne : m.active.names ≠ [] := fun hnone => hsome ((ProfileSet.isEmpty_iff m.active).2 hnone)
    simp only [NameTest.accepts, ProfileSet.contains_iff, hne, false_and, or_false]

/-- **When the two vetoes agree.**  Whatever is searched for, the veto at selection is the veto at
reading, which is that a negated profile is active, except for expressions with a lone negation mark
while no profile is active: these are not selected although they could be read. -/
theorem veto_agrees_with_reading_iff (m : Matcher) (e : Expression) (he : e.IsDeclared) :
    (isUnvetoed m.active e.negative = false ↔ ∃ p ∈ e.negative, p ∈ m.active) ∧
      ((m.negativeStatus e = .found ↔ isUnvetoed m.active e.negative = false) ↔
        ¬ (m.active.names = [] ∧ "" ∈ e.negative)) := by
  refine ⟨isUnvetoed_eq_false_iff m.active e.negative, ?_⟩
  rw [negativeStatus_eq_found_iff m e he, isUnvetoed_eq_false_iff]
  constructor
  · rintro hagree ⟨hnone, hmark⟩
    obtain ⟨p, -, hactive⟩ := hagree.1 (.inr ⟨hnone, hmark⟩)
    rw [ProfileSet.mem_def, hnone] at hactive
    exact List.not_mem_nil hactive
  · intro hregular
    exact or_iff_left hregular

/-- While `b` is active, the vetoes agree on an expression that negates it, lone mark or not. -/
theorem veto_agrees_beside_lone_mark :
    (Expression.parse "a, !b, !").IsDeclared ∧
      ((Matcher.specific "a" (.ofList ["b"])).negativeStatus (.parse "a, !b, !") = .found ↔
        isUnvetoed (.ofList ["b"]) (Expression.parse "a, !b, !").negative = false) := by
  have hdeclared := Expression.IsDeclared.parse "a, !b, !"
  have hactive : ¬ ((ProfileSet.ofList ["b"]).names = [] ∧
      "" ∈ (Expression.parse "a, !b, !").negative) := by decide
  exact ⟨hdeclared, (veto_agrees_with_reading_iff (.specific "a" (.ofList ["b"])) _
    hdeclared).2.2 hactive⟩

/-- While nothing is active, a lone negation mark keeps a document from being selected, although
none of its negated profiles is active. -/
theorem lone_mark_vetoes_selection_only :
    ¬ ∀ (text : String) (m : Matcher),
      m.negativeStatus (.parse text) = .found ↔
        isUnvetoed m.active (Expression.parse text).negative = false := by
  intro h
  have hveto := (h "!" (.generic .empty)).1 (by decide)
  exact absurd hveto (by decide)

end Matcher

end ProfileLayers
