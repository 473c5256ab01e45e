/-
**What the searches for documents have in common.**

The search for the default documents, the search for the documents of one profile and the search in
discovery apply the same veto, and differ in what makes a positive profile match.  For documents
that were read from a stream, whose positive profiles are never blank, this module says how the
first two follow from the third.

Main definitions:

* `ProfileLayers.IsToken` — what lists are cut into.

Main results:

* `ProfileLayers.Declarations.exists_tokens_of_bind` — the expression of a document sorts tokens;
* `ProfileLayers.exists_ofProperties_of_mem_readAll` — documents are bound from flat maps;
* `ProfileLayers.Declarations.not_isBlankText_of_mem_positive` — no positive profile is blank;
* `ProfileLayers.NameTest.accepts_activeOrBlank_iff` — when a name that is not blank matches;
* `ProfileLayers.Matcher.accepts_iff` — what it takes to apply;
* `ProfileLayers.Matcher.default_accepts_iff`, `ProfileLayers.Matcher.specific_accepts_iff`,
  `ProfileLayers.Matcher.exists_active_of_generic_accepts` — the searches compared.
-/

import ProfileLayers.Loader

set_option relaxedAutoImplicit false
set_option autoImplicit false

namespace ProfileLayers

/-! ### Tokens of lists -/

/-- If trimming leaves something, it begins with a character that is not blank. -/
theorem isBlank_of_head?_trimBlanks (cs : List Char) (c : Char)
    (h : (trimBlanks cs).head? = some c) : isBlank c = false := by
  have hfront : (cs.dropWhile isBlank).head? = some c := head?_trimBack (trimFront cs) c h
  have hnot := List.head?_dropWhile_not isBlank (l := cs)
  rw [hfront] at hnot
  simpa using hnot

/-- What trimming leaves does not end in a blank. -/
theorem isBlank_of_getLast?_trimBlanks (cs : List Char) (c : Char)
    (h : (trimBlanks cs).getLast? = some c) : isBlank c = false := by
  rw [trimBlanks, trimBack, List.getLast?_reverse] at h
  have hnot := List.head?_dropWhile_not isBlank (l := (trimFront cs).reverse)
  rw [h] at hnot
  simpa using hnot

/-- A token as lists are cut into: something that was trimmed, and not empty. -/
def IsToken (token : String) : Prop := token ≠ "" ∧ ∃ text, token = trim text

theorem IsToken.not_isBlankText {token : String} (h : IsToken token) :
    isBlankText token = false := by
  obtain ⟨hne, text, rfl⟩ := h
  have hchars : trimBlanks text.toList ≠ [] := by
    intro hnil
    apply hne
    rw [trim, hnil]
  obtain ⟨c, rest, hcs⟩ := List.exists_cons_of_ne_nil hchars
  have hc : isBlank c = false := isBlank_of_head?_trimBlanks text.toList c (by rw [hcs]; rfl)
  rw [isBlankText, trim, String.toList_ofList, hcs, List.all_cons, hc, Bool.false_and]

theorem isToken_of_mem_splitList (s token : String) (h : token ∈ splitList s) : IsToken token := by
  obtain ⟨item, hitem, rfl⟩ := List.mem_map.1 h
  obtain ⟨hmap, hne⟩ := List.mem_filter.1 hitem
  obtain ⟨piece, -, rfl⟩ := List.mem_map.1 hmap
  refine ⟨?_, String.ofList piece, by rw [trim, String.toList_ofList]⟩
  intro hempty
  rw [String.ofList_eq_empty_iff.1 hempty] at hne
  exact Bool.false_ne_true hne

/-- Trimming texts and dropping the blank ones gives tokens. -/
theorem isToken_of_mem_filter_trim (texts : List String) (token : String)
    (h : token ∈ (texts.map trim).filter fun t => t != "") : IsToken token := by
  obtain ⟨hmap, hne⟩ := List.mem_filter.1 h
  obtain ⟨text, -, rfl⟩ := List.mem_map.1 hmap
  exact ⟨bne_iff_ne.1 hne, text, rfl⟩

/-- The items of a list are tokens, in whichever form it was declared. -/
theorem isToken_of_mem_bindList? (m : PropertyMap) (key : String) (bound : BoundList)
    (hbound : bindList? m key = some bound) (token : String) (h : token ∈ bound.tokens) :
    IsToken token := by
  unfold bindList? at hbound
  split at hbound
  · rename_i value _
    cases hbound
    exact isToken_of_mem_splitList value.text token h
  · split at hbound
    · exact absurd hbound (Option.some_ne_none bound).symm
    · cases hbound
      exact isToken_of_mem_filter_trim _ token h

/-- The expression that is bound from a map sorts tokens. -/
theorem Declarations.exists_tokens_of_bind (m : PropertyMap) :
    ∃ tokens raw, (Declarations.bind m).appliesTo = { Expression.ofTokens tokens with raw := raw } ∧
      ∀ token ∈ tokens, IsToken token := by
  change ∃ tokens raw, Declarations.expression m profilesKey =
    { Expression.ofTokens tokens with raw := raw } ∧ ∀ token ∈ tokens, IsToken token
  unfold Declarations.expression
  split
  · rename_i bound hbound
    exact ⟨bound.tokens, some bound.raw, rfl, isToken_of_mem_bindList? m profilesKey bound hbound⟩
  · exact ⟨[], none, rfl, fun token h => absurd h List.not_mem_nil⟩

/-! ### Documents of a stream -/

/-- No positive profile that a document declares is blank. -/
theorem Declarations.not_isBlankText_of_mem_positive (m : PropertyMap) (p : String)
    (h : p ∈ (Declarations.bind m).appliesTo.positive) : isBlankText p = false := by
  obtain ⟨tokens, raw, hbind, htokens⟩ := Declarations.exists_tokens_of_bind m
  rw [hbind] at h
  exact (htokens p (List.mem_filter.1 h).1).not_isBlankText

theorem except_bind_eq_ok {α β : Type} (r : Except LoadError α) (f : α → Except LoadError β)
    (b : β) : r.bind f = .ok b ↔ ∃ a, r = .ok a ∧ f a = .ok b := by
  cases r with
  | error e => simp [Except.bind]
  | ok a => simp [Except.bind]

theorem except_map_eq_ok {α β : Type} (r : Except LoadError α) (f : α → β) (b : β) :
    r.map f = .ok b ↔ ∃ a, r = .ok a ∧ f a = b := by
  cases r with
  | error e => simp [Except.map]
  | ok a => simp [Except.map]

theorem exists_ofProperties_of_mem_ofNodes (source : String) (index : Nat)
    (nodes : List Yaml.Node) (documents : List Document)
    (h : (Document.ofNodes source index nodes).result = .ok documents) :
    ∀ d ∈ documents, ∃ place m, d = Document.ofProperties place m := by
  induction nodes generalizing index documents with
  | nil =>
      cases h
      intro d hd
      exact absurd hd List.not_mem_nil
  | cons node nodes ih =>
      simp only [Document.ofNodes, Document.ofNode, Report.result_bind, Report.result_pure,
        except_bind_eq_ok] at h
      obtain ⟨first, ⟨m, -, hfirst⟩, later, hlater, hdocuments⟩ := h
      cases hfirst
      cases hdocuments
      intro d hd
      rcases List.mem_cons.1 hd with rfl | hd
      · exact ⟨index, m, rfl⟩
      · exact ih (index + 1) later hlater d hd

/-- Every document of a stream is bound from a flat map. -/
theorem exists_ofProperties_of_mem_readAll (source text : String) (documents : List Document)
    (h : (Document.readAll source text).result = .ok documents) :
    ∀ d ∈ documents, ∃ place m, d = Document.ofProperties place m := by
  rw [Document.readAll, Report.result_bind, except_bind_eq_ok] at h
  obtain ⟨nodes, -, hnodes⟩ := h
  exact exists_ofProperties_of_mem_ofNodes source 0 nodes documents hnodes

/-- The positive profiles of a document of a stream are not blank. -/
theorem not_isBlankText_of_mem_profiles (source text : String) (documents : List Document)
    (h : (Document.readAll source text).result = .ok documents) (d : Document)
    (hd : d ∈ documents) : ∀ p ∈ d.profiles.positive, isBlankText p = false := by
  obtain ⟨place, m, rfl⟩ := exists_ofProperties_of_mem_readAll source text documents h d hd
  exact Declarations.not_isBlankText_of_mem_positive m

/-! ### Searches compared -/

namespace NameTest

/-- An active name matches, even a blank one: since it is active, blank names do not count as
active. -/
theorem accepts_activeOrBlank_of_mem (active : ProfileSet) (p : String) (h : p ∈ active) :
    (activeOrBlank active).accepts p = true := by
  have hsome : active.isEmpty = false := List.isEmpty_eq_false_iff.2 (List.ne_nil_of_mem h)
  rw [activeOrBlank, hsome]
  exact (ProfileSet.contains_iff active p).2 h

/-- A name that is not blank matches if it is active. -/
theorem accepts_activeOrBlank_iff (active : ProfileSet) (p : String)
    (hblank : isBlankText p = false) : (activeOrBlank active).accepts p = true ↔ p ∈ active := by
  refine ⟨?_, accepts_activeOrBlank_of_mem active p⟩
  intro hmatch
  rw [activeOrBlank] at hmatch
  split at hmatch
  · have hmatch : isBlankText p = true := hmatch
    rw [hblank] at hmatch
    exact absurd hmatch Bool.false_ne_true
  · exact (ProfileSet.contains_iff active p).1 hmatch

end NameTest

namespace Matcher

theorem accepts_iff_status (m : Matcher) (e : Expression) :
    m.accepts e = true ↔ m.status e = .found := by
  unfold accepts
  cases m.status e with
  | found => exact ⟨fun _ => rfl, fun _ => rfl⟩
  | notFound => exact ⟨fun h => absurd h Bool.false_ne_true, fun h => by cases h⟩
  | abstain => exact ⟨fun h => absurd h Bool.false_ne_true, fun h => by cases h⟩

/-- A document applies unless it is vetoed, if it has no positive profile or one that matches. -/
theorem accepts_iff (m : Matcher) (e : Expression) :
    m.accepts e = true ↔ (m.negativeStatus e).isFound = false ∧
      (e.positive = [] ∨ ∃ p ∈ e.positive, m.positiveTest.accepts p = true) := by
  have hveto : (!e.negative.isEmpty && (m.negativeStatus e).isFound) =
      (m.negativeStatus e).isFound := by
    cases hempty : e.negative.isEmpty with
    | false => rfl
    | true => simp [negativeStatus, NameTest.status, hempty, Status.isFound]
  unfold accepts status
  rw [hveto]
  cases hfound : (m.negativeStatus e).isFound with
  | true => simp [Status.isFound]
  | false =>
      cases hpositive : e.positive with
      | nil => simp [Status.isFound]
      | cons p ps =>
          have hany : (m.positiveStatus e).isFound = (p :: ps).any m.positiveTest.accepts := by
            rw [positiveStatus, NameTest.status, hpositive]
            cases (p :: ps).any m.positiveTest.accepts <;> rfl
          simp only [Bool.false_eq_true, if_false, List.isEmpty_cons, hany, List.any_eq_true,
            true_and, reduceCtorEq, false_or]

/-- Every search with the same active profiles applies the same veto. -/
theorem negativeStatus_congr (m n : Matcher) (e : Expression) (h : m.active = n.active) :
    m.negativeStatus e = n.negativeStatus e := by
  rw [negativeStatus, negativeStatus, h]

/-- The default search finds the documents without positive profiles that apply. -/
theorem default_accepts_iff (active : ProfileSet) (e : Expression)
    (hblank : ∀ p ∈ e.positive, isBlankText p = false) :
    (Matcher.default active).accepts e = true ↔
      e.positive = [] ∧ (Matcher.generic active).accepts e = true := by
  have hveto := negativeStatus_congr (.default active) (.generic active) e rfl
  rw [accepts_iff, accepts_iff, hveto]
  constructor
  · rintro ⟨hfound, hpositive | ⟨p, hp, hmatch⟩⟩
    · exact ⟨hpositive, hfound, .inl hpositive⟩
    · have hmatch : isBlankText p = true := hmatch
      rw [hblank p hp] at hmatch
      exact absurd hmatch Bool.false_ne_true
  · rintro ⟨hpositive, hfound, -⟩
    exact ⟨hfound, .inl hpositive⟩

/-- The search for an active profile finds, of the documents with positive profiles, those that name
it and apply. -/
theorem specific_accepts_iff (profile : String) (active : ProfileSet) (e : Expression)
    (hactive : profile ∈ active) :
    ((Matcher.specific profile active).accepts e = true ∧ e.positive ≠ []) ↔
      profile ∈ e.positive ∧ (Matcher.generic active).accepts e = true := by
  have hveto := negativeStatus_congr (.specific profile active) (.generic active) e rfl
  have htest := NameTest.accepts_activeOrBlank_of_mem active profile hactive
  rw [accepts_iff, accepts_iff, hveto]
  constructor
  · rintro ⟨⟨hfound, hpositive | ⟨p, hp, hmatch⟩⟩, hsome⟩
    · exact absurd hpositive hsome
    · have hsame : p = profile := beq_iff_eq.1 hmatch
      rw [hsame] at hp
      exact ⟨hp, hfound, .inr ⟨profile, hp, htest⟩⟩
  · rintro ⟨hp, hfound, -⟩
    exact ⟨⟨hfound, .inr ⟨profile, hp, beq_self_eq_true profile⟩⟩, List.ne_nil_of_mem hp⟩

/-- A document that applies in discovery has no positive profile, or one that is active. -/
theorem exists_active_of_generic_accepts (active : ProfileSet) (e : Expression)
    (hblank : ∀ p ∈ e.positive, isBlankText p = false)
    (h : (Matcher.generic active).accepts e = true) :
    e.positive = [] ∨ ∃ p ∈ active, p ∈ e.positive := by
  rw [accepts_iff] at h
  obtain ⟨-, hpositive | ⟨p, hp, hmatch⟩⟩ := h
  · exact .inl hpositive
  · exact .inr ⟨p, (NameTest.accepts_activeOrBlank_iff active p (hblank p hp)).1 hmatch, hp⟩

end Matcher

end ProfileLayers
