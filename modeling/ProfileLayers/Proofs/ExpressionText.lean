/-
**Expressions written and read back.**

An expression that was made of tokens has no text of its own; it is written as its positive names
and then its negated ones behind their marks, with commas between them.  This is the list of tokens
in another order: every token is either a positive name as it stands, or a mark and a negated name.
So what is written is again made of trimmed texts that are not empty and hold no comma, cutting it
gives them back, and sorting them again separates what had been put one behind the other.  A mark is
part of its token, so that even a lone one, or a name that begins with a mark or a blank, survives.

Main definitions:

* `ProfileLayers.isMarked` — tokens with a negation mark.

Main results:

* `ProfileLayers.Expression.positive_ofTokens`,
  `ProfileLayers.Expression.marked_negative_ofTokens` — sorting tokens;
* `ProfileLayers.Expression.perm_tokens_ofTokens` — the tokens of an expression are those it was
  made of, in another order;
* `ProfileLayers.Expression.ofTokens_tokens` — sorting the tokens of an expression gives its names;
* `ProfileLayers.Expression.written_expression_is_read_back` — **expressions survive being
  written**.
-/

import Mathlib.Data.List.Basic
import ProfileLayers.Proofs.CommaList

set_option relaxedAutoImplicit false
set_option autoImplicit false

namespace ProfileLayers

/-! ### Marks -/

/-- The token begins with a negation mark. -/
def isMarked (token : String) : Bool := token.toList.head? == some '!'

namespace Expression

@[simp] theorem isMarked_mark (name : String) : isMarked ("!" ++ name) = true := by
  simp [isMarked]

@[simp] theorem negated?_mark (name : String) : negated? ("!" ++ name) = some name := by
  simp [negated?]

/-- A token is a mark and the name behind it, or it has no mark. -/
theorem negated?_eq_some_iff (token name : String) :
    negated? token = some name ↔ token = "!" ++ name := by
  constructor
  · intro h
    unfold negated? at h
    split at h
    · rename_i cs hcs
      cases h
      apply String.toList_injective
      simp [hcs]
    · exact absurd h (Option.some_ne_none name).symm
  · rintro rfl
    exact negated?_mark name

theorem isSome_negated? (token : String) : (negated? token).isSome = isMarked token := by
  unfold negated? isMarked
  split
  · rename_i cs hcs
    simp [hcs]
  · rename_i hnot
    cases hcs : token.toList with
    | nil => rfl
    | cons c cs =>
        have hc : c ≠ '!' := fun e => hnot cs (e ▸ hcs)
        simp [hc]

/-! ### Sorting tokens -/

/-- The positive names are the tokens without a mark, in their order. -/
theorem positive_ofTokens (tokens : List String) :
    (ofTokens tokens).positive = tokens.filter fun t => !isMarked t := by
  change (tokens.filter fun t => (negated? t).isNone) = _
  apply List.filter_congr
  intro t _
  rw [← isSome_negated?, Option.not_isSome]

/-- The negated names behind their marks are the tokens with a mark, in their order. -/
theorem marked_negative_ofTokens (tokens : List String) :
    (ofTokens tokens).negative.map ("!" ++ ·) = tokens.filter isMarked := by
  change (tokens.filterMap negated?).map ("!" ++ ·) = _
  rw [List.map_filterMap, ← List.filterMap_eq_filter]
  apply List.filterMap_congr
  intro t _
  cases hname : negated? t with
  | none => simp [Option.guard, ← isSome_negated?, hname]
  | some name => simp [Option.guard, (negated?_eq_some_iff t name).1 hname]

/-- No token is lost or made up. -/
theorem perm_tokens_ofTokens (tokens : List String) : (ofTokens tokens).tokens.Perm tokens := by
  rw [Expression.tokens, marked_negative_ofTokens, positive_ofTokens]
  exact List.perm_append_comm.trans (List.filter_append_perm isMarked tokens)

/-- Sorting the tokens of an expression gives its names back, if no positive name has a mark. -/
theorem ofTokens_tokens (e : Expression) (h : ∀ p ∈ e.positive, isMarked p = false) :
    (ofTokens e.tokens).positive = e.positive ∧ (ofTokens e.tokens).negative = e.negative := by
  have hpositive : e.positive.filter (fun t => !isMarked t) = e.positive :=
    List.filter_eq_self.2 fun p hp => by rw [h p hp, Bool.not_false]
  have hunmarked : ∀ p ∈ e.positive, negated? p = Option.none := by
    intro p hp
    rw [← Option.isNone_iff_eq_none, ← Option.not_isSome, isSome_negated?, h p hp, Bool.not_false]
  constructor
  · rw [positive_ofTokens, Expression.tokens, List.filter_append, hpositive]
    simp
  · change (e.positive ++ e.negative.map ("!" ++ ·)).filterMap negated? = e.negative
    rw [List.filterMap_append, List.filterMap_eq_nil_iff.2 hunmarked, List.filterMap_map]
    simp

theorem isMarked_of_mem_positive_ofTokens (tokens : List String) (p : String)
    (h : p ∈ (ofTokens tokens).positive) : isMarked p = false := by
  rw [positive_ofTokens] at h
  simpa using (List.mem_filter.1 h).2

/-! ### Writing and reading back -/

theorem positive_parse (s : String) : (parse s).positive = (ofTokens (splitList s)).positive := rfl

theorem negative_parse (s : String) : (parse s).negative = (ofTokens (splitList s)).negative := rfl

theorem text_ofTokens (tokens : List String) :
    (ofTokens tokens).text = joinList (ofTokens tokens).tokens := rfl

/-- The tokens of a list, sorted and written with commas, are cut into the same tokens. -/
theorem splitList_text_ofTokens (s : String) :
    splitList (ofTokens (splitList s)).text = (ofTokens (splitList s)).tokens := by
  have hperm := perm_tokens_ofTokens (splitList s)
  apply splitList_joinList_of_isToken
  · intro t ht
    exact isToken_of_mem_splitList s t (hperm.mem_iff.1 ht)
  · intro t ht
    exact comma_not_mem_of_mem_splitList s t (hperm.mem_iff.1 ht)

/-- **Expressions survive being written.**  The tokens of any text make an expression that is
written as its positive names and then its negated names behind their marks, with commas between
them.  Reading what was written gives the same names on both sides, which are also those of the text
itself.  No positive name has a mark; the positive names are the tokens without a mark and the
negated names those behind the marks, both in the order of the tokens, and each token is one or the
other. -/
theorem written_expression_is_read_back (s : String) :
    let tokens := splitList s
    let e := ofTokens tokens
    (e.text = String.intercalate "," (e.positive ++ e.negative.map ("!" ++ ·)) ∧
      (parse e.text).positive = e.positive ∧ (parse e.text).negative = e.negative) ∧
    ((parse s).positive = e.positive ∧ (parse s).negative = e.negative) ∧
    (∀ p ∈ e.positive, p.toList.head? ≠ some '!') ∧
    (e.positive = tokens.filter (fun t => t.toList.head? != some '!') ∧
      e.negative.map ("!" ++ ·) = tokens.filter fun t => t.toList.head? == some '!') ∧
    e.positive.length + e.negative.length = tokens.length := by
  intro tokens e
  have hunmarked := isMarked_of_mem_positive_ofTokens tokens
  obtain ⟨hpositive, hnegative⟩ := ofTokens_tokens e hunmarked
  have hagain : splitList e.text = e.tokens := splitList_text_ofTokens s
  refine ⟨⟨text_ofTokens tokens, ?_, ?_⟩, ⟨positive_parse s, negative_parse s⟩, ?_,
    ⟨positive_ofTokens tokens, marked_negative_ofTokens tokens⟩, ?_⟩
  · rw [positive_parse, hagain, hpositive]
  · rw [negative_parse, hagain, hnegative]
  · intro p hp hmark
    have hmarked : isMarked p = true := beq_iff_eq.2 hmark
    rw [hunmarked p hp] at hmarked
    exact Bool.false_ne_true hmarked
  · have hlength := (perm_tokens_ofTokens tokens).length_eq
    rwa [Expression.tokens, List.length_append, List.length_map] at hlength

/-- Marks behind a mark, a lone mark, a blank behind a mark and blank tokens. -/
example : (ofTokens (splitList " !!a ,, b c,!, ! d ,b")).text = "b c,b,!!a,!,! d" := by decide

end Expression

end ProfileLayers
