/-
**Lists written with commas.**

Cutting a text at its commas undoes joining texts with commas, as long as no text holds a comma
itself and there is at least one.  Lists of tokens are trimmed and lose their blank items when they
are read, so what is read back from joined texts are the texts in that form; and tokens, which are
in that form already, are read back as they are.  The list without items is written as the empty
text, which is cut into one blank piece and read as no item.

What a list is cut into is told by its pieces: a comma between two texts separates their items, and
a text without a comma is one item in blanks or nothing but blanks.

Main definitions:

* `ProfileLayers.IsListItem` — the texts that are items as they stand.

Main results:

* `ProfileLayers.splitAtCommas_eq_splitOn` — cutting at commas is that of the library;
* `ProfileLayers.IsToken.trim_eq` — tokens are trimmed;
* `ProfileLayers.splitList_joinList` — what is read back from joined texts;
* `ProfileLayers.splitList_joinList_of_isToken` — tokens are read back as they are;
* `ProfileLayers.exists_padding` — trimming takes nothing but blanks away;
* `ProfileLayers.splitList_append_comma` — a comma separates the items of two texts;
* `ProfileLayers.isListItem_of_mem_splitList` — what lists are cut into;
* `ProfileLayers.lists_cut_exactly_at_commas` — **lists are cut exactly, and piece by piece**.
-/

import ProfileLayers.Proofs.Selection

set_option relaxedAutoImplicit false
set_option autoImplicit false

namespace ProfileLayers

/-! ### Trimming -/

theorem trimBlanks_trimBlanks (cs : List Char) : trimBlanks (trimBlanks cs) = trimBlanks cs := by
  have hfront : trimFront (trimBlanks cs) = trimBlanks cs :=
    (trimFront_eq_self_iff _).2 (isBlank_of_head?_trimBlanks cs)
  have hback : trimBack (trimBlanks cs) = trimBlanks cs :=
    (trimBack_eq_self_iff _).2 (isBlank_of_getLast?_trimBlanks cs)
  calc trimBlanks (trimBlanks cs) = trimBack (trimFront (trimBlanks cs)) := rfl
    _ = trimBlanks cs := by rw [hfront, hback]

theorem IsToken.trim_eq {token : String} (h : IsToken token) : trim token = token := by
  obtain ⟨-, text, rfl⟩ := h
  rw [trim, trim, String.toList_ofList, trimBlanks_trimBlanks]

/-- Only blanks go when characters are trimmed. -/
theorem exists_append_trimBlanks (cs : List Char) :
    ∃ left right, cs = left ++ trimBlanks cs ++ right ∧ left.all isBlank = true ∧
      right.all isBlank = true := by
  have hfront : cs = cs.takeWhile isBlank ++ trimFront cs := List.takeWhile_append_dropWhile.symm
  have hback : trimFront cs =
      trimBlanks cs ++ ((trimFront cs).reverse.takeWhile isBlank).reverse := by
    rw [trimBlanks, trimBack, ← List.reverse_append, List.takeWhile_append_dropWhile,
      List.reverse_reverse]
  refine ⟨cs.takeWhile isBlank, ((trimFront cs).reverse.takeWhile isBlank).reverse, ?_,
    List.all_takeWhile, ?_⟩
  · rw [List.append_assoc, ← hback]
    exact hfront
  · rw [List.all_reverse]
    exact List.all_takeWhile

theorem mem_of_mem_trimBlanks (cs : List Char) (c : Char) (h : c ∈ trimBlanks cs) : c ∈ cs := by
  obtain ⟨left, right, hcs, -⟩ := exists_append_trimBlanks cs
  rw [hcs]
  exact List.mem_append_left right (List.mem_append_right left h)

theorem comma_not_mem_trim (text : String) (h : ',' ∉ text.toList) : ',' ∉ (trim text).toList := by
  rw [trim, String.toList_ofList]
  exact fun hmem => h (mem_of_mem_trimBlanks text.toList ',' hmem)

/-! ### Cutting what was joined -/

theorem splitAtCommas_eq_splitOn (cs : List Char) : splitAtCommas cs = cs.splitOn ',' := by
  induction cs with
  | nil => rfl
  | cons c cs ih =>
      have hrest : splitAtCommas cs = cs.splitOnP (· == ',') := ih
      obtain ⟨piece, pieces, hpieces⟩ := List.exists_cons_of_ne_nil (splitAtCommas_ne_nil cs)
      rw [List.splitOn, List.splitOnP_cons_eq_if_modifyHead, ← hrest, splitAtCommas]
      by_cases hc : c = ',' <;> simp [hc, hpieces]

/-- What is read back from texts that were joined by commas: they are trimmed, and the blank ones
are dropped. -/
theorem splitList_joinList (texts : List String) (h : ∀ text ∈ texts, ',' ∉ text.toList) :
    splitList (joinList texts) = (texts.map trim).filter fun t => t != "" := by
  by_cases hnil : texts = []
  · subst hnil
    rfl
  · have hpieces : splitAtCommas (joinList texts).toList = texts.map String.toList := by
      rw [splitAtCommas_eq_splitOn, joinList, String.toList_intercalate]
      exact List.splitOn_intercalate ',' (by simpa using h) (by simpa using hnil)
    have htrim : (trimBlanks ∘ String.toList : String → List Char) = String.toList ∘ trim := by
      funext text
      simp [trim]
    have hempty : ((fun cs : List Char => !cs.isEmpty) ∘ String.toList) = fun t => t != "" := by
      funext t
      cases hb : t != "" <;> simp_all
    rw [splitList, splitItems, hpieces, List.map_map, htrim, ← List.map_map, List.filter_map,
      hempty, List.map_map]
    simp

/-- Tokens that were joined by commas are read back as they are. -/
theorem splitList_joinList_of_isToken (tokens : List String) (htoken : ∀ t ∈ tokens, IsToken t)
    (hcomma : ∀ t ∈ tokens, ',' ∉ t.toList) : splitList (joinList tokens) = tokens := by
  have htrim : tokens.map trim = tokens :=
    (List.map_congr_left fun t ht => (htoken t ht).trim_eq).trans (List.map_id tokens)
  rw [splitList_joinList tokens hcomma, htrim, List.filter_eq_self]
  intro t ht
  exact bne_iff_ne.2 (htoken t ht).1

/-! ### What a text is cut into -/

/-- A text is its trimmed form between blanks. -/
theorem exists_padding (s : String) :
    ∃ left right, s = left ++ trim s ++ right ∧ isBlankText left = true ∧
      isBlankText right = true := by
  obtain ⟨left, right, hcs, hleft, hright⟩ := exists_append_trimBlanks s.toList
  refine ⟨String.ofList left, String.ofList right, ?_, ?_, ?_⟩
  · apply String.toList_injective
    simpa [trim] using hcs
  · simpa [isBlankText] using hleft
  · simpa [isBlankText] using hright

theorem trim_eq_empty_iff (s : String) : trim s = "" ↔ isBlankText s = true := by
  rw [trim, String.ofList_eq_empty_iff, trimBlanks_eq_nil_iff, isBlankText]

/-- A text that is an item of a list as it stands. -/
structure IsListItem (text : String) : Prop where
  ne_empty : text ≠ ""
  front : ∀ c, text.toList.head? = some c → isBlank c = false
  back : ∀ c, text.toList.getLast? = some c → isBlank c = false
  comma_not_mem : ',' ∉ text.toList

theorem comma_not_mem_of_mem_splitList (s token : String) (h : token ∈ splitList s) :
    ',' ∉ token.toList := by
  obtain ⟨item, hitem, rfl⟩ := List.mem_map.1 h
  obtain ⟨piece, hpiece, rfl⟩ := List.mem_map.1 (List.mem_filter.1 hitem).1
  rw [String.toList_ofList]
  exact fun hmem => comma_not_mem_piece s.toList piece hpiece (mem_of_mem_trimBlanks piece ',' hmem)

theorem isListItem_of_mem_splitList (s item : String) (h : item ∈ splitList s) :
    IsListItem item := by
  have hcomma : ',' ∉ item.toList := comma_not_mem_of_mem_splitList s item h
  obtain ⟨hne, text, rfl⟩ := isToken_of_mem_splitList s item h
  have hchars : (trim text).toList = trimBlanks text.toList := String.toList_ofList
  refine ⟨hne, fun c hc => ?_, fun c hc => ?_, hcomma⟩
  · rw [hchars] at hc
    exact isBlank_of_head?_trimBlanks text.toList c hc
  · rw [hchars] at hc
    exact isBlank_of_getLast?_trimBlanks text.toList c hc

/-- The items of two texts with a comma between them are those of the first and then those of the
second. -/
theorem splitList_append_comma (s t : String) :
    splitList (s ++ "," ++ t) = splitList s ++ splitList t := by
  have hchars : (s ++ "," ++ t).toList = s.toList ++ ',' :: t.toList := by simp
  rw [splitList, hchars, splitItems_append_comma, List.map_append]
  rfl

/-- A text without a comma is one item between blanks, unless it is nothing but blanks. -/
theorem splitList_of_comma_not_mem (s : String) (h : ',' ∉ s.toList) :
    splitList s = if isBlankText s then [] else [trim s] := by
  have hjoin : joinList [s] = s := by simp [joinList]
  have hsingle : splitList (joinList [s]) = ([s].map trim).filter fun t => t != "" :=
    splitList_joinList [s] (by simpa using h)
  rw [hjoin] at hsingle
  rw [hsingle]
  by_cases hblank : isBlankText s = true
  · simp [hblank, (trim_eq_empty_iff s).2 hblank]
  · have hne : trim s ≠ "" := fun e => hblank ((trim_eq_empty_iff s).1 e)
    simp [hblank, hne]

/-- **Lists are cut exactly, and piece by piece.**  Every item that a text is cut into is not empty,
neither begins nor ends with a blank and holds no comma, and cutting the items with commas between
them gives the same items.  A comma between two texts separates their items.  A text without a comma
gives no item if it is blank, and otherwise itself without the blanks at its two ends. -/
theorem lists_cut_exactly_at_commas (s t : String) :
    (∀ item ∈ splitList s, IsListItem item) ∧
    splitList (joinList (splitList s)) = splitList s ∧
    splitList (s ++ "," ++ t) = splitList s ++ splitList t ∧
    (',' ∉ s.toList →
      isBlankText s = true ∧ splitList s = [] ∨
      ∃ left item right, s = left ++ item ++ right ∧ isBlankText left = true ∧
        isBlankText right = true ∧ splitList s = [item]) := by
  refine ⟨isListItem_of_mem_splitList s, ?_, splitList_append_comma s t, fun hcomma => ?_⟩
  · exact splitList_joinList_of_isToken _ (isToken_of_mem_splitList s)
      (comma_not_mem_of_mem_splitList s)
  · rw [splitList_of_comma_not_mem s hcomma]
    by_cases hblank : isBlankText s = true
    · exact .inl ⟨hblank, if_pos hblank⟩
    · obtain ⟨left, right, hs, hleft, hright⟩ := exists_padding s
      exact .inr ⟨left, trim s, right, hs, hleft, hright, if_neg hblank⟩

/-- A text between blanks of which one is ideographic and one does not break. -/
def paddedText : String := "\u3000a b\u00a0"

/-- The padded text is one item, also in front of a comma, and keeps the blank inside. -/
theorem paddedText_cut_exactly :
    "a b" ∈ splitList paddedText ∧ IsListItem "a b" ∧
      splitList (paddedText ++ "," ++ " ,!c") = ["a b", "!c"] ∧
      ',' ∉ paddedText.toList ∧
      ∃ left item right, paddedText = left ++ item ++ right ∧ isBlankText left = true ∧
        isBlankText right = true ∧ splitList paddedText = [item] := by
  have hmem : "a b" ∈ splitList paddedText := by decide
  have hcomma : ',' ∉ paddedText.toList := by decide
  have hblank : ¬ isBlankText paddedText = true := by decide
  obtain ⟨hitems, -, happend, hpiece⟩ := lists_cut_exactly_at_commas paddedText " ,!c"
  refine ⟨hmem, hitems "a b" hmem, happend.trans (by decide), hcomma, ?_⟩
  exact (hpiece hcomma).resolve_left fun h => hblank h.1

end ProfileLayers
