/-
**Comma-separated lists.**

A list is written as one text with commas between its items.  Items are trimmed, and blank items are
dropped, so a blank text is the empty list.

Main definitions:

* `ProfileLayers.splitAtCommas` — the pieces between the commas;
* `ProfileLayers.splitList` — the items;
* `ProfileLayers.joinList` — items with commas between them.

Main results:

* `ProfileLayers.splitAtCommas_append_comma`, `ProfileLayers.splitItems_append_comma` — a comma
  between two texts separates their items;
* `ProfileLayers.comma_not_mem_piece` — no piece holds a comma.
-/

import ProfileLayers.Text.Blank

set_option relaxedAutoImplicit false
set_option autoImplicit false

namespace ProfileLayers

/-- The pieces between the commas; there is always at least one. -/
def splitAtCommas : List Char → List (List Char)
  | [] => [[]]
  | c :: cs =>
      if c = ',' then [] :: splitAtCommas cs
      else
        match splitAtCommas cs with
        | [] => [[c]]
        | piece :: pieces => (c :: piece) :: pieces

/-- The trimmed pieces between the commas that are not blank. -/
def splitItems (cs : List Char) : List (List Char) :=
  ((splitAtCommas cs).map trimBlanks).filter fun item => !item.isEmpty

/-- The items of a comma-separated list. -/
def splitList (s : String) : List String := (splitItems s.toList).map String.ofList

/-- Items with commas between them. -/
def joinList (items : List String) : String := String.intercalate "," items

theorem splitAtCommas_ne_nil (cs : List Char) : splitAtCommas cs ≠ [] := by
  cases cs with
  | nil => simp [splitAtCommas]
  | cons c cs =>
      simp only [splitAtCommas]
      split
      · simp
      · split <;> simp

/-- The pieces of two texts with a comma between them are those of the first and then those of the
second. -/
theorem splitAtCommas_append_comma (cs ds : List Char) :
    splitAtCommas (cs ++ ',' :: ds) = splitAtCommas cs ++ splitAtCommas ds := by
  induction cs with
  | nil => simp [splitAtCommas]
  | cons c cs ih =>
      by_cases h : c = ','
      · simp [splitAtCommas, h, ih]
      · obtain ⟨piece, pieces, hp⟩ : ∃ piece pieces, splitAtCommas cs = piece :: pieces := by
          cases e : splitAtCommas cs with
          | nil => exact absurd e (splitAtCommas_ne_nil cs)
          | cons piece pieces => exact ⟨piece, pieces, rfl⟩
        simp [splitAtCommas, h, ih, hp]

/-- No piece holds a comma. -/
theorem comma_not_mem_piece (cs piece : List Char) (h : piece ∈ splitAtCommas cs) :
    ',' ∉ piece := by
  induction cs generalizing piece with
  | nil => simp_all [splitAtCommas]
  | cons c cs ih =>
      rw [splitAtCommas] at h
      split at h
      · rcases List.mem_cons.1 h with rfl | h
        · simp
        · exact ih piece h
      · rename_i hc
        cases e : splitAtCommas cs with
        | nil => exact absurd e (splitAtCommas_ne_nil cs)
        | cons first pieces =>
            rw [e] at h ih
            rcases List.mem_cons.1 h with rfl | h
            · have hf := ih first List.mem_cons_self
              intro hm
              rcases List.mem_cons.1 hm with hm | hm
              · exact hc hm.symm
              · exact hf hm
            · exact ih piece (List.mem_cons_of_mem first h)

/-- The items of two texts with a comma between them are those of the first and then those of the
second. -/
theorem splitItems_append_comma (cs ds : List Char) :
    splitItems (cs ++ ',' :: ds) = splitItems cs ++ splitItems ds := by
  simp [splitItems, splitAtCommas_append_comma]

end ProfileLayers
