/-
**Repeated names, each numbered on its own.**

One tally of all names is carried along a list while its repetitions are numbered.  At a position it
holds for the name there how often the name occurred before, since counting another name leaves this
count alone.  So the text at a position is told by the name and by its earlier occurrences, whatever
stands between them, and nothing that follows has a part in it.

Main results:

* `ProfileLayers.getElem?_numberFrom`, `ProfileLayers.getElem?_numberRepeats` — the text at a
  position, from any tally on and in a whole list;
* `ProfileLayers.getElem?_numberRepeats_append` — the text at a position behind other names;
* `ProfileLayers.repeats_numbered_for_each_name` — **each name is numbered on its own**.
-/

import ProfileLayers.SourceName

set_option relaxedAutoImplicit false
set_option autoImplicit false

namespace ProfileLayers

theorem numbered_of_pos (name : String) (before : Nat) (h : 0 < before) :
    numbered name before = name ++ "[" ++ (before - 1).repr ++ "]" := by
  cases before with
  | zero => exact absurd h (Nat.lt_irrefl 0)
  | succ k => rfl

/-! ### The text at a position -/

/-- From any tally on, a name is numbered after its occurrences in the tally and those in front of
it. -/
theorem getElem?_numberFrom (tally : Tally) (names : List String) (i : Nat) :
    (numberFrom tally names)[i]? =
      names[i]?.map fun name => numbered name (tally.count name + (names.take i).count name) := by
  induction names generalizing tally i with
  | nil => rfl
  | cons first names ih =>
      cases i with
      | zero => simp [numberFrom]
      | succ i =>
          -- `first` is counted in the tally on one side and in front of the name on the other
          have hcount : ∀ name, (tally.add first).count name + (names.take i).count name =
              tally.count name + ((first :: names).take (i + 1)).count name := by
            intro name
            rw [Tally.count_add, List.take_succ_cons, List.count_cons]
            omega
          simp only [numberFrom, List.getElem?_cons_succ, ih, hcount]

theorem getElem?_numberRepeats (names : List String) (i : Nat) :
    (numberRepeats names)[i]? =
      names[i]?.map fun name => numbered name ((names.take i).count name) := by
  simp only [numberRepeats, getElem?_numberFrom, Tally.count_empty, Nat.zero_add]

/-- Behind the names in `front`, a name is numbered after its occurrences there and those in
between. -/
theorem getElem?_numberRepeats_append (front back : List String) (i : Nat) :
    (numberRepeats (front ++ back))[front.length + i]? =
      back[i]?.map fun name => numbered name (front.count name + (back.take i).count name) := by
  have hbehind : (numberRepeats (front ++ back))[front.length + i]? =
      (numberFrom (Tally.empty.after front) back)[i]? := by
    have hlength : (numberFrom .empty front).length = front.length := length_numberFrom .empty front
    rw [numberRepeats, numberFrom_append, List.getElem?_append_right (by omega), hlength,
      Nat.add_sub_cancel_left]
  simp only [hbehind, getElem?_numberFrom, Tally.count_after, Tally.count_empty, Nat.zero_add]

/-- What stands in front of the earlier occurrences of a name, between them or behind them does not
matter. -/
theorem getElem?_numberRepeats_congr (names others : List String) (i j : Nat) (name : String)
    (hi : names[i]? = some name) (hj : others[j]? = some name)
    (hcount : (others.take j).count name = (names.take i).count name) :
    (numberRepeats others)[j]? = (numberRepeats names)[i]? := by
  rw [getElem?_numberRepeats, getElem?_numberRepeats, hi, hj, Option.map_some, Option.map_some,
    hcount]

/-- The names in front of others are numbered as if they stood alone. -/
theorem prefix_numberRepeats_append (front back : List String) :
    numberRepeats front <+: numberRepeats (front ++ back) := by
  rw [numberRepeats, numberRepeats, numberFrom_append]
  exact List.prefix_append _ _

/-! ### Each name on its own -/

/-- **Each name is numbered on its own.**  There is one text for each name of a list.  The first
occurrence of a name stays as it is, and each later one gets the number of the earlier occurrences
less one in brackets.  Two positions, of the same list or of two lists, that hold the same name with
equally many earlier occurrences have the same text.  So where other names are inserted, left out or
changed, a name keeps its text at all its positions, those in front of the place and those behind
it.  The texts of the names that begin a list begin those of the list. -/
theorem repeats_numbered_for_each_name (names : List String) :
    (numberRepeats names).length = names.length ∧
    (∀ i name, names[i]? = some name →
      (name ∉ names.take i → (numberRepeats names)[i]? = some name) ∧
      (name ∈ names.take i → (numberRepeats names)[i]? =
        some (name ++ "[" ++ ((names.take i).count name - 1).repr ++ "]"))) ∧
    (∀ others i j name, names[i]? = some name → others[j]? = some name →
      (others.take j).count name = (names.take i).count name →
      (numberRepeats others)[j]? = (numberRepeats names)[i]?) ∧
    (∀ (front old new back : List String) (name : String),
      names = front ++ old ++ back → name ∉ old → name ∉ new →
      (∀ i : Nat, front[i]? = some name →
        (numberRepeats (front ++ new ++ back))[i]? = (numberRepeats names)[i]?) ∧
      ∀ i : Nat, back[i]? = some name →
        (numberRepeats (front ++ new ++ back))[(front ++ new).length + i]? =
          (numberRepeats names)[(front ++ old).length + i]?) ∧
    ∀ front, front <+: names → numberRepeats front <+: numberRepeats names := by
  refine ⟨length_numberRepeats names, fun i name hi => ⟨fun hfirst => ?_, fun hlater => ?_⟩,
    getElem?_numberRepeats_congr names, ?_, ?_⟩
  · rw [getElem?_numberRepeats, hi, Option.map_some, List.count_eq_zero.2 hfirst]
    rfl
  · rw [getElem?_numberRepeats, hi, Option.map_some,
      numbered_of_pos name _ (List.count_pos_iff.2 hlater)]
  · rintro front old new back name rfl hold hnew
    refine ⟨fun i hi => ?_, fun i hi => ?_⟩
    · have hlt : i < front.length := (List.getElem?_eq_some_iff.1 hi).1
      simp only [List.append_assoc, getElem?_numberRepeats, List.getElem?_append_left hlt,
        List.take_append_of_le_length (Nat.le_of_lt hlt)]
    · simp only [getElem?_numberRepeats_append, hi, Option.map_some, List.count_append,
        List.count_eq_zero.2 hold, List.count_eq_zero.2 hnew]
  · rintro front ⟨back, rfl⟩
    exact prefix_numberRepeats_append front back

/-- Two names whose repetitions are mixed. -/
def mixedNames : List String := ["x", "y", "x", "x", "y"]

/-- The third `x` of the mixed names gets the second number.  It keeps it when other names take the
place of the first `y`, and has the same text as any third `x` among other names. -/
theorem mixedNames_numbered_for_each_name :
    mixedNames[3]? = some "x" ∧ "x" ∈ mixedNames.take 3 ∧ "x" ∉ mixedNames.take 0 ∧
      (numberRepeats mixedNames)[0]? = some "x" ∧ (numberRepeats mixedNames)[3]? = some "x[1]" ∧
      (numberRepeats (["x"] ++ ["z", "y", "y"] ++ ["x", "x", "y"]))[5]? = some "x[1]" ∧
      (numberRepeats ["z", "x", "x", "z", "x"])[4]? = some "x[1]" ∧
      numberRepeats ["x", "y"] <+: numberRepeats mixedNames := by
  obtain ⟨-, htext, halike, hreplaced, hfront⟩ := repeats_numbered_for_each_name mixedNames
  have hx : mixedNames[3]? = some "x" := by decide
  have hlater : "x" ∈ mixedNames.take 3 := by decide
  have hfirst : "x" ∉ mixedNames.take 0 := by decide
  have hthird : (numberRepeats mixedNames)[3]? = some "x[1]" :=
    ((htext 3 "x" hx).2 hlater).trans (by decide)
  refine ⟨hx, hlater, hfirst, (htext 0 "x" (by decide)).1 hfirst, hthird, ?_, ?_,
    hfront ["x", "y"] (by decide)⟩
  · have hcut : mixedNames = ["x"] ++ ["y"] ++ ["x", "x", "y"] := by decide
    obtain ⟨-, hback⟩ := hreplaced ["x"] ["y"] ["z", "y", "y"] _ "x" hcut (by decide) (by decide)
    exact (hback 1 (by decide)).trans hthird
  · exact (halike ["z", "x", "x", "z", "x"] 3 4 "x" hx (by decide) (by decide)).trans hthird

end ProfileLayers
