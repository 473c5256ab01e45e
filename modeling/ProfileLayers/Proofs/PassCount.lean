/-
**How many passes discovery takes.**

Discovery goes on while a flag says that the pass before added something, and each list of each
document that applies may raise the flag.  Nothing in this loop says that it ends, since documents
begin and cease to apply from one pass to the next.  It ends because the flag is raised exactly if
the set has grown during the pass: then a name was added that some document declares and that was
not active when the pass began, and no later pass can add it again.  So each pass but the last one
is charged to a name of its own.

Main definitions:

* `ProfileLayers.extendNoting`, `ProfileLayers.passNoting` — adding names, and a pass, with the
  flag;
* `ProfileLayers.NotesGrowth` — what the flag says in the middle of a pass;
* `ProfileLayers.Discovers` — the loop as it is, with no bound on the number of passes.

Main results:

* `ProfileLayers.passNoting_eq` — the flag of a pass says whether the set has grown;
* `ProfileLayers.discovers_iff` — the loop ends, with what discovery finds;
* `ProfileLayers.Discovers.length_passes_add_size_le`,
  `ProfileLayers.Discovers.length_passes_eq_one_iff` — passes are charged to new names;
* `ProfileLayers.discovery_ends_within_bound` — **discovery ends within its bound**.
-/

import Mathlib.Data.List.Nodup
import ProfileLayers.Proofs.Discovery

set_option relaxedAutoImplicit false
set_option autoImplicit false

namespace ProfileLayers

/-! ### Passes with a flag -/

/-- The running profiles with more names added, and the flag, which is raised if one of these is
new and kept if it was raised before. -/
def extendNoting (state : ProfileSet × Bool) (names : List String) : ProfileSet × Bool :=
  let extended := state.1.addAll names
  (extended.1, state.2 || extended.2)

/-- What a document that applies makes of the running profiles and the flag. -/
def declaredNoting (sought? : Option String) (state : ProfileSet × Bool) (d : Declarations) :
    ProfileSet × Bool :=
  let state :=
    if sought?.isNone && state.1.isEmpty then extendNoting state d.active else state
  extendNoting state d.included

/-- One document in a pass whose matcher is `m`. -/
def afterDocumentNoting (m : Matcher) (sought? : Option String) (state : ProfileSet × Bool)
    (d : Declarations) : ProfileSet × Bool :=
  if m.accepts d.appliesTo then declaredNoting sought? state d else state

/-- One pass over the documents; the flag is down at its start. -/
def passNoting (documents : List Declarations) (sought? : Option String) (active : ProfileSet) :
    ProfileSet × Bool :=
  documents.foldl (afterDocumentNoting (.generic active) sought?) (active, false)

/-- In a pass that began with `active`, the running profiles begin with these, and the flag is up if
there are more of them. -/
structure NotesGrowth (active : ProfileSet) (state : ProfileSet × Bool) : Prop where
  prefix_names : active.names <+: state.1.names
  flag_iff : state.2 = true ↔ active.size < state.1.size

theorem NotesGrowth.extendNoting {active : ProfileSet} {state : ProfileSet × Bool}
    (h : NotesGrowth active state) (names : List String) :
    NotesGrowth active (extendNoting state names) := by
  have hextended : state.1.names <+: (state.1.insertAll names).names :=
    ProfileSet.prefix_insertAll state.1 names
  have hbefore : active.size ≤ state.1.size := h.prefix_names.length_le
  have hafter : state.1.size ≤ (state.1.insertAll names).size := hextended.length_le
  constructor
  · exact h.prefix_names.trans hextended
  · have hnew : (state.1.addAll names).2 = true ↔
        state.1.size < (state.1.insertAll names).size := decide_eq_true_iff
    change (state.2 || (state.1.addAll names).2) = true ↔
      active.size < (state.1.insertAll names).size
    rw [Bool.or_eq_true, h.flag_iff, hnew]
    omega

theorem fst_declaredNoting (sought? : Option String) (state : ProfileSet × Bool)
    (d : Declarations) :
    (declaredNoting sought? state d).1 = declaredProfiles sought? state.1 d := by
  rw [declaredNoting, declaredProfiles]
  split <;> rfl

theorem NotesGrowth.declaredNoting {active : ProfileSet} {state : ProfileSet × Bool}
    (h : NotesGrowth active state) (sought? : Option String) (d : Declarations) :
    NotesGrowth active (declaredNoting sought? state d) := by
  rw [ProfileLayers.declaredNoting]
  split
  · exact (h.extendNoting d.active).extendNoting d.included
  · exact h.extendNoting d.included

/-- Meeting documents one after another with the flag makes the same set as without it, and keeps
what the flag says. -/
theorem foldl_afterDocumentNoting (m : Matcher) (sought? : Option String) (active : ProfileSet)
    (documents : List Declarations) (state : ProfileSet × Bool) (h : NotesGrowth active state) :
    (documents.foldl (afterDocumentNoting m sought?) state).1 =
        documents.foldl (afterDocument m sought?) state.1 ∧
      NotesGrowth active (documents.foldl (afterDocumentNoting m sought?) state) := by
  induction documents generalizing state with
  | nil => exact ⟨rfl, h⟩
  | cons d documents ih =>
      have hstep : (afterDocumentNoting m sought? state d).1 = afterDocument m sought? state.1 d ∧
          NotesGrowth active (afterDocumentNoting m sought? state d) := by
        rw [afterDocumentNoting, afterDocument]
        split
        · exact ⟨fst_declaredNoting sought? state d, h.declaredNoting sought? d⟩
        · exact ⟨rfl, h⟩
      rw [List.foldl_cons, List.foldl_cons, ← hstep.1]
      exact ih _ hstep.2

/-- The flag of a pass says whether the set has grown. -/
theorem passNoting_eq (documents : List Declarations) (sought? : Option String)
    (active : ProfileSet) :
    passNoting documents sought? active =
      (discoveryPass documents sought? active,
        decide (active.size < (discoveryPass documents sought? active).size)) := by
  have hstart : NotesGrowth active (active, false) := ⟨List.prefix_rfl, by simp⟩
  obtain ⟨hset, hnotes⟩ :=
    foldl_afterDocumentNoting (.generic active) sought? active documents _ hstart
  have hpass : (passNoting documents sought? active).1 = discoveryPass documents sought? active :=
    hset
  refine Prod.ext hpass ?_
  rw [← hpass, Bool.eq_iff_iff, decide_eq_true_iff]
  exact hnotes.flag_iff

/-- A pass makes the set that it makes without the flag. -/
theorem discoveryPass_of_passNoting {documents : List Declarations} {sought? : Option String}
    {active next : ProfileSet} {flag : Bool}
    (h : passNoting documents sought? active = (next, flag)) :
    discoveryPass documents sought? active = next ∧ (flag = true ↔ active.size < next.size) := by
  rw [passNoting_eq] at h
  obtain ⟨rfl, rfl⟩ := Prod.mk.inj h
  exact ⟨rfl, decide_eq_true_iff⟩

/-! ### The loop -/

/-- The loop of discovery from `active` on: a pass that leaves the flag down is the last one, and
one that raises it is followed by the loop from the set that it made. -/
inductive Discovers (documents : List Declarations) (sought? : Option String) :
    ProfileSet → Discovery → Prop where
  | last {active next : ProfileSet} (hpass : passNoting documents sought? active = (next, false)) :
      Discovers documents sought? active ⟨[next], next⟩
  | again {active next : ProfileSet} {later : Discovery}
      (hpass : passNoting documents sought? active = (next, true))
      (hlater : Discovers documents sought? next later) :
      Discovers documents sought? active ⟨next :: later.passes, later.active⟩

/-- With fuel above the number of declared names that are not active, discovery goes through the
loop. -/
theorem discovers_discoverFrom (documents : List Declarations) (sought? : Option String)
    (fuel : Nat) (active : ProfileSet) (h : (remaining documents active).length < fuel) :
    Discovers documents sought? active (discoverFrom documents sought? fuel active) := by
  induction fuel generalizing active with
  | zero => omega
  | succ fuel ih =>
      have hpass := passNoting_eq documents sought? active
      by_cases hgrew : active.size < (discoveryPass documents sought? active).size
      · have hless := remaining_discoveryPass_lt documents sought? active hgrew
        rw [decide_eq_true hgrew] at hpass
        simp only [discoverFrom, if_pos hgrew]
        exact .again hpass (ih _ (by omega))
      · rw [decide_eq_false hgrew] at hpass
        simp only [discoverFrom, if_neg hgrew]
        exact .last hpass

namespace Discovers

variable {documents : List Declarations} {sought? : Option String} {active : ProfileSet}
  {found : Discovery}

/-- The loop can be gone through in one way only. -/
theorem unique {other : Discovery} (h : Discovers documents sought? active found)
    (hother : Discovers documents sought? active other) : found = other := by
  induction h generalizing other with
  | last hpass =>
      cases hother with
      | last hpass' =>
          rw [hpass] at hpass'
          cases hpass'
          rfl
      | again hpass' _ =>
          rw [hpass] at hpass'
          cases hpass'
  | again hpass _ ih =>
      cases hother with
      | last hpass' =>
          rw [hpass] at hpass'
          cases hpass'
      | again hpass' hlater =>
          rw [hpass] at hpass'
          cases hpass'
          rw [ih hlater]

theorem length_passes_pos (h : Discovers documents sought? active found) :
    0 < found.passes.length := by
  cases h with
  | last => exact Nat.one_pos
  | again => exact Nat.succ_pos _

/-- Each pass but the last one is charged to a name that it added. -/
theorem length_passes_add_size_le (h : Discovers documents sought? active found) :
    found.passes.length + active.size ≤ found.active.size + 1 := by
  induction h with
  | @last active next hpass =>
      obtain ⟨rfl, -⟩ := discoveryPass_of_passNoting hpass
      have hsize := (prefix_discoveryPass documents sought? active).length_le
      change 1 + active.names.length ≤ (discoveryPass documents sought? active).names.length + 1
      omega
  | @again active next later hpass _ ih =>
      have hgrew : active.size < next.size := (discoveryPass_of_passNoting hpass).2.1 rfl
      change later.passes.length + 1 + active.size ≤ later.active.size + 1
      omega

/-- One pass is enough exactly if it adds nothing. -/
theorem length_passes_eq_one_iff (h : Discovers documents sought? active found) :
    found.passes.length = 1 ↔ found.active = active := by
  cases h with
  | @last active next hpass =>
      obtain ⟨rfl, hflag⟩ := discoveryPass_of_passNoting hpass
      have hsame := discoveryPass_eq_of_size_le documents sought? active fun hgrew =>
        Bool.false_ne_true (hflag.2 hgrew)
      exact iff_of_true rfl hsame
  | @again active next later hpass hlater =>
      have hgrew : active.size < next.size := (discoveryPass_of_passNoting hpass).2.1 rfl
      have hpos := hlater.length_passes_pos
      have hsize := hlater.length_passes_add_size_le
      refine iff_of_false ?_ ?_
      · change later.passes.length + 1 ≠ 1
        omega
      · intro hsame
        change later.active = active at hsame
        rw [hsame] at hsize
        omega

end Discovers

/-- The loop ends, and what comes of it is what discovery finds. -/
theorem discovers_iff (documents : List Declarations) (sought? : Option String)
    (active : ProfileSet) (found : Discovery) :
    Discovers documents sought? active found ↔ found = discover documents sought? active := by
  have hremaining : (remaining documents active).length ≤ (declaredNames documents).length :=
    List.length_filter_le _ _
  have hends : Discovers documents sought? active (discover documents sought? active) :=
    discovers_discoverFrom documents sought? _ active (by omega)
  constructor
  · exact fun h => h.unique hends
  · rintro rfl
    exact hends

/-! ### New names -/

/-- A set that begins with the initial names has the others on top of these. -/
theorem size_eq_add_length_filter (initial : List String) (final : ProfileSet)
    (h : (ProfileSet.ofList initial).names <+: final.names) :
    final.size = (ProfileSet.ofList initial).size +
      (final.names.filter fun p => decide (p ∉ initial)).length := by
  have hnew : (final.names.filter fun p => decide (p ∉ initial)) =
      final.names.filter fun p => decide (p ∉ (ProfileSet.ofList initial).names) := by
    simp only [← ProfileSet.mem_def, ProfileSet.mem_ofList]
  rw [hnew, ProfileSet.size, ProfileSet.size, ← List.length_append,
    ← ProfileSet.names_eq_append_filter _ final h]

/-- The names that discovery adds are among the declared ones. -/
theorem length_filter_le_declaredNames (documents : List Declarations) (sought? : Option String)
    (initial : List String) :
    ((discover documents sought? (.ofList initial)).active.names.filter fun p =>
      decide (p ∉ initial)).length ≤ (declaredNames documents).eraseDups.length := by
  apply List.Nodup.length_le_of_subset
  · exact (discover documents sought? (.ofList initial)).active.nodup.sublist List.filter_sublist
  · intro p hp
    obtain ⟨hmem, hnew⟩ := List.mem_filter.1 hp
    rw [List.mem_eraseDups]
    refine (mem_discover documents sought? _ p hmem).resolve_left fun hinitial => ?_
    exact of_decide_eq_true hnew ((ProfileSet.mem_ofList initial p).1 hinitial)

/-- **Discovery ends within its bound.**  The loop ends, in one way only, and that is what discovery
finds.  It takes at most one pass more than there are names in the result that were not active
initially, hence at most one more than there are declared names; and it takes one pass exactly if
the result is the initial list without repetitions. -/
theorem discovery_ends_within_bound (documents : List Declarations) (sought? : Option String)
    (initial : List String) :
    let found := discover documents sought? (.ofList initial)
    (∀ other, Discovers documents sought? (.ofList initial) other ↔ other = found) ∧
      found.passes.length ≤ 1 + (found.active.names.filter fun p => decide (p ∉ initial)).length ∧
      found.passes.length ≤ 1 + (declaredNames documents).eraseDups.length ∧
      (found.passes.length = 1 ↔ found.active.names = initial.eraseDups) := by
  intro found
  have hends : Discovers documents sought? (.ofList initial) found :=
    (discovers_iff documents sought? _ found).2 rfl
  have hsize := size_eq_add_length_filter initial found.active (prefix_discover documents sought? _)
  have hbound : found.passes.length ≤
      1 + (found.active.names.filter fun p => decide (p ∉ initial)).length := by
    have hcharged := hends.length_passes_add_size_le
    omega
  refine ⟨discovers_iff documents sought? _, hbound, ?_, ?_⟩
  · have hdeclared := length_filter_le_declaredNames documents sought? initial
    exact Nat.le_trans hbound (Nat.add_le_add_left hdeclared 1)
  · rw [hends.length_passes_eq_one_iff, ← ProfileSet.names_ofList]
    exact ⟨congrArg ProfileSet.names, ProfileSet.ext _ _⟩

/-- The bound is met: of a chain of includes each pass adds one name, and one more adds none. -/
example :
    let chain := [⟨.parse "b", [], ["c"]⟩, ⟨.parse "a", [], ["b"]⟩, ⟨.parse "c,!d", [], ["d"]⟩]
    (discover chain none (.ofList ["a", "a"])).passes.length = 4 ∧
      (discover chain none (.ofList ["a", "a"])).active.names = ["a", "b", "c", "d"] := by
  decide

end ProfileLayers
