/-
**Discovery with profiles from outside.**

If a profile is sought, or if some profile was active before, active lists do not count: a pass adds
the include lists of the documents that apply, and which ones apply was fixed at its start.  So the
order of the documents decides in which order names are activated, but not which names these are,
nor how many passes it takes.

If no document negates a profile, a document that applies goes on applying while the set grows, and
a name is added only if it has to be.  Discovery then finds the least set of names that is closed
under inclusion.

Main definitions:

* `ProfileLayers.SameButActive` — the same documents in any order, with any active lists;
* `ProfileLayers.Discovery.Alike` — discoveries with the same names after every pass;
* `ProfileLayers.IsIncludeClosed` — sets of names that are closed under inclusion;
* `ProfileLayers.IsUnnegated` — documents that negate no profile.

Main results:

* `ProfileLayers.perm_discoveryPass`, `ProfileLayers.alike_discoverFrom` — one pass over two
  arrangements of the same documents, and all passes;
* `ProfileLayers.discovery_independent_of_order_and_active_lists` — **profiles from outside make
  discovery independent of order and active lists**;
* `ProfileLayers.IsIncludeClosed.discover_subset` — discovery does not leave a closed set;
* `ProfileLayers.discovery_finds_least_closed_set` — **discovery finds the least closed set**.
-/

import Mathlib.Data.List.Forall2
import Mathlib.Order.Bounds.Defs
import ProfileLayers.Proofs.Discovery
import ProfileLayers.Proofs.Selection

set_option relaxedAutoImplicit false
set_option autoImplicit false

namespace ProfileLayers

/-! ### The same names in another order -/

theorem ProfileSet.perm_insertAll {s t : ProfileSet} {ps qs : List String}
    (hst : s.names.Perm t.names) (hadded : ps.Perm qs) :
    (s.insertAll ps).names.Perm (t.insertAll qs).names := by
  rw [List.perm_ext_iff_of_nodup (s.insertAll ps).nodup (t.insertAll qs).nodup]
  intro p
  rw [← mem_def, ← mem_def, mem_insertAll, mem_insertAll, mem_def, mem_def, hst.mem_iff,
    hadded.mem_iff]

/-- Which names count as active does not depend on the order of activation. -/
theorem NameTest.accepts_activeOrBlank_congr {active other : ProfileSet}
    (h : active.names.Perm other.names) :
    (activeOrBlank active).accepts = (activeOrBlank other).accepts := by
  have hempty : active.isEmpty = other.isEmpty := h.isEmpty_eq
  funext p
  rw [activeOrBlank, activeOrBlank, hempty]
  split
  · rfl
  · simp only [accepts, ProfileSet.contains, h.mem_iff]

theorem NameTest.status_activeOrBlank_congr {active other : ProfileSet}
    (h : active.names.Perm other.names) :
    (activeOrBlank active).status = (activeOrBlank other).status := by
  funext names
  rw [status, status, accepts_activeOrBlank_congr h]

/-- Which documents apply does not depend on the order of activation. -/
theorem Matcher.generic_accepts_congr {active other : ProfileSet}
    (h : active.names.Perm other.names) (e : Expression) :
    (Matcher.generic active).accepts e = (Matcher.generic other).accepts e := by
  have hstatus := NameTest.status_activeOrBlank_congr h
  have hnegative : (Matcher.generic active).negativeStatus e =
      (Matcher.generic other).negativeStatus e := congrFun hstatus e.negative
  have hpositive : (Matcher.generic active).positiveStatus e =
      (Matcher.generic other).positiveStatus e := congrFun hstatus e.positive
  rw [accepts, accepts, status, status, hnegative, hpositive]

/-! ### The same documents in another order -/

/-- The declarations without the active list. -/
def Declarations.withoutActive (d : Declarations) : Declarations := { d with active := [] }

/-- The documents are the same up to their order, and up to the active list of each. -/
def SameButActive (documents others : List Declarations) : Prop :=
  (documents.map Declarations.withoutActive).Perm (others.map Declarations.withoutActive)

instance (documents others : List Declarations) : Decidable (SameButActive documents others) :=
  inferInstanceAs (Decidable (List.Perm _ _))

theorem SameButActive.perm_includedBy {documents others : List Declarations}
    (h : SameButActive documents others) (m : Matcher) :
    (includedBy m documents).Perm (includedBy m others) := by
  have hbare : ∀ ds : List Declarations,
      includedBy m (ds.map Declarations.withoutActive) = includedBy m ds := by
    intro ds
    rw [includedBy, List.filter_map, List.flatMap_map]
    rfl
  rw [← hbare documents, ← hbare others]
  exact (h.filter _).flatMap_right _

/-- The same names are active after each pass of the one discovery as after that of the other, and
at their ends. -/
structure Discovery.Alike (found other : Discovery) : Prop where
  passes : List.Forall₂ (fun s t : ProfileSet => s.names.Perm t.names) found.passes other.passes
  active : found.active.names.Perm other.active.names

section TwoRuns

variable {documents others : List Declarations} (hdocuments : SameButActive documents others)
  (sought? : Option String)
include hdocuments

/-- Passes over the same documents that begin with the same names end with the same names. -/
theorem perm_discoveryPass {active other : ProfileSet} (hactive : active.names.Perm other.names)
    (h : sought?.isSome = true ∨ active.names ≠ []) :
    (discoveryPass documents sought? active).names.Perm
      (discoveryPass others sought? other).names := by
  have hother : sought?.isSome = true ∨ other.names ≠ [] :=
    h.imp_right fun hne hnil => hne (hnil ▸ hactive).eq_nil
  have happlies : includedBy (.generic other) others = includedBy (.generic active) others := by
    simp only [includedBy, Matcher.generic_accepts_congr hactive]
  rw [discoveryPass_of_outside documents sought? active h,
    discoveryPass_of_outside others sought? other hother, happlies]
  exact ProfileSet.perm_insertAll hactive (hdocuments.perm_includedBy _)

theorem alike_discoverFrom (fuel : Nat) {active other : ProfileSet}
    (hactive : active.names.Perm other.names) (h : sought?.isSome = true ∨ active.names ≠ []) :
    (discoverFrom documents sought? fuel active).Alike
      (discoverFrom others sought? fuel other) := by
  induction fuel generalizing active other with
  | zero => exact ⟨.nil, hactive⟩
  | succ fuel ih =>
      have hpass := perm_discoveryPass hdocuments sought? hactive h
      have hnext := h.imp_right (prefix_discoveryPass documents sought? active).ne_nil
      -- the sets are equally large, so both discoveries go on or both end
      have hgrew : active.size < (discoveryPass documents sought? active).size ↔
          other.size < (discoveryPass others sought? other).size := by
        simp only [ProfileSet.size, hactive.length_eq, hpass.length_eq]
      by_cases hgoes : active.size < (discoveryPass documents sought? active).size
      · have hlater := ih hpass hnext
        simp only [discoverFrom, if_pos hgoes, if_pos (hgrew.1 hgoes)]
        exact ⟨.cons hpass hlater.passes, hlater.active⟩
      · simp only [discoverFrom, if_neg hgoes, if_neg fun hother => hgoes (hgrew.2 hother)]
        exact ⟨.cons hpass .nil, hpass⟩

theorem alike_discover (active : ProfileSet) (h : sought?.isSome = true ∨ active.names ≠ []) :
    (discover documents sought? active).Alike (discover others sought? active) := by
  -- the fuel depends on the active lists, so both discoveries are first given the same amount
  let fuel := (declaredNames documents).length + (declaredNames others).length + 1
  rw [discover_eq_discoverFrom documents sought? fuel active (by omega),
    discover_eq_discoverFrom others sought? fuel active (by omega)]
  exact alike_discoverFrom hdocuments sought? fuel (.refl _) h

end TwoRuns

/-- **Profiles from outside make discovery independent of order and active lists.**  If a profile is
sought or something was active before, the documents can be put into another order and their active
lists replaced by any others: discovery finds the same names in the same number of passes. -/
theorem discovery_independent_of_order_and_active_lists (documents others : List Declarations)
    (hdocuments : SameButActive documents others) (sought? : Option String)
    (initial : List String) (houtside : sought?.isSome = true ∨ initial ≠ []) :
    let found := discover documents sought? (.ofList initial)
    let other := discover others sought? (.ofList initial)
    (∀ p, p ∈ found.active ↔ p ∈ other.active) ∧ found.passes.length = other.passes.length := by
  intro found other
  have halike : found.Alike other := alike_discover hdocuments sought? (.ofList initial)
    (houtside.imp_right (ProfileSet.names_ofList_ne_nil initial))
  exact ⟨fun p => halike.active.mem_iff, halike.passes.length_eq⟩

/-- Documents of which the first one is vetoed by what the second one includes, while the third one
applies because of what the first one includes. -/
def stagedDocuments : List Declarations :=
  [⟨.parse "!b", [], ["c"]⟩, ⟨.parse "a", ["x"], ["b"]⟩, ⟨.parse "c", [], ["d"]⟩]

/-- The staged documents from the last to the first, with other active lists. -/
def reversedDocuments : List Declarations :=
  [⟨.parse "c", ["y"], ["d"]⟩, ⟨.parse "a", [], ["b"]⟩, ⟨.parse "!b", ["u", "v"], ["c"]⟩]

/-- Among the reversed documents `b` is active before the one that it vetoes is met.  That one still
includes `c`, because `b` was not active when the pass began. -/
theorem reversedDocuments_discover_same :
    SameButActive stagedDocuments reversedDocuments ∧
      (∀ p, p ∈ (discover stagedDocuments none (.ofList ["a"])).active ↔
        p ∈ (discover reversedDocuments none (.ofList ["a"])).active) ∧
      (discover stagedDocuments none (.ofList ["a"])).passes.length =
        (discover reversedDocuments none (.ofList ["a"])).passes.length ∧
      (discover stagedDocuments none (.ofList ["a"])).active.names = ["a", "c", "b", "d"] ∧
      (discover reversedDocuments none (.ofList ["a"])).active.names = ["a", "b", "c", "d"] := by
  have hdocuments : SameButActive stagedDocuments reversedDocuments := by decide
  obtain ⟨hnames, hpasses⟩ := discovery_independent_of_order_and_active_lists stagedDocuments
    reversedDocuments hdocuments none ["a"] (.inr (by decide))
  exact ⟨hdocuments, hnames, hpasses, by decide, by decide⟩

/-! ### Sets closed under inclusion -/

/-- Without negated profiles a document applies if it has no positive profile or an active one. -/
theorem Matcher.generic_accepts_iff_of_negative_eq_nil (active : ProfileSet) (e : Expression)
    (hnegative : e.negative = []) (hblank : ∀ p ∈ e.positive, isBlankText p = false) :
    (Matcher.generic active).accepts e = true ↔
      e.positive = [] ∨ ∃ p ∈ e.positive, p ∈ active := by
  have hunvetoed : ((Matcher.generic active).negativeStatus e).isFound = false := by
    rw [negativeStatus, hnegative]
    rfl
  rw [accepts_iff, hunvetoed]
  simp only [true_and]
  refine or_congr_right (exists_congr fun p => and_congr_right fun hp => ?_)
  exact NameTest.accepts_activeOrBlank_iff active p (hblank p hp)

/-- A set of names is closed under inclusion from the initial names: it has these, and everything
that is included by a document without positive profile or with one in the set. -/
structure IsIncludeClosed (documents : List Declarations) (initial : List String)
    (S : Set String) : Prop where
  initial : ∀ p ∈ initial, p ∈ S
  included : ∀ d ∈ documents,
    (d.appliesTo.positive = [] ∨ ∃ p ∈ d.appliesTo.positive, p ∈ S) → ∀ p ∈ d.included, p ∈ S

/-- Nothing is negated by the documents, and none of their positive profiles is blank. -/
structure IsUnnegated (documents : List Declarations) : Prop where
  negative_eq_nil : ∀ d ∈ documents, d.appliesTo.negative = []
  not_isBlankText : ∀ d ∈ documents, ∀ p ∈ d.appliesTo.positive, isBlankText p = false

section Unnegated

variable {documents : List Declarations} (hdocuments : IsUnnegated documents)
include hdocuments

theorem IsUnnegated.accepts_iff (active : ProfileSet) (d : Declarations) (hd : d ∈ documents) :
    (Matcher.generic active).accepts d.appliesTo = true ↔
      d.appliesTo.positive = [] ∨ ∃ p ∈ d.appliesTo.positive, p ∈ active :=
  Matcher.generic_accepts_iff_of_negative_eq_nil active d.appliesTo
    (hdocuments.negative_eq_nil d hd) (hdocuments.not_isBlankText d hd)

/-- A settled set is closed. -/
theorem Settled.isIncludeClosed {sought? : Option String} {active : ProfileSet}
    (hsettled : Settled documents sought? active) (initial : List String)
    (hinitial : ∀ p ∈ initial, p ∈ active) :
    IsIncludeClosed documents initial {p | p ∈ active} where
  initial := hinitial
  included d hd happlies :=
    (hsettled d hd ((hdocuments.accepts_iff active d hd).2 happlies)).1

/-- Discovery that begins within a closed set ends within it. -/
theorem IsIncludeClosed.discover_subset {initial : List String} {S : Set String}
    (hclosed : IsIncludeClosed documents initial S) (sought? : Option String)
    (active : ProfileSet) (h : sought?.isSome = true ∨ active.names ≠ [])
    (hactive : ∀ p ∈ active, p ∈ S) :
    ∀ p ∈ (discover documents sought? active).active, p ∈ S := by
  refine discover_subset_of_outside documents sought? active h hactive ?_
  intro first hfirst d hd haccepts
  have happlies := (hdocuments.accepts_iff first d hd).1 haccepts
  refine hclosed.included d hd (happlies.imp_right ?_)
  rintro ⟨q, hq, hqactive⟩
  exact ⟨q, hq, hfirst q hqactive⟩

end Unnegated

/-- **Discovery finds the least closed set.**  If nothing is negated, and a profile is sought or
something was active before, the active profiles are the least set that has the initial names and
is closed under inclusion. -/
theorem discovery_finds_least_closed_set (documents : List Declarations)
    (hdocuments : IsUnnegated documents) (sought? : Option String) (initial : List String)
    (houtside : sought?.isSome = true ∨ initial ≠ []) :
    IsLeast {S | IsIncludeClosed documents initial S}
      {p | p ∈ (discover documents sought? (.ofList initial)).active} := by
  have hnames := houtside.imp_right (ProfileSet.names_ofList_ne_nil initial)
  constructor
  · refine (settled_discover documents sought? _).isIncludeClosed hdocuments initial ?_
    intro p hp
    exact (prefix_discover documents sought? _).subset ((ProfileSet.mem_ofList initial p).2 hp)
  · intro S hclosed
    refine hclosed.discover_subset hdocuments sought? _ hnames ?_
    intro p hp
    exact hclosed.initial p ((ProfileSet.mem_ofList initial p).1 hp)

/-- The documents of a stream have no blank positive profile. -/
theorem isUnnegated_of_readAll (source text : String) (documents : List Document)
    (hread : (Document.readAll source text).result = .ok documents)
    (hnegative : ∀ d ∈ documents, d.profiles.negative = []) :
    IsUnnegated (documents.map (·.declarations)) where
  negative_eq_nil := List.forall_mem_map.2 hnegative
  not_isBlankText :=
    List.forall_mem_map.2 (not_isBlankText_of_mem_profiles source text documents hread)

/-- A stream in which `a` includes `b`, which includes `c`, while an active list names `x`. -/
def chainedStream : String :=
  "spring.profiles: b\nspring.profiles.include: c\n---\n" ++
  "spring.profiles: a\nspring.profiles.include: b\nspring.profiles.active: x\n"

/-- From `a` on, the chained stream activates `b` and `c`, and nothing else. -/
theorem chainedStream_least_closed_set :
    ∃ documents, (Document.readAll "app.yml" chainedStream).result = .ok documents ∧
      IsUnnegated (documents.map (·.declarations)) ∧
      IsLeast {S | IsIncludeClosed (documents.map (·.declarations)) ["a"] S}
        {p | p ∈ ProfileSet.ofList ["a", "b", "c"]} := by
  have hfound : (Document.readAll "app.yml" chainedStream).result.map (fun documents =>
      (documents.all (·.profiles.negative.isEmpty),
        (discover (documents.map (·.declarations)) none (ProfileSet.ofList ["a"])).active)) =
      .ok (true, ProfileSet.ofList ["a", "b", "c"]) := by
    decide +kernel
  obtain ⟨documents, hread, hfound⟩ := (except_map_eq_ok _ _ _).1 hfound
  obtain ⟨hnegative, hactive⟩ := Prod.mk.inj hfound
  have hdocuments : IsUnnegated (documents.map (·.declarations)) :=
    isUnnegated_of_readAll "app.yml" chainedStream documents hread fun d hd =>
      List.isEmpty_iff.1 (List.all_eq_true.1 hnegative d hd)
  have hleast := discovery_finds_least_closed_set _ hdocuments none ["a"] (.inr (by decide))
  rw [hactive] at hleast
  exact ⟨documents, hread, hdocuments, hleast⟩

end ProfileLayers
