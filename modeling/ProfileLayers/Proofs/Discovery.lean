/-
**Where discovery ends.**

A pass reads its matcher from the profiles at its start, while the running set grows under it, so
that a document is judged by other profiles than those it adds to.  Discovery ends with a pass that
adds nothing, and in that pass the two sets are the same.  Hence the final set is *settled*: what
the documents that apply include is active, and no active list is left to be honoured.

Main definitions:

* `ProfileLayers.Settled` — the sets of profiles that a pass leaves as they are;
* `ProfileLayers.includedBy` — what the documents that apply include;
* `ProfileLayers.IsIncluded` — the names in the include lists.

Main results:

* `ProfileLayers.discover_induction` — what every document keeps holds after discovery;
* `ProfileLayers.discover_eq_discoverFrom` — the fuel of discovery does not matter;
* `ProfileLayers.discoveryPass_eq_self_iff` — a pass adds nothing exactly to the settled sets;
* `ProfileLayers.discover_of_settled` — discovery from a settled set ends after one pass;
* `ProfileLayers.discoveryPass_of_outside`, `ProfileLayers.discover_subset_of_outside` — what a pass
  and discovery add while active lists do not count;
* `ProfileLayers.mem_or_isIncluded_of_mem_discover`, `ProfileLayers.honours_one_active_list` — where
  the names of the final set come from;
* `ProfileLayers.discovery_justified_fixed_point` — **discovery ends in a justified fixed point**.
-/

import ProfileLayers.Profile.Discovery
import ProfileLayers.Proofs.FirstOccurrence

set_option relaxedAutoImplicit false
set_option autoImplicit false

namespace ProfileLayers

/-! ### What discovery keeps -/

theorem discoverFrom_induction {P : ProfileSet → Prop} (documents : List Declarations)
    (sought? : Option String)
    (hstep : ∀ active, P active → P (discoveryPass documents sought? active)) (fuel : Nat)
    (active : ProfileSet) (hstart : P active) :
    P (discoverFrom documents sought? fuel active).active := by
  induction fuel generalizing active with
  | zero => exact hstart
  | succ fuel ih =>
      have hnext := hstep active hstart
      simp only [discoverFrom]
      split
      · exact ih _ hnext
      · exact hnext

/-- What holds at the start, and is kept by every document that applies in a pass that began with
it, holds of the profiles that discovery ends with. -/
theorem discover_induction {P : ProfileSet → Prop} (documents : List Declarations)
    (sought? : Option String) (active : ProfileSet) (hstart : P active)
    (hstep : ∀ first, P first → ∀ running, P running → ∀ d ∈ documents,
      (Matcher.generic first).accepts d.appliesTo = true →
        P (declaredProfiles sought? running d)) :
    P (discover documents sought? active).active := by
  refine discoverFrom_induction documents sought? ?_ _ active hstart
  intro first hfirst
  exact discoveryPass_induction documents sought? first hfirst (hstep first hfirst)

theorem prefix_discover (documents : List Declarations) (sought? : Option String)
    (active : ProfileSet) :
    active.names <+: (discover documents sought? active).active.names := by
  refine discover_induction (P := fun running => active.names <+: running.names)
    documents sought? active List.prefix_rfl ?_
  intro _ _ running hrunning d _ _
  exact hrunning.trans (prefix_declaredProfiles sought? running d)

theorem mem_discover (documents : List Declarations) (sought? : Option String)
    (active : ProfileSet) (p : String) (h : p ∈ (discover documents sought? active).active) :
    p ∈ active ∨ p ∈ declaredNames documents := by
  revert p
  refine discoverFrom_induction
    (P := fun running => ∀ p ∈ running, p ∈ active ∨ p ∈ declaredNames documents)
    documents sought? ?_ _ active fun p hp => .inl hp
  intro running hrunning p hp
  exact (mem_discoveryPass documents sought? running p hp).elim (hrunning p) .inr

/-! ### Fuel -/

/-- Fuel that is enough to come to the end makes the same discovery as any larger amount. -/
theorem discoverFrom_of_le (documents : List Declarations) (sought? : Option String)
    (fuel more : Nat) (active : ProfileSet) (h : (remaining documents active).length < fuel)
    (hmore : fuel ≤ more) :
    discoverFrom documents sought? more active = discoverFrom documents sought? fuel active := by
  induction fuel generalizing more active with
  | zero => omega
  | succ fuel ih =>
      obtain ⟨more, rfl⟩ : ∃ rest, more = rest + 1 := ⟨more - 1, by omega⟩
      by_cases hgrew : active.size < (discoveryPass documents sought? active).size
      · have hless := remaining_discoveryPass_lt documents sought? active hgrew
        simp only [discoverFrom, if_pos hgrew]
        rw [ih more _ (by omega) (by omega)]
      · simp only [discoverFrom, if_neg hgrew]

/-- The fuel of discovery does not matter if there is more of it than declared names. -/
theorem discover_eq_discoverFrom (documents : List Declarations) (sought? : Option String)
    (fuel : Nat) (active : ProfileSet) (h : (declaredNames documents).length < fuel) :
    discover documents sought? active = discoverFrom documents sought? fuel active := by
  have hremaining : (remaining documents active).length ≤ (declaredNames documents).length :=
    List.length_filter_le _ _
  exact (discoverFrom_of_le documents sought? _ fuel active (by omega) (by omega)).symm

/-! ### Settled sets -/

/-- The documents that apply include nothing but active profiles, and where active lists count they
have none. -/
def Settled (documents : List Declarations) (sought? : Option String) (active : ProfileSet) :
    Prop :=
  ∀ d ∈ documents, (Matcher.generic active).accepts d.appliesTo = true →
    (∀ p ∈ d.included, p ∈ active) ∧
      (sought? = none → active.isEmpty = true → d.active = [])

/-- A set that is settled while nothing is sought is settled whatever is sought. -/
theorem Settled.of_none {documents : List Declarations} {active : ProfileSet}
    (h : Settled documents none active) (sought? : Option String) :
    Settled documents sought? active := by
  intro d hd haccepts
  obtain ⟨hincluded, hactive⟩ := h d hd haccepts
  exact ⟨hincluded, fun _ => hactive rfl⟩

theorem prefix_afterDocument (m : Matcher) (sought? : Option String) (running : ProfileSet)
    (d : Declarations) : running.names <+: (afterDocument m sought? running d).names := by
  rw [afterDocument]
  split
  · exact prefix_declaredProfiles sought? running d
  · exact List.prefix_rfl

theorem prefix_foldl_afterDocument (m : Matcher) (sought? : Option String)
    (documents : List Declarations) (running : ProfileSet) :
    running.names <+: (documents.foldl (afterDocument m sought?) running).names := by
  induction documents generalizing running with
  | nil => exact List.prefix_rfl
  | cons d documents ih => exact (prefix_afterDocument m sought? running d).trans (ih _)

/-- A document that applies adds its declarations to what the documents before it made of the
profiles at the start of the pass, and the documents after it only add to that. -/
theorem prefix_discoveryPass_of_accepts (before after : List Declarations) (d : Declarations)
    (sought? : Option String) (active : ProfileSet)
    (haccepts : (Matcher.generic active).accepts d.appliesTo = true) :
    (declaredProfiles sought? (discoveryPass before sought? active) d).names <+:
      (discoveryPass (before ++ d :: after) sought? active).names := by
  have hmeets : discoveryPass (before ++ d :: after) sought? active =
      after.foldl (afterDocument (.generic active) sought?)
        (declaredProfiles sought? (discoveryPass before sought? active) d) := by
    rw [discoveryPass, List.foldl_append, List.foldl_cons, afterDocument, if_pos haccepts]
    rfl
  rw [hmeets]
  exact prefix_foldl_afterDocument (.generic active) sought? after _

/-- A document that applies adds its declarations somewhere in the pass, to the profiles at its
start or more. -/
theorem exists_running_of_accepts (documents : List Declarations) (sought? : Option String)
    (active : ProfileSet) (d : Declarations) (hd : d ∈ documents)
    (haccepts : (Matcher.generic active).accepts d.appliesTo = true) :
    ∃ running : ProfileSet, active.names <+: running.names ∧
      (declaredProfiles sought? running d).names <+:
        (discoveryPass documents sought? active).names := by
  obtain ⟨before, after, rfl⟩ := List.append_of_mem hd
  exact ⟨discoveryPass before sought? active, prefix_discoveryPass before sought? active,
    prefix_discoveryPass_of_accepts before after d sought? active haccepts⟩

theorem mem_declaredProfiles_of_included (sought? : Option String) (running : ProfileSet)
    (d : Declarations) (p : String) (h : p ∈ d.included) :
    p ∈ declaredProfiles sought? running d := by
  rw [declaredProfiles, ProfileSet.mem_insertAll]
  exact .inr h

theorem mem_declaredProfiles_of_active (running : ProfileSet) (d : Declarations) (p : String)
    (hempty : running.isEmpty = true) (h : p ∈ d.active) :
    p ∈ declaredProfiles none running d := by
  have hcounts : ((none : Option String).isNone && running.isEmpty) = true := by simp [hempty]
  rw [declaredProfiles, if_pos hcounts, ProfileSet.mem_insertAll, ProfileSet.mem_insertAll]
  exact .inl (.inr h)

/-- Declarations that a settled set has anyway leave it as it is. -/
theorem declaredProfiles_eq_self (sought? : Option String) (active : ProfileSet)
    (d : Declarations) (hincluded : ∀ p ∈ d.included, p ∈ active)
    (hactive : sought? = none → active.isEmpty = true → d.active = []) :
    declaredProfiles sought? active d = active := by
  rw [declaredProfiles]
  split
  · rename_i hcounts
    obtain ⟨hsought, hempty⟩ := Bool.and_eq_true_iff.1 hcounts
    rw [hactive (Option.isNone_iff_eq_none.1 hsought) hempty, ProfileSet.insertAll_nil]
    exact ProfileSet.insertAll_eq_self active d.included hincluded
  · exact ProfileSet.insertAll_eq_self active d.included hincluded

/-- A pass adds nothing exactly to the settled sets. -/
theorem discoveryPass_eq_self_iff (documents : List Declarations) (sought? : Option String)
    (active : ProfileSet) :
    discoveryPass documents sought? active = active ↔ Settled documents sought? active := by
  constructor
  · intro hpass d hd haccepts
    obtain ⟨running, hstart, hend⟩ :=
      exists_running_of_accepts documents sought? active d hd haccepts
    rw [hpass] at hend
    have hmem : ∀ p ∈ declaredProfiles sought? running d, p ∈ active :=
      fun p hp => hend.subset hp
    refine ⟨?_, ?_⟩
    · intro p hp
      exact hmem p (mem_declaredProfiles_of_included sought? running d p hp)
    · rintro rfl hempty
      -- nothing was added up to this document, so its active list counts
      have hrunning : running = active :=
        (ProfileSet.eq_of_prefix_of_subset active running hstart
          fun p hp => hmem p ((prefix_declaredProfiles none running d).subset hp)).symm
      rw [hrunning] at hmem
      apply List.eq_nil_iff_forall_not_mem.2
      intro p hp
      have hactive := hmem p (mem_declaredProfiles_of_active active d p hempty hp)
      rw [ProfileSet.mem_def, (ProfileSet.isEmpty_iff active).1 hempty] at hactive
      exact List.not_mem_nil hactive
  · intro hsettled
    refine discoveryPass_induction (P := fun running => running = active) documents sought? active
      rfl ?_
    rintro running rfl d hd haccepts
    obtain ⟨hincluded, hactive⟩ := hsettled d hd haccepts
    exact declaredProfiles_eq_self sought? running d hincluded hactive

/-- The profiles that discovery ends with are settled. -/
theorem settled_discover (documents : List Declarations) (sought? : Option String)
    (active : ProfileSet) :
    Settled documents sought? (discover documents sought? active).active :=
  (discoveryPass_eq_self_iff documents sought? _).1
    (discoveryPass_discover documents sought? active)

/-- Discovery from a settled set ends after one pass. -/
theorem discover_of_settled (documents : List Declarations) (sought? : Option String)
    (active : ProfileSet) (h : Settled documents sought? active) :
    discover documents sought? active = ⟨[active], active⟩ := by
  have hpass := (discoveryPass_eq_self_iff documents sought? active).2 h
  simp only [discover, discoverFrom, hpass, Nat.lt_irrefl, if_false]

/-! ### Passes in which active lists do not count -/

/-- A document whose active list does not count adds its include list alone. -/
theorem declaredProfiles_of_not_counting (sought? : Option String) (running : ProfileSet)
    (d : Declarations) (h : sought?.isSome = true ∨ running.names ≠ []) :
    declaredProfiles sought? running d = running.insertAll d.included := by
  rw [declaredProfiles, if_neg]
  intro hcounts
  obtain ⟨hsought, hempty⟩ := Bool.and_eq_true_iff.1 hcounts
  rcases h with h | h
  · rw [Option.isNone_iff_eq_none.1 hsought] at h
    exact Bool.false_ne_true h
  · exact h ((ProfileSet.isEmpty_iff running).1 hempty)

/-- What the documents that apply include, in order. -/
def includedBy (m : Matcher) (documents : List Declarations) : List String :=
  (documents.filter fun d => m.accepts d.appliesTo).flatMap (·.included)

theorem includedBy_cons (m : Matcher) (d : Declarations) (documents : List Declarations) :
    includedBy m (d :: documents) =
      (if m.accepts d.appliesTo then d.included else []) ++ includedBy m documents := by
  rw [includedBy, List.filter_cons]
  split <;> rfl

theorem mem_includedBy (m : Matcher) (documents : List Declarations) (p : String) :
    p ∈ includedBy m documents ↔
      ∃ d ∈ documents, m.accepts d.appliesTo = true ∧ p ∈ d.included := by
  simp only [includedBy, List.mem_flatMap, List.mem_filter, and_assoc]

/-- While active lists do not count, meeting documents one after another adds what those that apply
include. -/
theorem foldl_afterDocument_of_outside (m : Matcher) (sought? : Option String)
    (documents : List Declarations) (running : ProfileSet)
    (h : sought?.isSome = true ∨ running.names ≠ []) :
    documents.foldl (afterDocument m sought?) running =
      running.insertAll (includedBy m documents) := by
  -- the running set only grows, so active lists do not count for later documents either
  induction documents generalizing running with
  | nil => rfl
  | cons d documents ih =>
      have hnext := h.imp_right (prefix_afterDocument m sought? running d).ne_nil
      have hfirst : afterDocument m sought? running d =
          running.insertAll (if m.accepts d.appliesTo then d.included else []) := by
        rw [afterDocument, declaredProfiles_of_not_counting sought? running d h]
        split <;> rfl
      rw [List.foldl_cons, ih _ hnext, hfirst, includedBy_cons, ProfileSet.insertAll_append]

theorem discoveryPass_of_outside (documents : List Declarations) (sought? : Option String)
    (active : ProfileSet) (h : sought?.isSome = true ∨ active.names ≠ []) :
    discoveryPass documents sought? active =
      active.insertAll (includedBy (.generic active) documents) :=
  foldl_afterDocument_of_outside (.generic active) sought? documents active h

/-! ### Where active names come from -/

/-- The name stands in the include list of a document. -/
def IsIncluded (documents : List Declarations) (p : String) : Prop :=
  ∃ d ∈ documents, p ∈ d.included

/-- While active lists do not count, discovery adds what documents include that apply in some pass:
a property that holds of the names before, and of these, holds of all names. -/
theorem discover_subset_of_outside {S : String → Prop} (documents : List Declarations)
    (sought? : Option String) (active : ProfileSet)
    (h : sought?.isSome = true ∨ active.names ≠ []) (hstart : ∀ p ∈ active, S p)
    (hstep : ∀ first : ProfileSet, (∀ p ∈ first, S p) → ∀ d ∈ documents,
      (Matcher.generic first).accepts d.appliesTo = true → ∀ p ∈ d.included, S p) :
    ∀ p ∈ (discover documents sought? active).active, S p := by
  -- the invariant says that active lists still do not count
  have hinvariant := discoverFrom_induction
    (P := fun running => (sought?.isSome = true ∨ running.names ≠ []) ∧ ∀ p ∈ running, S p)
    documents sought? ?_ ((declaredNames documents).length + 1) active ⟨h, hstart⟩
  · exact hinvariant.2
  · rintro first ⟨houtside, hfirst⟩
    refine ⟨houtside.imp_right (prefix_discoveryPass documents sought? first).ne_nil, ?_⟩
    intro p hp
    rw [discoveryPass_of_outside documents sought? first houtside, ProfileSet.mem_insertAll,
      mem_includedBy] at hp
    rcases hp with hp | ⟨d, hd, haccepts, hp⟩
    · exact hfirst p hp
    · exact hstep first hfirst d hd haccepts p hp

/-- If a profile is sought or something was active before, only included names are added. -/
theorem mem_or_isIncluded_of_mem_discover (documents : List Declarations)
    (sought? : Option String) (active : ProfileSet)
    (h : sought?.isSome = true ∨ active.names ≠ []) :
    ∀ p ∈ (discover documents sought? active).active, p ∈ active ∨ IsIncluded documents p :=
  discover_subset_of_outside documents sought? active h (fun _ hp => .inl hp)
    fun _ _ d hd _ _ hp => .inr ⟨d, hd, hp⟩

/-- If nothing was active before, the active list of at most one document is honoured. -/
theorem honours_one_active_list (documents : List Declarations) (sought? : Option String)
    (active : ProfileSet) (h : active.names = []) :
    (∀ p ∈ (discover documents sought? active).active, IsIncluded documents p) ∨
      ∃ d ∈ documents, ∀ p ∈ (discover documents sought? active).active,
        p ∈ d.active ∨ IsIncluded documents p := by
  refine discover_induction
    (P := fun running => (∀ p ∈ running, IsIncluded documents p) ∨
      ∃ d ∈ documents, ∀ p ∈ running, p ∈ d.active ∨ IsIncluded documents p)
    documents sought? active (.inl ?_) ?_
  · intro p hp
    rw [ProfileSet.mem_def, h] at hp
    exact absurd hp List.not_mem_nil
  · intro _ _ running hrunning d hd _
    by_cases hempty : running.names = []
    · -- the list of this document is the one that is honoured
      right
      refine ⟨d, hd, fun p hp => ?_⟩
      rcases mem_declaredProfiles sought? running d p hp with hp | hp
      · rw [ProfileSet.mem_def, hempty] at hp
        exact absurd hp List.not_mem_nil
      · exact (List.mem_append.1 hp).imp_right fun hp => ⟨d, hd, hp⟩
    · have hadded : ∀ p ∈ declaredProfiles sought? running d,
          p ∈ running ∨ IsIncluded documents p := by
        intro p hp
        rw [declaredProfiles_of_not_counting sought? running d (.inr hempty),
          ProfileSet.mem_insertAll] at hp
        exact hp.imp_right fun hp => ⟨d, hd, hp⟩
      rcases hrunning with hall | ⟨e, he, hall⟩
      · exact .inl fun p hp => (hadded p hp).elim (hall p) id
      · exact .inr ⟨e, he, fun p hp => (hadded p hp).elim (hall p) .inr⟩

/-- **Discovery ends in a justified fixed point.**  The final set begins with the names that were
active before and is settled; a name that was not active before is justified by an include list or
by the one active list that is honoured; and discovery that starts over from it ends after one pass
with the same set. -/
theorem discovery_justified_fixed_point (documents : List Declarations)
    (sought? : Option String) (initial : List String) :
    let final := (discover documents sought? (.ofList initial)).active
    final.names.Nodup ∧ initial.eraseDups <+: final.names ∧
      Settled documents sought? final ∧
      (sought?.isSome = true ∨ initial ≠ [] →
        ∀ p ∈ final, p ∉ initial → IsIncluded documents p) ∧
      (sought? = none → initial = [] →
        (∀ p ∈ final, IsIncluded documents p) ∨
          ∃ d ∈ documents, ∀ p ∈ final, p ∈ d.active ∨ IsIncluded documents p) ∧
      discover documents sought? (.ofList final.names) = ⟨[final], final⟩ ∧
      (sought? = none → ∀ other? : Option String,
        discover documents other? (.ofList final.names) = ⟨[final], final⟩) := by
  intro final
  have hsettled : Settled documents sought? final := settled_discover documents sought? _
  rw [ProfileSet.ofList_names]
  refine ⟨final.nodup, ?_, hsettled, ?_, ?_, discover_of_settled documents sought? final hsettled,
    ?_⟩
  · rw [← ProfileSet.names_ofList]
    exact prefix_discover documents sought? _
  · intro houtside p hp hnew
    have hnonempty : sought?.isSome = true ∨ (ProfileSet.ofList initial).names ≠ [] := by
      refine houtside.imp_right fun hinitial hnil => hinitial ?_
      apply List.eq_nil_iff_forall_not_mem.2
      intro q hq
      rw [← ProfileSet.mem_ofList, ProfileSet.mem_def, hnil] at hq
      exact List.not_mem_nil hq
    rcases mem_or_isIncluded_of_mem_discover documents sought? _ hnonempty p hp with hold | hinc
    · exact absurd ((ProfileSet.mem_ofList initial p).1 hold) hnew
    · exact hinc
  · rintro - rfl
    exact honours_one_active_list documents sought? _ rfl
  · rintro rfl other?
    exact discover_of_settled documents other? final (hsettled.of_none other?)

end ProfileLayers
