/-
**Discovery of active profiles.**

Whether a document applies may depend on a profile that another document activates, possibly one
further down the stream.  Discovery therefore repeats passes over all documents, each with a matcher
built from the profiles known at its start, until a pass adds none.

The active list of a document counts only if no profile is sought and nothing is active yet, so
profiles from outside win over declared ones, and the first declaration wins over later ones.  The
include list of a document always counts.

Main definitions:

* `ProfileLayers.Discovery` — the profiles after each pass;
* `ProfileLayers.afterDocument`, `ProfileLayers.discoveryPass` — one document in a pass, and the
  pass;
* `ProfileLayers.discover` — passes until nothing is added.

Main results:

* `ProfileLayers.discoveryPass_induction` — what every document keeps holds after a pass;
* `ProfileLayers.prefix_discoveryPass` — a pass keeps the profiles before in place;
* `ProfileLayers.mem_discoveryPass` — what it adds was declared;
* `ProfileLayers.discoveryPass_discover` — another pass after discovery adds nothing.
-/

import ProfileLayers.Profile.Declarations
import ProfileLayers.Profile.Matcher

set_option relaxedAutoImplicit false
set_option autoImplicit false

namespace ProfileLayers

/-- The profiles that a document adds to the running ones if it applies. -/
def declaredProfiles (sought? : Option String) (running : ProfileSet) (d : Declarations) :
    ProfileSet :=
  let running :=
    if sought?.isNone && running.isEmpty then running.insertAll d.active else running
  running.insertAll d.included

/-- The running profiles after a document was met in a pass whose matcher is `m`. -/
def afterDocument (m : Matcher) (sought? : Option String) (running : ProfileSet)
    (d : Declarations) : ProfileSet :=
  if m.accepts d.appliesTo then declaredProfiles sought? running d else running

/-- One pass over the documents; which of them apply is decided by the profiles at its start. -/
def discoveryPass (documents : List Declarations) (sought? : Option String)
    (active : ProfileSet) : ProfileSet :=
  documents.foldl (afterDocument (.generic active) sought?) active

/-- The result of discovery. -/
structure Discovery where
  /-- The profiles after each pass. -/
  passes : List ProfileSet
  /-- The profiles after the last pass. -/
  active : ProfileSet
deriving Repr, DecidableEq, Inhabited

/-- Repeats passes until one adds nothing. -/
def discoverFrom (documents : List Declarations) (sought? : Option String) :
    Nat → ProfileSet → Discovery
  | 0, active => ⟨[], active⟩
  | fuel + 1, active =>
      let next := discoveryPass documents sought? active
      if active.size < next.size then
        let later := discoverFrom documents sought? fuel next
        ⟨next :: later.passes, later.active⟩
      else ⟨[next], next⟩

/-- All names in the active and include lists. -/
def declaredNames (documents : List Declarations) : List String :=
  documents.flatMap fun d => d.active ++ d.included

/-- The profiles that the documents activate, given those active before.  Each pass but the last
adds a declared name, so their number bounds the passes. -/
def discover (documents : List Declarations) (sought? : Option String) (active : ProfileSet) :
    Discovery :=
  discoverFrom documents sought? ((declaredNames documents).length + 1) active

/-! ### Passes only add -/

theorem prefix_declaredProfiles (sought? : Option String) (running : ProfileSet)
    (d : Declarations) : running.names <+: (declaredProfiles sought? running d).names := by
  unfold declaredProfiles
  split
  · exact (ProfileSet.prefix_insertAll _ _).trans (ProfileSet.prefix_insertAll _ _)
  · exact ProfileSet.prefix_insertAll _ _

/-- What holds at the start of a pass and is kept by every document that applies holds at its
end. -/
theorem discoveryPass_induction {P : ProfileSet → Prop} (documents : List Declarations)
    (sought? : Option String) (active : ProfileSet) (hstart : P active)
    (hstep : ∀ running, P running → ∀ d ∈ documents,
      (Matcher.generic active).accepts d.appliesTo = true →
        P (declaredProfiles sought? running d)) :
    P (discoveryPass documents sought? active) := by
  refine List.foldlRecOn documents _ hstart ?_
  intro running hrunning d hd
  unfold afterDocument
  split
  · rename_i haccepts
    exact hstep running hrunning d hd haccepts
  · exact hrunning

theorem prefix_discoveryPass (documents : List Declarations) (sought? : Option String)
    (active : ProfileSet) :
    active.names <+: (discoveryPass documents sought? active).names := by
  refine discoveryPass_induction (P := fun running => active.names <+: running.names)
    documents sought? active List.prefix_rfl ?_
  intro running hrunning d _ _
  exact hrunning.trans (prefix_declaredProfiles sought? running d)

/-! ### Passes only add declared names -/

theorem mem_declaredProfiles (sought? : Option String) (running : ProfileSet) (d : Declarations)
    (p : String) (h : p ∈ declaredProfiles sought? running d) :
    p ∈ running ∨ p ∈ d.active ++ d.included := by
  unfold declaredProfiles at h
  rw [List.mem_append]
  split at h
  · rw [ProfileSet.mem_insertAll, ProfileSet.mem_insertAll] at h
    rcases h with (h | h) | h
    · exact .inl h
    · exact .inr (.inl h)
    · exact .inr (.inr h)
  · rw [ProfileSet.mem_insertAll] at h
    rcases h with h | h
    · exact .inl h
    · exact .inr (.inr h)

theorem mem_discoveryPass (documents : List Declarations) (sought? : Option String)
    (active : ProfileSet) (p : String) (h : p ∈ discoveryPass documents sought? active) :
    p ∈ active ∨ p ∈ declaredNames documents := by
  revert p
  refine discoveryPass_induction
    (P := fun running => ∀ p ∈ running, p ∈ active ∨ p ∈ declaredNames documents)
    documents sought? active (fun p hp => .inl hp) ?_
  intro running hrunning d hd _ p hp
  rcases mem_declaredProfiles sought? running d p hp with hp | hp
  · exact hrunning p hp
  · exact .inr (List.mem_flatMap.2 ⟨d, hd, hp⟩)

/-! ### The end of discovery -/

/-- The declared names that are not active yet. -/
def remaining (documents : List Declarations) (active : ProfileSet) : List String :=
  (declaredNames documents).filter fun p => !active.contains p

/-- A pass that does not grow the set leaves it as it is. -/
theorem discoveryPass_eq_of_size_le (documents : List Declarations) (sought? : Option String)
    (active : ProfileSet)
    (h : ¬ active.size < (discoveryPass documents sought? active).size) :
    discoveryPass documents sought? active = active := by
  obtain ⟨added, hadded⟩ := prefix_discoveryPass documents sought? active
  apply ProfileSet.ext
  have hlength := congrArg List.length hadded
  rw [List.length_append] at hlength
  have : added = [] := by
    apply List.eq_nil_of_length_eq_zero
    simp only [ProfileSet.size] at h
    omega
  rw [← hadded, this, List.append_nil]

/-- A pass that grows the set leaves fewer declared names to be activated. -/
theorem remaining_discoveryPass_lt (documents : List Declarations) (sought? : Option String)
    (active : ProfileSet)
    (h : active.size < (discoveryPass documents sought? active).size) :
    (remaining documents (discoveryPass documents sought? active)).length <
      (remaining documents active).length := by
  obtain ⟨added, hadded⟩ := prefix_discoveryPass documents sought? active
  cases added with
  | nil =>
      rw [List.append_nil] at hadded
      simp only [ProfileSet.size, ← hadded] at h
      omega
  | cons p added =>
      have hp : p ∈ discoveryPass documents sought? active := by
        rw [ProfileSet.mem_def, ← hadded]
        simp
      have hnew : p ∉ active := by
        have hnodup := (discoveryPass documents sought? active).nodup
        rw [← hadded, List.nodup_append] at hnodup
        intro hmem
        exact hnodup.2.2 p hmem p List.mem_cons_self rfl
      have hdeclared : p ∈ declaredNames documents :=
        (mem_discoveryPass documents sought? active p hp).resolve_left hnew
      have hsub : ∀ q, (!(discoveryPass documents sought? active).contains q) = true →
          (!active.contains q) = true := by
        intro q hq
        simp only [Bool.not_eq_true', Bool.eq_false_iff, ne_eq, ProfileSet.contains_iff] at hq ⊢
        intro hmem
        apply hq
        rw [ProfileSet.mem_def, ← hadded]
        exact List.mem_append_left _ hmem
      have hfilter : remaining documents (discoveryPass documents sought? active) =
          (remaining documents active).filter fun q =>
            !(discoveryPass documents sought? active).contains q := by
        rw [remaining, remaining, List.filter_filter]
        apply List.filter_congr
        intro q _
        cases hq : !(discoveryPass documents sought? active).contains q with
        | false => rfl
        | true => rw [hsub q hq]; rfl
      rw [hfilter]
      apply List.length_filter_lt_length_iff_exists.2
      refine ⟨p, ?_, ?_⟩
      · rw [remaining, List.mem_filter]
        refine ⟨hdeclared, ?_⟩
        rw [Bool.not_eq_true', Bool.eq_false_iff, ne_eq, ProfileSet.contains_iff]
        exact hnew
      · simpa using hp

/-- With fuel above the number of declared names, discovery ends where a pass adds nothing. -/
theorem discoveryPass_discoverFrom (documents : List Declarations) (sought? : Option String)
    (fuel : Nat) (active : ProfileSet) (h : (remaining documents active).length < fuel) :
    discoveryPass documents sought? (discoverFrom documents sought? fuel active).active =
      (discoverFrom documents sought? fuel active).active := by
  induction fuel generalizing active with
  | zero => omega
  | succ fuel ih =>
      by_cases hgrew : active.size < (discoveryPass documents sought? active).size
      · have hless := remaining_discoveryPass_lt documents sought? active hgrew
        simp only [discoverFrom, if_pos hgrew]
        exact ih _ (by omega)
      · have hsame := discoveryPass_eq_of_size_le documents sought? active hgrew
        simp only [discoverFrom, if_neg hgrew]
        rw [hsame, hsame]

/-- Another pass after discovery adds nothing. -/
theorem discoveryPass_discover (documents : List Declarations) (sought? : Option String)
    (active : ProfileSet) :
    discoveryPass documents sought? (discover documents sought? active).active =
      (discover documents sought? active).active := by
  apply discoveryPass_discoverFrom
  have := List.length_filter_le (fun p => !active.contains p) (declaredNames documents)
  rw [remaining]
  omega

end ProfileLayers
