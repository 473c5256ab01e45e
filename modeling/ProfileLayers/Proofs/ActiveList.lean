/-
**Which active list discovery honours.**

While no profile is sought and none is active, the first active list among the documents that apply
should be honoured.  Whether it is depends on the running profiles, which include lists feed as
well: a document further up that includes anything keeps every active list from being honoured, and
discovery then finds what it would find for a sought profile.

Main definitions:

* `ProfileLayers.IsFirstActive` — the first document with an active list among those that apply.

Main results:

* `ProfileLayers.foldl_afterDocument_none`, `ProfileLayers.discoverFrom_none_of_names_ne_nil` — once
  a profile is active, it does not matter that none is sought;
* `ProfileLayers.prefix_discover_of_nothing_included`, `ProfileLayers.discover_none_of_included` —
  the first active list while nothing, or something, is included before it;
* `ProfileLayers.first_active_list_honoured_unless_included` — **the first active list is honoured
  unless something is included before it**.
-/

import ProfileLayers.Proofs.Discovery

set_option relaxedAutoImplicit false
set_option autoImplicit false

namespace ProfileLayers

/-- Of the documents that apply while nothing is active, this one is the first with an active
list. -/
structure IsFirstActive (before : List Declarations) (d : Declarations) : Prop where
  applies : (Matcher.generic .empty).accepts d.appliesTo = true
  active_ne_nil : d.active ≠ []
  /-- The documents before it that apply have no active list. -/
  before : ∀ e ∈ before, (Matcher.generic .empty).accepts e.appliesTo = true → e.active = []

/-! ### Active lists that do not count -/

/-- Without an active list, or while a profile is active, it does not matter whether one is
sought. -/
theorem declaredProfiles_none (profile : String) (running : ProfileSet) (d : Declarations)
    (h : d.active = [] ∨ running.names ≠ []) :
    declaredProfiles none running d = declaredProfiles (some profile) running d := by
  rw [declaredProfiles_of_not_counting (some profile) running d (.inl rfl)]
  rcases h with h | h
  · rw [declaredProfiles, h, ProfileSet.insertAll_nil, ite_self]
  · exact declaredProfiles_of_not_counting none running d (.inr h)

/-- The documents that apply have no active list, or a profile is active when the first of them is
met: then it does not matter for all of them whether one is sought. -/
theorem foldl_afterDocument_none (m : Matcher) (profile : String) (documents : List Declarations)
    (running : ProfileSet)
    (h : (∀ d ∈ documents, m.accepts d.appliesTo = true → d.active = []) ∨ running.names ≠ []) :
    documents.foldl (afterDocument m none) running =
      documents.foldl (afterDocument m (some profile)) running := by
  induction documents generalizing running with
  | nil => rfl
  | cons d documents ih =>
      have hsame : afterDocument m none running d = afterDocument m (some profile) running d := by
        rw [afterDocument, afterDocument]
        split
        · rename_i haccepts
          exact declaredProfiles_none profile running d
            (h.imp_left fun hnone => hnone d List.mem_cons_self haccepts)
        · rfl
      rw [List.foldl_cons, List.foldl_cons, hsame]
      apply ih
      rcases h with hnone | hactive
      · exact .inl fun e he => hnone e (List.mem_cons_of_mem d he)
      · exact .inr ((prefix_afterDocument m (some profile) running d).ne_nil hactive)

/-- Once a profile is active, it does not matter that none is sought. -/
theorem discoverFrom_none_of_names_ne_nil (profile : String) (documents : List Declarations)
    (fuel : Nat) (active : ProfileSet) (h : active.names ≠ []) :
    discoverFrom documents none fuel active =
      discoverFrom documents (some profile) fuel active := by
  induction fuel generalizing active with
  | zero => rfl
  | succ fuel ih =>
      have hpass : discoveryPass documents none active =
          discoveryPass documents (some profile) active :=
        foldl_afterDocument_none (.generic active) profile documents active (.inr h)
      have hnext := (prefix_discoveryPass documents (some profile) active).ne_nil h
      simp only [discoverFrom, hpass, ih _ hnext]

/-- The first pass decides: if it is that for a sought profile and activates something, so is the
whole discovery. -/
theorem discover_none_of_discoveryPass (profile : String) (documents : List Declarations)
    (active : ProfileSet)
    (hpass : discoveryPass documents none active = discoveryPass documents (some profile) active)
    (hnext : (discoveryPass documents (some profile) active).names ≠ []) :
    discover documents none active = discover documents (some profile) active := by
  simp only [discover, discoverFrom, hpass,
    discoverFrom_none_of_names_ne_nil profile documents _ _ hnext]

/-! ### The first active list -/

theorem prefix_discoveryPass_discover (documents : List Declarations) (sought? : Option String)
    (active : ProfileSet) :
    (discoveryPass documents sought? active).names <+:
      (discover documents sought? active).active.names := by
  simp only [discover, discoverFrom]
  split
  · refine discoverFrom_induction
      (P := fun running : ProfileSet =>
        (discoveryPass documents sought? active).names <+: running.names)
      documents sought? ?_ _ _ List.prefix_rfl
    intro running hrunning
    exact hrunning.trans (prefix_discoveryPass documents sought? running)
  · exact List.prefix_rfl

section First

variable (before after : List Declarations) (d : Declarations) (hfirst : IsFirstActive before d)
include hfirst

/-- If nothing is included before it, the first active list is honoured: its names come first. -/
theorem prefix_discover_of_nothing_included
    (hnothing : ∀ e ∈ before, (Matcher.generic .empty).accepts e.appliesTo = true →
      e.included = []) :
    d.active.eraseDups <+: (discover (before ++ d :: after) none .empty).active.names := by
  -- the documents before it leave the running profiles empty, so its list counts
  have hbefore : discoveryPass before none .empty = .empty := by
    refine discoveryPass_induction (P := fun running => running = .empty) before none .empty rfl ?_
    rintro _ rfl e he haccepts
    rw [declaredProfiles, hfirst.before e he haccepts, hnothing e he haccepts]
    rfl
  have hlist : d.active.eraseDups <+: (declaredProfiles none .empty d).names := by
    rw [← ProfileSet.names_ofList]
    exact ProfileSet.prefix_insertAll (.ofList d.active) d.included
  have hpass := prefix_discoveryPass_of_accepts before after d none .empty hfirst.applies
  rw [hbefore] at hpass
  exact (hlist.trans hpass).trans (prefix_discoveryPass_discover (before ++ d :: after) none .empty)

/-- If something is included before it, discovery goes on as if a profile were sought. -/
theorem discover_none_of_included (profile : String)
    (hsomething : ∃ e ∈ before, (Matcher.generic .empty).accepts e.appliesTo = true ∧
      e.included ≠ []) :
    discover (before ++ d :: after) none .empty =
      discover (before ++ d :: after) (some profile) .empty := by
  have hbefore : discoveryPass before none .empty = discoveryPass before (some profile) .empty :=
    foldl_afterDocument_none (.generic .empty) profile before .empty (.inl hfirst.before)
  -- what was included is active from there on
  have hrunning : (discoveryPass before (some profile) .empty).names ≠ [] := by
    obtain ⟨e, he, haccepts, hincluded⟩ := hsomething
    obtain ⟨p, hp⟩ := List.exists_mem_of_ne_nil e.included hincluded
    obtain ⟨running, -, hend⟩ :=
      exists_running_of_accepts before (some profile) .empty e he haccepts
    have hmem := hend.subset (mem_declaredProfiles_of_included (some profile) running e p hp)
    exact List.ne_nil_of_mem hmem
  have hsplit : ∀ sought? : Option String,
      discoveryPass (before ++ d :: after) sought? .empty =
        (d :: after).foldl (afterDocument (.generic .empty) sought?)
          (discoveryPass before sought? .empty) := fun sought? => List.foldl_append
  have hpass : discoveryPass (before ++ d :: after) none .empty =
      discoveryPass (before ++ d :: after) (some profile) .empty := by
    rw [hsplit, hsplit, hbefore]
    exact foldl_afterDocument_none (.generic .empty) profile (d :: after) _ (.inr hrunning)
  refine discover_none_of_discoveryPass profile _ .empty hpass ?_
  rw [hsplit]
  exact (prefix_foldl_afterDocument (.generic .empty) (some profile) (d :: after) _).ne_nil hrunning

end First

/-- **The first active list is honoured unless something is included before it.**  If no document
before it that applies includes a profile, its names come first among the active ones.  Otherwise no
active list is honoured: discovery is that for a sought profile, and all active names are included
ones. -/
theorem first_active_list_honoured_unless_included (before after : List Declarations)
    (d : Declarations) (hfirst : IsFirstActive before d) :
    let documents := before ++ d :: after
    let found := discover documents none .empty
    ((∀ e ∈ before, (Matcher.generic .empty).accepts e.appliesTo = true → e.included = []) →
      d.active.eraseDups <+: found.active.names) ∧
    ((∃ e ∈ before, (Matcher.generic .empty).accepts e.appliesTo = true ∧ e.included ≠ []) →
      (∀ profile, found = discover documents (some profile) .empty) ∧
        ∀ p ∈ found.active, IsIncluded documents p) := by
  intro documents found
  refine ⟨prefix_discover_of_nothing_included before after d hfirst, ?_⟩
  intro hsomething
  have hsought : ∀ profile, found = discover documents (some profile) .empty := fun profile =>
    discover_none_of_included before after d hfirst profile hsomething
  refine ⟨hsought, ?_⟩
  intro p hp
  rw [hsought ""] at hp
  have horigin := mem_or_isIncluded_of_mem_discover documents (some "") .empty (.inl rfl) p hp
  exact horigin.resolve_left List.not_mem_nil

/-- The active list is honoured behind a document that does not apply yet, whatever that one
includes. -/
theorem first_active_list_honoured_behind_staged_document :
    IsFirstActive [⟨.parse "b", ["x"], ["c"]⟩] ⟨.none, ["a", "b"], []⟩ ∧
      ["a", "b"] <+:
        (discover [⟨.parse "b", ["x"], ["c"]⟩, ⟨.none, ["a", "b"], []⟩, ⟨.parse "!a", ["y"], ["d"]⟩]
          none .empty).active.names := by
  have hfirst : IsFirstActive [⟨.parse "b", ["x"], ["c"]⟩] ⟨.none, ["a", "b"], []⟩ :=
    ⟨by decide, by decide, by decide⟩
  exact ⟨hfirst, (first_active_list_honoured_unless_included _ [⟨.parse "!a", ["y"], ["d"]⟩] _
    hfirst).1 (by decide)⟩

/-- A document that includes `x` keeps the next one from activating `a`, although nothing was active
before and no other document has an active list. -/
theorem include_before_suppresses_first_active_list :
    ¬ ∀ (before after : List Declarations) (d : Declarations), IsFirstActive before d →
      ∀ p ∈ d.active, p ∈ (discover (before ++ d :: after) none .empty).active := by
  intro h
  have hactive := h [⟨.none, [], ["x"]⟩] [] ⟨.none, ["a"], []⟩
    ⟨by decide, by decide, by decide⟩ "a" (by decide)
  exact absurd hactive (by decide)

end ProfileLayers
