/-
**Clones of a handle.**

A handle, the handles that were cloned from it and those that were cloned from these are a family.
Which handles belong to it, and which changes were made through them, can be read off the steps that
were taken, without a look at the sets.  All handles of a family are answered with one set: the one
that these changes make of the profiles that the first handle was created with.  Other handles may
be created and used in between without any effect on it.

Main definitions:

* `ProfileLayers.HandleFamily`, `ProfileLayers.HandleFamily.after` — the clones of a handle and the
  changes made through them, as told by the steps;
* `ProfileLayers.SharedProfiles.Serves` — a family leads to one set, which has these changes.

Main results:

* `ProfileLayers.ProfileSet.answer?_eq_decide` — the answer to a change tells whether the set
  changed;
* `ProfileLayers.SharedProfiles.Serves.take`, `ProfileLayers.SharedProfiles.Serves.after` — a family
  goes on leading to one set;
* `ProfileLayers.SharedProfiles.clones_share_ordered_set` — **all clones of a handle read one set,
  which keeps its profiles in order**.
-/

import Mathlib.Data.List.Nodup
import ProfileLayers.Profile.Shared
import ProfileLayers.Proofs.FirstOccurrence

set_option relaxedAutoImplicit false
set_option autoImplicit false

namespace ProfileLayers

/-! ### One change of a set -/

namespace ProfileSet

theorem names_add (s : ProfileSet) (p : String) :
    (s.apply (.add p)).names = if p ∈ s.names then s.names else s.names ++ [p] := names_insert s p

/-- New names follow those before in the given order, each once. -/
theorem names_addAll (s : ProfileSet) (ps : List String) :
    (s.apply (.addAll ps)).names =
      s.names ++ (ps.filter fun p => decide (p ∉ s.names)).eraseDups := names_insertAll s ps

/-- The names that are not removed keep their order. -/
theorem names_remove (s : ProfileSet) (p : String) :
    (s.apply (.remove p)).names = s.names.erase p := by
  rw [s.nodup.erase_eq_filter]
  rfl

/-- A name was added to the set, unless it was in it. -/
theorem names_add_ne_iff (s : ProfileSet) (p : String) :
    (s.apply (.add p)).names ≠ s.names ↔ p ∉ s.names := by
  rw [names_add]
  by_cases h : p ∈ s.names <;> simp [h]

/-- Adding names made the set larger exactly if it changed it. -/
theorem names_addAll_ne_iff (s : ProfileSet) (ps : List String) :
    (s.apply (.addAll ps)).names ≠ s.names ↔ s.size < (s.apply (.addAll ps)).size := by
  have hfront : s.names <+: (s.apply (.addAll ps)).names := prefix_insertAll s ps
  constructor
  · intro hne
    exact Nat.lt_of_le_of_ne hfront.length_le fun hlength =>
      hne (hfront.eq_of_length hlength).symm
  · intro hlt hsame
    rw [size, size, hsame] at hlt
    exact Nat.lt_irrefl _ hlt

theorem names_remove_ne_iff (s : ProfileSet) (p : String) :
    (s.apply (.remove p)).names ≠ s.names ↔ p ∈ s.names := by
  rw [names_remove, ne_eq, List.erase_eq_self_iff, Classical.not_not]

/-- **The answer to a change** tells whether the set changed.  For several names it is told by the
size of the set, and for one name by whether it is in the set. -/
theorem answer?_eq_decide (s : ProfileSet) (c : ProfileChange) (h : ∀ ps, c ≠ .set ps) :
    s.answer? c = some (decide ((s.apply c).names ≠ s.names)) := by
  cases c with
  | add p =>
      rw [decide_eq_decide.2 (s.names_add_ne_iff p), decide_not]
      rfl
  | addAll ps =>
      rw [decide_eq_decide.2 (s.names_addAll_ne_iff ps)]
      rfl
  | remove p =>
      rw [decide_eq_decide.2 (s.names_remove_ne_iff p)]
      rfl
  | set ps => exact absurd rfl (h ps)

/-- Looking a name up in the list of active names is looking it up in the set. -/
theorem isActiveIn_names (s : ProfileSet) (p : String) : isActiveIn s.names p = s.contains p := by
  rw [Bool.eq_iff_iff, contains_iff, mem_def, isActiveIn, List.any_beq', List.contains_iff_mem]

end ProfileSet

/-! ### Families of handles -/

/-- What the steps so far tell about one handle. -/
structure HandleFamily where
  /-- The number of all handles. -/
  handles : Nat
  /-- The handle itself, its clones, and the clones of these. -/
  members : List Nat
  /-- The changes that were made through these. -/
  changes : List ProfileChange

namespace HandleFamily

/-- The family of a handle that was just created. -/
def ofNew (handle : Nat) : HandleFamily := ⟨handle + 1, [handle], []⟩

/-- The family after a step.  Steps with handles that do not exist do not count. -/
def take (f : HandleFamily) : HandleStep → HandleFamily
  | .create _ => { f with handles := f.handles + 1 }
  | .clone handle =>
      if handle ∈ f.members then
        { f with handles := f.handles + 1, members := f.members ++ [f.handles] }
      else if handle < f.handles then { f with handles := f.handles + 1 } else f
  | .change handle c =>
      if handle ∈ f.members then { f with changes := f.changes ++ [c] } else f

/-- The family after steps that are taken one after another. -/
def after (f : HandleFamily) (steps : List HandleStep) : HandleFamily := steps.foldl take f

end HandleFamily

namespace SharedProfiles

/-- The members of a family are the handles that lead to the set at `t`, which is what the changes
of the family make of `start`. -/
structure Serves (s : SharedProfiles) (f : HandleFamily) (start : ProfileSet) (t : Nat) : Prop where
  length_targets : s.targets.length = f.handles
  mem_members_iff : ∀ h, h ∈ f.members ↔ s.targets[h]? = some t
  set_eq : s.sets[t]? = some (start.after f.changes)

namespace Serves

variable {s : SharedProfiles} {f : HandleFamily} {start : ProfileSet} {t : Nat}

/-- A member reads the set of the family. -/
theorem read? (hs : s.Serves f start t) (h : Nat) (hmem : h ∈ f.members) :
    s.read? h = some (start.after f.changes) := by
  rw [SharedProfiles.read?, (hs.mem_members_iff h).1 hmem]
  exact hs.set_eq

/-- A change through a member is answered by the set of the family. -/
theorem answer? (hs : s.Serves f start t) (h : Nat) (hmem : h ∈ f.members) (c : ProfileChange) :
    (s.change h c).2 = (start.after f.changes).answer? c := by
  rw [SharedProfiles.change, (hs.mem_members_iff h).1 hmem]
  exact congrArg (Option.bind · (ProfileSet.answer? · c)) hs.set_eq

/-- With one more handle, which leads to `t'`, the family has one more member or is as before. -/
theorem mem_iff_getElem?_concat (hs : s.Serves f start t) (t' h : Nat) :
    (s.targets ++ [t'])[h]? = some t ↔ h ∈ f.members ∨ h = f.handles ∧ t' = t := by
  rw [List.getElem?_append, ← hs.length_targets, hs.mem_members_iff]
  rcases Nat.lt_trichotomy h s.targets.length with hlt | rfl | hgt
  · simp [hlt, Nat.ne_of_lt hlt]
  · simp
  · have hnone : s.targets[h]? = Option.none := List.getElem?_eq_none (Nat.le_of_lt hgt)
    have hbeyond : h - s.targets.length ≠ 0 := by omega
    simp [hnone, Nat.ne_of_gt hgt, hbeyond]

theorem create (hs : s.Serves f start t) (profiles : List String) :
    (s.create profiles).Serves (f.take (.create profiles)) start t := by
  have hlt : t < s.sets.length := (List.getElem?_eq_some_iff.1 hs.set_eq).1
  refine ⟨?_, fun h => ?_, ?_⟩
  · simp [SharedProfiles.create, HandleFamily.take, hs.length_targets]
  · -- the new set is none of those before
    change h ∈ f.members ↔ (s.targets ++ [s.sets.length])[h]? = some t
    rw [hs.mem_iff_getElem?_concat, or_iff_left fun hnew => Nat.ne_of_gt hlt hnew.2]
  · exact (List.getElem?_append_left hlt).trans hs.set_eq

theorem clone (hs : s.Serves f start t) (handle : Nat) :
    (s.clone handle).Serves (f.take (.clone handle)) start t := by
  by_cases hmem : handle ∈ f.members
  · have htarget := (hs.mem_members_iff handle).1 hmem
    have htargets : (s.clone handle).targets = s.targets ++ [t] := by
      rw [targets_clone, htarget, Option.toList_some]
    rw [HandleFamily.take, if_pos hmem]
    refine ⟨?_, fun h => ?_, hs.set_eq⟩
    · rw [htargets, List.length_append, hs.length_targets, List.length_singleton]
    · rw [htargets, hs.mem_iff_getElem?_concat, List.mem_append, List.mem_singleton,
        and_iff_left rfl]
  · rw [HandleFamily.take, if_neg hmem]
    split
    · rename_i hlt
      obtain ⟨t', ht'⟩ : ∃ t', s.targets[handle]? = some t' :=
        ⟨_, List.getElem?_eq_getElem (hs.length_targets ▸ hlt)⟩
      have hne : t' ≠ t := fun heq => hmem ((hs.mem_members_iff handle).2 (heq ▸ ht'))
      have htargets : (s.clone handle).targets = s.targets ++ [t'] := by
        rw [targets_clone, ht', Option.toList_some]
      refine ⟨?_, fun h => ?_, hs.set_eq⟩
      · rw [htargets, List.length_append, hs.length_targets, List.length_singleton]
      · rw [htargets, hs.mem_iff_getElem?_concat, or_iff_left fun hnew => hne hnew.2]
    · rename_i hge
      have hnone : s.targets[handle]? = Option.none :=
        List.getElem?_eq_none (hs.length_targets ▸ Nat.le_of_not_lt hge)
      have htargets : (s.clone handle).targets = s.targets := by
        rw [targets_clone, hnone, Option.toList_none, List.append_nil]
      exact ⟨htargets ▸ hs.length_targets, htargets ▸ hs.mem_members_iff, hs.set_eq⟩

theorem change (hs : s.Serves f start t) (handle : Nat) (c : ProfileChange) :
    (s.change handle c).1.Serves (f.take (.change handle c)) start t := by
  cases htarget : s.targets[handle]? with
  | none =>
      have hmem : handle ∉ f.members := by
        rw [hs.mem_members_iff, htarget]
        exact nofun
      rw [SharedProfiles.change, htarget, HandleFamily.take, if_neg hmem]
      exact hs
  | some t' =>
      by_cases hmem : handle ∈ f.members
      · have heq : t' = t :=
          Option.some.inj (htarget.symm.trans ((hs.mem_members_iff handle).1 hmem))
        subst heq
        rw [SharedProfiles.change, htarget, HandleFamily.take, if_pos hmem]
        refine ⟨hs.length_targets, hs.mem_members_iff, ?_⟩
        simp [List.getElem?_modify_eq, hs.set_eq, ProfileSet.after, List.foldl_append]
      · have hne : t' ≠ t := by
          rintro rfl
          exact hmem ((hs.mem_members_iff handle).2 htarget)
        rw [SharedProfiles.change, htarget, HandleFamily.take, if_neg hmem]
        refine ⟨hs.length_targets, hs.mem_members_iff, ?_⟩
        exact (List.getElem?_modify_ne _ _ hne).trans hs.set_eq

/-- **One step**: whatever is done with any handle, the family leads to one set. -/
theorem take (hs : s.Serves f start t) (step : HandleStep) :
    (s.take step).Serves (f.take step) start t := by
  cases step with
  | create profiles => exact hs.create profiles
  | clone handle => exact hs.clone handle
  | change handle c => exact hs.change handle c

/-- A whole run. -/
theorem after (hs : s.Serves f start t) (steps : List HandleStep) :
    (s.after steps).Serves (f.after steps) start t := by
  induction steps generalizing s f with
  | nil => exact hs
  | cons step steps ih => exact ih (hs.take step)

end Serves

/-- A handle that was just created is the only one that leads to its set. -/
theorem serves_create (s : SharedProfiles) (profiles : List String) :
    (s.create profiles).Serves (.ofNew s.targets.length) (.ofList profiles) s.sets.length := by
  refine ⟨by simp [HandleFamily.ofNew], fun h => ?_,
    by simp [HandleFamily.ofNew, ProfileSet.after]⟩
  rw [targets_create]
  change h ∈ [s.targets.length] ↔ (s.targets ++ [s.sets.length])[h]? = some s.sets.length
  rcases Nat.lt_trichotomy h s.targets.length with hlt | rfl | hgt
  · have hold : s.targets[h] ≠ s.sets.length :=
      Nat.ne_of_lt (s.targets_lt _ (List.getElem_mem hlt))
    rw [List.getElem?_append_left hlt, List.getElem?_eq_getElem hlt, Option.some_inj]
    exact iff_of_false (by simp [Nat.ne_of_lt hlt]) hold
  · simp
  · have hnone : (s.targets ++ [s.sets.length])[h]? = Option.none := by
      rw [List.getElem?_eq_none_iff, List.length_append, List.length_singleton]
      exact hgt
    simp [hnone, Nat.ne_of_gt hgt]

/-- **All clones of a handle read one set, which keeps its profiles in order.**  Let a handle be
created, among any other handles, and let any steps be taken after it.  All clones of it that were
made by then, and clones of these, read the set that comes of the profiles it was created with by
the changes that were made through any of them, in this order; no name occurs twice.  A further
change through one of them is answered with whether the list changes, and is read through all.
Adding puts the new names behind the list in the given order, removing keeps the order of the
others, and setting leaves the given names where they first occur.  Whether a profile is active is
told by the list. -/
theorem clones_share_ordered_set (s : SharedProfiles) (profiles : List String)
    (steps : List HandleStep) :
    let family := (HandleFamily.ofNew s.targets.length).after steps
    let later := (s.create profiles).after steps
    let now := (ProfileSet.ofList profiles).after family.changes
    (∀ h ∈ family.members, later.read? h = some now ∧
      ∀ c, (later.change h c).2 = now.answer? c ∧
        ∀ h' ∈ family.members, (later.change h c).1.read? h' = some (now.apply c)) ∧
      now.names.Nodup ∧
      (∀ c, (∀ ps, c ≠ .set ps) →
        now.answer? c = some (decide ((now.apply c).names ≠ now.names))) ∧
      (∀ p, (now.apply (.add p)).names =
        if p ∈ now.names then now.names else now.names ++ [p]) ∧
      (∀ ps, (now.apply (.addAll ps)).names =
        now.names ++ (ps.filter fun p => decide (p ∉ now.names)).eraseDups) ∧
      (∀ p, (now.apply (.remove p)).names = now.names.erase p) ∧
      (∀ ps, (now.apply (.set ps)).names = ps.eraseDups) ∧
      ∀ p, (now.contains p = true ↔ p ∈ now.names) ∧
        (isActiveIn now.names p = true ↔ p ∈ now.names) := by
  intro family later now
  have hserves : later.Serves family (.ofList profiles) s.sets.length :=
    (s.serves_create profiles).after steps
  refine ⟨fun h hmem => ⟨hserves.read? h hmem, fun c => ⟨hserves.answer? h hmem c, ?_⟩⟩, now.nodup,
    now.answer?_eq_decide, now.names_add, now.names_addAll, now.names_remove,
    ProfileSet.names_ofList, fun p => ⟨now.contains_iff p, ?_⟩⟩
  · intro h' hmem'
    have hchanged := hserves.change h c
    rw [HandleFamily.take, if_pos hmem] at hchanged
    rw [hchanged.read? h' hmem']
    simp [ProfileSet.after, now]
  · rw [now.isActiveIn_names, now.contains_iff, ProfileSet.mem_def]

/-- Steps with a handle `0`, its clone `2`, the clone `3` of this one, and another handle `1`. -/
def sharingSteps : List HandleStep :=
  [.create ["x"], .clone 0, .change 2 (.addAll ["b", "a", "b"]), .change 1 (.remove "x"), .clone 2,
    .change 3 (.set ["c", "d", "c"]), .change 0 (.add "a")]

/-- What was set through handle `3` and added through handle `0` is read through handle `2`, and a
change through this one is answered and read through handle `0`. -/
theorem sharingSteps_share_ordered_set :
    let family := (HandleFamily.ofNew 0).after sharingSteps
    let later := (none.create ["a"]).after sharingSteps
    family.members = [0, 2, 3] ∧ later.read? 2 = some (.ofList ["c", "d", "a"]) ∧
      (later.change 2 (.addAll ["d", "e", "a"])).2 = some true ∧
      (later.change 2 (.addAll ["d", "e", "a"])).1.read? 0 =
        some (.ofList ["c", "d", "a", "e"]) := by
  intro family later
  have hmembers : family.members = [0, 2, 3] := by decide
  have hchanges : (ProfileSet.ofList ["a"]).after family.changes = .ofList ["c", "d", "a"] := by
    decide
  obtain ⟨hshared, -⟩ := none.clones_share_ordered_set ["a"] sharingSteps
  obtain ⟨hread, hchange⟩ := hshared 2 (by decide)
  obtain ⟨hanswer, hseen⟩ := hchange (.addAll ["d", "e", "a"])
  refine ⟨hmembers, hread.trans (congrArg some hchanges), hanswer.trans (by decide), ?_⟩
  exact (hseen 0 (by decide)).trans (by decide)

end SharedProfiles

end ProfileLayers
