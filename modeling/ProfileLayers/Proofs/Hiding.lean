/-
**What activating profiles hides.**

Of the active profiles a tree of sources learns one thing: which of the negated profiles that occur
in it are active.  Activating one of them hides the leaves that negate it, and never uncovers a
leaf.  But where a leaf is hidden, one of lower precedence that has the same keys shows through, so
the values and the order of the keys that remain may change; only the set of keys is certain to
shrink.  And since nothing depends on when or in which order profiles were activated, all answers
are as before once the same negated profiles are active again.

Main definitions:

* `ProfileLayers.Source.vetoes` — the negated profiles in a tree;
* `ProfileLayers.SameAmong` — two states do not differ in these profiles;
* `ProfileLayers.ProfileChange.isActivation` — the changes that only activate.

Main results:

* `ProfileLayers.Source.mem_keys_of_vetoes` — activating profiles hides keys only;
* `ProfileLayers.Source.answersAlike_of_sameAmong` — answers depend on the negated profiles alone;
* `ProfileLayers.ProfileSet.mem_after_of_mem` — activations keep what is active;
* `ProfileLayers.Source.activation_only_hides` — **activating profiles can only hide keys, and only
  through negated profiles**.
-/

import ProfileLayers.Proofs.SourceTree

set_option relaxedAutoImplicit false
set_option autoImplicit false

namespace ProfileLayers

/-- The same ones of these profiles are active in both states. -/
def SameAmong (profiles : List String) (active others : ProfileSet) : Prop :=
  ∀ p ∈ profiles, p ∈ active ↔ p ∈ others

instance (profiles : List String) (active others : ProfileSet) :
    Decidable (SameAmong profiles active others) :=
  inferInstanceAs (Decidable (∀ p ∈ profiles, p ∈ active ↔ p ∈ others))

/-! ### Leaves in two states -/

namespace Leaf

variable {active others : ProfileSet} (l : Leaf)

theorem shows_iff (key : String) :
    l.shows active key = true ↔
      (∀ p ∈ l.vetoes, p ∉ active) ∧ ¬ (l.isConditional = true ∧ key = activeKey) := by
  rw [shows, Bool.and_eq_true, isUnvetoed_iff, Bool.not_eq_true', ← Bool.not_eq_true,
    Bool.and_eq_true, beq_iff_eq]

/-- A leaf that is shown is shown as well while fewer of its negated profiles are active. -/
theorem shows_of_vetoes (h : ∀ p ∈ l.vetoes, p ∈ active → p ∈ others) (key : String)
    (hshows : l.shows others key = true) : l.shows active key = true := by
  obtain ⟨hunvetoed, hkey⟩ := (l.shows_iff key).1 hshows
  exact (l.shows_iff key).2 ⟨fun p hp hactive => hunvetoed p hp (h p hp hactive), hkey⟩

theorem shows_congr (h : SameAmong l.vetoes active others) : l.shows active = l.shows others := by
  funext key
  rw [Bool.eq_iff_iff]
  constructor
  · exact l.shows_of_vetoes (fun p hp => (h p hp).2) key
  · exact l.shows_of_vetoes (fun p hp => (h p hp).1) key

theorem get?_congr (h : SameAmong l.vetoes active others) (key : String) :
    l.get? active key = l.get? others key := by
  rw [get?, get?, l.shows_congr h]

theorem keys_congr (h : SameAmong l.vetoes active others) : l.keys active = l.keys others := by
  rw [keys, keys, l.shows_congr h]

end Leaf

/-! ### Trees in two states -/

namespace Source

/-- The negated profiles of all conditional sources in a tree. -/
def vetoes (s : Source) : List String := s.leaves.flatMap Leaf.vetoes

variable {active others : ProfileSet} (s : Source)

theorem mem_vetoes_of_mem_leaves (l : Leaf) (hl : l ∈ s.leaves) (p : String) (hp : p ∈ l.vetoes) :
    p ∈ s.vetoes := List.mem_flatMap.2 ⟨l, hl, hp⟩

/-- The keys that a tree lists it lists as well while fewer of its negated profiles are active. -/
theorem mem_keys_of_vetoes (h : ∀ p ∈ s.vetoes, p ∈ active → p ∈ others) (key : String)
    (hkey : key ∈ s.keys others) : key ∈ s.keys active := by
  rw [mem_keys_iff] at hkey ⊢
  obtain ⟨l, hl, hshown⟩ := hkey
  obtain ⟨hproperty, hshows⟩ := (l.mem_keys_iff others key).1 hshown
  have hleaf : ∀ p ∈ l.vetoes, p ∈ active → p ∈ others :=
    fun p hp => h p (s.mem_vetoes_of_mem_leaves l hl p hp)
  exact ⟨l, hl, (l.mem_keys_iff active key).2 ⟨hproperty, l.shows_of_vetoes hleaf key hshows⟩⟩

/-- A key that is hidden is hidden by a negated profile that is active now and was not before. -/
theorem exists_veto_of_hidden (key : String) (hkey : key ∈ s.keys active)
    (hhidden : key ∉ s.keys others) : ∃ p ∈ s.vetoes, p ∈ others ∧ p ∉ active := by
  apply Classical.byContradiction
  intro hnone
  have hall : ∀ p ∈ s.vetoes, p ∈ others → p ∈ active := by
    intro p hp hothers
    exact Classical.byContradiction fun hactive => hnone ⟨p, hp, hothers, hactive⟩
  exact hhidden (s.mem_keys_of_vetoes hall key hkey)

/-- The answers of a tree depend on its negated profiles alone. -/
theorem answersAlike_of_sameAmong (h : SameAmong s.vetoes active others) :
    AnswersAlike active s others s := by
  have hleaf : ∀ l ∈ s.leaves, SameAmong l.vetoes active others :=
    fun l hl p hp => h p (s.mem_vetoes_of_mem_leaves l hl p hp)
  refine .of_get? (fun key => ?_) ?_
  · rw [get?_eq_findSome?_leaves, get?_eq_findSome?_leaves]
    exact findSome?_congr_of_mem fun l hl => l.get?_congr (hleaf l hl) key
  · have hkeys : s.leaves.map (Leaf.keys active) = s.leaves.map (Leaf.keys others) :=
      List.map_congr_left fun l hl => l.keys_congr (hleaf l hl)
    rw [keys_eq_eraseDups_leaves, keys_eq_eraseDups_leaves, List.flatMap_def, List.flatMap_def,
      hkeys]

end Source

/-! ### Runs of changes -/

/-- The change activates profiles and deactivates none. -/
def ProfileChange.isActivation : ProfileChange → Bool
  | .add _ => true
  | .addAll _ => true
  | .remove _ => false
  | .set _ => false

namespace ProfileSet

/-- An activation keeps what is active. -/
theorem mem_apply_of_mem (s : ProfileSet) (c : ProfileChange) (hc : c.isActivation = true)
    (p : String) (hp : p ∈ s) : p ∈ s.apply c := by
  cases c with
  | add profile => exact (mem_insert s profile p).2 (.inl hp)
  | addAll profiles => exact (mem_insertAll s profiles p).2 (.inl hp)
  | remove profile => cases hc
  | set profiles => cases hc

/-- Activations one after another keep what is active. -/
theorem mem_after_of_mem (s : ProfileSet) (changes : List ProfileChange)
    (h : ∀ c ∈ changes, c.isActivation = true) (p : String) (hp : p ∈ s) :
    p ∈ s.after changes := by
  induction changes generalizing s with
  | nil => exact hp
  | cons c changes ih =>
      have hfirst := s.mem_apply_of_mem c (h c List.mem_cons_self) p hp
      exact ih (s.apply c) (fun d hd => h d (List.mem_cons_of_mem c hd)) hfirst

end ProfileSet

/-- **Activating profiles can only hide keys, and only through negated profiles.**  While more
profiles are active, a tree lists no key that it does not list while fewer are, and a key is hidden
only by a negated profile of the tree that became active.  In two states that agree on these negated
profiles, all answers are the same.  So a run of activations only hides keys, and any run of changes
that comes back to the same negated profiles restores all answers. -/
theorem Source.activation_only_hides (s : Source) :
    (∀ fewer more : ProfileSet, (∀ p ∈ fewer, p ∈ more) →
      ∀ key ∈ s.keys more, key ∈ s.keys fewer) ∧
    (∀ (before later : ProfileSet), ∀ key ∈ s.keys before, key ∉ s.keys later →
      ∃ p ∈ s.vetoes, p ∈ later ∧ p ∉ before) ∧
    (∀ active others : ProfileSet, SameAmong s.vetoes active others →
      AnswersAlike active s others s) ∧
    ∀ (active : ProfileSet) (changes : List ProfileChange),
      ((∀ c ∈ changes, c.isActivation = true) →
        ∀ key ∈ s.keys (active.after changes), key ∈ s.keys active) ∧
      (SameAmong s.vetoes (active.after changes) active →
        AnswersAlike (active.after changes) s active s) := by
  have hfewer : ∀ fewer more : ProfileSet, (∀ p ∈ fewer, p ∈ more) →
      ∀ key ∈ s.keys more, key ∈ s.keys fewer :=
    fun fewer more h key hkey => s.mem_keys_of_vetoes (fun p _ => h p) key hkey
  refine ⟨hfewer, fun _ _ key => s.exists_veto_of_hidden key,
    fun _ _ => s.answersAlike_of_sameAmong, fun active changes => ⟨?_, ?_⟩⟩
  · intro hchanges
    exact hfewer active (active.after changes) (active.mem_after_of_mem changes hchanges)
  · exact s.answersAlike_of_sameAmong

/-- A tree whose first part is vetoed by `p`, and whose second one has its keys in another order and
one key more. -/
def coveringTree : Source :=
  .composite "app.yml"
    [.conditional "high" (.ofList [("x", .int 1), ("y", .int 1)]) ["p"],
      .map "low" (.ofList [("y", .int 2), ("x", .int 2), ("z", .int 2)])]

/-- Activating `p` lets the second part of the covering tree show through, with its values and its
order, and hides no key of both; removing `p` restores all answers. -/
theorem coveringTree_restored :
    coveringTree.keys .empty = ["x", "y", "z"] ∧
      coveringTree.keys (ProfileSet.empty.after [.add "p"]) = ["y", "x", "z"] ∧
      (∀ key ∈ coveringTree.keys (ProfileSet.empty.after [.add "p"]),
        key ∈ coveringTree.keys .empty) ∧
      SameAmong coveringTree.vetoes (ProfileSet.empty.after [.addAll ["q", "p"], .remove "p"])
        .empty ∧
      AnswersAlike (ProfileSet.empty.after [.addAll ["q", "p"], .remove "p"]) coveringTree .empty
        coveringTree := by
  obtain ⟨-, -, -, hruns⟩ := coveringTree.activation_only_hides
  have hsame : SameAmong coveringTree.vetoes
      (ProfileSet.empty.after [.addAll ["q", "p"], .remove "p"]) .empty := by
    decide
  exact ⟨by decide, by decide, (hruns .empty [.add "p"]).1 (by decide), hsame,
    (hruns .empty _).2 hsame⟩

end ProfileLayers
