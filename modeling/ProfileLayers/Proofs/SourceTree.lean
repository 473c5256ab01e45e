/-
**Trees of sources.**

A composite may have composites among its parts, so sources are trees.  Reading one goes down to the
maps and conditional sources at its ends and comes back up through every composite, which looks for
a first value on the way up, and removes repeated keys.  Here a tree is flattened into the list of
its leaves, whatever its depth, so that looking up a key and listing all keys are two scans of the
same list.  A leaf decides in one place which of its properties it shows.

Renaming a source makes its parts anew, at every depth.  Since each of them is given the name that
it has, only the name on top changes.

Main definitions:

* `ProfileLayers.Leaf`, `ProfileLayers.Leaf.shows` — the ends of a tree, and what they show;
* `ProfileLayers.Source.leaves` — the leaves of a tree;
* `ProfileLayers.Source.partAt?` — the source at a place in a tree;
* `ProfileLayers.AnswersAlike` — two sources, each read in a state of its own, answer the same.

Main results:

* `ProfileLayers.Source.get?_eq_findSome?_leaves`, `ProfileLayers.Source.keys_eq_eraseDups_leaves` —
  reading a tree is scanning its leaves;
* `ProfileLayers.Source.renaming_changes_no_answer` — **a new name changes no answer**.
-/

import ProfileLayers.Proofs.FirstOccurrence

set_option relaxedAutoImplicit false
set_option autoImplicit false

namespace ProfileLayers

/-! ### Leaves -/

/-- A map or a conditional source at the end of a tree. -/
structure Leaf where
  properties : PropertyMap
  /-- The profiles of which none may be active; a map has none. -/
  vetoes : List String
  isConditional : Bool

namespace Leaf

/-- The leaf shows what it has under this key while `active` are active. -/
def shows (active : ProfileSet) (l : Leaf) (key : String) : Bool :=
  isUnvetoed active l.vetoes && !(l.isConditional && key == activeKey)

/-- The value that the leaf shows. -/
def get? (active : ProfileSet) (key : String) (l : Leaf) : Option Value :=
  if l.shows active key then l.properties.get? key else none

/-- The keys that the leaf shows. -/
def keys (active : ProfileSet) (l : Leaf) : List String := l.properties.keys.filter (l.shows active)

theorem nodup_keys (active : ProfileSet) (l : Leaf) : (l.keys active).Nodup :=
  l.properties.nodup_keys.sublist List.filter_sublist

theorem mem_keys_iff (active : ProfileSet) (l : Leaf) (key : String) :
    key ∈ l.keys active ↔ key ∈ l.properties.keys ∧ l.shows active key = true := List.mem_filter

@[simp] theorem get?_empty_key (active : ProfileSet) (l : Leaf) : l.get? active "" = none := by
  rw [get?, PropertyMap.get?_empty_key, ite_self]

/-- A leaf has a value for the keys that it shows. -/
theorem isSome_get?_iff (active : ProfileSet) (l : Leaf) (key : String) (hkey : key ≠ "") :
    (l.get? active key).isSome = true ↔ key ∈ l.keys active := by
  rw [mem_keys_iff, get?, l.properties.get?_of_ne key hkey]
  split
  · rename_i hshows
    rw [PropertyMap.isSome_find?_iff, and_iff_left hshows]
  · rename_i hhidden
    exact iff_of_false Bool.false_ne_true fun h => hhidden h.2

end Leaf

namespace Source

mutual

/-- The leaves of a tree, in order of precedence. -/
def leaves : Source → List Leaf
  | .map _ properties => [⟨properties, [], false⟩]
  | .conditional _ properties vetoes => [⟨properties, vetoes, true⟩]
  | .composite _ parts => leavesOfAll parts

/-- The leaves of several trees. -/
def leavesOfAll : List Source → List Leaf
  | [] => []
  | s :: parts => leaves s ++ leavesOfAll parts

end

theorem leavesOfAll_eq_flatMap (parts : List Source) :
    leavesOfAll parts = parts.flatMap leaves := by
  induction parts with
  | nil => rfl
  | cons s parts ih => rw [leavesOfAll, List.flatMap_cons, ih]

theorem leaves_composite (name : String) (parts : List Source) :
    (composite name parts).leaves = parts.flatMap leaves := by
  rw [leaves, leavesOfAll_eq_flatMap]

end Source

/-! ### Scanning the leaves -/

theorem findSome?_flatMap {α β γ : Type} (f : α → List β) (g : β → Option γ) (l : List α) :
    (l.flatMap f).findSome? g = l.findSome? fun a => (f a).findSome? g := by
  induction l with
  | nil => rfl
  | cons a l ih =>
      rw [List.flatMap_cons, List.findSome?_append, ih, List.findSome?_cons]
      cases (f a).findSome? g <;> rfl

theorem findSome?_congr_of_mem {α β : Type} {f g : α → Option β} {l : List α}
    (h : ∀ a ∈ l, f a = g a) : l.findSome? f = l.findSome? g := by
  induction l with
  | nil => rfl
  | cons a l ih =>
      rw [List.findSome?_cons, List.findSome?_cons, h a List.mem_cons_self,
        ih fun b hb => h b (List.mem_cons_of_mem a hb)]

namespace Source

/-- The value in a tree is the one in the first leaf that shows one. -/
theorem get?_eq_findSome?_leaves (active : ProfileSet) (key : String) (s : Source) :
    s.get? active key = s.leaves.findSome? (Leaf.get? active key) := by
  induction s with
  | map name properties =>
      rw [leaves, List.findSome?_singleton]
      rfl
  | conditional name properties vetoes =>
      rw [leaves, List.findSome?_singleton, get?, Leaf.get?, Leaf.shows]
      cases isUnvetoed active vetoes <;> by_cases hkey : key = activeKey <;> simp [hkey]
  | composite name parts ih =>
      rw [get?, firstOf?_eq_findSome?, leaves_composite, findSome?_flatMap]
      exact findSome?_congr_of_mem ih

/-- The keys of a tree are those that its leaves show, each once. -/
theorem keys_eq_eraseDups_leaves (active : ProfileSet) (s : Source) :
    s.keys active = (s.leaves.flatMap (Leaf.keys active)).eraseDups := by
  induction s with
  | map name properties =>
      have hall : Leaf.keys active ⟨properties, [], false⟩ = properties.keys := by
        rw [Leaf.keys, List.filter_eq_self]
        intro key _
        rfl
      rw [keys, leaves, List.flatMap_singleton, hall,
        eraseDups_of_nodup _ properties.nodup_keys]
  | conditional name properties vetoes =>
      rw [leaves, List.flatMap_singleton, eraseDups_of_nodup _ (Leaf.nodup_keys active _), keys,
        Leaf.keys]
      split
      · rename_i hunvetoed
        apply List.filter_congr
        intro key _
        simp [Leaf.shows, hunvetoed, bne]
      · rename_i hvetoed
        simp [Leaf.shows, hvetoed]
  | composite name parts ih =>
      -- a part has removed repetitions already, which changes nothing for the whole
      rw [keys, keysOfAll_eq_map, unionOfKeys_map_eq_eraseDups_flatMap ih, leaves_composite,
        List.flatMap_assoc]

theorem nodup_keys (active : ProfileSet) (s : Source) : (s.keys active).Nodup := by
  rw [keys_eq_eraseDups_leaves]
  exact nodup_eraseDups _

theorem mem_keys_iff (active : ProfileSet) (s : Source) (key : String) :
    key ∈ s.keys active ↔ ∃ l ∈ s.leaves, key ∈ l.keys active := by
  rw [keys_eq_eraseDups_leaves, List.mem_eraseDups, List.mem_flatMap]

end Source

/-! ### Renaming -/

/-- A source that is read while `active` are active gives the same answers as another one that is
read while `others` are. -/
structure AnswersAlike (active : ProfileSet) (s : Source) (others : ProfileSet) (t : Source) :
    Prop where
  get?_eq : ∀ key, s.get? active key = t.get? others key
  contains_eq : ∀ key, s.contains active key = t.contains others key
  keys_eq : s.keys active = t.keys others

/-- Asking for a key is looking it up, so it needs no argument of its own. -/
theorem AnswersAlike.of_get? {active others : ProfileSet} {s t : Source}
    (hget : ∀ key, s.get? active key = t.get? others key) (hkeys : s.keys active = t.keys others) :
    AnswersAlike active s others t where
  get?_eq := hget
  contains_eq key := by rw [Source.contains, Source.contains, hget key]
  keys_eq := hkeys

namespace Source

/-- The source at a place in a tree, which is found by taking the part with the next number at each
level. -/
def partAt? : List Nat → Source → Option Source
  | [], s => some s
  | i :: place, s => s.parts[i]?.bind (partAt? place)

theorem partAt?_renamed (s : Source) (name : String) (i : Nat) (place : List Nat) :
    (s.renamed name).partAt? (i :: place) = s.partAt? (i :: place) := by
  rw [partAt?, partAt?, parts_renamed]

/-- **A new name changes no answer.**  The renamed source has the new name and, whatever is active
when it is read, answers as the original does.  At every place below the top it has the part that
the original has there, under the name that the part has. -/
theorem renaming_changes_no_answer (s : Source) (name : String) :
    (s.renamed name).name = name ∧
      (∀ active, AnswersAlike active (s.renamed name) active s) ∧
      ∀ i place, (s.renamed name).partAt? (i :: place) = s.partAt? (i :: place) := by
  refine ⟨name_renamed s name, fun active => ?_, partAt?_renamed s name⟩
  exact .of_get? (fun key => get?_renamed active key s name) (keys_renamed active s name)

end Source

end ProfileLayers
