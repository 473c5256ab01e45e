/-
**Looking up, listing and capturing.**

What a source has can be asked for in three ways: by looking up a key, by listing all keys, and by
capturing a snapshot, which does both.  Lookup and listing each go through the tree of sources on
their own, and hide properties for reasons of their own: a conditional source hides everything while
it is vetoed and the key of the active list at any time, and no source answers the empty key,
although a map may list it.  Since both are scans of the same leaves, they agree.

An environment reads like a composite of its layers, so what holds of sources holds of environments.

Main definitions:

* `ProfileLayers.Agree` — lookup and listing tell the same;
* `ProfileLayers.Snapshot.Holds` — a snapshot has what lookup and listing tell.

Main results:

* `ProfileLayers.Source.agree` — lookup and listing of a tree agree;
* `ProfileLayers.Snapshot.holds_capture` — so does the snapshot;
* `ProfileLayers.Environment.get?_eq_get?_composite`,
  `ProfileLayers.Environment.keys_eq_keys_composite` — an environment is read like a composite;
* `ProfileLayers.lookup_listing_and_snapshot_agree` — **all ways of reading agree**.
-/

import ProfileLayers.Environment
import ProfileLayers.Proofs.SourceTree

set_option relaxedAutoImplicit false
set_option autoImplicit false

namespace ProfileLayers

/-- Looking up keys, asking for them and listing them tell the same.  The empty key is never
answered, whether it is listed or not. -/
structure Agree (get? : String → Option Value) (contains : String → Bool) (keys : List String) :
    Prop where
  contains_iff : ∀ key, contains key = true ↔ (get? key).isSome = true
  isSome_iff : ∀ key, key ≠ "" → ((get? key).isSome = true ↔ key ∈ keys)
  nodup : keys.Nodup
  get?_empty_key : get? "" = none

/-- The snapshot has the listed keys, except the empty one, in their order and with the values that
looking them up gives. -/
structure Snapshot.Holds (snapshot : Snapshot) (get? : String → Option Value)
    (keys : List String) : Prop where
  keys_eq : snapshot.properties.keys = keys.filter fun key => key != ""
  find?_eq : ∀ key, snapshot.properties.find? key = get? key

/-! ### Sources -/

namespace Source

@[simp] theorem get?_empty_key (active : ProfileSet) (s : Source) : s.get? active "" = none := by
  rw [get?_eq_findSome?_leaves, List.findSome?_eq_none_iff]
  exact fun l _ => l.get?_empty_key active

theorem isSome_get?_iff (active : ProfileSet) (s : Source) (key : String) (hkey : key ≠ "") :
    (s.get? active key).isSome = true ↔ key ∈ s.keys active := by
  rw [get?_eq_findSome?_leaves, List.findSome?_isSome_iff, mem_keys_iff]
  exact exists_congr fun l => and_congr_right fun _ => l.isSome_get?_iff active key hkey

/-- Lookup and listing of a tree agree. -/
theorem agree (active : ProfileSet) (s : Source) :
    Agree (fun key => s.get? active key) (fun key => s.contains active key) (s.keys active) where
  contains_iff _ := Iff.rfl
  isSome_iff := s.isSome_get?_iff active
  nodup := s.nodup_keys active
  get?_empty_key := s.get?_empty_key active

end Source

/-! ### Snapshots -/

namespace Entries

/-- The keys of the answers to some keys are those that have an answer. -/
theorem keys_filterMap (f : String → Option Value) (l : List String) :
    keys (l.filterMap fun key => (f key).map fun value => (key, value)) =
      l.filter fun key => (f key).isSome := by
  induction l with
  | nil => rfl
  | cons key l ih =>
      cases hvalue : f key with
      | none => simp [hvalue, ih]
      | some value => simp [hvalue, ih]

/-- Among the answers to some keys each of these has its own. -/
theorem find?_filterMap (f : String → Option Value) (l : List String) (key : String) :
    find? key (l.filterMap fun key => (f key).map fun value => (key, value)) =
      if key ∈ l then f key else none := by
  induction l with
  | nil => rfl
  | cons k l ih =>
      by_cases hkey : k = key
      · subst hkey
        cases hvalue : f k with
        | none => simp [hvalue, ih]
        | some value => simp [hvalue, find?]
      · have hother : key ≠ k := fun e => hkey e.symm
        cases hvalue : f k with
        | none => simp [hvalue, ih, hother]
        | some value => simp [hvalue, ih, find?, hkey, hother]

end Entries

namespace Snapshot

/-- The entries of a snapshot are the answers to the keys that the source lists, since it lists each
of them once. -/
theorem entries_capture (active : ProfileSet) (s : Source) :
    (capture active s).properties.entries =
      (s.keys active).filterMap fun key => (s.get? active key).map fun value => (key, value) := by
  apply PropertyMap.entries_ofList_of_nodup
  rw [Entries.keys_filterMap]
  exact (s.nodup_keys active).sublist List.filter_sublist

/-- A snapshot has what lookup and listing of the source tell. -/
theorem holds_capture (active : ProfileSet) (s : Source) :
    (capture active s).Holds (fun key => s.get? active key) (s.keys active) where
  keys_eq := by
    rw [PropertyMap.keys, entries_capture, Entries.keys_filterMap]
    apply List.filter_congr
    intro key hlisted
    by_cases hkey : key = ""
    · simp [hkey]
    · have hsome := (s.isSome_get?_iff active key hkey).2 hlisted
      simp [hsome, hkey]
  find?_eq key := by
    rw [PropertyMap.find?, entries_capture, Entries.find?_filterMap]
    split
    · rfl
    · rename_i hunlisted
      by_cases hkey : key = ""
      · rw [hkey, Source.get?_empty_key]
      · have hnone := (not_congr (s.isSome_get?_iff active key hkey)).2 hunlisted
        exact (Option.not_isSome_iff_eq_none.1 hnone).symm

end Snapshot

/-! ### Environments -/

namespace Environment

/-- An environment looks keys up like a composite of its layers. -/
theorem get?_eq_get?_composite (env : Environment) (name key : String) :
    env.get? key = (Source.composite name env.layers).get? env.active key := by
  rw [get?, Source.get?, Source.firstOf?_eq_findSome?]

/-- An environment lists keys like a composite of its layers. -/
theorem keys_eq_keys_composite (env : Environment) (name : String) :
    env.keys = (Source.composite name env.layers).keys env.active := by
  rw [keys, Source.keys, Source.keysOfAll_eq_map]

theorem agree (env : Environment) : Agree env.get? env.contains env.keys := by
  have hlayers := (Source.composite "" env.layers).agree env.active
  have hget : env.get? = fun key => (Source.composite "" env.layers).get? env.active key :=
    funext (env.get?_eq_get?_composite "")
  have hcontains : env.contains =
      fun key => (Source.composite "" env.layers).contains env.active key := by
    funext key
    rw [contains, Source.contains, env.get?_eq_get?_composite ""]
  rw [hget, hcontains, env.keys_eq_keys_composite ""]
  exact hlayers

end Environment

/-- **All ways of reading agree.**  Whatever is active, a key other than the empty one can be looked
up in a tree of sources exactly if the tree lists it, which it does once; a snapshot that is taken
then has these keys in the order of the list, with the values that looking them up gives; and the
empty key is neither answered nor captured.  An environment answers in agreement with its list as
well. -/
theorem lookup_listing_and_snapshot_agree :
    (∀ (active : ProfileSet) (s : Source),
      Agree (fun key => s.get? active key) (fun key => s.contains active key) (s.keys active) ∧
        (Snapshot.capture active s).name = s.name ∧
        (Snapshot.capture active s).Holds (fun key => s.get? active key) (s.keys active)) ∧
    ∀ env : Environment, Agree env.get? env.contains env.keys := by
  refine ⟨fun active s => ?_, Environment.agree⟩
  exact ⟨s.agree active, rfl, Snapshot.holds_capture active s⟩

end ProfileLayers
