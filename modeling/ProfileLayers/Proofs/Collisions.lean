/-
**What collisions cost.**

Different keys of one mapping can be the same as a part of a path, as `1` and `[1]` are.  Then the
later entry takes the place of the earlier one in the map.  Flattening keeps the keys as they are
written, whose repetition is an error, and the keys as parts of paths, whose repetition is noticed;
what is overwritten is decided by neither, but by the whole path.  The three go together, since
below one path the path of a value tells the part.  So a mapping of scalars loses an entry exactly
where a collision is noticed, and its entries are accounted for by the keys that it writes and the
notices that it gives.

Main definitions:

* `ProfileLayers.Report.collisions` — the number of collisions that are noticed;
* `ProfileLayers.placedEntries` — the entries of a mapping, each under its own key;
* `ProfileLayers.PropertyMap.HoldsBelow` — which keys below a path a map has;
* `ProfileLayers.Yaml.Surroundings.ofKeys` — a place below keys, one in another.

Main results:

* `ProfileLayers.PropertyMap.size_insertAll_placedEntries` — what a run over entries adds to a map,
  together with its notices;
* `ProfileLayers.collisions_account_for_lost_entries` — **keys and collisions add up to entries**.
-/

import Mathlib.Data.List.Nodup
import Mathlib.Data.List.Perm.Subperm
import ProfileLayers.Proofs.FirstOccurrence
import ProfileLayers.Proofs.Surroundings

set_option relaxedAutoImplicit false
set_option autoImplicit false

namespace ProfileLayers

open Yaml (Node Surroundings)

/-! ### Collisions -/

/-- Two different keys of one mapping have the same place in the map. -/
def Notice.isCollision : Notice → Bool
  | .keysCollide .. => true
  | _ => false

/-- Collisions are what is warned of, and nothing else is. -/
theorem Notice.isCollision_iff_level (n : Notice) : n.isCollision = true ↔ n.level = "WARN" := by
  cases n <;> simp [isCollision, level]

/-- The number of collisions that are noticed. -/
def Report.collisions {α : Type} (r : Report α) : Nat := r.notices.countP Notice.isCollision

/-- Meeting entries gives no notices but those of collisions. -/
theorem Visit.collisions_report {α : Type} (source : String) (visits : List Visit) (a : α) :
    (Visit.report source visits a).collisions = (Visit.notices source visits).length := by
  refine List.countP_eq_length.2 fun n hn => ?_
  obtain ⟨v, -, hv⟩ := List.mem_filterMap.1 hn
  rw [Visit.notice?] at hv
  split at hv
  · cases hv
    rfl
  · cases hv

theorem Visit.length_notices_cons (source : String) (v : Visit) (visits : List Visit) :
    ((v :: visits).filterMap (notice? source)).length =
      (notice? source v).toList.length + (visits.filterMap (notice? source)).length := by
  cases hnotice : notice? source v with
  | none => rw [List.filterMap_cons_none hnotice, Option.toList_none, List.length_nil, Nat.zero_add]
  | some notice =>
      rw [List.filterMap_cons_some hnotice, Option.toList_some, List.length_cons,
        List.length_singleton, Nat.add_comm]

/-! ### Mappings of scalars -/

/-- The entries of a mapping at `path`, each under its own key. -/
def placedEntries (path : String) (entries : List (Node × Node)) : List (String × Value) :=
  entries.map fun e => (joinPath path e.1.pathText, e.2.leaf)

theorem Yaml.Node.leavesOfEntries_of_isScalar (path : String) (entries : List (Node × Node))
    (h : ∀ e ∈ entries, e.2.isScalar = true) :
    leavesOfEntries path entries = placedEntries path entries := by
  induction entries with
  | nil => rfl
  | cons e entries ih =>
      have hrest := ih fun e he => h e (List.mem_cons_of_mem _ he)
      rw [leavesOfEntries, leavesAt_of_isScalar _ e.2 (h e List.mem_cons_self), hrest,
        List.singleton_append]
      rfl

theorem Yaml.Node.visitsOfEntries_cons_of_isScalar (path : String) (earlier : List Node)
    (key value : Node) (entries : List (Node × Node)) (h : value.isScalar = true) :
    visitsOfEntries path earlier ((key, value) :: entries) =
      ⟨path, earlier, key, value⟩ :: visitsOfEntries path (earlier ++ [key]) entries := by
  have hvalue : value.visitsAt (joinPath path key.pathText) = [] := by
    match value, h with
    | .null, _ | .bool _, _ | .int _, _ | .float _, _ | .str _, _ => rfl
  rw [visitsOfEntries, hvalue, List.nil_append]

namespace PropertyMap

/-- The keys of a map directly below a path are those of the keys `earlier`. -/
def HoldsBelow (m : PropertyMap) (path : String) (earlier : List Node) : Prop :=
  ∀ text, joinPath path text ∈ m.keys ↔ text ∈ earlier.map Node.pathText

theorem holdsBelow_empty (path : String) : empty.HoldsBelow path [] := by
  intro text
  rw [keys_empty, List.map_nil]
  exact iff_of_false List.not_mem_nil List.not_mem_nil

variable {m : PropertyMap} {path : String} {earlier : List Node}

/-- After one entry, the map has its key as well. -/
theorem HoldsBelow.insert (h : m.HoldsBelow path earlier) (key : Node) (value : Value) :
    (m.insert (joinPath path key.pathText) value).HoldsBelow path (earlier ++ [key]) := by
  intro text
  have hsame : joinPath path text = joinPath path key.pathText ↔ text = key.pathText :=
    (joinPath_injective path).eq_iff
  rw [m.mem_keys_insert, h text, hsame, List.map_append, List.mem_append, List.map_singleton,
    List.mem_singleton]

/-- One entry gives either a new key or a notice. -/
theorem HoldsBelow.size_insert (h : m.HoldsBelow path earlier) (source : String)
    (key node : Node) (value : Value) :
    (m.insert (joinPath path key.pathText) value).size +
      (Visit.notice? source ⟨path, earlier, key, node⟩).toList.length = m.size + 1 := by
  rw [m.size_insert, Visit.notice?]
  by_cases hmet : key.pathText ∈ earlier.map Node.pathText
  · rw [if_pos ((h key.pathText).2 hmet), if_pos hmet]
    rfl
  · rw [if_neg (mt (h key.pathText).1 hmet), if_neg hmet]
    rfl

/-- What scalars under keys add to a map and the notices that they give are as many as they are. -/
theorem size_insertAll_placedEntries (source : String) (entries : List (Node × Node))
    (hscalar : ∀ e ∈ entries, e.2.isScalar = true) (h : m.HoldsBelow path earlier) :
    (m.insertAll (placedEntries path entries)).size +
      ((Node.visitsOfEntries path earlier entries).filterMap (Visit.notice? source)).length =
        m.size + entries.length := by
  -- which keys the map has is the same before each entry, seen from the keys before it
  induction entries generalizing m earlier with
  | nil => rfl
  | cons e entries ih =>
      obtain ⟨key, value⟩ := e
      have hfirst := h.size_insert source key value value.leaf
      have hrest := ih (fun e he => hscalar e (List.mem_cons_of_mem _ he))
        (h.insert key value.leaf)
      rw [Node.visitsOfEntries_cons_of_isScalar path earlier key value entries
        (hscalar _ List.mem_cons_self), Visit.length_notices_cons, List.length_cons]
      change ((m.insert (joinPath path key.pathText) value.leaf).insertAll
        (placedEntries path entries)).size + _ = _
      omega

/-- Pairs that come to as many keys have different keys. -/
theorem nodup_keys_of_size_ofList (pairs : List (String × Value))
    (h : (ofList pairs).size = pairs.length) : (Entries.keys pairs).Nodup := by
  have hsubset : (ofList pairs).keys ⊆ Entries.keys pairs := by
    intro key hkey
    rw [keys_ofList] at hkey
    exact List.mem_eraseDups.1 hkey
  have hlength : (Entries.keys pairs).length = (ofList pairs).keys.length := by
    rw [length_keys, h, Entries.keys, List.length_map]
  have hperm :=
    ((ofList pairs).nodup_keys.subperm hsubset).perm_of_length_le (Nat.le_of_eq hlength)
  exact hperm.nodup_iff.1 (ofList pairs).nodup_keys

/-- Of pairs with different keys, each gives the value of its key. -/
theorem find?_insertAll_of_mem (pairs : List (String × Value)) (h : (Entries.keys pairs).Nodup)
    (e : String × Value) (he : e ∈ pairs) : (m.insertAll pairs).find? e.1 = some e.2 := by
  have hreverse : (Entries.keys pairs.reverse).Nodup := by
    rw [Entries.keys, List.map_reverse, List.nodup_reverse]
    exact h
  rw [find?_insertAll, Entries.find?_of_mem e _ hreverse (List.mem_reverse.2 he), Option.some_or]

end PropertyMap

/-- The different keys of a mapping of scalars and its notices are as many as its entries. -/
theorem size_placedEntries_add_length_notices (source path : String) (entries : List (Node × Node))
    (hscalar : ∀ e ∈ entries, e.2.isScalar = true) :
    (PropertyMap.ofList (placedEntries path entries)).size +
      ((Node.visitsOfEntries path [] entries).filterMap (Visit.notice? source)).length =
        entries.length := by
  have hrun := PropertyMap.size_insertAll_placedEntries source entries hscalar
    (PropertyMap.holdsBelow_empty path)
  rw [PropertyMap.ofList, hrun]
  exact Nat.zero_add _

/-- Without a notice, the entries of a mapping of scalars have different keys. -/
theorem nodup_keys_placedEntries (source path : String) (entries : List (Node × Node))
    (hscalar : ∀ e ∈ entries, e.2.isScalar = true)
    (h : ((Node.visitsOfEntries path [] entries).filterMap (Visit.notice? source)).length = 0) :
    (Entries.keys (placedEntries path entries)).Nodup := by
  apply PropertyMap.nodup_keys_of_size_ofList
  have hsize := size_placedEntries_add_length_notices source path entries hscalar
  rw [h, Nat.add_zero] at hsize
  rw [hsize, placedEntries, List.length_map]

/-! ### Mappings below keys -/

namespace Yaml.Surroundings

/-- A place below keys, one in another, with nothing beside it. -/
def ofKeys (keys : List Node) : Surroundings :=
  keys.foldr (fun key inner => .entry [] key inner []) .here

theorem leavesAt_fill_ofKeys (keys : List Node) (path : String) (node : Node) :
    ((ofKeys keys).fill node).leavesAt path = node.leavesAt ((ofKeys keys).placeAt path) := by
  induction keys generalizing path with
  | nil => rfl
  | cons key keys ih =>
      have hinner := ih (joinPath path key.pathText)
      change (Node.map [(key, (ofKeys keys).fill node)]).leavesAt path = _
      rw [Node.leavesAt, Node.leavesOfEntries, hinner, Node.leavesOfEntries, List.append_nil]
      rfl

/-- A key that is the only one of its mapping gives no notice. -/
theorem notices_fill_ofKeys (source : String) (keys : List Node) (path : String) (node : Node) :
    (((ofKeys keys).fill node).visitsAt path).filterMap (Visit.notice? source) =
      (node.visitsAt ((ofKeys keys).placeAt path)).filterMap (Visit.notice? source) := by
  induction keys generalizing path with
  | nil => rfl
  | cons key keys ih =>
      have hinner := ih (joinPath path key.pathText)
      have hkey : Visit.notice? source ⟨path, [], key, (ofKeys keys).fill node⟩ = none :=
        if_neg List.not_mem_nil
      change ((Node.map [(key, (ofKeys keys).fill node)]).visitsAt path).filterMap _ = _
      rw [Node.visitsAt, Node.visitsOfEntries, Node.visitsOfEntries, List.append_nil,
        List.filterMap_cons_none hkey, hinner]
      rfl

/-- Filling a mapping into the place gives a mapping. -/
theorem exists_fill_ofKeys_eq_map (keys : List Node) (entries : List (Node × Node)) :
    ∃ root, (ofKeys keys).fill (.map entries) = .map root := by
  cases keys with
  | nil => exact ⟨entries, rfl⟩
  | cons key keys => exact ⟨_, rfl⟩

end Yaml.Surroundings

/-! ### Accounting for entries -/

/-- A tree that is flattened adds its leaves to the map, and it has a collision for every notice of
its entries. -/
theorem collisions_flattenNode (source path : String) (target m : PropertyMap) (node : Node)
    (h : (flattenNode source path target node).result = .ok m) :
    m = target.insertAll (node.leavesAt path) ∧
      (flattenNode source path target node).collisions =
        ((node.visitsAt path).filterMap (Visit.notice? source)).length := by
  rw [flattenNode_eq_report] at h ⊢
  obtain ⟨hsound, hm⟩ := (Visit.judge_eq_ok_iff source _ _ m).1 h
  rw [Visit.collisions_report, Visit.notices_of_not_isOffending source _ hsound]
  exact ⟨hm.symm, rfl⟩

/-- **Keys and collisions add up to entries.**  If a mapping of scalars, at any path and into any
map, is flattened, its entries are written one after another, each under its own key; the different
keys among these and the collisions that are noticed are as many as the entries.  Without a
collision the keys are different, and the map has the value of each entry under its key.  A document
that consists of such a mapping, as its root or below any keys, comes to a map whose size and the
collisions are as many as the entries, and without a collision to the entries and nothing else. -/
theorem collisions_account_for_lost_entries (source : String) (entries : List (Node × Node))
    (hscalar : ∀ e ∈ entries, e.2.isScalar = true) :
    (∀ path target m, (flattenNode source path target (.map entries)).result = .ok m →
      m = target.insertAll (placedEntries path entries) ∧
      (Entries.keys (placedEntries path entries)).eraseDups.length +
        (flattenNode source path target (.map entries)).collisions = entries.length ∧
      ((flattenNode source path target (.map entries)).collisions = 0 →
        (Entries.keys (placedEntries path entries)).Nodup ∧
        ∀ e ∈ entries, m.find? (joinPath path e.1.pathText) = some e.2.leaf)) ∧
    ∀ keys m, (flatten source ((Surroundings.ofKeys keys).fill (.map entries))).result = .ok m →
      m.size + (flatten source ((Surroundings.ofKeys keys).fill (.map entries))).collisions =
        entries.length ∧
      ((flatten source ((Surroundings.ofKeys keys).fill (.map entries))).collisions = 0 →
        m.entries = placedEntries ((Surroundings.ofKeys keys).placeAt "") entries) := by
  have hleaves : ∀ path, (Node.map entries).leavesAt path = placedEntries path entries :=
    fun path => Node.leavesOfEntries_of_isScalar path entries hscalar
  have hcount := fun path => size_placedEntries_add_length_notices source path entries hscalar
  have hnodup := fun path => nodup_keys_placedEntries source path entries hscalar
  constructor
  · intro path target m h
    obtain ⟨hm, hcollisions⟩ := collisions_flattenNode source path target m _ h
    rw [hleaves] at hm
    rw [hcollisions]
    refine ⟨hm, ?_, fun hnone => ⟨hnodup path hnone, fun e he => ?_⟩⟩
    · rw [← PropertyMap.keys_ofList, PropertyMap.length_keys]
      exact hcount path
    · rw [hm]
      exact PropertyMap.find?_insertAll_of_mem _ (hnodup path hnone)
        (joinPath path e.1.pathText, e.2.leaf) (List.mem_map.2 ⟨e, he, rfl⟩)
  · intro keys m h
    obtain ⟨root, hroot⟩ := Surroundings.exists_fill_ofKeys_eq_map keys entries
    have hflatten : flatten source ((Surroundings.ofKeys keys).fill (.map entries)) =
        flattenNode source "" .empty ((Surroundings.ofKeys keys).fill (.map entries)) := by
      rw [hroot, flatten, flattenNode]
    rw [hflatten] at h ⊢
    obtain ⟨hm, hcollisions⟩ := collisions_flattenNode source "" .empty m _ h
    rw [Surroundings.leavesAt_fill_ofKeys, hleaves] at hm
    rw [Surroundings.notices_fill_ofKeys] at hcollisions
    rw [hcollisions, hm]
    exact ⟨hcount _, fun hnone =>
      PropertyMap.entries_ofList_of_nodup _ (hnodup _ hnone)⟩

/-- A number, the same in brackets and its digits as keys. -/
def bracketedEntries : List (Node × Node) :=
  [(.int 1, .str "one"), (.str "[1]", .str "two"), (.str "1", .str "three")]

/-- The number and the text in brackets collide, so that three entries come to two keys. -/
theorem bracketedEntries_accounted_for :
    ∃ m, (flatten "test.yml" (.map [(.str "map", .map bracketedEntries)])).result = .ok m ∧
      m.entries = [("map[1]", .str "two"), ("map.1", .str "three")] ∧
      (flatten "test.yml" (.map [(.str "map", .map bracketedEntries)])).notices =
        [.keysCollide "map[1]" "test.yml"] ∧
      m.size +
        (flatten "test.yml" (.map [(.str "map", .map bracketedEntries)])).collisions = 3 := by
  have hdocument := (collisions_account_for_lost_entries "test.yml" bracketedEntries
    (by decide)).2 [.str "map"] _ rfl
  exact ⟨_, rfl, by decide +kernel, by decide +kernel, hdocument.1⟩

end ProfileLayers
