/-
**Places in trees.**

What a document says at one place can be compared with what it would say with something else written
there.  The surroundings of the place are everything else: on the way down to it, the items or the
entries on both sides.  Filling the place puts the leaves of what is filled in, at the path of the
place, between the leaves on the two sides, which do not depend on it.

Main definitions:

* `ProfileLayers.Yaml.Surroundings`, `ProfileLayers.Yaml.Surroundings.fill` — the surroundings of
  a place, and filling the place;
* `ProfileLayers.Yaml.Surroundings.placeAt` — the path of the place;
* `ProfileLayers.Yaml.Surroundings.leavesBefore`,
  `ProfileLayers.Yaml.Surroundings.leavesAfter` — the leaves on the two sides;
* `ProfileLayers.Yaml.Surroundings.mapWith` — the map of a document with given leaves at the place.

Main results:

* `ProfileLayers.Yaml.Surroundings.leavesAt_fill` — the leaves of a filled tree;
* `ProfileLayers.Yaml.Surroundings.isWellFormed_fill` — whether a filled tree is well-formed
  depends on what is filled in by its own entries alone;
* `ProfileLayers.Yaml.Surroundings.result_flatten_fill` — a filled document is flattened to the
  leaves on the two sides and those of what is filled in;
* `ProfileLayers.Yaml.Surroundings.get?_mapWith_of_not_mem`,
  `ProfileLayers.Yaml.Surroundings.get?_mapWith_of_not_mem_otherLeaves` — what is found there under
  keys of the one side or the other.
-/

import ProfileLayers.Proofs.FirstDefect

set_option relaxedAutoImplicit false
set_option autoImplicit false

namespace ProfileLayers

namespace Yaml

namespace Node

/-! ### Leaves of parts -/

theorem leavesAt_seq (path : String) (items : List Node) (h : items ≠ []) :
    (Node.seq items).leavesAt path = leavesOfItems path 0 items := by
  cases items with
  | nil => exact absurd rfl h
  | cons item items => rw [leavesAt]

theorem leavesAt_of_isScalar (path : String) (node : Node) (h : node.isScalar = true) :
    node.leavesAt path = [(path, node.leaf)] := by
  match node, h with
  | .null, _ | .bool _, _ | .int _, _ | .float _, _ | .str _, _ => rfl

theorem leavesOfItems_append (path : String) (index : Nat) (items more : List Node) :
    leavesOfItems path index (items ++ more) =
      leavesOfItems path index items ++ leavesOfItems path (index + items.length) more := by
  simp only [leavesOfItems_eq_flatMap, List.zipIdx_append, List.flatMap_append]

theorem leavesOfEntries_append (path : String) (entries more : List (Node × Node)) :
    leavesOfEntries path (entries ++ more) =
      leavesOfEntries path entries ++ leavesOfEntries path more := by
  simp only [leavesOfEntries_eq_flatMap, List.flatMap_append]

/-- Whether the keys of a mapping are sound does not depend on the values. -/
theorem soundKeys_congr {entries others : List (Node × Node)}
    (h : entries.map Prod.fst = others.map Prod.fst) : SoundKeys entries ↔ SoundKeys others := by
  have hkeys : ∀ l : List (Node × Node), SoundKeys l ↔
      (∀ key ∈ l.map Prod.fst, key.isScalar = true) ∧
        (l.map Prod.fst).Pairwise fun key other => ¬ SameKey key other := fun l => by
    rw [SoundKeys, List.forall_mem_map, List.pairwise_map]
  rw [hkeys, hkeys, h]

end Node

/-! ### Surroundings -/

/-- The surroundings of a place in a tree. -/
inductive Surroundings where
  | here
  | item (before : List Node) (inner : Surroundings) (after : List Node)
  | entry (before : List (Node × Node)) (key : Node) (inner : Surroundings)
      (after : List (Node × Node))

namespace Surroundings

/-- The tree with `node` at the place. -/
def fill : Surroundings → Node → Node
  | .here, node => node
  | .item before inner after, node => .seq (before ++ inner.fill node :: after)
  | .entry before key inner after, node => .map (before ++ (key, inner.fill node) :: after)

/-- The path of the place in a tree at `path`. -/
def placeAt (path : String) : Surroundings → String
  | .here => path
  | .item before inner _ => inner.placeAt (itemPath path before.length)
  | .entry _ key inner _ => inner.placeAt (joinPath path key.pathText)

/-- The leaves before the place. -/
def leavesBefore (path : String) : Surroundings → List (String × Value)
  | .here => []
  | .item before inner _ =>
      Node.leavesOfItems path 0 before ++ inner.leavesBefore (itemPath path before.length)
  | .entry before key inner _ =>
      Node.leavesOfEntries path before ++ inner.leavesBefore (joinPath path key.pathText)

/-- The leaves after the place. -/
def leavesAfter (path : String) : Surroundings → List (String × Value)
  | .here => []
  | .item before inner after =>
      inner.leavesAfter (itemPath path before.length) ++
        Node.leavesOfItems path (before.length + 1) after
  | .entry _ key inner after =>
      inner.leavesAfter (joinPath path key.pathText) ++ Node.leavesOfEntries path after

/-- The leaves of what is filled in stand between the leaves on the two sides. -/
theorem leavesAt_fill (around : Surroundings) (path : String) (node : Node) :
    (around.fill node).leavesAt path = around.leavesBefore path ++
      (node.leavesAt (around.placeAt path) ++ around.leavesAfter path) := by
  induction around generalizing path with
  | here => simp [fill, placeAt, leavesBefore, leavesAfter]
  | item before inner after ih =>
      rw [fill, Node.leavesAt_seq path _ (by simp), Node.leavesOfItems_append, Node.leavesOfItems,
        Nat.zero_add, ih]
      simp only [placeAt, leavesBefore, leavesAfter, List.append_assoc]
  | entry before key inner after ih =>
      rw [fill, Node.leavesAt, Node.leavesOfEntries_append, Node.leavesOfEntries, ih]
      simp only [placeAt, leavesBefore, leavesAfter, List.append_assoc]

/-- A well-formed tree stays so if something else that is well-formed is filled in. -/
theorem isWellFormed_fill (around : Surroundings) (node other : Node)
    (h : (around.fill node).IsWellFormed) (hother : other.IsWellFormed) :
    (around.fill other).IsWellFormed := by
  induction around with
  | here => exact hother
  | item before inner after ih =>
      rw [fill, Node.IsWellFormed, Node.allMappings_seq, List.forall_mem_append,
        List.forall_mem_cons] at h ⊢
      exact ⟨h.1, ih h.2.1, h.2.2⟩
  | entry before key inner after ih =>
      rw [fill, Node.IsWellFormed, Node.allMappings_map, List.forall_mem_append,
        List.forall_mem_cons] at h ⊢
      obtain ⟨hkeys, hbefore, hinner, hafter⟩ := h
      -- with either value in it the mapping has the same keys
      exact ⟨(Node.soundKeys_congr (by simp)).1 hkeys, hbefore, ih hinner, hafter⟩

/-! ### Places in documents -/

/-- The path of a document that has the place, if no mapping is filled into it. -/
def rootPath : Surroundings → String
  | .entry .. => ""
  | _ => documentKey

/-- The path of the place in a document. -/
def place (around : Surroundings) : String := around.placeAt around.rootPath

/-- The leaves of a document, except those of what is filled in. -/
def otherLeaves (around : Surroundings) : List (String × Value) :=
  around.leavesBefore around.rootPath ++ around.leavesAfter around.rootPath

/-- The map of a document with `pairs` as the leaves at the place. -/
def mapWith (around : Surroundings) (pairs : List (String × Value)) : PropertyMap :=
  .ofList (around.leavesBefore around.rootPath ++ (pairs ++ around.leavesAfter around.rootPath))

/-- What a filled document comes to: the leaves on the two sides, and those of what is filled in. -/
theorem written_fill (around : Surroundings) (node : Node) (hroot : node.rootPath = documentKey)
    (hnull : node ≠ .null) :
    (around.fill node).written = around.leavesBefore around.rootPath ++
      (node.leavesAt around.place ++ around.leavesAfter around.rootPath) := by
  have hfilled : (around.fill node).rootPath = around.rootPath ∧
      (around.fill node).written = (around.fill node).leaves := by
    cases around with
    | here =>
        refine ⟨hroot, ?_⟩
        cases node with
        | null => exact absurd rfl hnull
        | _ => rfl
    | item before inner after => exact ⟨rfl, rfl⟩
    | entry before key inner after => exact ⟨rfl, rfl⟩
  rw [hfilled.2, Node.leaves, hfilled.1, leavesAt_fill]
  rfl

/-- A document that is well-formed with a null at the place is flattened with anything there that is
well-formed. -/
theorem result_flatten_fill (source : String) (around : Surroundings) (node : Node)
    (haround : (around.fill .null).IsWellFormed) (hnode : node.IsWellFormed)
    (hroot : node.rootPath = documentKey) (hnull : node ≠ .null) :
    (flatten source (around.fill node)).result =
      .ok (around.mapWith (node.leavesAt around.place)) := by
  rw [result_flatten, Visit.judge_eq_ok_iff, written_fill around node hroot hnull]
  refine ⟨?_, rfl⟩
  rw [Node.visits, Node.isWellFormed_iff]
  exact around.isWellFormed_fill .null node haround hnode

/-- Leaves at the place that have other keys do not matter for what is found. -/
theorem get?_mapWith_of_not_mem (around : Surroundings) (pairs : List (String × Value))
    (key : String) (h : key ∉ Entries.keys pairs) :
    (around.mapWith pairs).get? key = (around.mapWith []).get? key := by
  have hnone := Entries.find?_reverse_of_not_mem key pairs h
  simp only [PropertyMap.get?, mapWith, PropertyMap.find?_ofList, List.reverse_append,
    Entries.find?_append, hnone, List.reverse_nil, Entries.find?]

/-- A key that no other leaf has is found among the leaves at the place, or not at all. -/
theorem get?_mapWith_of_not_mem_otherLeaves (around : Surroundings)
    (pairs : List (String × Value)) (key : String)
    (h : key ∉ Entries.keys around.otherLeaves) :
    (around.mapWith pairs).get? key = (PropertyMap.ofList pairs).get? key := by
  rw [otherLeaves, Entries.keys, List.map_append, List.mem_append, not_or] at h
  have hbefore := Entries.find?_reverse_of_not_mem key _ h.1
  have hafter := Entries.find?_reverse_of_not_mem key _ h.2
  simp only [PropertyMap.get?, mapWith, PropertyMap.find?_ofList, List.reverse_append,
    Entries.find?_append, hbefore, hafter, Option.or_none, Option.none_or]

end Surroundings

end Yaml

end ProfileLayers
