/-
**Leaves that meet under one key.**

Keys with dots or brackets and keys without text let leaves of different parts of a tree come to the
same path, as for `a.b` next to an `a` that holds a `b`.  Flattening goes down the tree with one
map, so that a leaf may find its key taken by any part of the tree that was met before.  What comes
out does not depend on the nesting: it is what the plain list of leaves comes to if its pairs are
inserted one after another.  Hence a key stands where its first leaf stands and has the value of its
last one.

Main definitions:

* `ProfileLayers.flattenInTurn` — flattening entries one after another into one map.

Main results:

* `ProfileLayers.result_flattenNode_map_eq_ok_iff` — a mapping is flattened by its entries in turn;
* `ProfileLayers.flattening_merges_leaves_in_order` — **a document is flattened to the merge of its
  leaves**.
-/

import ProfileLayers.Proofs.FirstDefect
import ProfileLayers.Proofs.FirstOccurrence
import ProfileLayers.Proofs.Selection

set_option relaxedAutoImplicit false
set_option autoImplicit false

namespace ProfileLayers

open Yaml (Node)

/-! ### Entries in turn -/

/-- Inserts the leaves of the values of a mapping at `path`, one entry after another; the keys are
not compared with each other. -/
def flattenInTurn (source path : String) (target : PropertyMap) (entries : List (Node × Node)) :
    Except LoadError PropertyMap :=
  entries.foldlM
    (fun target e => (flattenNode source (joinPath path e.1.pathText) target e.2).result) target

/-- An entry that is met without an error goes on at its own path. -/
theorem fst_eq_joinPath_of_enter (source path : String) (level : Level) (key : Node)
    (met : String × Level) (h : (level.enter source path key).result = .ok met) :
    met.1 = joinPath path key.pathText := by
  unfold Level.enter at h
  split at h
  · cases h
  · rename_i text htext
    have hpath : key.pathText = text := by rw [Node.pathText, htext]; rfl
    dsimp only at h
    split at h
    · cases h
    · split at h <;> (cases h; rw [hpath])

/-- If the entries of a mapping are flattened, checking their keys was all that was done besides
flattening them in turn. -/
theorem flattenInTurn_of_flattenEntries (source path : String) (level : Level)
    (target merged : PropertyMap) (entries : List (Node × Node))
    (h : (flattenEntries source path level target entries).result = .ok merged) :
    flattenInTurn source path target entries = .ok merged := by
  induction entries generalizing level target with
  | nil => exact h
  | cons e entries ih =>
      obtain ⟨key, value⟩ := e
      rw [flattenEntries, Report.result_bind, except_bind_eq_ok] at h
      -- the keys that were met decide only whether there is an error
      obtain ⟨⟨child, next⟩, hmet, h⟩ := h
      rw [Report.result_bind, except_bind_eq_ok] at h
      obtain ⟨middle, hvalue, hrest⟩ := h
      have hchild : child = joinPath path key.pathText :=
        fst_eq_joinPath_of_enter source path level key (child, next) hmet
      have hstep : (flattenNode source (joinPath path key.pathText) target value).result =
          .ok middle := hchild ▸ hvalue
      rw [flattenInTurn, List.foldlM_cons, hstep]
      exact ih next middle hrest

/-! ### The merge -/

/-- A mapping, at any path and into any map, is flattened exactly if it is well-formed, and then by
its entries in turn. -/
theorem result_flattenNode_map_eq_ok_iff (source path : String) (target merged : PropertyMap)
    (entries : List (Node × Node)) :
    (flattenNode source path target (.map entries)).result = .ok merged ↔
      (Node.map entries).IsWellFormed ∧ flattenInTurn source path target entries = .ok merged := by
  have hresult := result_flattenNode source path target (.map entries)
  have hturn : ∀ m, (flattenNode source path target (.map entries)).result = .ok m →
      flattenInTurn source path target entries = .ok m := by
    intro m h
    rw [flattenNode] at h
    exact flattenInTurn_of_flattenEntries source path .empty target m entries h
  constructor
  · intro h
    refine ⟨?_, hturn merged h⟩
    rw [hresult, Visit.judge_eq_ok_iff, Node.isWellFormed_iff] at h
    exact h.1
  · rintro ⟨hwell, hmerged⟩
    rw [← Node.isWellFormed_iff _ path] at hwell
    have hok := hresult.trans ((Visit.judge_eq_ok_iff source _ _ _).2 ⟨hwell, rfl⟩)
    rw [hok, ← hmerged, hturn _ hok]

theorem result_flatten_eq_ok_iff (source : String) (node : Node) (m : PropertyMap) :
    (flatten source node).result = .ok m ↔ node.IsWellFormed ∧ m = .ofList node.written := by
  rw [result_flatten, Visit.judge_eq_ok_iff, Node.visits, Node.isWellFormed_iff]
  exact and_congr_right fun _ => eq_comm

/-- **A document that is flattened is the merge of its leaves**: they are inserted in document order
into the empty map.  So each key stands where its first leaf stands and has the value of its last
one, and a mapping, at any path and into any map, is flattened by its entries in turn.  A document
is flattened whenever it is well-formed. -/
theorem flattening_merges_leaves_in_order (source : String) (node : Node) (m : PropertyMap) :
    ((flatten source node).result = .ok m ↔ node.IsWellFormed ∧ m = .ofList node.written) ∧
      ((flatten source node).result = .ok m →
        m.keys = (Entries.keys node.written).eraseDups ∧
        (∀ key, m.find? key = Entries.find? key node.written.reverse) ∧
        ∀ entries, node = .map entries → flattenInTurn source "" .empty entries = .ok m) ∧
      ∀ path target entries merged,
        (flattenNode source path target (.map entries)).result = .ok merged ↔
          (Node.map entries).IsWellFormed ∧
            flattenInTurn source path target entries = .ok merged := by
  refine ⟨result_flatten_eq_ok_iff source node m, fun h => ?_,
    fun path target entries merged =>
      result_flattenNode_map_eq_ok_iff source path target merged entries⟩
  have hmerge : m = .ofList node.written := ((result_flatten_eq_ok_iff source node m).1 h).2
  refine ⟨?_, fun key => ?_, ?_⟩
  · rw [hmerge, PropertyMap.keys_ofList]
  · rw [hmerge, PropertyMap.find?_ofList]
  · rintro entries rfl
    exact flattenInTurn_of_flattenEntries source "" .empty .empty m entries h

/-- Three leaves that come to `a.b` by a dot, by nesting and below an empty key, and two keys that
are told apart although they are written alike. -/
def crossingTree : Node :=
  .map [(.str "a.b", .int 1), (.str "a", .map [(.str "b", .int 2), (.str "c", .seq [.null])]),
    (.str "", .map [(.str "a.b", .int 3)]), (.str "[1]", .str "x"), (.int 1, .str "y")]

/-- Six leaves come to three keys, each at its first place and with its last value. -/
theorem crossingTree_merges_six_leaves :
    ∃ m, (flatten "crossing.yml" crossingTree).result = .ok m ∧
      Entries.keys crossingTree.written = ["a.b", "a.b", "a.c[0]", "a.b", "[1]", "[1]"] ∧
      m.keys = ["a.b", "a.c[0]", "[1]"] ∧ m.find? "a.b" = some (.int 3) ∧
      m.find? "[1]" = some (.str "y") := by
  have hwell : crossingTree.IsWellFormed := by
    rw [← Node.isWellFormed_iff _ ""]
    decide +kernel
  obtain ⟨hiff, hmerge, -⟩ := flattening_merges_leaves_in_order "crossing.yml" crossingTree
    (.ofList crossingTree.written)
  have hresult := hiff.2 ⟨hwell, rfl⟩
  obtain ⟨hkeys, hfound, -⟩ := hmerge hresult
  refine ⟨_, hresult, by decide +kernel, ?_, ?_, ?_⟩
  · rw [hkeys]
    decide +kernel
  · rw [hfound]
    decide +kernel
  · rw [hfound]
    decide +kernel

/-- **A document that is a null and nothing else** has one leaf, with an empty text, but its leaf is
not inserted. -/
theorem lone_null_is_not_merged :
    Node.null.leaves = [("document", .str "")] ∧ (flatten "empty.yml" .null).result = .ok .empty ∧
      (flatten "empty.yml" .null).result ≠ .ok (.ofList Node.null.leaves) := by
  refine ⟨rfl, rfl, ?_⟩
  rintro ⟨⟩

end ProfileLayers
