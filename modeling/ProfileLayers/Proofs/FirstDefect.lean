/-
**Which trees are flattened, and which defect is reported.**

A mapping is sound if its keys are scalars and no two of them are equal.  Flattening decides this
while it goes down a tree: it compares a key with those before it, and goes into a value before it
looks at the next key.  A document is flattened if all its mappings in value position are sound, and
a mapping that stands within a key is never looked at.  Otherwise the error is that of the first
offending entry, with entries ordered as they are written, each before the entries in its value.

Main definitions:

* `ProfileLayers.Yaml.Node.SoundKeys`, `ProfileLayers.Yaml.Node.IsWellFormed` — the trees that are
  flattened.

Main results:

* `ProfileLayers.Yaml.Node.isWellFormed_iff` — a tree is well-formed if none of its entries is
  offending;
* `ProfileLayers.isPreorder_visitsAt` — an entry is followed by those in its value;
* `ProfileLayers.flatten_reports_first_defect` — **well-formed trees are flattened, and else the
  first offending entry gives the error**.
-/

import Mathlib.Tactic.Tauto
import ProfileLayers.Proofs.FlattenedTree

set_option relaxedAutoImplicit false
set_option autoImplicit false

namespace ProfileLayers

namespace Yaml.Node

/-! ### Well-formed trees -/

/-- The keys of a mapping are scalars, and no two of them are equal. -/
def SoundKeys (entries : List (Node × Node)) : Prop :=
  (∀ e ∈ entries, e.1.isScalar = true) ∧ entries.Pairwise fun e f => ¬ SameKey e.1 f.1

/-- All mappings in value position, at any depth, have sound keys. -/
def IsWellFormed (node : Node) : Prop := node.AllMappings SoundKeys

/-- The items of a sequence have no offending entry if none of them has one. -/
theorem forall_visitsOfItems_iff (path : String) (index : Nat) (items : List Node)
    (ih : ∀ item ∈ items, ∀ path,
      (∀ v ∈ item.visitsAt path, ¬ v.IsOffending) ↔ item.IsWellFormed) :
    (∀ v ∈ visitsOfItems path index items, ¬ v.IsOffending) ↔
      ∀ item ∈ items, item.IsWellFormed := by
  induction items generalizing index with
  | nil => simp [visitsOfItems]
  | cons item items ihitems =>
      have hitem := ih item List.mem_cons_self (itemPath path index)
      have hitems := ihitems (index + 1) fun item h => ih item (List.mem_cons_of_mem _ h)
      rw [visitsOfItems, List.forall_mem_append, hitem, hitems, List.forall_mem_cons]

theorem soundKeys_cons (key value : Node) (entries : List (Node × Node)) :
    SoundKeys ((key, value) :: entries) ↔
      key.isScalar = true ∧ (∀ e ∈ entries, ¬ SameKey key e.1) ∧ SoundKeys entries := by
  simp only [SoundKeys, List.forall_mem_cons, List.pairwise_cons]
  tauto

/-- The entries that follow those with the keys `earlier` are not offending if their keys are sound
and equal to none of these, and if there is no offending entry in their values. -/
theorem forall_visitsOfEntries_iff (path : String) (earlier : List Node)
    (entries : List (Node × Node))
    (ih : ∀ e ∈ entries, ∀ path,
      (∀ v ∈ e.2.visitsAt path, ¬ v.IsOffending) ↔ e.2.IsWellFormed) :
    (∀ v ∈ visitsOfEntries path earlier entries, ¬ v.IsOffending) ↔
      SoundKeys entries ∧ (∀ e ∈ entries, ∀ k ∈ earlier, ¬ SameKey k e.1) ∧
        ∀ e ∈ entries, e.2.IsWellFormed := by
  induction entries generalizing earlier with
  | nil => simp [visitsOfEntries, SoundKeys]
  | cons entry entries ihentries =>
      obtain ⟨key, value⟩ := entry
      have hkey : ¬ Visit.IsOffending ⟨path, earlier, key, value⟩ ↔
          key.isScalar = true ∧ ∀ k ∈ earlier, ¬ SameKey k key := by
        simp [Visit.IsOffending]
      have hvalue := ih (key, value) List.mem_cons_self (joinPath path key.pathText)
      have hentries := ihentries (earlier ++ [key]) fun e h => ih e (List.mem_cons_of_mem _ h)
      -- the keys after this one are compared with it and with those before it
      have hlater : (∀ e ∈ entries, ∀ k ∈ earlier ++ [key], ¬ SameKey k e.1) ↔
          (∀ e ∈ entries, ∀ k ∈ earlier, ¬ SameKey k e.1) ∧
            ∀ e ∈ entries, ¬ SameKey key e.1 := by
        simp only [List.forall_mem_append, List.forall_mem_singleton, forall_and]
      rw [visitsOfEntries, List.forall_mem_cons, List.forall_mem_append, hkey, hvalue, hentries,
        hlater, soundKeys_cons, List.forall_mem_cons, List.forall_mem_cons]
      tauto

/-- A tree is well-formed if none of its entries is offending. -/
theorem isWellFormed_iff (node : Node) (path : String) :
    (∀ v ∈ node.visitsAt path, ¬ v.IsOffending) ↔ node.IsWellFormed := by
  induction node generalizing path with
  | null | bool | int | float | str =>
      exact iff_of_true (fun _ h => absurd h List.not_mem_nil) (allMappings_of_isScalar _ rfl)
  | seq items ih =>
      rw [visitsAt, forall_visitsOfItems_iff path 0 items ih, IsWellFormed, allMappings_seq]
      rfl
  | map entries ih =>
      rw [visitsAt, forall_visitsOfEntries_iff path [] entries ih, IsWellFormed, allMappings_map]
      simp [IsWellFormed]

end Yaml.Node

open Yaml (Node)

/-! ### The order of entries -/

/-- Every entry is followed by the entries in its value. -/
def IsPreorder : List Visit → Prop
  | [] => True
  | v :: visits => v.value.visitsAt v.child <+: visits ∧ IsPreorder visits

theorem IsPreorder.append {visits more : List Visit} (h : IsPreorder visits)
    (hmore : IsPreorder more) : IsPreorder (visits ++ more) := by
  induction visits with
  | nil => exact hmore
  | cons v visits ih => exact ⟨h.1.trans (List.prefix_append visits more), ih h.2⟩

theorem IsPreorder.of_append {before after : List Visit} (h : IsPreorder (before ++ after)) :
    IsPreorder after := by
  induction before with
  | nil => exact h
  | cons v before ih => exact ih h.2

/-- In a list in preorder, an entry that stands before another one either has it in its value or has
all entries in its value before it. -/
theorem IsPreorder.mem_or_subset {before after : List Visit} {v : Visit}
    (h : IsPreorder (before ++ v :: after)) (w : Visit) (hw : w ∈ before) :
    v ∈ w.value.visitsAt w.child ∨ w.value.visitsAt w.child ⊆ before := by
  obtain ⟨front, between, rfl⟩ := List.append_of_mem hw
  rw [List.append_assoc, List.cons_append] at h
  have hvalue : w.value.visitsAt w.child <+: between ++ v :: after := h.of_append.1
  have hbetween : between ++ [v] <+: between ++ v :: after := ⟨after, by simp⟩
  rcases List.prefix_or_prefix_of_prefix hvalue hbetween with hshort | hlong
  · rcases List.prefix_concat_iff.1 hshort with heq | hwithin
    · left
      simp [heq]
    · right
      intro u hu
      exact List.mem_append_right _ (List.mem_cons_of_mem w (hwithin.mem hu))
  · left
    exact hlong.mem (by simp)

mutual

theorem isPreorder_visitsAt (path : String) (node : Node) : IsPreorder (node.visitsAt path) := by
  match node with
  | .null | .bool _ | .int _ | .float _ | .str _ => trivial
  | .seq items => exact isPreorder_visitsOfItems path 0 items
  | .map entries => exact isPreorder_visitsOfEntries path [] entries

theorem isPreorder_visitsOfItems (path : String) (index : Nat) (items : List Node) :
    IsPreorder (Node.visitsOfItems path index items) := by
  match items with
  | [] => trivial
  | item :: items =>
      exact (isPreorder_visitsAt (itemPath path index) item).append
        (isPreorder_visitsOfItems path (index + 1) items)

theorem isPreorder_visitsOfEntries (path : String) (earlier : List Node)
    (entries : List (Node × Node)) : IsPreorder (Node.visitsOfEntries path earlier entries) := by
  match entries with
  | [] => trivial
  | (key, value) :: entries =>
      exact ⟨List.prefix_append _ _, (isPreorder_visitsAt (joinPath path key.pathText) value).append
        (isPreorder_visitsOfEntries path (earlier ++ [key]) entries)⟩

end

/-! ### The first defect -/

/-- **Well-formed trees are flattened, and else the first offending entry gives the error.**  A
document is flattened exactly if every mapping in value position, at any depth, has scalar keys of
which no two are equal.  Otherwise the error is that of an offending entry of which all entries
before it are not offending, and the values of these are well-formed unless they hold the entry
itself.  A collection as a key is reported with the path of the mapping, and an equal key with the
full path of the entry. -/
theorem flatten_reports_first_defect (source : String) (node : Node) :
    ((∃ m, (flatten source node).result = .ok m) ↔ node.IsWellFormed) ∧
      ∀ e, (flatten source node).result = .error e ↔
        ∃ before v after, node.visits = before ++ v :: after ∧
          v.IsOffending ∧ e = v.error source ∧
          ∀ w ∈ before, ¬ w.IsOffending ∧
            (v ∈ w.value.visitsAt w.child ∨ w.value.IsWellFormed) := by
  rw [result_flatten]
  constructor
  · simp [Visit.judge_eq_ok_iff, ← Node.isWellFormed_iff node node.rootPath, Node.visits]
  · intro e
    rw [Visit.judge_eq_error_iff]
    constructor
    · rintro ⟨before, v, after, hvisits, hv, he, hbefore⟩
      refine ⟨before, v, after, hvisits, hv, he, fun w hw => ⟨hbefore w hw, ?_⟩⟩
      have horder : IsPreorder (before ++ v :: after) :=
        hvisits ▸ isPreorder_visitsAt node.rootPath node
      rcases horder.mem_or_subset w hw with hmem | hsubset
      · exact .inl hmem
      · refine .inr ((Node.isWellFormed_iff w.value w.child).1 fun u hu => ?_)
        exact hbefore u (hsubset hu)
    · rintro ⟨before, v, after, hvisits, hv, he, hbefore⟩
      exact ⟨before, v, after, hvisits, hv, he, fun w hw => (hbefore w hw).1⟩

/-- A number, its digits as a text and in brackets are three keys, but a null is the same key again,
and it is reported before the sequence that comes after it. -/
example : (flatten "s" (.map [(.str "a", .map [(.int 1, .null), (.str "1", .null),
    (.str "[1]", .null), (.null, .null), (.null, .null)]), (.seq [], .null)])).result =
      .error (.duplicateKey "s" "a[null]") := by rfl

end ProfileLayers
