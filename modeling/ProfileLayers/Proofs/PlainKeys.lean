/-
**Flattening loses nothing on plain keys.**

Different leaves of a tree can come to the same path: a text with a dot as a key looks like a key in
a nested mapping, and a number as a key looks like a text with brackets.  A key is plain if it is an
integer, a truth value or a null, or a text without dots and opening brackets that is not empty.
Each step down a tree puts a part behind the path.  If keys are plain, the part has a dot or an
opening bracket at its front or nowhere, so the first part of what follows a path can be told, and
leaves below different values have different paths.  Hence all leaves of such a tree are kept, in
document order.

Main definitions:

* `ProfileLayers.Yaml.Node.IsPlainKey`, `ProfileLayers.Yaml.Node.HasPlainKeys` — plain keys, and
  trees whose mappings have different plain keys;
* `ProfileLayers.IsPart`, `ProfileLayers.Continues` — a part of a path, and what follows it.

Main results:

* `ProfileLayers.IsPart.eq_of_append_eq` — the first part of a path can be told;
* `ProfileLayers.disjoint_leafPaths` — leaves below different parts have different paths;
* `ProfileLayers.nodup_leafPaths` — no two leaves of a tree with plain keys share a path;
* `ProfileLayers.plain_keys_lose_no_leaf` — **such a tree is flattened to its leaves**.
-/

import Mathlib.Data.List.Nodup
import ProfileLayers.Number.Digits
import ProfileLayers.Proofs.FirstDefect

set_option relaxedAutoImplicit false
set_option autoImplicit false

namespace ProfileLayers

/-! ### Parts of paths -/

/-- A character that begins a part of a path. -/
def isMark (c : Char) : Bool := c == '.' || c == '['

/-- A part of a path: behind its first character no other part begins. -/
def IsPart (part : List Char) : Prop :=
  ∃ c body, part = c :: body ∧ ∀ d ∈ body, isMark d = false

theorem IsPart.ne_nil {part : List Char} (h : IsPart part) : part ≠ [] := by
  obtain ⟨c, body, rfl, -⟩ := h
  exact List.cons_ne_nil c body

/-- What follows a part: nothing, or another part. -/
def Continues (rest : List Char) : Prop := ∀ c, rest.head? = some c → isMark c = true

theorem takeWhile_not_isMark (body rest : List Char) (hbody : ∀ d ∈ body, isMark d = false)
    (hrest : Continues rest) : (body ++ rest).takeWhile (fun d => !isMark d) = body := by
  have hnone : rest.takeWhile (fun d => !isMark d) = [] := by
    cases rest with
    | nil => rfl
    | cons c rest =>
        have hc := hrest c rfl
        simp [hc]
  rw [List.takeWhile_append_of_pos (by simpa using hbody), hnone, List.append_nil]

/-- The first part of a path can be told from what follows it. -/
theorem IsPart.eq_of_append_eq {part part' rest rest' : List Char} (hpart : IsPart part)
    (hpart' : IsPart part') (hrest : Continues rest) (hrest' : Continues rest')
    (h : part ++ rest = part' ++ rest') : part = part' := by
  obtain ⟨c, body, rfl, hbody⟩ := hpart
  obtain ⟨c', body', rfl, hbody'⟩ := hpart'
  rw [List.cons_append, List.cons_append, List.cons.injEq] at h
  obtain ⟨hc, htail⟩ := h
  rw [hc, ← takeWhile_not_isMark body rest hbody hrest, htail,
    takeWhile_not_isMark body' rest' hbody' hrest']

theorem isMark_eq_false_of_not_mem (cs : List Char) (hdot : '.' ∉ cs) (hbracket : '[' ∉ cs) :
    ∀ d ∈ cs, isMark d = false := by
  intro d hd
  have hne : d ≠ '.' ∧ d ≠ '[' := ⟨fun h => hdot (h ▸ hd), fun h => hbracket (h ▸ hd)⟩
  simp [isMark, hne]

theorem isMark_eq_false_of_isDigit (c : Char) (h : c.isDigit = true) : isMark c = false := by
  cases hmark : isMark c with
  | false => rfl
  | true =>
      rw [isMark, Bool.or_eq_true, beq_iff_eq, beq_iff_eq] at hmark
      rcases hmark with rfl | rfl <;> exact absurd h (by decide)

/-! #### Items -/

/-- The part for an index. -/
def itemPart (index : Nat) : List Char := '[' :: (index.repr.toList ++ [']'])

theorem toList_itemPath (path : String) (index : Nat) :
    (itemPath path index).toList = path.toList ++ itemPart index := by
  simp [itemPath, itemPart]

theorem isPart_itemPart (index : Nat) : IsPart (itemPart index) := by
  refine ⟨'[', index.repr.toList ++ [']'], rfl, fun d hd => ?_⟩
  rcases List.mem_append.1 hd with hdigit | hbracket
  · exact isMark_eq_false_of_isDigit d (isDigit_of_mem_repr index d hdigit)
  · rw [List.mem_singleton.1 hbracket]
    rfl

theorem itemPart_injective (i j : Nat) (h : itemPart i = itemPart j) : i = j :=
  eq_of_toList_repr_eq i j (by simpa [itemPart] using h)

/-! #### Keys -/

/-- The text of a plain key: marks occur at most at its front, and a dot not even there. -/
def IsPlainText (text : String) : Prop :=
  ∃ c body, text.toList = c :: body ∧ c ≠ '.' ∧ ∀ d ∈ body, isMark d = false

theorem isPlainText_brackets (word : String) (hdot : '.' ∉ word.toList)
    (hbracket : '[' ∉ word.toList) : IsPlainText ("[" ++ word ++ "]") := by
  have hword := isMark_eq_false_of_not_mem word.toList hdot hbracket
  refine ⟨'[', word.toList ++ [']'], by simp, by decide, List.forall_mem_append.2 ⟨hword, ?_⟩⟩
  rw [List.forall_mem_singleton]
  rfl

theorem isPart_keyPart (path text : String) (h : IsPlainText text) :
    IsPart (keyPart path text) := by
  obtain ⟨c, body, htext, hdot, hbody⟩ := h
  rw [keyPart, htext]
  split
  · exact ⟨c, body, rfl, hbody⟩
  · rename_i hfront
    have hbracket : c ≠ '[' := fun hc => hfront (.inr (by rw [List.head?_cons, hc]))
    refine ⟨'.', c :: body, rfl, List.forall_mem_cons.2 ⟨?_, hbody⟩⟩
    simp [isMark, hdot, hbracket]

/-- Below a path, the part for a key begins another part. -/
theorem continues_keyPart (path text : String) (hpath : path ≠ "") (rest : List Char) :
    Continues (keyPart path text ++ rest) := by
  intro c hc
  rw [keyPart] at hc
  split at hc
  · rename_i hfront
    rw [List.head?_append, hfront.resolve_left hpath, Option.some_or] at hc
    cases hc
    rfl
  · cases hc
    rfl

theorem continues_itemPart (index : Nat) (rest : List Char) :
    Continues (itemPart index ++ rest) := by
  rintro c ⟨⟩
  rfl

/-! ### Plain keys -/

namespace Yaml.Node

/-- Integers, truth values and nulls are plain keys, and so are texts without dots and opening
brackets, except the empty one. -/
inductive IsPlainKey : Node → Prop where
  | null : IsPlainKey .null
  | bool (b : Bool) : IsPlainKey (.bool b)
  | int (i : Int64) : IsPlainKey (.int i)
  | str {s : String} (hne : s ≠ "") (hdot : '.' ∉ s.toList) (hbracket : '[' ∉ s.toList) :
      IsPlainKey (.str s)

/-- The keys of a mapping are plain, and no two of them are the same. -/
def PlainEntries (entries : List (Node × Node)) : Prop :=
  (∀ e ∈ entries, e.1.IsPlainKey) ∧ (entries.map Prod.fst).Nodup

/-- All mappings in value position, at any depth, have different plain keys. -/
def HasPlainKeys (node : Node) : Prop := node.AllMappings PlainEntries

theorem IsPlainKey.isScalar {key : Node} (h : key.IsPlainKey) : key.isScalar = true := by
  cases h <;> rfl

theorem IsPlainKey.isPlainText_pathText {key : Node} (h : key.IsPlainKey) :
    IsPlainText key.pathText := by
  cases h with
  | null => exact isPlainText_brackets "null" (by decide) (by decide)
  | bool b => exact isPlainText_brackets _ (by cases b <;> decide) (by cases b <;> decide)
  | int i =>
      exact isPlainText_brackets _ (not_mem_intRepr i.toInt '.' (by decide) (by decide))
        (not_mem_intRepr i.toInt '[' (by decide) (by decide))
  | @str s hne hdot hbracket =>
      have hmarks := isMark_eq_false_of_not_mem s.toList hdot hbracket
      obtain ⟨c, body, htext⟩ : ∃ c body, s.toList = c :: body :=
        List.exists_cons_of_ne_nil fun hnil => hne (String.toList_inj.1 hnil)
      rw [htext] at hmarks hdot
      exact ⟨c, body, htext, fun hc => hdot (hc ▸ List.mem_cons_self),
        (List.forall_mem_cons.1 hmarks).2⟩

/-- A text in which a character is neither a sign nor a digit is not that of an integer. -/
theorem intRepr_ne_of_mem (i : Int) (text : String) (c : Char) (hc : c ∈ text.toList)
    (hsign : c ≠ '-') (hdigit : c.isDigit = false) : i.repr ≠ text := by
  rintro rfl
  exact not_mem_intRepr i c hsign hdigit hc

theorem intRepr_ne_boolText (i : Int) (b : Bool) : i.repr ≠ (if b then "true" else "false") := by
  cases b with
  | true => exact intRepr_ne_of_mem i _ 't' (by decide) (by decide) (by decide)
  | false => exact intRepr_ne_of_mem i _ 'f' (by decide) (by decide) (by decide)

theorem intRepr_ne_empty (i : Int) : i.repr ≠ "" := by
  intro h
  have hchars := congrArg String.toList h
  rw [toList_intRepr] at hchars
  exact repr_toList_ne_nil i.natAbs (List.append_eq_nil_iff.1 hchars).2

/-- Equal plain keys are the same. -/
theorem IsPlainKey.eq_of_sameKey {key key' : Node} (h : key.IsPlainKey) (h' : key'.IsPlainKey)
    (hsame : SameKey key key') : key = key' := by
  cases h with
  | null =>
      cases h' with
      | null => rfl
      | bool b => cases b <;> exact absurd hsame (by decide)
      | int i => exact absurd hsame.symm (intRepr_ne_empty i.toInt)
      | str => exact False.elim hsame
  | bool b =>
      cases h' with
      | null => cases b <;> exact absurd hsame (by decide)
      | bool b' => cases b <;> cases b' <;> first | rfl | exact absurd hsame (by decide)
      | int i => exact absurd hsame.symm (intRepr_ne_boolText i.toInt b)
      | str => exact False.elim hsame
  | int i =>
      cases h' with
      | null => exact absurd hsame (intRepr_ne_empty i.toInt)
      | bool b => exact absurd hsame (intRepr_ne_boolText i.toInt b)
      | int j => rw [Int64.toInt.inj (intRepr_injective i.toInt j.toInt hsame)]
      | str => exact False.elim hsame
  | str =>
      cases h' with
      | str => exact congrArg Node.str hsame
      | null | bool | int => exact False.elim hsame

theorem brackets_injective (text text' : String) (h : "[" ++ text ++ "]" = "[" ++ text' ++ "]") :
    text = text' :=
  (String.append_right_inj _).1 ((String.append_left_inj _).1 h)

theorem ne_brackets_of_not_mem {s : String} (h : '[' ∉ s.toList) (text : String) :
    s ≠ "[" ++ text ++ "]" := by
  rintro rfl
  exact h (by simp)

/-- Plain keys with the same text in a path are the same.  A text is not taken for a key in
brackets, because it has no bracket in it. -/
theorem IsPlainKey.eq_of_pathText_eq {key key' : Node} (h : key.IsPlainKey) (h' : key'.IsPlainKey)
    (heq : key.pathText = key'.pathText) : key = key' := by
  have hnull : ∀ i : Int64, i.toInt.repr ≠ "null" := fun i =>
    intRepr_ne_of_mem i.toInt "null" 'n' (by decide) (by decide) (by decide)
  cases h with
  | null =>
      cases h' with
      | null => rfl
      | bool b => cases b <;> exact absurd heq (by decide)
      | int i => exact absurd (brackets_injective _ "null" heq.symm) (hnull i)
      | str _ _ hbracket => exact absurd heq.symm (ne_brackets_of_not_mem hbracket "null")
  | bool b =>
      cases h' with
      | null => cases b <;> exact absurd heq (by decide)
      | bool b' => cases b <;> cases b' <;> first | rfl | exact absurd heq (by decide)
      | int i => exact absurd (brackets_injective _ _ heq.symm) (intRepr_ne_boolText i.toInt b)
      | str _ _ hbracket => exact absurd heq.symm (ne_brackets_of_not_mem hbracket _)
  | int i =>
      cases h' with
      | null => exact absurd (brackets_injective _ "null" heq) (hnull i)
      | bool b => exact absurd (brackets_injective _ _ heq) (intRepr_ne_boolText i.toInt b)
      | int j =>
          have hrepr := brackets_injective _ _ heq
          rw [Int64.toInt.inj (intRepr_injective i.toInt j.toInt hrepr)]
      | str _ _ hbracket => exact absurd heq.symm (ne_brackets_of_not_mem hbracket _)
  | str _ _ hbracket =>
      cases h' with
      | null => exact absurd heq (ne_brackets_of_not_mem hbracket "null")
      | bool => exact absurd heq (ne_brackets_of_not_mem hbracket _)
      | int => exact absurd heq (ne_brackets_of_not_mem hbracket _)
      | str => exact congrArg Node.str heq

/-- A tree with plain keys is well-formed. -/
theorem HasPlainKeys.isWellFormed {node : Node} (h : node.HasPlainKeys) : node.IsWellFormed := by
  intro entries hvalue
  obtain ⟨hplain, hdistinct⟩ := h entries hvalue
  refine ⟨fun e he => (hplain e he).isScalar, ?_⟩
  apply (List.pairwise_map.1 hdistinct).imp_of_mem
  intro e f he hf hne hsame
  exact hne ((hplain e he).eq_of_sameKey (hplain f hf) hsame)

end Yaml.Node

/-! ### Paths of leaves -/

open Yaml (Node)

theorem ne_empty_of_toList_eq {child path : String} {part : List Char}
    (h : child.toList = path.toList ++ part) (hne : path ≠ "" ∨ part ≠ []) : child ≠ "" := by
  rintro rfl
  obtain ⟨hpath, hpart⟩ := List.append_eq_nil_iff.1 h.symm
  exact hne.elim (fun hne => hne (String.toList_inj.1 hpath)) fun hne => hne hpart

/-- A path goes on where another one ends: nothing follows it there, or another part. -/
def GoesOnFrom (path further : String) : Prop :=
  ∃ rest, further.toList = path.toList ++ rest ∧ Continues rest

theorem GoesOnFrom.refl (path : String) : GoesOnFrom path path :=
  ⟨[], (List.append_nil _).symm, fun _ h => nomatch h⟩

/-- A step down a tree, and the way on from there. -/
theorem GoesOnFrom.step {path child further : String} {part : List Char}
    (h : GoesOnFrom child further) (hchild : child.toList = path.toList ++ part)
    (hpart : ∀ rest, Continues (part ++ rest)) : GoesOnFrom path further := by
  obtain ⟨rest, hrest, -⟩ := h
  exact ⟨part ++ rest, by rw [hrest, hchild, List.append_assoc], hpart rest⟩

/-- The path of a leaf goes on from that of the tree. -/
theorem goesOnFrom_of_mem_leavesAt (node : Node) (path : String) (hpath : path ≠ "")
    (leaf : String × Value) (hleaf : leaf ∈ node.leavesAt path) : GoesOnFrom path leaf.1 := by
  induction node generalizing path with
  | null | bool | int | float | str => exact List.mem_singleton.1 hleaf ▸ .refl path
  | seq items ih =>
      cases items with
      | nil => exact List.mem_singleton.1 hleaf ▸ .refl path
      | cons item items =>
          rw [Node.leavesAt, Node.leavesOfItems_eq_flatMap] at hleaf
          obtain ⟨e, he, hleaf⟩ := List.mem_flatMap.1 hleaf
          have hchild := toList_itemPath path e.2
          have hbelow := ih e.1 (List.fst_mem_of_mem_zipIdx he) (itemPath path e.2)
            (ne_empty_of_toList_eq hchild (.inl hpath)) hleaf
          exact hbelow.step hchild (continues_itemPart e.2)
  | map entries ih =>
      rw [Node.leavesAt, Node.leavesOfEntries_eq_flatMap] at hleaf
      obtain ⟨e, he, hleaf⟩ := List.mem_flatMap.1 hleaf
      have hchild := toList_joinPath path e.1.pathText
      have hbelow := ih e he (joinPath path e.1.pathText)
        (ne_empty_of_toList_eq hchild (.inl hpath)) hleaf
      exact hbelow.step hchild (continues_keyPart path e.1.pathText hpath)

/-- Leaves below different parts have different paths, whatever the trees are. -/
theorem disjoint_leafPaths {path child child' : String} {part part' : List Char}
    (hpart : IsPart part) (hpart' : IsPart part') (hne : part ≠ part')
    (hchild : child.toList = path.toList ++ part) (hchild' : child'.toList = path.toList ++ part')
    (node node' : Node) :
    (Entries.keys (node.leavesAt child)).Disjoint (Entries.keys (node'.leavesAt child')) := by
  intro leafPath hmem hmem'
  obtain ⟨leaf, hleaf, rfl⟩ := List.mem_map.1 hmem
  obtain ⟨leaf', hleaf', heq⟩ := List.mem_map.1 hmem'
  obtain ⟨rest, hrest, hcontinues⟩ := goesOnFrom_of_mem_leavesAt node child
    (ne_empty_of_toList_eq hchild (.inr hpart.ne_nil)) leaf hleaf
  obtain ⟨rest', hrest', hcontinues'⟩ := goesOnFrom_of_mem_leavesAt node' child'
    (ne_empty_of_toList_eq hchild' (.inr hpart'.ne_nil)) leaf' hleaf'
  have hpaths : path.toList ++ (part ++ rest) = path.toList ++ (part' ++ rest') := by
    rw [← List.append_assoc, ← List.append_assoc, ← hchild, ← hchild', ← hrest, ← hrest', heq]
  exact hne (hpart.eq_of_append_eq hpart' hcontinues hcontinues' (List.append_cancel_left hpaths))

/-- No two leaves of a tree with plain keys share a path. -/
theorem nodup_leafPaths (node : Node) (path : String) (h : node.HasPlainKeys) :
    (Entries.keys (node.leavesAt path)).Nodup := by
  induction node generalizing path with
  | null | bool | int | float | str => exact List.nodup_singleton path
  | seq items ih =>
      have hitems := (Node.allMappings_seq items).1 h
      cases items with
      | nil => exact List.nodup_singleton path
      | cons item items =>
          rw [Node.leavesAt, Node.leavesOfItems_eq_flatMap, Entries.keys, List.map_flatMap,
            List.nodup_flatMap]
          constructor
          · intro e he
            have hmem := List.fst_mem_of_mem_zipIdx he
            exact ih e.1 hmem (itemPath path e.2) (hitems e.1 hmem)
          · -- items differ in their indices, as entries do in their keys
            have hindices : (((item :: items).zipIdx 0).map Prod.snd).Nodup := by
              rw [List.zipIdx_map_snd]
              exact List.nodup_range'
            apply (List.pairwise_map.1 hindices).imp
            intro e f hne
            exact disjoint_leafPaths (isPart_itemPart e.2) (isPart_itemPart f.2)
              (fun heq => hne (itemPart_injective _ _ heq)) (toList_itemPath path e.2)
              (toList_itemPath path f.2) e.1 f.1
  | map entries ih =>
      obtain ⟨⟨hplain, hdistinct⟩, hvalues⟩ := (Node.allMappings_map entries).1 h
      rw [Node.leavesAt, Node.leavesOfEntries_eq_flatMap, Entries.keys, List.map_flatMap,
        List.nodup_flatMap]
      constructor
      · intro e he
        exact ih e he (joinPath path e.1.pathText) (hvalues e he)
      · apply (List.pairwise_map.1 hdistinct).imp_of_mem
        intro e f he hf hne
        have htext := (hplain e he).isPlainText_pathText
        have htext' := (hplain f hf).isPlainText_pathText
        have hpart : keyPart path e.1.pathText ≠ keyPart path f.1.pathText := fun heq =>
          hne ((hplain e he).eq_of_pathText_eq (hplain f hf)
            (keyPart_injective path _ _ heq))
        exact disjoint_leafPaths (isPart_keyPart path _ htext) (isPart_keyPart path _ htext') hpart
          (toList_joinPath path e.1.pathText) (toList_joinPath path f.1.pathText) e.2 f.2

/-! ### Flattening -/

theorem GoesOnFrom.ne_empty {path further : String} (h : GoesOnFrom path further)
    (hpath : path ≠ "") : further ≠ "" := by
  obtain ⟨rest, hrest, -⟩ := h
  exact ne_empty_of_toList_eq hrest (.inl hpath)

/-- Every leaf of a tree with plain keys has a path. -/
theorem leafPath_ne_empty (node : Node) (h : node.HasPlainKeys) (leaf : String × Value)
    (hleaf : leaf ∈ node.leaves) : leaf.1 ≠ "" := by
  match node with
  | .map entries =>
      have hplain := ((Node.allMappings_map entries).1 h).1.1
      rw [Node.leaves, Node.leavesAt, Node.leavesOfEntries_eq_flatMap] at hleaf
      obtain ⟨e, he, hleaf⟩ := List.mem_flatMap.1 hleaf
      have hpart := isPart_keyPart "" _ (hplain e he).isPlainText_pathText
      have hchild : joinPath "" e.1.pathText ≠ "" :=
        ne_empty_of_toList_eq (toList_joinPath "" e.1.pathText) (.inr hpart.ne_nil)
      exact (goesOnFrom_of_mem_leavesAt e.2 _ hchild leaf hleaf).ne_empty hchild
  | .null | .bool _ | .int _ | .float _ | .str _ | .seq _ =>
      have hroot : documentKey ≠ "" := by decide
      exact (goesOnFrom_of_mem_leavesAt _ documentKey hroot leaf hleaf).ne_empty hroot

/-- **A tree with plain keys is flattened to its leaves.**  No two leaves share a path, and the
leaves are the entries of the map in document order, so the value of each of them is found under its
path.  Only a document that is a null and nothing else is flattened to no entry. -/
theorem plain_keys_lose_no_leaf (source : String) (node : Node) (h : node.HasPlainKeys) :
    (Entries.keys node.leaves).Nodup ∧
      ∃ m, (flatten source node).result = .ok m ∧ m.entries = node.written ∧
        ∀ leaf ∈ node.written, m.get? leaf.1 = some leaf.2 := by
  have hdistinct := nodup_leafPaths node node.rootPath h
  have hsound := (Node.isWellFormed_iff node node.rootPath).2 h.isWellFormed
  have hwritten : node.written ⊆ node.leaves ∧ (Entries.keys node.written).Nodup := by
    rcases node.written_eq_nil_or_leaves with hnil | hleaves
    · rw [hnil]
      exact ⟨List.nil_subset _, List.nodup_nil⟩
    · rw [hleaves]
      exact ⟨List.Subset.refl _, hdistinct⟩
  have hentries := PropertyMap.entries_ofList_of_nodup node.written hwritten.2
  refine ⟨hdistinct, .ofList node.written, ?_, hentries, fun leaf hleaf => ?_⟩
  · rw [result_flatten]
    exact (Visit.judge_eq_ok_iff source node.visits _ _).2 ⟨hsound, rfl⟩
  · rw [PropertyMap.get?_of_ne _ _ (leafPath_ne_empty node h leaf (hwritten.1 hleaf))]
    exact PropertyMap.find?_of_mem_entries _ leaf (hentries.symm ▸ hleaf)

/-- A dot in a key is enough for two leaves to meet. -/
example : (Node.map [(.str "a.b", .int 1), (.str "a", .map [(.str "b", .int 2)])]).leaves =
    [("a.b", .int 1), ("a.b", .int 2)] := by rfl

/-- A document with plain keys of all kinds. -/
def serviceTree : Node :=
  .map [(.str "server", .map [(.str "port", .int 8080), (.str "hosts", .seq [.str "a", .null])]),
    (.int 1, .seq []), (.null, .map []), (.bool true, .seq [.seq [.bool false]])]

theorem serviceTree_hasPlainKeys : serviceTree.HasPlainKeys := by
  have hserver : (Node.str "server").IsPlainKey := .str (by decide) (by decide) (by decide)
  have hport : (Node.str "port").IsPlainKey := .str (by decide) (by decide) (by decide)
  have hhosts : (Node.str "hosts").IsPlainKey := .str (by decide) (by decide) (by decide)
  simp only [serviceTree, Node.HasPlainKeys, Node.allMappings_map, Node.allMappings_seq,
    Node.PlainEntries, List.forall_mem_cons]
  simp [hserver, hport, hhosts, Node.IsPlainKey.null, Node.IsPlainKey.bool, Node.IsPlainKey.int,
    Node.allMappings_of_isScalar (.int 8080) rfl, Node.allMappings_of_isScalar (.str "a") rfl,
    Node.allMappings_of_isScalar .null rfl, Node.allMappings_of_isScalar (.bool false) rfl]

/-- The document is flattened to its five leaves, and its last host is found. -/
theorem serviceTree_loses_no_leaf :
    serviceTree.HasPlainKeys ∧
      ∃ m, (flatten "service.yml" serviceTree).result = .ok m ∧
        m.entries = [("server.port", .int 8080), ("server.hosts[0]", .str "a"),
          ("server.hosts[1]", .str ""), ("[1]", .str ""), ("[true][0][0]", .bool false)] ∧
        m.get? "server.hosts[1]" = some (.str "") := by
  obtain ⟨-, m, hresult, hentries, hfound⟩ :=
    plain_keys_lose_no_leaf "service.yml" serviceTree serviceTree_hasPlainKeys
  refine ⟨serviceTree_hasPlainKeys, m, hresult, hentries, ?_⟩
  exact hfound ("server.hosts[1]", .str "") (by decide)

/-- **A document that is a null and nothing else** has plain keys and one leaf, but it is flattened
to no entry. -/
theorem lone_null_loses_its_leaf :
    Node.null.HasPlainKeys ∧ Node.null.leaves = [("document", .str "")] ∧
      ¬ ∃ m, (flatten "empty.yml" .null).result = .ok m ∧ m.entries = Node.null.leaves := by
  refine ⟨Node.allMappings_of_isScalar .null rfl, rfl, ?_⟩
  rintro ⟨m, ⟨⟩, hentries⟩
  exact absurd hentries (by decide)

end ProfileLayers
