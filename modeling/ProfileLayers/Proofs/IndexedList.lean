/-
**Lists under indexed keys.**

A list that is declared as a sequence stands under its key followed by one index after another, and
is read by looking these keys up until one is absent.  Nothing in the loop says that it ends: it
does because different indices give different keys, of which a map has finitely many.  So there is a
first index without an item, it is at most the number of entries, and what is read are the texts
under the indices before it.

Main definitions:

* `ProfileLayers.IsListKey` — the keys under which a list can be declared;
* `ProfileLayers.PropertyMap.itemCount` — the first index without an item;
* `ProfileLayers.tokensOfValues` — the tokens that values come to.

Main results:

* `ProfileLayers.indexedKey_inj`, `ProfileLayers.IsListKey.unique` — an indexed key tells the key
  and the index;
* `ProfileLayers.PropertyMap.itemCount_le_size` — the first index without an item is within the
  size of the map;
* `ProfileLayers.indexedTexts_eq_filterMap`, `ProfileLayers.indexedTexts_eq_map`,
  `ProfileLayers.bindList?_of_indexed` — what is read under the indices;
* `ProfileLayers.bindList?_congr` — a list is read from its key and its indexed keys alone.
-/

import Mathlib.Data.List.Nodup
import Mathlib.Data.Nat.Find
import ProfileLayers.Number.Digits
import ProfileLayers.Profile.Declarations

set_option relaxedAutoImplicit false
set_option autoImplicit false

namespace ProfileLayers

/-! ### Indexed keys -/

theorem toList_indexedKey (key : String) (index : Nat) :
    (indexedKey key index).toList = key.toList ++ '[' :: (index.repr.toList ++ [']']) := by
  simp [indexedKey]

theorem indexedKey_ne_empty (key : String) (index : Nat) : indexedKey key index ≠ "" := by
  intro h
  have hchars := congrArg String.toList h
  rw [toList_indexedKey] at hchars
  simp at hchars

/-- A key with an index tells the key and the index. -/
theorem indexedKey_inj (key other : String) (i j : Nat)
    (h : indexedKey key i = indexedKey other j) : key = other ∧ i = j := by
  have hchars := congrArg String.toList h
  rw [toList_indexedKey, toList_indexedKey] at hchars
  obtain ⟨hkey, hdigits⟩ := append_bracket_digits_inj key.toList other.toList i.repr.toList
    j.repr.toList (isDigit_of_mem_repr i) (isDigit_of_mem_repr j)
    (List.append_cancel_right (by simpa using hchars))
  exact ⟨String.toList_injective hkey, eq_of_toList_repr_eq i j hdigits⟩

/-- A key that does not end in a bracket is no indexed key. -/
theorem ne_indexedKey (key other : String) (i : Nat) (h : key.toList.getLast? ≠ some ']') :
    key ≠ indexedKey other i := by
  rintro rfl
  apply h
  rw [toList_indexedKey]
  simp [List.getLast?_cons]

/-- Different indices give different keys. -/
theorem indexedKey_injective (key : String) : Function.Injective (indexedKey key) :=
  fun i j h => (indexedKey_inj key key i j h).2

/-- The keys under which a list can be declared: one key, and the same with an index. -/
def IsListKey (key k : String) : Prop := k = key ∨ ∃ i, k = indexedKey key i

/-- Lists under keys that do not end in a bracket have no key in common. -/
theorem IsListKey.unique {key other k : String} (hkey : key.toList.getLast? ≠ some ']')
    (hother : other.toList.getLast? ≠ some ']') (h : IsListKey key k) (h' : IsListKey other k) :
    key = other := by
  rcases h with rfl | ⟨i, rfl⟩
  · rcases h' with rfl | ⟨j, hindexed⟩
    · rfl
    · exact absurd hindexed (ne_indexedKey k other j hkey)
  · rcases h' with hplain | ⟨j, hindexed⟩
    · exact absurd hplain.symm (ne_indexedKey other key i hother)
    · exact (indexedKey_inj key other i j hindexed).1

/-! ### The first index without an item -/

namespace PropertyMap

/-- Values that are put under the indices of a key are found there. -/
theorem find?_ofList_indexed (key : String) (values : List Value) (i : Nat) :
    (ofList (values.zipIdx.map fun e => (indexedKey key e.2, e.1))).find? (indexedKey key i) =
      values[i]? := by
  have hkeys : Entries.keys (values.zipIdx.map fun e => (indexedKey key e.2, e.1)) =
      (List.range' 0 values.length).map (indexedKey key) := by
    rw [Entries.keys, List.map_map, ← List.zipIdx_map_snd 0, List.map_map]
    rfl
  have hnodup : (Entries.keys (values.zipIdx.map fun e => (indexedKey key e.2, e.1))).Nodup := by
    rw [hkeys]
    exact List.Nodup.map (indexedKey_injective key) (List.nodup_range' 1)
  have hentries := entries_ofList_of_nodup _ hnodup
  cases hvalue : values[i]? with
  | some value =>
      apply find?_of_mem_entries _ (indexedKey key i, value)
      rw [hentries]
      exact List.mem_map.2 ⟨(value, i), List.mk_mem_zipIdx_iff_getElem?.2 hvalue, rfl⟩
  | none =>
      rw [find?_eq_none_iff, keys, hentries, hkeys]
      intro hmem
      obtain ⟨j, hj, heq⟩ := List.mem_map.1 hmem
      have hlt : j < values.length := by simpa using hj
      have hle := List.getElem?_eq_none_iff.1 hvalue
      have hindex := indexedKey_injective key heq
      omega

/-- A map has no more items under a key than entries, so one of the indices up to its size has
none. -/
theorem exists_absent_index (m : PropertyMap) (key : String) :
    ∃ n ≤ m.size, m.get? (indexedKey key n) = none := by
  by_contra hall
  push Not at hall
  have hpresent : (List.range (m.size + 1)).map (indexedKey key) ⊆ m.keys := by
    intro k hk
    obtain ⟨n, hn, rfl⟩ := List.mem_map.1 hk
    have hle : n ≤ m.size := Nat.lt_succ_iff.1 (List.mem_range.1 hn)
    have hfound := hall n hle
    rw [get?_of_ne m _ (indexedKey_ne_empty key n)] at hfound
    exact (m.isSome_find?_iff _).1 (Option.isSome_iff_ne_none.2 hfound)
  have hdistinct : ((List.range (m.size + 1)).map (indexedKey key)).Nodup :=
    List.nodup_range.map (indexedKey_injective key)
  have hlength := hdistinct.length_le_of_subset hpresent
  rw [List.length_map, List.length_range, length_keys] at hlength
  omega

/-- The first index without an item under the key. -/
def itemCount (m : PropertyMap) (key : String) : Nat :=
  Nat.find (p := fun n => m.get? (indexedKey key n) = none)
    ((m.exists_absent_index key).imp fun _ h => h.2)

theorem itemCount_le_size (m : PropertyMap) (key : String) : m.itemCount key ≤ m.size := by
  obtain ⟨n, hn, habsent⟩ := m.exists_absent_index key
  exact Nat.le_trans (Nat.find_min' (p := fun n => m.get? (indexedKey key n) = none) _ habsent) hn

theorem get?_itemCount (m : PropertyMap) (key : String) :
    m.get? (indexedKey key (m.itemCount key)) = none :=
  Nat.find_spec (p := fun n => m.get? (indexedKey key n) = none) _

theorem get?_ne_none_of_lt_itemCount (m : PropertyMap) (key : String) (index : Nat)
    (h : index < m.itemCount key) : m.get? (indexedKey key index) ≠ none :=
  Nat.find_min (p := fun n => m.get? (indexedKey key n) = none) _ h

end PropertyMap

/-! ### Reading the items -/

/-- With fuel beyond the first index without an item, the texts under all indices before it are
read. -/
theorem indexedTexts_eq_filterMap (m : PropertyMap) (key : String) (fuel index : Nat)
    (hindex : index ≤ m.itemCount key) (hfuel : m.itemCount key < index + fuel) :
    indexedTexts m key fuel index =
      (List.range' index (m.itemCount key - index)).filterMap fun i =>
        (m.get? (indexedKey key i)).map Value.text := by
  induction fuel generalizing index with
  | zero => omega
  | succ fuel ih =>
      rw [indexedTexts]
      rcases Nat.lt_or_eq_of_le hindex with hlt | heq
      · obtain ⟨value, hvalue⟩ :=
          Option.ne_none_iff_exists'.1 (m.get?_ne_none_of_lt_itemCount key index hlt)
        have hrange : m.itemCount key - index = (m.itemCount key - (index + 1)) + 1 := by omega
        have hrest := ih (index + 1) hlt (by omega)
        rw [hrange, List.range'_succ]
        simp [hvalue, hrest]
      · have habsent := m.get?_itemCount key
        rw [← heq] at habsent
        simp [habsent, ← heq]

/-- If the values under the indices up to the length of a list are those of the list, there are no
more items. -/
theorem itemCount_eq_length (m : PropertyMap) (key : String) (values : List Value)
    (h : ∀ i ≤ values.length, m.get? (indexedKey key i) = values[i]?) :
    m.itemCount key = values.length := by
  have hend : m.get? (indexedKey key values.length) = none := by
    rw [h _ (Nat.le_refl _), List.getElem?_eq_none (Nat.le_refl _)]
  rcases Nat.lt_trichotomy (m.itemCount key) values.length with hlt | heq | hgt
  · have habsent := m.get?_itemCount key
    rw [h _ (Nat.le_of_lt hlt), List.getElem?_eq_getElem hlt] at habsent
    cases habsent
  · exact heq
  · exact absurd hend (m.get?_ne_none_of_lt_itemCount key _ hgt)

/-- If the values under the indices up to the length of a list are those of the list, their texts
are read, all of them. -/
theorem indexedTexts_eq_map (m : PropertyMap) (key : String) (values : List Value)
    (h : ∀ i ≤ values.length, m.get? (indexedKey key i) = values[i]?) :
    indexedTexts m key (m.size + 1) 0 = values.map Value.text := by
  have hrest : ∀ fuel index, index ≤ values.length → values.length < index + fuel →
      indexedTexts m key fuel index = (values.drop index).map Value.text := by
    intro fuel
    induction fuel with
    | zero =>
        intro index hindex hfuel
        omega
    | succ fuel ih =>
        intro index hindex hfuel
        rw [indexedTexts, h index hindex]
        rcases Nat.lt_or_eq_of_le hindex with hlt | rfl
        · rw [List.getElem?_eq_getElem hlt, List.drop_eq_getElem_cons hlt, List.map_cons,
            ← ih (index + 1) hlt (by omega)]
        · rw [List.getElem?_eq_none (Nat.le_refl _), List.drop_length]
          rfl
  have hsize := m.itemCount_le_size key
  rw [itemCount_eq_length m key values h] at hsize
  rw [hrest (m.size + 1) 0 (Nat.zero_le _) (by omega), List.drop_zero]

/-- The tokens that values come to: their texts are trimmed, and the blank ones are dropped. -/
def tokensOfValues (values : List Value) : List String :=
  ((values.map Value.text).map trim).filter fun t => t != ""

/-- The list that is read from a sequence, and its text; a sequence without items is no list. -/
theorem bindList?_of_indexed (m : PropertyMap) (key : String) (values : List Value)
    (hkey : m.get? key = none) (h : ∀ i ≤ values.length, m.get? (indexedKey key i) = values[i]?) :
    bindList? m key =
      if values = [] then none
      else some ⟨tokensOfValues values, joinList (tokensOfValues values)⟩ := by
  rw [bindList?, hkey, indexedTexts_eq_map m key values h]
  cases values <;> rfl

/-- Two maps that agree on the indexed keys have the same number of items. -/
theorem itemCount_congr (m n : PropertyMap) (key : String)
    (h : ∀ index, m.get? (indexedKey key index) = n.get? (indexedKey key index)) :
    m.itemCount key = n.itemCount key := by
  unfold PropertyMap.itemCount
  simp only [h]

/-- A list is read from its key and its indexed keys alone. -/
theorem bindList?_congr (m n : PropertyMap) (key : String) (hkey : m.get? key = n.get? key)
    (hindexed : ∀ index, m.get? (indexedKey key index) = n.get? (indexedKey key index)) :
    bindList? m key = bindList? n key := by
  have hm := m.itemCount_le_size key
  have hn := n.itemCount_le_size key
  have htexts : indexedTexts m key (m.size + 1) 0 = indexedTexts n key (n.size + 1) 0 := by
    rw [indexedTexts_eq_filterMap m key _ 0 (Nat.zero_le _) (by omega),
      indexedTexts_eq_filterMap n key _ 0 (Nat.zero_le _) (by omega),
      itemCount_congr m n key hindexed]
    simp only [hindexed]
  rw [bindList?, bindList?, hkey, htexts]

end ProfileLayers
