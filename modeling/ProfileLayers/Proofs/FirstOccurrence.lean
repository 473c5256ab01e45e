/-
**Lists without repetitions, in order of first occurrence.**

Names that are activated one after another, and keys that are met in one source after another, are
kept where they first occur and dropped afterwards.  Both are folds that put a new element at the
end; this module says what such a fold computes, in terms of `List.eraseDups`.

Main results:

* `ProfileLayers.foldl_keepFirst` — the fold keeps the first occurrence of each element;
* `ProfileLayers.ProfileSet.names_insertAll`, `ProfileLayers.ProfileSet.names_ofList` — sets of
  profiles;
* `ProfileLayers.PropertyMap.keys_ofList` — keys of a map;
* `ProfileLayers.unionOfKeys_eq_eraseDups`, `ProfileLayers.nodup_unionOfKeys`,
  `ProfileLayers.unionOfKeys_map_eq_eraseDups_flatMap` — keys of several sources.
-/

import ProfileLayers.Source

set_option relaxedAutoImplicit false
set_option autoImplicit false

namespace ProfileLayers

/-! ### Removing repetitions -/

/-- Dropping elements and dropping repetitions can be done in either order. -/
theorem filter_eraseDups (p : String → Bool) (l : List String) :
    l.eraseDups.filter p = (l.filter p).eraseDups := by
  match l with
  | [] => rfl
  | a :: l =>
      have ih := filter_eraseDups p (l.filter fun b => !b == a)
      rw [List.filter_filter] at ih
      cases hp : p a with
      | true =>
          rw [List.eraseDups_cons, List.filter_cons_of_pos hp, List.filter_cons_of_pos hp,
            List.eraseDups_cons, ih, List.filter_filter]
          simp only [Bool.and_comm]
      | false =>
          -- the occurrences of `a` that `eraseDups` drops are dropped by `p` anyway
          have hsame : l.filter (fun b => p b && !b == a) = l.filter p := by
            apply List.filter_congr
            intro b _
            by_cases h : b = a
            · simp [h, hp]
            · simp [h]
          rw [List.eraseDups_cons, List.filter_cons_of_neg (by simp [hp]),
            List.filter_cons_of_neg (by simp [hp]), ih, hsame]
termination_by l.length
decreasing_by
  have := List.length_filter_le (fun b => !b == a) l
  simp only [List.length_cons]
  omega

theorem eraseDups_of_nodup (l : List String) (h : l.Nodup) : l.eraseDups = l := by
  induction l with
  | nil => rfl
  | cons a l ih =>
      obtain ⟨ha, hl⟩ := List.nodup_cons.1 h
      have hkeep : l.filter (fun b => !b == a) = l := by
        rw [List.filter_eq_self]
        intro b hb
        have hne : b ≠ a := fun e => ha (e ▸ hb)
        simp [hne]
      rw [List.eraseDups_cons, hkeep, ih hl]

theorem eraseDups_append_append (l m : List String) :
    (l ++ (l ++ m)).eraseDups = (l ++ m).eraseDups := by
  -- what follows `l` loses the elements of `l`, hence all of its repetition
  have hrest : (l ++ m).removeAll l = m.removeAll l := by simp [List.removeAll]
  rw [List.eraseDups_append, hrest, ← List.eraseDups_append]

/-- Putting new elements at the end, one after another, keeps the first occurrence of each. -/
theorem foldl_keepFirst (start l : List String) :
    l.foldl (fun kept a => if a ∈ kept then kept else kept ++ [a]) start =
      start ++ (l.filter fun a => decide (a ∉ start)).eraseDups := by
  induction l generalizing start with
  | nil => simp
  | cons a l ih =>
      by_cases h : a ∈ start
      · rw [List.foldl_cons, if_pos h, ih, List.filter_cons_of_neg (by simp [h])]
      · have hrest : (l.filter fun b => decide (b ∉ start ++ [a])) =
            (l.filter fun b => decide (b ∉ start)).filter fun b => !b == a := by
          rw [List.filter_filter]
          apply List.filter_congr
          intro b _
          by_cases hb : b = a <;> simp [hb]
        rw [List.foldl_cons, if_neg h, ih, List.filter_cons_of_pos (by simp [h]),
          List.eraseDups_cons, hrest, List.append_assoc, List.singleton_append]

theorem foldl_keepFirst_nil (l : List String) :
    l.foldl (fun kept a => if a ∈ kept then kept else kept ++ [a]) [] = l.eraseDups := by
  have hall : (l.filter fun a => decide (a ∉ ([] : List String))) = l := by
    rw [List.filter_eq_self]
    simp
  rw [foldl_keepFirst, hall, List.nil_append]

/-! ### Sets of profiles -/

namespace ProfileSet

theorem names_insertAll_eq_foldl (s : ProfileSet) (ps : List String) :
    (s.insertAll ps).names =
      ps.foldl (fun kept p => if p ∈ kept then kept else kept ++ [p]) s.names := by
  induction ps generalizing s with
  | nil => rfl
  | cons p ps ih => rw [insertAll_cons, ih, names_insert, List.foldl_cons]

/-- Names that are added follow those before, each once. -/
theorem names_insertAll (s : ProfileSet) (ps : List String) :
    (s.insertAll ps).names =
      s.names ++ (ps.filter fun p => decide (p ∉ s.names)).eraseDups := by
  rw [names_insertAll_eq_foldl, foldl_keepFirst]

theorem names_ofList (ps : List String) : (ofList ps).names = ps.eraseDups := by
  rw [ofList, names_insertAll_eq_foldl, names_empty, foldl_keepFirst_nil]

theorem mem_ofList (ps : List String) (p : String) : p ∈ ofList ps ↔ p ∈ ps := by
  rw [mem_def, names_ofList, List.mem_eraseDups]

theorem names_ofList_ne_nil (ps : List String) (h : ps ≠ []) : (ofList ps).names ≠ [] := by
  obtain ⟨p, hp⟩ := List.exists_mem_of_ne_nil ps h
  exact List.ne_nil_of_mem ((mem_ofList ps p).2 hp)

theorem ofList_names (s : ProfileSet) : ofList s.names = s := by
  apply ProfileSet.ext
  rw [names_ofList, eraseDups_of_nodup s.names s.nodup]

/-- Adding names that are present changes nothing. -/
theorem insertAll_eq_self (s : ProfileSet) (ps : List String) (h : ∀ p ∈ ps, p ∈ s) :
    s.insertAll ps = s := by
  apply ProfileSet.ext
  have hnone : (ps.filter fun p => decide (p ∉ s.names)) = [] := by
    rw [List.filter_eq_nil_iff]
    intro p hp
    have hmem : p ∈ s.names := h p hp
    simp [hmem]
  rw [names_insertAll, hnone, List.eraseDups_nil, List.append_nil]

/-- A set that begins with another one goes on with the names that are not in it. -/
theorem names_eq_append_filter (s t : ProfileSet) (h : s.names <+: t.names) :
    t.names = s.names ++ t.names.filter fun p => decide (p ∉ s.names) := by
  obtain ⟨added, hadded⟩ := h
  have hnodup : (s.names ++ added).Nodup := hadded ▸ t.nodup
  obtain ⟨-, -, hdisjoint⟩ := List.nodup_append.1 hnodup
  have hnew : (added.filter fun p => decide (p ∉ s.names)) = added := by
    rw [List.filter_eq_self]
    intro p hp
    rw [decide_eq_true_eq]
    intro hs
    exact hdisjoint p hs p hp rfl
  have hold : (s.names.filter fun p => decide (p ∉ s.names)) = [] := by simp
  rw [← hadded, List.filter_append, hold, hnew, List.nil_append]

/-- Adding the names of a larger set to an initial part of it gives the larger set. -/
theorem insertAll_of_prefix (s t : ProfileSet) (h : s.names <+: t.names) :
    s.insertAll t.names = t := by
  have hnodup : (t.names.filter fun p => decide (p ∉ s.names)).Nodup :=
    t.nodup.sublist List.filter_sublist
  apply ProfileSet.ext
  rw [names_insertAll, eraseDups_of_nodup _ hnodup, ← names_eq_append_filter s t h]

/-- A set that is an initial part of another one and holds all its names is that set. -/
theorem eq_of_prefix_of_subset (s t : ProfileSet) (h : s.names <+: t.names)
    (hsub : ∀ p ∈ t, p ∈ s) : s = t := by
  rw [← insertAll_of_prefix s t h, insertAll_eq_self s t.names hsub]

theorem isEmpty_iff (s : ProfileSet) : s.isEmpty = true ↔ s.names = [] := List.isEmpty_iff

end ProfileSet

/-! ### Keys of a map -/

namespace PropertyMap

theorem keys_insertAll_eq_foldl (m : PropertyMap) (pairs : List (String × Value)) :
    (m.insertAll pairs).keys =
      (Entries.keys pairs).foldl (fun kept k => if k ∈ kept then kept else kept ++ [k]) m.keys := by
  induction pairs generalizing m with
  | nil => rfl
  | cons e pairs ih =>
      obtain ⟨k, v⟩ := e
      rw [insertAll_cons, ih, keys_insert, Entries.keys_cons, List.foldl_cons]

/-- Each key stands where the first pair with it does. -/
theorem keys_ofList (pairs : List (String × Value)) :
    (ofList pairs).keys = (Entries.keys pairs).eraseDups := by
  rw [ofList, keys_insertAll_eq_foldl, keys_empty, foldl_keepFirst_nil]

end PropertyMap

theorem nodup_eraseDups (l : List String) : l.eraseDups.Nodup := by
  rw [← ProfileSet.names_ofList]
  exact (ProfileSet.ofList l).nodup

/-! ### Keys of several sources -/

theorem unionOfKeys_eq_eraseDups (lists : List (List String)) :
    unionOfKeys lists = lists.flatten.eraseDups := by
  rw [unionOfKeys, foldl_keepFirst_nil]

theorem nodup_unionOfKeys (lists : List (List String)) : (unionOfKeys lists).Nodup := by
  rw [unionOfKeys_eq_eraseDups]
  exact nodup_eraseDups _

/-- It does not matter whether repetitions were removed in each list before. -/
theorem unionOfKeys_map_eraseDups (lists : List (List String)) :
    unionOfKeys (lists.map List.eraseDups) = unionOfKeys lists := by
  rw [unionOfKeys_eq_eraseDups, unionOfKeys_eq_eraseDups]
  induction lists with
  | nil => rfl
  | cons l lists ih =>
      have hself : l.eraseDups.eraseDups = l.eraseDups :=
        eraseDups_of_nodup _ (nodup_eraseDups l)
      rw [List.map_cons, List.flatten_cons, List.flatten_cons, List.eraseDups_append,
        List.eraseDups_append, hself, List.removeAll, List.removeAll, ← filter_eraseDups, ih,
        filter_eraseDups]
      simp

/-- Collecting keys from lists that had repetitions removed is collecting them from these lists. -/
theorem unionOfKeys_map_eq_eraseDups_flatMap {α : Type} {f g : α → List String} {l : List α}
    (h : ∀ a ∈ l, f a = (g a).eraseDups) : unionOfKeys (l.map f) = (l.flatMap g).eraseDups := by
  have hmap : l.map f = (l.map g).map List.eraseDups := by
    rw [List.map_map]
    exact List.map_congr_left h
  rw [hmap, unionOfKeys_map_eraseDups, unionOfKeys_eq_eraseDups, List.flatMap_def]

end ProfileLayers
