/-
**Maps from keys to values that remember their order.**

The entries stand in the order in which their keys were first inserted.  Inserting a key again
replaces its value in place; removing it frees its place.  No key occurs twice, and the map carries
the proof.

The empty key can be stored, but it is never found: looking it up gives nothing.

Main definitions:

* `ProfileLayers.PropertyMap` — the maps;
* `ProfileLayers.PropertyMap.insert`, `ProfileLayers.PropertyMap.erase`,
  `ProfileLayers.PropertyMap.filterKeys` — changing a map;
* `ProfileLayers.PropertyMap.get?`, `ProfileLayers.PropertyMap.keys` — reading it;
* `ProfileLayers.PropertyMap.ofList` — inserting pairs one after another;
* `ProfileLayers.MapChange`, `ProfileLayers.PropertyMap.after` — changes as values, and a map after
  some of them, one after another.

Main results:

* `ProfileLayers.PropertyMap.keys_insert` — a new key is added at the end, a known one stays where
  it is;
* `ProfileLayers.PropertyMap.find?_insert` — the inserted key has the inserted value, and no other
  key is touched;
* `ProfileLayers.PropertyMap.find?_of_mem_entries`, `ProfileLayers.PropertyMap.get?_eq_some_iff` —
  every entry is found, and answered unless its key is empty;
* `ProfileLayers.PropertyMap.find?_filterKeys` — removing keys leaves the values of the others;
* `ProfileLayers.PropertyMap.find?_insertAll` — of several pairs with one key the last one wins;
* `ProfileLayers.PropertyMap.entries_ofList_of_nodup` — pairs with different keys are kept as they
  are.
-/

import ProfileLayers.Value

set_option relaxedAutoImplicit false
set_option autoImplicit false

namespace ProfileLayers

/-! ### Lists of entries -/

namespace Entries

/-- The keys of a list of entries. -/
def keys (es : List (String × Value)) : List String := es.map Prod.fst

/-- The value of the first entry with this key. -/
def find? (key : String) : List (String × Value) → Option Value
  | [] => none
  | (k, v) :: es => if k = key then some v else find? key es

/-- Replaces the value of the first entry with this key, or adds an entry at the end. -/
def insert (key : String) (value : Value) : List (String × Value) → List (String × Value)
  | [] => [(key, value)]
  | (k, v) :: es => if k = key then (key, value) :: es else (k, v) :: insert key value es

@[simp] theorem keys_nil : keys [] = [] := rfl

@[simp] theorem keys_cons (k : String) (v : Value) (es : List (String × Value)) :
    keys ((k, v) :: es) = k :: keys es := rfl

theorem keys_insert (key : String) (value : Value) (es : List (String × Value)) :
    keys (insert key value es) = if key ∈ keys es then keys es else keys es ++ [key] := by
  induction es with
  | nil => simp [insert]
  | cons e es ih =>
      obtain ⟨k, v⟩ := e
      by_cases h : k = key
      · simp [insert, h]
      · have h' : key ≠ k := fun e => h e.symm
        by_cases hm : key ∈ keys es <;> simp_all [insert]

theorem nodup_keys_insert (key : String) (value : Value) (es : List (String × Value))
    (h : (keys es).Nodup) : (keys (insert key value es)).Nodup := by
  rw [keys_insert]
  split
  · exact h
  · rename_i hm
    rw [List.nodup_append]
    refine ⟨h, by simp, ?_⟩
    intro a ha b hb
    simp only [List.mem_singleton] at hb
    rintro rfl
    exact hm (hb ▸ ha)

theorem find?_insert (key key' : String) (value : Value) (es : List (String × Value)) :
    find? key' (insert key value es) = if key = key' then some value else find? key' es := by
  induction es with
  | nil => simp [insert, find?]
  | cons e es ih =>
      obtain ⟨k, v⟩ := e
      by_cases h : k = key
      · subst h
        by_cases h' : k = key' <;> simp [insert, find?, h']
      · by_cases h' : k = key'
        · subst h'
          have : key ≠ k := fun e => h e.symm
          simp [insert, find?, h, this]
        · simp [insert, find?, h, h', ih]

theorem find?_eq_none_iff (key : String) (es : List (String × Value)) :
    find? key es = none ↔ key ∉ keys es := by
  induction es with
  | nil => simp [find?]
  | cons e es ih =>
      obtain ⟨k, v⟩ := e
      by_cases h : k = key
      · simp [find?, h]
      · have h' : key ≠ k := fun e => h e.symm
        simp [find?, h, h', ih]

theorem isSome_find?_iff (key : String) (es : List (String × Value)) :
    (find? key es).isSome = true ↔ key ∈ keys es := by
  rw [Option.isSome_iff_ne_none, ne_eq, find?_eq_none_iff, Classical.not_not]

/-- Where no key occurs twice, the value of an entry is found under its key. -/
theorem find?_of_mem (e : String × Value) (es : List (String × Value)) (h : (keys es).Nodup)
    (he : e ∈ es) : find? e.1 es = some e.2 := by
  induction es with
  | nil => exact absurd he List.not_mem_nil
  | cons first es ih =>
      obtain ⟨k, v⟩ := first
      obtain ⟨hk, hes⟩ := List.nodup_cons.1 h
      rcases List.mem_cons.1 he with rfl | he
      · exact if_pos rfl
      · have hne : k ≠ e.1 := fun heq => hk (List.mem_map.2 ⟨e, he, heq.symm⟩)
        rw [find?, if_neg hne, ih hes he]

theorem find?_reverse_of_not_mem (key : String) (es : List (String × Value)) (h : key ∉ keys es) :
    find? key es.reverse = none := by
  rw [find?_eq_none_iff, keys, List.map_reverse, List.mem_reverse]
  exact h

theorem find?_append (key : String) (es more : List (String × Value)) :
    find? key (es ++ more) = (find? key es).or (find? key more) := by
  induction es with
  | nil => rfl
  | cons e es ih =>
      obtain ⟨k, v⟩ := e
      by_cases h : k = key <;> simp [find?, h, ih]

theorem insert_of_not_mem (key : String) (value : Value) (es : List (String × Value))
    (h : key ∉ keys es) : insert key value es = es ++ [(key, value)] := by
  induction es with
  | nil => rfl
  | cons e es ih =>
      obtain ⟨k, v⟩ := e
      rw [keys_cons, List.mem_cons, not_or] at h
      rw [insert, if_neg fun hk => h.1 hk.symm, ih h.2, List.cons_append]

theorem keys_filter (p : String → Bool) (es : List (String × Value)) :
    keys (es.filter fun e => p e.1) = (keys es).filter p := by
  rw [keys, keys, List.filter_map]
  rfl

/-- Dropping entries by their keys leaves what is found under the other keys. -/
theorem find?_filter (p : String → Bool) (key : String) (es : List (String × Value)) :
    find? key (es.filter fun e => p e.1) = if p key = true then find? key es else none := by
  induction es with
  | nil => simp [find?]
  | cons e es ih =>
      obtain ⟨k, v⟩ := e
      by_cases hk : k = key
      · subst hk
        cases hp : p k with
        | true => simp [hp, find?]
        | false => simpa [hp] using ih
      · cases hp : p k with
        | true => simp [hp, find?, hk, ih]
        | false => simp [hp, find?, hk, ih]

theorem keys_filter_nodup (p : String × Value → Bool) (es : List (String × Value))
    (h : (keys es).Nodup) : (keys (es.filter p)).Nodup :=
  List.Nodup.sublist (List.Sublist.map Prod.fst List.filter_sublist) h

end Entries

/-! ### Maps -/

/-- A map from keys to values, in order of first insertion. -/
structure PropertyMap where
  entries : List (String × Value)
  nodup : (Entries.keys entries).Nodup
deriving DecidableEq

namespace PropertyMap

instance : Repr PropertyMap := ⟨fun m => reprPrec m.entries⟩

/-- The map without entries. -/
def empty : PropertyMap := ⟨[], List.nodup_nil⟩

instance : Inhabited PropertyMap := ⟨empty⟩

/-- The keys in order. -/
def keys (m : PropertyMap) : List String := Entries.keys m.entries

/-- The number of keys. -/
def size (m : PropertyMap) : Nat := m.entries.length

/-- No key is present. -/
def isEmpty (m : PropertyMap) : Bool := m.entries.isEmpty

/-- The value of a key, for any key. -/
def find? (m : PropertyMap) (key : String) : Option Value := Entries.find? key m.entries

/-- The value of a key.  The empty key is never found. -/
def get? (m : PropertyMap) (key : String) : Option Value :=
  if key = "" then none else m.find? key

/-- The key is found. -/
def contains (m : PropertyMap) (key : String) : Bool := (m.get? key).isSome

/-- Replaces the value of a key in place, or adds the key at the end. -/
def insert (m : PropertyMap) (key : String) (value : Value) : PropertyMap :=
  ⟨Entries.insert key value m.entries, Entries.nodup_keys_insert key value m.entries m.nodup⟩

/-- Keeps the entries whose keys satisfy `p`. -/
def filterKeys (m : PropertyMap) (p : String → Bool) : PropertyMap :=
  ⟨m.entries.filter fun e => p e.1, Entries.keys_filter_nodup _ _ m.nodup⟩

/-- Removes a key. -/
def erase (m : PropertyMap) (key : String) : PropertyMap := m.filterKeys fun k => k != key

/-- Inserts pairs one after another. -/
def insertAll (m : PropertyMap) (pairs : List (String × Value)) : PropertyMap :=
  pairs.foldl (fun m e => m.insert e.1 e.2) m

/-- The map of the pairs, inserted one after another. -/
def ofList (pairs : List (String × Value)) : PropertyMap := empty.insertAll pairs

/-- Equality of maps: the same keys with the same values, in any order. -/
def same (m n : PropertyMap) : Bool :=
  m.size == n.size && m.entries.all fun e => (n.find? e.1).any e.2.same

end PropertyMap

/-! ### Runs of changes -/

/-- A change of a map. -/
inductive MapChange where
  | insert (key : String) (value : Value)
  | erase (key : String)
  /-- Only the keys that satisfy `keep` stay; each key is asked for once. -/
  | filterKeys (keep : String → Bool)

namespace PropertyMap

/-- The map after a change. -/
def apply (m : PropertyMap) : MapChange → PropertyMap
  | .insert key value => m.insert key value
  | .erase key => m.erase key
  | .filterKeys keep => m.filterKeys keep

/-- The map after changes that are made one after another. -/
def after (m : PropertyMap) (changes : List MapChange) : PropertyMap := changes.foldl apply m

/-! ### Laws -/

@[ext] theorem ext (m n : PropertyMap) (h : m.entries = n.entries) : m = n := by
  cases m; cases n; cases h; rfl

theorem nodup_keys (m : PropertyMap) : m.keys.Nodup := m.nodup

@[simp] theorem keys_empty : empty.keys = [] := rfl

@[simp] theorem length_keys (m : PropertyMap) : m.keys.length = m.size := by
  simp [keys, Entries.keys, size]

theorem keys_insert (m : PropertyMap) (key : String) (value : Value) :
    (m.insert key value).keys = if key ∈ m.keys then m.keys else m.keys ++ [key] :=
  Entries.keys_insert key value m.entries

theorem mem_keys_insert (m : PropertyMap) (key key' : String) (value : Value) :
    key' ∈ (m.insert key value).keys ↔ key' ∈ m.keys ∨ key' = key := by
  rw [keys_insert]
  split
  · rename_i hmem
    exact ⟨.inl, fun h => h.elim id fun heq => heq ▸ hmem⟩
  · rw [List.mem_append, List.mem_singleton]

theorem size_insert (m : PropertyMap) (key : String) (value : Value) :
    (m.insert key value).size = if key ∈ m.keys then m.size else m.size + 1 := by
  rw [← length_keys, keys_insert, ← length_keys]
  split
  · rfl
  · rw [List.length_append, List.length_singleton]

theorem find?_insert (m : PropertyMap) (key key' : String) (value : Value) :
    (m.insert key value).find? key' = if key = key' then some value else m.find? key' :=
  Entries.find?_insert key key' value m.entries

theorem find?_eq_none_iff (m : PropertyMap) (key : String) :
    m.find? key = none ↔ key ∉ m.keys := Entries.find?_eq_none_iff key m.entries

theorem isSome_find?_iff (m : PropertyMap) (key : String) :
    (m.find? key).isSome = true ↔ key ∈ m.keys := Entries.isSome_find?_iff key m.entries

theorem find?_of_mem_entries (m : PropertyMap) (e : String × Value) (he : e ∈ m.entries) :
    m.find? e.1 = some e.2 := Entries.find?_of_mem e m.entries m.nodup he

theorem keys_filterKeys (m : PropertyMap) (p : String → Bool) :
    (m.filterKeys p).keys = m.keys.filter p := Entries.keys_filter p m.entries

theorem find?_filterKeys (m : PropertyMap) (p : String → Bool) (key : String) :
    (m.filterKeys p).find? key = if p key = true then m.find? key else none :=
  Entries.find?_filter p key m.entries

theorem get?_of_ne (m : PropertyMap) (key : String) (h : key ≠ "") : m.get? key = m.find? key :=
  if_neg h

@[simp] theorem get?_empty_key (m : PropertyMap) : m.get? "" = none := if_pos rfl

/-- A map answers its entries, except the one of the empty key, and nothing else. -/
theorem get?_eq_some_iff (m : PropertyMap) (key : String) (value : Value) :
    m.get? key = some value ↔ (key, value) ∈ m.entries ∧ key ≠ "" := by
  by_cases hkey : key = ""
  · simp [hkey]
  · rw [m.get?_of_ne key hkey, and_iff_left hkey]
    constructor
    · intro h
      have hlisted : key ∈ m.keys := (m.isSome_find?_iff key).1 (by rw [h]; rfl)
      obtain ⟨e, he, rfl⟩ := List.mem_map.1 hlisted
      rw [m.find?_of_mem_entries e he] at h
      exact Option.some.inj h ▸ he
    · exact fun h => m.find?_of_mem_entries (key, value) h

/-- The order of the entries does not matter for what is answered. -/
theorem get?_congr_of_perm (m n : PropertyMap) (h : m.entries.Perm n.entries) (key : String) :
    m.get? key = n.get? key := by
  apply Option.ext
  intro value
  rw [get?_eq_some_iff, get?_eq_some_iff, h.mem_iff]

theorem get?_filterKeys (m : PropertyMap) (p : String → Bool) (key : String) :
    (m.filterKeys p).get? key = if p key = true then m.get? key else none := by
  by_cases hkey : key = ""
  · simp [hkey]
  · rw [get?_of_ne _ key hkey, get?_of_ne _ key hkey, find?_filterKeys]

@[simp] theorem insertAll_nil (m : PropertyMap) : m.insertAll [] = m := rfl

@[simp] theorem insertAll_cons (m : PropertyMap) (e : String × Value)
    (pairs : List (String × Value)) :
    m.insertAll (e :: pairs) = (m.insert e.1 e.2).insertAll pairs := rfl

theorem insertAll_append (m : PropertyMap) (pairs more : List (String × Value)) :
    m.insertAll (pairs ++ more) = (m.insertAll pairs).insertAll more := by
  simp [insertAll, List.foldl_append]

/-- The last of several pairs with one key gives the value. -/
theorem find?_insertAll (m : PropertyMap) (pairs : List (String × Value)) (key : String) :
    (m.insertAll pairs).find? key = (Entries.find? key pairs.reverse).or (m.find? key) := by
  induction pairs generalizing m with
  | nil => rfl
  | cons e pairs ih =>
      obtain ⟨k, v⟩ := e
      rw [insertAll_cons, ih, find?_insert, List.reverse_cons, Entries.find?_append,
        Option.or_assoc]
      by_cases h : k = key <;> simp [Entries.find?, h]

theorem find?_ofList (pairs : List (String × Value)) (key : String) :
    (ofList pairs).find? key = Entries.find? key pairs.reverse := by
  rw [ofList, find?_insertAll]
  exact Option.or_none

/-- Pairs with new keys are put behind the entries before, as they are. -/
theorem entries_insertAll_of_nodup (m : PropertyMap) (pairs : List (String × Value))
    (h : (m.keys ++ Entries.keys pairs).Nodup) :
    (m.insertAll pairs).entries = m.entries ++ pairs := by
  induction pairs generalizing m with
  | nil => simp
  | cons e pairs ih =>
      obtain ⟨k, v⟩ := e
      have hnew : k ∉ m.keys := by
        intro hk
        exact (List.nodup_append.1 h).2.2 k hk k List.mem_cons_self rfl
      have hinsert : (m.insert k v).entries = m.entries ++ [(k, v)] :=
        Entries.insert_of_not_mem k v m.entries hnew
      have hrest : ((m.insert k v).keys ++ Entries.keys pairs).Nodup := by
        rw [keys_insert, if_neg hnew, List.append_assoc]
        exact h
      rw [insertAll_cons, ih (m.insert k v) hrest, hinsert, List.append_assoc]
      rfl

theorem entries_ofList_of_nodup (pairs : List (String × Value))
    (h : (Entries.keys pairs).Nodup) : (ofList pairs).entries = pairs :=
  entries_insertAll_of_nodup empty pairs h

theorem ofList_entries (m : PropertyMap) : ofList m.entries = m :=
  ext _ _ (entries_ofList_of_nodup m.entries m.nodup)

end PropertyMap

end ProfileLayers
