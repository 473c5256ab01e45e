/-
**The loop over the indices of a list.**

A list that is declared as a sequence is read by a loop that looks one indexed key after another up,
keeps what is not blank, and ends where a key is absent.  It has no bound of its own.  Each lookup
but the last one finds an entry of the map that no other lookup finds, so there is at most one
lookup more than entries.  What the loop reads are the values under the indices before the first one
that is absent, without a look at anything behind the gap or under other keys.

Main definitions:

* `ProfileLayers.IndexScan`, `ProfileLayers.IndexScan.next?` — what the loop has come to, and one
  lookup;
* `ProfileLayers.IndexScan.Ends` — the loop as it is, with the number of its lookups.

Main results:

* `ProfileLayers.IndexScan.ends_iff` — where the loop ends, and after how many lookups;
* `ProfileLayers.PropertyMap.exists_contiguous_values` — the values before the first gap;
* `ProfileLayers.indexed_list_reads_contiguous_run` — **the loop ends, and the list is what stands
  before the first gap**.
-/

import Mathlib.Order.Bounds.Basic
import ProfileLayers.Proofs.CommaList
import ProfileLayers.Proofs.IndexedList

set_option relaxedAutoImplicit false
set_option autoImplicit false

namespace ProfileLayers

/-! ### The loop -/

/-- What the loop over the indices has come to. -/
structure IndexScan where
  /-- The index that is looked up next. -/
  index : Nat
  /-- The tokens so far. -/
  tokens : List String
deriving Repr, DecidableEq, Inhabited

namespace IndexScan

/-- Before the first lookup. -/
def start : IndexScan := ⟨0, []⟩

/-- One lookup, after which the loop goes on if the key is present. -/
def next? (m : PropertyMap) (key : String) (s : IndexScan) : Option IndexScan :=
  (m.get? (indexedKey key s.index)).map fun value =>
    let token := trim value.text
    ⟨s.index + 1, if token = "" then s.tokens else s.tokens ++ [token]⟩

/-- The loop from a state on, with the number of its lookups and the state in which it ends: a
lookup of an absent key is the last one. -/
inductive Ends (m : PropertyMap) (key : String) : IndexScan → Nat → IndexScan → Prop where
  | last {s : IndexScan} (habsent : s.next? m key = none) : Ends m key s 1 s
  | again {s next final : IndexScan} {lookups : Nat} (hnext : s.next? m key = some next)
      (hlater : Ends m key next lookups final) : Ends m key s (lookups + 1) final

variable {m : PropertyMap} {key : String}

/-- The loop can be gone through in one way only. -/
theorem Ends.unique {s final other : IndexScan} {lookups count : Nat}
    (h : Ends m key s lookups final) (hother : Ends m key s count other) :
    lookups = count ∧ final = other := by
  induction h generalizing count with
  | last habsent =>
      cases hother with
      | last => exact ⟨rfl, rfl⟩
      | again hnext =>
          rw [habsent] at hnext
          cases hnext
  | again hnext _ ih =>
      cases hother with
      | last habsent =>
          rw [habsent] at hnext
          cases hnext
      | again hnext' hlater' =>
          rw [hnext] at hnext'
          cases hnext'
          obtain ⟨rfl, rfl⟩ := ih hlater'
          exact ⟨rfl, rfl⟩

/-- One lookup of a present key goes on behind it with the tokens of its value. -/
theorem next?_of_get? {index : Nat} {value : Value} (tokens : List String)
    (h : m.get? (indexedKey key index) = some value) :
    next? m key ⟨index, tokens⟩ = some ⟨index + 1, tokens ++ tokensOfValues [value]⟩ := by
  rw [next?, h]
  by_cases hblank : trim value.text = "" <;> simp [tokensOfValues, hblank]

/-- If the values under the indices up to a gap are those of a list, the loop goes through them from
any index on, with one lookup for each and one for the gap. -/
theorem ends_of_values (values : List Value)
    (h : ∀ i ≤ values.length, m.get? (indexedKey key i) = values[i]?) (before rest : List Value)
    (hvalues : before ++ rest = values) (tokens : List String) :
    Ends m key ⟨before.length, tokens⟩ (rest.length + 1)
      ⟨values.length, tokens ++ tokensOfValues rest⟩ := by
  induction rest generalizing before tokens with
  | nil =>
      rw [List.append_nil] at hvalues
      subst hvalues
      have habsent : next? m key ⟨before.length, tokens⟩ = none := by
        rw [next?, h _ (Nat.le_refl _), List.getElem?_eq_none (Nat.le_refl _), Option.map_none]
      have htokens : tokens ++ tokensOfValues [] = tokens := List.append_nil tokens
      rw [htokens]
      exact .last habsent
  | cons value rest ih =>
      subst hvalues
      have hvalue : m.get? (indexedKey key before.length) = some value := by
        rw [h _ (by simp), List.getElem?_append_right (Nat.le_refl _), Nat.sub_self,
          List.getElem?_cons_zero]
      have htokens : tokens ++ tokensOfValues (value :: rest) =
          (tokens ++ tokensOfValues [value]) ++ tokensOfValues rest := by
        rw [List.append_assoc, tokensOfValues, tokensOfValues, tokensOfValues,
          ← List.filter_append, ← List.map_append, ← List.map_append, List.singleton_append]
      have hlater := ih (before ++ [value]) (by simp) (tokens ++ tokensOfValues [value])
      rw [List.length_append, List.length_singleton] at hlater
      rw [htokens]
      exact .again (next?_of_get? tokens hvalue) hlater

/-- The loop ends at the gap, after one lookup for each value before it and one more. -/
theorem ends_iff (values : List Value)
    (h : ∀ i ≤ values.length, m.get? (indexedKey key i) = values[i]?) (lookups : Nat)
    (final : IndexScan) :
    Ends m key start lookups final ↔
      lookups = values.length + 1 ∧ final = ⟨values.length, tokensOfValues values⟩ := by
  have hends : Ends m key start (values.length + 1) ⟨values.length, tokensOfValues values⟩ :=
    ends_of_values values h [] values rfl []
  constructor
  · exact fun hother => hother.unique hends
  · rintro ⟨rfl, rfl⟩
    exact hends

end IndexScan

/-! ### The values before the first gap -/

theorem PropertyMap.get?_indexedKey_eq_none_iff (m : PropertyMap) (key : String) (i : Nat) :
    m.get? (indexedKey key i) = none ↔ indexedKey key i ∉ m.keys := by
  rw [m.get?_of_ne _ (indexedKey_ne_empty key i), m.find?_eq_none_iff]

/-- The first index without an item ends a list of values, which are those under the indices before
it. -/
theorem PropertyMap.exists_contiguous_values (m : PropertyMap) (key : String) :
    ∃ values : List Value, IsLeast {i | indexedKey key i ∉ m.keys} values.length ∧
      ∀ i ≤ values.length, m.get? (indexedKey key i) = values[i]? := by
  refine ⟨(List.range (m.itemCount key)).map fun i =>
    (m.get? (indexedKey key i)).getD .null, ?_, ?_⟩
  · rw [List.length_map, List.length_range]
    refine ⟨(m.get?_indexedKey_eq_none_iff key _).1 (m.get?_itemCount key), fun i hi => ?_⟩
    by_contra hlt
    exact m.get?_ne_none_of_lt_itemCount key i (Nat.lt_of_not_le hlt)
      ((m.get?_indexedKey_eq_none_iff key i).2 hi)
  · intro i hi
    rw [List.length_map, List.length_range] at hi
    rcases Nat.lt_or_eq_of_le hi with hlt | rfl
    · obtain ⟨value, hvalue⟩ :=
        Option.ne_none_iff_exists'.1 (m.get?_ne_none_of_lt_itemCount key i hlt)
      simp [hvalue, hlt]
    · simp [m.get?_itemCount key]

/-- **The loop over the indices ends, and the list is what stands before the first gap.**  Let a key
be absent itself.  There are values under the indices before the least one that is absent; the loop
ends, in one way only, after one lookup for each of them and one more, which is at most one more
than there are entries.  There is no list if there is no value, and else its items are the trimmed
texts of the values in order, except for blank ones: no item is blank or has blanks around it.  A
map with the same values under these indices has the same list, whatever else it holds, and so has a
map with the same entries in another order. -/
theorem indexed_list_reads_contiguous_run (m : PropertyMap) (key : String)
    (hkey : m.get? key = none) :
    ∃ values : List Value,
      IsLeast {i | indexedKey key i ∉ m.keys} values.length ∧
      (∀ i ≤ values.length, m.get? (indexedKey key i) = values[i]?) ∧
      (∀ lookups final, IndexScan.Ends m key .start lookups final ↔
        lookups = values.length + 1 ∧ final = ⟨values.length, tokensOfValues values⟩) ∧
      values.length + 1 ≤ m.size + 1 ∧
      (values.length = 0 → bindList? m key = none) ∧
      (values.length ≠ 0 → bindList? m key =
        some ⟨tokensOfValues values, joinList (tokensOfValues values)⟩) ∧
      (∀ token ∈ tokensOfValues values, isBlankText token = false ∧ trim token = token) ∧
      (∀ other : PropertyMap, other.get? key = none →
        (∀ i ≤ values.length, other.get? (indexedKey key i) = m.get? (indexedKey key i)) →
        bindList? other key = bindList? m key) ∧
      ∀ other : PropertyMap, other.entries.Perm m.entries →
        bindList? other key = bindList? m key := by
  obtain ⟨values, hleast, hvalues⟩ := m.exists_contiguous_values key
  have hbound := bindList?_of_indexed m key values hkey hvalues
  have hsize : values.length ≤ m.size := by
    rw [← itemCount_eq_length m key values hvalues]
    exact m.itemCount_le_size key
  refine ⟨values, hleast, hvalues, IndexScan.ends_iff values hvalues, Nat.succ_le_succ hsize,
    ?_, ?_, ?_, ?_, ?_⟩
  · intro hnone
    rw [hbound, if_pos (List.length_eq_zero_iff.1 hnone)]
  · intro hsome
    rw [hbound, if_neg (mt List.length_eq_zero_iff.2 hsome)]
  · intro token htoken
    have hitem := isToken_of_mem_filter_trim (values.map Value.text) token htoken
    exact ⟨hitem.not_isBlankText, hitem.trim_eq⟩
  · intro other hother hsame
    rw [hbound]
    exact bindList?_of_indexed other key values hother fun i hi =>
      (hsame i hi).trans (hvalues i hi)
  · intro other hperm
    have hget := fun k => PropertyMap.get?_congr_of_perm other m hperm k
    exact bindList?_congr other m key (hget key) fun i => hget (indexedKey key i)

/-- Included profiles under four indices in another order, with one of them missing and one
blank. -/
def gappedIncludes : PropertyMap :=
  .ofList [("spring.profiles.include[2]", .str "c"), ("spring.profiles.include[4]", .str "e"),
    ("spring.profiles.include[0]", .str " a "), ("name", .int 1),
    ("spring.profiles.include[1]", .str "\t")]

/-- The included profiles are read by four lookups, up to the missing index. -/
theorem gappedIncludes_read_contiguous_run :
    gappedIncludes.get? includeKey = none ∧
      bindList? gappedIncludes includeKey = some ⟨["a", "c"], "a,c"⟩ ∧
      ∀ lookups final, IndexScan.Ends gappedIncludes includeKey .start lookups final →
        lookups = 4 ∧ final.index = 3 := by
  have habsent : gappedIncludes.get? includeKey = none := by decide +kernel
  obtain ⟨values, hleast, -, hends, -⟩ :=
    indexed_list_reads_contiguous_run gappedIncludes includeKey habsent
  have hgap : IsLeast {i | indexedKey includeKey i ∉ gappedIncludes.keys} 3 := by
    refine ⟨by decide +kernel, fun i hi => Nat.le_of_not_lt fun hlt => hi ?_⟩
    have hpresent : ∀ j < 3, indexedKey includeKey j ∈ gappedIncludes.keys := by decide +kernel
    exact hpresent i hlt
  have hlength : values.length = 3 := hleast.unique hgap
  refine ⟨habsent, by decide +kernel, fun lookups final h => ?_⟩
  obtain ⟨rfl, rfl⟩ := (hends lookups final).1 h
  exact ⟨congrArg (· + 1) hlength, hlength⟩

end ProfileLayers
