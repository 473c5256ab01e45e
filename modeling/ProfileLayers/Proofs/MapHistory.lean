/-
**What a history of changes leaves in a map.**

After a run of insertions and removals, the value of a key and its place in the order come from
different changes.  What counts for a key are its insertions that no later change takes back: the
key is present if there is one, it has the value of the latest one, and it stands where the earliest
one put it.  A removal takes back all insertions of its keys at once, so a key that is inserted
again after it stands behind the keys that stayed; for every other key nothing changes.

Main definitions:

* `ProfileLayers.MapChange.drops`, `ProfileLayers.MapChange.Inserts` — what a change does to a key;
* `ProfileLayers.standing` — the insertions of a key that are not taken back;
* `ProfileLayers.StandsBefore` — the order of keys that a history tells.

Main results:

* `ProfileLayers.mem_standing_concat_iff` — what one more change does to the insertions that count;
* `ProfileLayers.PropertyMap.Remembers.apply`, `ProfileLayers.PropertyMap.Remembers.after` — a map
  goes on telling its history;
* `ProfileLayers.PropertyMap.history_determines_map` — **presence, value and order of keys after
  any run of changes**.
-/

import Mathlib.Order.Lattice.Nat
import Mathlib.Order.Bounds.Basic
import ProfileLayers.PropertyMap

set_option relaxedAutoImplicit false
set_option autoImplicit false

namespace ProfileLayers

namespace MapChange

/-- The change takes the key out of a map, if it is there. -/
def drops : MapChange → String → Bool
  | .insert _ _, _ => false
  | .erase key, k => k == key
  | .filterKeys keep, k => !keep k

/-- The change puts the key into a map. -/
def Inserts (c : MapChange) (key : String) : Prop := ∃ value, c = .insert key value

theorem drops_eq_false_of_inserts {c : MapChange} {key : String} (h : c.Inserts key) (k : String) :
    c.drops k = false := by
  obtain ⟨value, rfl⟩ := h
  rfl

end MapChange

/-! ### One change -/

namespace PropertyMap

variable (m : PropertyMap)

/-- A change that inserts nothing keeps the keys that it does not drop, in their order. -/
theorem keys_apply_of_not_inserts (c : MapChange) (h : ∀ key, ¬ c.Inserts key) :
    (m.apply c).keys = m.keys.filter fun key => !c.drops key := by
  cases c with
  | insert key value => exact absurd ⟨value, rfl⟩ (h key)
  | erase key => exact m.keys_filterKeys _
  | filterKeys keep =>
      have hkeep : (fun key => !(MapChange.filterKeys keep).drops key) = keep :=
        funext fun key => Bool.not_not (keep key)
      rw [hkeep]
      exact m.keys_filterKeys keep

/-- A key that a change neither inserts nor drops has the value it had. -/
theorem find?_apply_of_not_inserts (c : MapChange) (key : String) (h : ¬ c.Inserts key)
    (hkept : c.drops key = false) : (m.apply c).find? key = m.find? key := by
  cases c with
  | insert k value =>
      have hne : k ≠ key := fun heq => h ⟨value, heq ▸ rfl⟩
      exact (m.find?_insert k key value).trans (if_neg hne)
  | erase k =>
      have hkeep : (key != k) = true := by simpa [MapChange.drops, bne] using hkept
      exact (m.find?_filterKeys _ key).trans (if_pos hkeep)
  | filterKeys keep =>
      have hkeep : keep key = true := by simpa [MapChange.drops] using hkept
      exact (m.find?_filterKeys _ key).trans (if_pos hkeep)

/-- The keys after a change: those before it that it does not drop, and the one it inserts. -/
theorem mem_keys_apply_iff (c : MapChange) (key : String) :
    key ∈ (m.apply c).keys ↔ key ∈ m.keys ∧ c.drops key = false ∨ c.Inserts key := by
  by_cases h : c.Inserts key
  · have hinsert := h
    obtain ⟨value, rfl⟩ := hinsert
    exact iff_of_true ((m.mem_keys_insert key key value).2 (.inr rfl)) (.inr h)
  · rw [or_iff_left h, ← isSome_find?_iff, ← isSome_find?_iff]
    cases hdrops : c.drops key with
    | false => rw [m.find?_apply_of_not_inserts c key h hdrops, and_iff_left rfl]
    | true =>
        have hnothing : ∀ k, ¬ c.Inserts k := by
          intro k hk
          rw [MapChange.drops_eq_false_of_inserts hk] at hdrops
          cases hdrops
        rw [isSome_find?_iff, m.keys_apply_of_not_inserts c hnothing]
        simp [hdrops]

end PropertyMap

/-! ### Insertions that count -/

/-- The places in a history where the key is inserted and after which no change drops it. -/
def standing (history : List MapChange) (key : String) : Set Nat :=
  {i | (∃ value, history[i]? = some (.insert key value)) ∧
    ∀ c ∈ history.drop (i + 1), c.drops key = false}

/-- Of two keys, the earliest insertions that count stand in this order. -/
def StandsBefore (history : List MapChange) (key key' : String) : Prop :=
  ∃ i i', IsLeast (standing history key) i ∧ IsLeast (standing history key') i' ∧ i < i'

variable {history : List MapChange} {key : String} {i : Nat}

theorem lt_length_of_mem_standing (h : i ∈ standing history key) : i < history.length := by
  obtain ⟨⟨value, hvalue⟩, -⟩ := h
  exact (List.getElem?_eq_some_iff.1 hvalue).1

theorem bddAbove_standing (history : List MapChange) (key : String) :
    BddAbove (standing history key) :=
  ⟨history.length, fun _ h => Nat.le_of_lt (lt_length_of_mem_standing h)⟩

theorem exists_isLeast_standing (h : (standing history key).Nonempty) :
    ∃ i, IsLeast (standing history key) i :=
  ⟨sInf (standing history key), Nat.sInf_mem h, fun _ hi => Nat.sInf_le hi⟩

theorem exists_isGreatest_standing (h : (standing history key).Nonempty) :
    ∃ i, IsGreatest (standing history key) i :=
  ⟨sSup (standing history key), Nat.sSup_mem h (bddAbove_standing history key),
    fun _ hi => le_csSup (bddAbove_standing history key) hi⟩

/-- **One more change** takes back the insertions of the keys that it drops, and may be one
itself. -/
theorem mem_standing_concat_iff (history : List MapChange) (c : MapChange) (key : String)
    (i : Nat) :
    i ∈ standing (history ++ [c]) key ↔
      i ∈ standing history key ∧ c.drops key = false ∨ i = history.length ∧ c.Inserts key := by
  rcases Nat.lt_trichotomy i history.length with hlt | rfl | hgt
  · have hdrop : (history ++ [c]).drop (i + 1) = history.drop (i + 1) ++ [c] :=
      List.drop_append_of_le_length hlt
    simp only [standing, Set.mem_ofPred_eq, List.getElem?_append_left hlt, hdrop,
      List.forall_mem_append, List.forall_mem_singleton, hlt.ne, false_and, or_false, and_assoc]
  · have hdrop : (history ++ [c]).drop (history.length + 1) = [] :=
      List.drop_eq_nil_of_le (by simp)
    simp [standing, hdrop, MapChange.Inserts]
  · have hnew : i ∉ standing (history ++ [c]) key := by
      intro h
      have hle := lt_length_of_mem_standing h
      rw [List.length_append, List.length_singleton] at hle
      omega
    have hold : i ∉ standing history key :=
      fun h => absurd (lt_length_of_mem_standing h) (by omega)
    simp [hnew, hold, hgt.ne']

theorem nonempty_standing_concat_iff (history : List MapChange) (c : MapChange) (key : String) :
    (standing (history ++ [c]) key).Nonempty ↔
      (standing history key).Nonempty ∧ c.drops key = false ∨ c.Inserts key := by
  simp only [Set.Nonempty, mem_standing_concat_iff, exists_or, exists_and_right, exists_eq,
    true_and]

/-- As long as a key is not dropped, its earliest insertion stays the same. -/
theorem isLeast_standing_concat {c : MapChange} (h : IsLeast (standing history key) i)
    (hkept : c.drops key = false) : IsLeast (standing (history ++ [c]) key) i := by
  constructor
  · exact (mem_standing_concat_iff history c key i).2 (.inl ⟨h.1, hkept⟩)
  · intro j hj
    rcases (mem_standing_concat_iff history c key j).1 hj with ⟨hj, -⟩ | ⟨rfl, -⟩
    · exact h.2 hj
    · exact Nat.le_of_lt (lt_length_of_mem_standing h.1)

/-- A key that is inserted while no insertion of it counts has its earliest insertion there. -/
theorem isLeast_standing_concat_length {c : MapChange} (h : ¬ (standing history key).Nonempty)
    (hinserts : c.Inserts key) : IsLeast (standing (history ++ [c]) key) history.length := by
  constructor
  · exact (mem_standing_concat_iff history c key _).2 (.inr ⟨rfl, hinserts⟩)
  · intro j hj
    rcases (mem_standing_concat_iff history c key j).1 hj with ⟨hj, -⟩ | ⟨rfl, -⟩
    · exact absurd ⟨j, hj⟩ h
    · exact Nat.le_refl _

theorem StandsBefore.concat {key' : String} {c : MapChange} (h : StandsBefore history key key')
    (hkept : c.drops key = false) (hkept' : c.drops key' = false) :
    StandsBefore (history ++ [c]) key key' := by
  obtain ⟨i, i', hi, hi', hlt⟩ := h
  exact ⟨i, i', isLeast_standing_concat hi hkept, isLeast_standing_concat hi' hkept', hlt⟩

/-! ### Runs of changes -/

namespace PropertyMap

/-- A map tells a history: its keys are those with an insertion that counts, they have the values of
the latest ones, and they stand in the order of the earliest ones. -/
structure Remembers (m : PropertyMap) (history : List MapChange) : Prop where
  mem_keys_iff : ∀ key, key ∈ m.keys ↔ (standing history key).Nonempty
  find?_latest : ∀ key i value, IsGreatest (standing history key) i →
    history[i]? = some (.insert key value) → m.find? key = some value
  ordered : m.keys.Pairwise (StandsBefore history)

theorem remembers_empty : empty.Remembers [] := by
  have hnone : ∀ key, ¬ (standing [] key).Nonempty := by
    rintro key ⟨i, ⟨value, hvalue⟩, -⟩
    cases hvalue
  exact ⟨fun key => iff_of_false List.not_mem_nil (hnone key),
    fun key i value h => absurd ⟨i, h.1⟩ (hnone key), List.Pairwise.nil⟩

namespace Remembers

variable {m : PropertyMap}

/-- The value of a key is still the one of the latest insertion after one more change. -/
theorem find?_latest_apply (h : m.Remembers history) (c : MapChange) (key : String) (i : Nat)
    (value : Value) (hi : IsGreatest (standing (history ++ [c]) key) i)
    (hvalue : (history ++ [c])[i]? = some (.insert key value)) :
    (m.apply c).find? key = some value := by
  rcases (mem_standing_concat_iff history c key i).1 hi.1 with ⟨hold, hkept⟩ | ⟨rfl, -⟩
  · have hlt : i < history.length := lt_length_of_mem_standing hold
    -- an insertion of the key by the last change would be a later one
    have hnot : ¬ c.Inserts key := by
      intro hinserts
      have hle := hi.2 ((mem_standing_concat_iff history c key _).2 (.inr ⟨rfl, hinserts⟩))
      omega
    have hgreatest : IsGreatest (standing history key) i :=
      ⟨hold, fun j hj => hi.2 ((mem_standing_concat_iff history c key j).2 (.inl ⟨hj, hkept⟩))⟩
    rw [List.getElem?_append_left hlt] at hvalue
    rw [m.find?_apply_of_not_inserts c key hnot hkept]
    exact h.find?_latest key i value hgreatest hvalue
  · rw [List.getElem?_concat_length, Option.some.injEq] at hvalue
    subst hvalue
    exact (m.find?_insert key key value).trans (if_pos rfl)

/-- The keys still stand in the order of their earliest insertions after one more change. -/
theorem ordered_apply (h : m.Remembers history) (c : MapChange) :
    (m.apply c).keys.Pairwise (StandsBefore (history ++ [c])) := by
  by_cases hinserts : ∃ key, c.Inserts key
  · obtain ⟨key, value, rfl⟩ := hinserts
    have hold : m.keys.Pairwise (StandsBefore (history ++ [.insert key value])) :=
      h.ordered.imp fun hbefore => hbefore.concat rfl rfl
    change (m.insert key value).keys.Pairwise _
    rw [keys_insert]
    split
    · exact hold
    · rename_i hnew
      refine List.pairwise_append.2 ⟨hold, List.pairwise_singleton _ _, ?_⟩
      intro k hk k' hk'
      obtain rfl := List.mem_singleton.1 hk'
      obtain ⟨i, hi⟩ := exists_isLeast_standing ((h.mem_keys_iff k).1 hk)
      exact ⟨i, history.length, isLeast_standing_concat hi rfl,
        isLeast_standing_concat_length (mt (h.mem_keys_iff k').2 hnew) ⟨value, rfl⟩,
        lt_length_of_mem_standing hi.1⟩
  · rw [m.keys_apply_of_not_inserts c fun key hkey => hinserts ⟨key, hkey⟩]
    have hkept : ∀ k ∈ m.keys.filter (fun k => !c.drops k), c.drops k = false := by
      intro k hk
      simpa using (List.mem_filter.1 hk).2
    exact (h.ordered.filter _).imp_of_mem fun hk hk' hbefore =>
      hbefore.concat (hkept _ hk) (hkept _ hk')

/-- **One step**: a map that tells a history tells it with one more change. -/
theorem apply (h : m.Remembers history) (c : MapChange) :
    (m.apply c).Remembers (history ++ [c]) where
  mem_keys_iff key := by
    rw [PropertyMap.mem_keys_apply_iff, nonempty_standing_concat_iff, h.mem_keys_iff]
  find?_latest := h.find?_latest_apply c
  ordered := h.ordered_apply c

/-- A whole run. -/
theorem after (h : m.Remembers history) (changes : List MapChange) :
    (m.after changes).Remembers (history ++ changes) := by
  induction changes generalizing m history with
  | nil => simpa [PropertyMap.after] using h
  | cons c changes ih =>
      rw [List.append_cons]
      exact ih (h.apply c)

end Remembers

/-- A key is found exactly with the value of its latest insertion that counts. -/
theorem Remembers.find?_eq_some_iff {m : PropertyMap} (h : m.Remembers history) (key : String)
    (value : Value) :
    m.find? key = some value ↔
      ∃ i, IsGreatest (standing history key) i ∧ history[i]? = some (.insert key value) := by
  constructor
  · intro hfound
    have hpresent : key ∈ m.keys := by
      rw [← m.isSome_find?_iff, hfound]
      rfl
    obtain ⟨i, hi⟩ := exists_isGreatest_standing ((h.mem_keys_iff key).1 hpresent)
    obtain ⟨latest, hlatest⟩ := hi.1.1
    have hvalue := h.find?_latest key i latest hi hlatest
    rw [hfound, Option.some.injEq] at hvalue
    exact ⟨i, hi, hvalue ▸ hlatest⟩
  · rintro ⟨i, hi, hvalue⟩
    exact h.find?_latest key i value hi hvalue

/-- Collecting pairs is inserting them, as a run of changes. -/
theorem ofList_eq_after (pairs : List (String × Value)) :
    ofList pairs = empty.after (pairs.map fun e => .insert e.1 e.2) := by
  rw [after, List.foldl_map]
  rfl

theorem remembers_after_ofList (pairs : List (String × Value)) (changes : List MapChange) :
    ((ofList pairs).after changes).Remembers
      ((pairs.map fun e => .insert e.1 e.2) ++ changes) := by
  have hstart : (ofList pairs).Remembers (pairs.map fun e => .insert e.1 e.2) := by
    rw [ofList_eq_after]
    exact remembers_empty.after _
  exact hstart.after changes

/-- **A map is determined by its history.**  After any run of changes of a map of pairs, where the
pairs count as insertions: no key occurs twice; a key, unless it is empty, is answered with the
value of its latest insertion that was not taken back, and with nothing if there is none; the keys
stand in the order of their earliest such insertions; and a further removal keeps the other keys in
their order and with their values. -/
theorem history_determines_map (pairs : List (String × Value)) (changes : List MapChange) :
    let history := (pairs.map fun e => MapChange.insert e.1 e.2) ++ changes
    let m := (ofList pairs).after changes
    (m.keys.Nodup ∧ m.keys.length = m.size) ∧
      (∀ key value, m.get? key = some value ↔ key ≠ "" ∧
        ∃ i, IsGreatest (standing history key) i ∧ history[i]? = some (.insert key value)) ∧
      (∀ key, m.get? key = none ↔ key = "" ∨ standing history key = ∅) ∧
      (∀ key, key ∈ m.keys ↔ (standing history key).Nonempty) ∧
      m.keys.Pairwise (StandsBefore history) ∧
      ∀ c : MapChange, (∀ key, ¬ c.Inserts key) →
        (m.apply c).keys = m.keys.filter (fun key => !c.drops key) ∧
          ∀ key, c.drops key = false → (m.apply c).find? key = m.find? key := by
  intro history m
  have hm : m.Remembers history := remembers_after_ofList pairs changes
  refine ⟨⟨m.nodup_keys, m.length_keys⟩, fun key value => ?_, fun key => ?_, hm.mem_keys_iff,
    hm.ordered, fun c hc => ⟨m.keys_apply_of_not_inserts c hc,
      fun key => m.find?_apply_of_not_inserts c key (hc key)⟩⟩
  · by_cases hkey : key = ""
    · simp [hkey]
    · rw [m.get?_of_ne key hkey, and_iff_right hkey, hm.find?_eq_some_iff]
  · by_cases hkey : key = ""
    · simp [hkey]
    · rw [m.get?_of_ne key hkey, or_iff_right hkey, m.find?_eq_none_iff, hm.mem_keys_iff,
        Set.not_nonempty_iff_eq_empty]

/-- Changes of a map of `zeta` and `alpha`: `zeta` is taken out and put in again behind `mid`, which
gets another value in its place, and then only the keys other than `alpha` stay. -/
def reinsertingRun : List MapChange :=
  [.insert "mid" (.int 4), .erase "zeta", .insert "zeta" (.int 5), .insert "mid" (.int 6),
    .filterKeys (· != "alpha")]

/-- The order of the keys is that of the first insertion of `mid` and the second one of `zeta`, and
taking `mid` out leaves `zeta` with its value. -/
theorem reinsertingRun_determines_map :
    let m := (ofList [("zeta", .int 1), ("alpha", .int 2), ("zeta", .int 3)]).after reinsertingRun
    m.keys = ["mid", "zeta"] ∧ m.get? "mid" = some (.int 6) ∧ m.get? "alpha" = none ∧
      (∀ key, ¬ (MapChange.erase "mid").Inserts key) ∧
      (m.apply (.erase "mid")).keys =
        m.keys.filter (fun key => !(MapChange.erase "mid").drops key) ∧
      (m.apply (.erase "mid")).find? "zeta" = m.find? "zeta" := by
  intro m
  obtain ⟨-, -, -, -, -, hremoval⟩ := history_determines_map
    [("zeta", .int 1), ("alpha", .int 2), ("zeta", .int 3)] reinsertingRun
  have hnothing : ∀ key, ¬ (MapChange.erase "mid").Inserts key := by
    rintro key ⟨value, ⟨⟩⟩
  obtain ⟨hkeys, hvalues⟩ := hremoval (.erase "mid") hnothing
  exact ⟨by decide, by decide, by decide, hnothing, hkeys, hvalues "zeta" rfl⟩

end PropertyMap

end ProfileLayers
