/-
**Sets of profile names in order of activation.**

The order in which profiles are activated decides which of them takes precedence, so a set of active
profiles is a list of names without repetitions.  Adding a name that is present changes nothing.

Main definitions:

* `ProfileLayers.ProfileSet` — the sets;
* `ProfileLayers.ProfileSet.insert`, `ProfileLayers.ProfileSet.insertAll`,
  `ProfileLayers.ProfileSet.erase` — changing a set;
* `ProfileLayers.ProfileSet.add`, `ProfileLayers.ProfileSet.addAll`,
  `ProfileLayers.ProfileSet.remove` — the same, telling whether the set changed;
* `ProfileLayers.ProfileChange`, `ProfileLayers.ProfileSet.after`,
  `ProfileLayers.ProfileSet.answer?` — changes as values, a set after some of them, one after
  another, and what is answered to a change;
* `ProfileLayers.isActiveIn` — membership in a list of active names.

Main results:

* `ProfileLayers.ProfileSet.mem_insertAll` — which names are in a set after adding some;
* `ProfileLayers.ProfileSet.prefix_insertAll` — adding names keeps the ones before in place.
-/

set_option relaxedAutoImplicit false
set_option autoImplicit false

namespace ProfileLayers

/-- A name is active if it is listed. -/
def isActiveIn (active : List String) (profile : String) : Bool := active.any (· == profile)

/-- A set of profile names in order of activation. -/
structure ProfileSet where
  names : List String
  nodup : names.Nodup
deriving DecidableEq

namespace ProfileSet

instance : Repr ProfileSet := ⟨fun s => reprPrec s.names⟩

/-- No profile. -/
def empty : ProfileSet := ⟨[], List.nodup_nil⟩

instance : Inhabited ProfileSet := ⟨empty⟩

instance : Membership String ProfileSet := ⟨fun s p => p ∈ s.names⟩

instance (p : String) (s : ProfileSet) : Decidable (p ∈ s) :=
  inferInstanceAs (Decidable (p ∈ s.names))

/-- The profile is in the set. -/
def contains (s : ProfileSet) (p : String) : Bool := decide (p ∈ s.names)

/-- No profile is active. -/
def isEmpty (s : ProfileSet) : Bool := s.names.isEmpty

/-- The number of profiles. -/
def size (s : ProfileSet) : Nat := s.names.length

/-- Adds a profile at the end unless it is present. -/
def insert (s : ProfileSet) (p : String) : ProfileSet :=
  if h : p ∈ s.names then s
  else
    ⟨s.names ++ [p], by
      rw [List.nodup_append]
      refine ⟨s.nodup, by simp, ?_⟩
      intro a ha b hb
      simp only [List.mem_singleton] at hb
      rintro rfl
      exact h (hb ▸ ha)⟩

/-- Adds profiles one after another. -/
def insertAll (s : ProfileSet) (ps : List String) : ProfileSet := ps.foldl insert s

/-- The set of the profiles, in order of first occurrence. -/
def ofList (ps : List String) : ProfileSet := empty.insertAll ps

/-- Removes a profile; the others keep their order. -/
def erase (s : ProfileSet) (p : String) : ProfileSet :=
  ⟨s.names.filter (· != p), List.Nodup.sublist List.filter_sublist s.nodup⟩

/-! ### Changes that are reported -/

/-- Adds a profile, and tells whether it was new. -/
def add (s : ProfileSet) (p : String) : ProfileSet × Bool := (s.insert p, !s.contains p)

/-- Adds profiles, and tells whether the set grew. -/
def addAll (s : ProfileSet) (ps : List String) : ProfileSet × Bool :=
  let t := s.insertAll ps
  (t, decide (s.size < t.size))

/-- Removes a profile, and tells whether it was present. -/
def remove (s : ProfileSet) (p : String) : ProfileSet × Bool := (s.erase p, s.contains p)

end ProfileSet

/-! ### Runs of changes -/

/-- A change of a set of profiles. -/
inductive ProfileChange where
  | add (profile : String)
  | addAll (profiles : List String)
  | remove (profile : String)
  /-- These profiles take the place of all before. -/
  | set (profiles : List String)
deriving Repr, DecidableEq, Inhabited

namespace ProfileSet

/-- The set after a change. -/
def apply (s : ProfileSet) : ProfileChange → ProfileSet
  | .add p => (s.add p).1
  | .addAll ps => (s.addAll ps).1
  | .remove p => (s.remove p).1
  | .set ps => .ofList ps

/-- The answer to a change: whether the set changed.  To set all profiles is not answered. -/
def answer? (s : ProfileSet) : ProfileChange → Option Bool
  | .add p => some (s.add p).2
  | .addAll ps => some (s.addAll ps).2
  | .remove p => some (s.remove p).2
  | .set _ => none

/-- The set after changes that are made one after another. -/
def after (s : ProfileSet) (changes : List ProfileChange) : ProfileSet := changes.foldl apply s

/-! ### Laws -/

@[ext] theorem ext (s t : ProfileSet) (h : s.names = t.names) : s = t := by
  cases s; cases t; cases h; rfl

theorem mem_def (p : String) (s : ProfileSet) : p ∈ s ↔ p ∈ s.names := Iff.rfl

@[simp] theorem contains_iff (s : ProfileSet) (p : String) : s.contains p = true ↔ p ∈ s := by
  simp [contains, mem_def]

@[simp] theorem names_empty : empty.names = [] := rfl

theorem names_insert (s : ProfileSet) (p : String) :
    (s.insert p).names = if p ∈ s.names then s.names else s.names ++ [p] := by
  unfold insert; split <;> rfl

@[simp] theorem mem_insert (s : ProfileSet) (p q : String) : q ∈ s.insert p ↔ q ∈ s ∨ q = p := by
  rw [mem_def, names_insert, mem_def]
  by_cases h : p ∈ s.names
  · rw [if_pos h]
    exact ⟨Or.inl, fun hq => hq.elim id fun e => e ▸ h⟩
  · simp [h]

@[simp] theorem insertAll_nil (s : ProfileSet) : s.insertAll [] = s := rfl

@[simp] theorem insertAll_cons (s : ProfileSet) (p : String) (ps : List String) :
    s.insertAll (p :: ps) = (s.insert p).insertAll ps := rfl

theorem insertAll_append (s : ProfileSet) (ps qs : List String) :
    s.insertAll (ps ++ qs) = (s.insertAll ps).insertAll qs := by
  simp [insertAll, List.foldl_append]

@[simp] theorem mem_insertAll (s : ProfileSet) (ps : List String) (q : String) :
    q ∈ s.insertAll ps ↔ q ∈ s ∨ q ∈ ps := by
  induction ps generalizing s with
  | nil => simp
  | cons p ps ih => simp [ih, or_assoc]

theorem prefix_insert (s : ProfileSet) (p : String) : s.names <+: (s.insert p).names := by
  rw [names_insert]
  split
  · exact List.prefix_rfl
  · exact List.prefix_append _ _

theorem prefix_insertAll (s : ProfileSet) (ps : List String) :
    s.names <+: (s.insertAll ps).names := by
  induction ps generalizing s with
  | nil => exact List.prefix_rfl
  | cons p ps ih => exact (prefix_insert s p).trans (ih (s.insert p))

end ProfileSet

end ProfileLayers
