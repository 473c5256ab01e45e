/-
**Sets of profiles that are shared.**

The surroundings, the loader and the sources it makes each hold a handle to the active profiles.  A
handle is cloned to hand it on, and clones lead to the same set: what is changed through one of them
is read through all.  Handles are numbered in the order in which they are made, and each leads to
one set for good.

Main definitions:

* `ProfileLayers.SharedProfiles` — sets and the handles to them;
* `ProfileLayers.SharedProfiles.create`, `ProfileLayers.SharedProfiles.clone` — making a handle to a
  new set, or to that of another handle;
* `ProfileLayers.SharedProfiles.read?`, `ProfileLayers.SharedProfiles.change` — reading and changing
  a set through a handle;
* `ProfileLayers.HandleStep`, `ProfileLayers.SharedProfiles.after` — these as values, and what is
  there after some of them, one after another.
-/

import ProfileLayers.Profile.Names

set_option relaxedAutoImplicit false
set_option autoImplicit false

namespace ProfileLayers

/-- Sets of profiles, and the handles to them. -/
structure SharedProfiles where
  sets : List ProfileSet
  /-- For each handle the place of its set. -/
  targets : List Nat
  targets_lt : ∀ t ∈ targets, t < sets.length
deriving Repr

namespace SharedProfiles

/-- No set and no handle. -/
def none : SharedProfiles := ⟨[], [], by simp⟩

instance : Inhabited SharedProfiles := ⟨none⟩

/-- The set behind a handle. -/
def read? (s : SharedProfiles) (handle : Nat) : Option ProfileSet :=
  s.targets[handle]?.bind fun t => s.sets[t]?

/-- A new set of these profiles, with the first handle to it. -/
def create (s : SharedProfiles) (profiles : List String) : SharedProfiles where
  sets := s.sets ++ [.ofList profiles]
  targets := s.targets ++ [s.sets.length]
  targets_lt t ht := by
    rw [List.length_append, List.length_singleton]
    rcases List.mem_append.1 ht with ht | ht
    · exact Nat.lt_succ_of_lt (s.targets_lt t ht)
    · exact List.mem_singleton.1 ht ▸ Nat.lt_succ_self _

/-- Another handle to the set of a handle; nothing happens if there is no such handle. -/
def clone (s : SharedProfiles) (handle : Nat) : SharedProfiles where
  sets := s.sets
  targets := s.targets ++ s.targets[handle]?.toList
  targets_lt t ht := by
    rcases List.mem_append.1 ht with ht | ht
    · exact s.targets_lt t ht
    · exact s.targets_lt t (List.mem_of_getElem? (Option.mem_toList.1 ht))

/-- Changes the set behind a handle, and gives the answer; nothing happens if there is no such
handle. -/
def change (s : SharedProfiles) (handle : Nat) (c : ProfileChange) :
    SharedProfiles × Option Bool :=
  match s.targets[handle]? with
  | some t =>
      (⟨s.sets.modify t (·.apply c), s.targets, by simpa using s.targets_lt⟩,
        s.sets[t]?.bind (·.answer? c))
  | Option.none => (s, Option.none)

end SharedProfiles

/-! ### Runs of steps -/

/-- A step that is taken with the handles. -/
inductive HandleStep where
  | create (profiles : List String)
  | clone (handle : Nat)
  | change (handle : Nat) (c : ProfileChange)
deriving Repr, DecidableEq, Inhabited

namespace SharedProfiles

/-- What is there after a step. -/
def take (s : SharedProfiles) : HandleStep → SharedProfiles
  | .create profiles => s.create profiles
  | .clone handle => s.clone handle
  | .change handle c => (s.change handle c).1

/-- What is there after steps that are taken one after another. -/
def after (s : SharedProfiles) (steps : List HandleStep) : SharedProfiles := steps.foldl take s

/-! ### Laws -/

@[simp] theorem sets_create (s : SharedProfiles) (profiles : List String) :
    (s.create profiles).sets = s.sets ++ [.ofList profiles] := rfl

@[simp] theorem targets_create (s : SharedProfiles) (profiles : List String) :
    (s.create profiles).targets = s.targets ++ [s.sets.length] := rfl

@[simp] theorem sets_clone (s : SharedProfiles) (handle : Nat) :
    (s.clone handle).sets = s.sets := rfl

@[simp] theorem targets_clone (s : SharedProfiles) (handle : Nat) :
    (s.clone handle).targets = s.targets ++ s.targets[handle]?.toList := rfl

end SharedProfiles

end ProfileLayers
