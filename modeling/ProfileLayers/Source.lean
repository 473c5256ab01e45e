/-
**Property sources.**

A source gives names to properties.  It is a map under a name, a map that can be read only while
none of some profiles is active, or several sources of which an earlier one takes precedence.  What
a source answers depends on the profiles that are active when it is read.

Main definitions:

* `ProfileLayers.Source` — the sources;
* `ProfileLayers.Source.get?`, `ProfileLayers.Source.contains`, `ProfileLayers.Source.keys` —
  reading a source in a state of the active profiles;
* `ProfileLayers.Source.renamed` — the same under another name, made anew part by part;
* `ProfileLayers.Source.parts`, `ProfileLayers.Source.addLast?`, `ProfileLayers.Source.addFirst?` —
  the parts of a composite;
* `ProfileLayers.unionOfKeys` — keys of several sources, each once.

Main results:

* `ProfileLayers.Source.induction` — induction over the parts of a source;
* `ProfileLayers.Source.renamed_name` — a source that is made anew under its own name is the same;
* `ProfileLayers.Source.get?_renamed`, `ProfileLayers.Source.keys_renamed` — a name does not affect
  what is read.
-/

import ProfileLayers.Profile.Declarations
import ProfileLayers.Profile.Names

set_option relaxedAutoImplicit false
set_option autoImplicit false

namespace ProfileLayers

/-- A source of properties. -/
inductive Source where
  | map (name : String) (properties : PropertyMap)
  /-- Can be read only while none of the profiles `vetoes` is active. -/
  | conditional (name : String) (properties : PropertyMap) (vetoes : List String)
  /-- The first part that has a property gives its value. -/
  | composite (name : String) (parts : List Source)
deriving Repr, Inhabited

/-- The keys of several lists, each once, in order of first occurrence. -/
def unionOfKeys (lists : List (List String)) : List String :=
  lists.flatten.foldl (fun keys key => if key ∈ keys then keys else keys ++ [key]) []

/-- None of the profiles is active. -/
def isUnvetoed (active : ProfileSet) (vetoes : List String) : Bool :=
  !vetoes.any active.contains

theorem isUnvetoed_iff (active : ProfileSet) (vetoes : List String) :
    isUnvetoed active vetoes = true ↔ ∀ p ∈ vetoes, p ∉ active := by
  rw [isUnvetoed, Bool.not_eq_true', List.any_eq_false]
  simp only [ProfileSet.contains_iff]

namespace Source

/-- The name of a source. -/
def name : Source → String
  | .map name _ => name
  | .conditional name _ _ => name
  | .composite name _ => name

mutual

/-- The same source under another name; the parts of a composite are made anew. -/
def renamed (s : Source) (name : String) : Source :=
  match s with
  | .map _ properties => .map name properties
  | .conditional _ properties vetoes => .conditional name properties vetoes
  | .composite _ parts => .composite name (madeAnew parts)

/-- Each of several sources under the name that it has. -/
def madeAnew : List Source → List Source
  | [] => []
  | s :: parts => s.renamed s.name :: madeAnew parts

end

/-! ### Parts -/

/-- The parts of a composite, highest precedence first; other sources have none. -/
def parts : Source → List Source
  | .composite _ parts => parts
  | _ => []

/-- Gives a composite one more part, behind the others; other sources take none. -/
def addLast? (s part : Source) : Option Source :=
  match s with
  | .composite name parts => some (.composite name (parts ++ [part]))
  | _ => none

/-- Gives a composite one more part, before the others; other sources take none. -/
def addFirst? (s part : Source) : Option Source :=
  match s with
  | .composite name parts => some (.composite name (part :: parts))
  | _ => none

/-! ### Reading -/

mutual

/-- The value of a property while `active` are active. -/
def get? (active : ProfileSet) (key : String) : Source → Option Value
  | .map _ properties => properties.get? key
  | .conditional _ properties vetoes =>
      if key = activeKey || !isUnvetoed active vetoes then none else properties.get? key
  | .composite _ parts => firstOf? active key parts

/-- The value in the first of several sources that has the property. -/
def firstOf? (active : ProfileSet) (key : String) : List Source → Option Value
  | [] => none
  | s :: parts =>
      match get? active key s with
      | some value => some value
      | none => firstOf? active key parts

end

mutual

/-- The keys that can be read while `active` are active, in order. -/
def keys (active : ProfileSet) : Source → List String
  | .map _ properties => properties.keys
  | .conditional _ properties vetoes =>
      if isUnvetoed active vetoes then properties.keys.filter fun key => key != activeKey else []
  | .composite _ parts => unionOfKeys (keysOfAll active parts)

/-- The keys of each of several sources. -/
def keysOfAll (active : ProfileSet) : List Source → List (List String)
  | [] => []
  | s :: parts => keys active s :: keysOfAll active parts

end

/-- The property can be read while `active` are active. -/
def contains (active : ProfileSet) (key : String) (s : Source) : Bool :=
  (s.get? active key).isSome

/-! ### Induction -/

/-- What holds of maps and of conditional sources, and of a composite if it holds of its parts,
holds of every source. -/
@[elab_as_elim, induction_eliminator]
protected theorem induction {P : Source → Prop}
    (map : ∀ name properties, P (.map name properties))
    (conditional : ∀ name properties vetoes, P (.conditional name properties vetoes))
    (composite : ∀ name parts, (∀ s ∈ parts, P s) → P (.composite name parts)) (s : Source) :
    P s :=
  match s with
  | .map name properties => map name properties
  | .conditional name properties vetoes => conditional name properties vetoes
  | .composite name parts =>
      composite name parts fun s _ => Source.induction map conditional composite s

/-! ### Names -/

@[simp] theorem name_renamed (s : Source) (name : String) : (s.renamed name).name = name := by
  cases s <;> simp [renamed, Source.name]

theorem madeAnew_eq_map (parts : List Source) :
    madeAnew parts = parts.map fun s => s.renamed s.name := by
  induction parts with
  | nil => rfl
  | cons s parts ih => simp [madeAnew, ih]

/-- A source that is made anew under its own name is the same, and so are its parts at any depth. -/
theorem renamed_name (s : Source) : s.renamed s.name = s := by
  induction s with
  | map name properties => rfl
  | conditional name properties vetoes => rfl
  | composite name parts ih =>
      have hparts : madeAnew parts = parts := by
        rw [madeAnew_eq_map, List.map_congr_left ih, List.map_id']
      rw [renamed, hparts]
      rfl

theorem madeAnew_eq_self (parts : List Source) : madeAnew parts = parts := by
  rw [madeAnew_eq_map, List.map_congr_left fun s _ => renamed_name s, List.map_id']

@[simp] theorem parts_renamed (s : Source) (name : String) : (s.renamed name).parts = s.parts := by
  cases s <;> simp [renamed, madeAnew_eq_self, parts]

@[simp] theorem get?_renamed (active : ProfileSet) (key : String) (s : Source) (name : String) :
    (s.renamed name).get? active key = s.get? active key := by
  cases s <;> simp [renamed, madeAnew_eq_self, get?]

@[simp] theorem keys_renamed (active : ProfileSet) (s : Source) (name : String) :
    (s.renamed name).keys active = s.keys active := by
  cases s <;> simp [renamed, madeAnew_eq_self, keys]

/-! ### Several sources -/

theorem firstOf?_eq_findSome? (active : ProfileSet) (key : String) (parts : List Source) :
    firstOf? active key parts = parts.findSome? (get? active key) := by
  induction parts with
  | nil => rfl
  | cons s parts ih =>
      simp only [firstOf?, List.findSome?_cons]
      cases get? active key s <;> simp [ih]

theorem keysOfAll_eq_map (active : ProfileSet) (parts : List Source) :
    keysOfAll active parts = parts.map (keys active) := by
  induction parts with
  | nil => rfl
  | cons s parts ih => simp [keysOfAll, ih]

end Source

end ProfileLayers
