/-
**Profile declarations of a document.**

Four keys are reserved: the profiles a document applies to, those it activates, those it includes,
and a marker that is only suppressed.  Each can be written as a comma-separated text or as a
sequence, whose items stand under the key followed by their index in brackets.

Main definitions:

* `ProfileLayers.isReservedKey` — the reserved keys, alone or with an index;
* `ProfileLayers.bindList?` — the items under a key in either form;
* `ProfileLayers.Declarations`, `ProfileLayers.Declarations.bind` — all declarations of a map.
-/

import ProfileLayers.Profile.Expression
import ProfileLayers.PropertyMap

set_option relaxedAutoImplicit false
set_option autoImplicit false

namespace ProfileLayers

/-! ### Reserved keys -/

/-- The profiles a document applies to. -/
def profilesKey : String := "spring.profiles"

/-- The profiles a document activates. -/
def activeKey : String := "spring.profiles.active"

/-- The profiles a document adds to whatever is active. -/
def includeKey : String := "spring.profiles.include"

/-- A marker for negated profiles, which nothing reads. -/
def negatedKey : String := "spring.profiles._negated"

/-- All reserved keys. -/
def reservedKeys : List String := [profilesKey, activeKey, includeKey, negatedKey]

/-- Brackets around one or more decimal digits. -/
def isIndexSuffix (cs : List Char) : Bool :=
  match cs with
  | '[' :: rest =>
      rest.getLast? == some ']' && !rest.dropLast.isEmpty && rest.dropLast.all Char.isDigit
  | _ => false

/-- The characters after `front` at the start of a list, if it starts so. -/
def afterFront? : List Char → List Char → Option (List Char)
  | [], cs => some cs
  | c :: front, d :: cs => if c = d then afterFront? front cs else none
  | _ :: _, [] => none

/-- A reserved key, alone or with an index. -/
def isReservedKey (key : String) : Bool :=
  reservedKeys.any fun reserved =>
    (afterFront? reserved.toList key.toList).any fun rest => rest.isEmpty || isIndexSuffix rest

/-! ### Lists under a key -/

/-- A list that was declared under a key, and its text. -/
structure BoundList where
  tokens : List String
  raw : String
deriving Repr, DecidableEq, Inhabited

/-- The key of an item of a sequence. -/
def indexedKey (key : String) (index : Nat) : String := key ++ "[" ++ index.repr ++ "]"

/-- The texts under the indices from `index` on, as long as they are present.  There are no more
items than entries in the map, so the size of the map is fuel enough. -/
def indexedTexts (m : PropertyMap) (key : String) : Nat → Nat → List String
  | 0, _ => []
  | fuel + 1, index =>
      match m.get? (indexedKey key index) with
      | some value => value.text :: indexedTexts m key fuel (index + 1)
      | none => []

/-- The items under a key: of its text if it is present itself, else of the sequence.  Blank items
are dropped in both forms. -/
def bindList? (m : PropertyMap) (key : String) : Option BoundList :=
  match m.get? key with
  | some value => some ⟨splitList value.text, value.text⟩
  | none =>
      match indexedTexts m key (m.size + 1) 0 with
      | [] => none
      | texts =>
          let tokens := (texts.map trim).filter fun t => t != ""
          some ⟨tokens, joinList tokens⟩

/-! ### Declarations -/

/-- What a document declares about profiles. -/
structure Declarations where
  appliesTo : Expression
  active : List String
  included : List String
deriving Repr, DecidableEq, Inhabited

namespace Declarations

/-- The items under a key, none if it is absent. -/
def items (m : PropertyMap) (key : String) : List String :=
  ((bindList? m key).map (·.tokens)).getD []

/-- The expression under a key; its declared text is that of the list. -/
def expression (m : PropertyMap) (key : String) : Expression :=
  match bindList? m key with
  | some bound => { Expression.ofTokens bound.tokens with raw := some bound.raw }
  | none => .none

/-- The declarations of a map. -/
def bind (m : PropertyMap) : Declarations where
  appliesTo := expression m profilesKey
  active := items m activeKey
  included := items m includeKey

end Declarations

end ProfileLayers
