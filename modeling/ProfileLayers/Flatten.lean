/-
**Flattening of document trees.**

A tree becomes a map whose keys are paths: keys of nested mappings are joined by dots, and items of
sequences stand under their index in brackets.  A null and an empty sequence become an empty text,
an empty mapping becomes nothing, and a tree that is no mapping stands under a key of its own.

Keys that are no texts are written in brackets.  Two equal keys in one mapping are an error, whereas
different keys that come to the same path are allowed: the later entry wins, and it is noticed.

Main definitions:

* `ProfileLayers.Yaml.Node.keyText?`, `ProfileLayers.joinPath` — the parts of a path;
* `ProfileLayers.Yaml.Node.leaf` — the value of a node that is no collection;
* `ProfileLayers.Level` — the keys met in one mapping;
* `ProfileLayers.flatten` — flattening a tree.
-/

import ProfileLayers.Notice
import ProfileLayers.PropertyMap
import ProfileLayers.Yaml.Node

set_option relaxedAutoImplicit false
set_option autoImplicit false

namespace ProfileLayers

/-! ### Keys and paths -/

/-- The key of a tree that is no mapping. -/
def documentKey : String := "document"

/-- The value of a node; what has none is an empty text. -/
def Yaml.Node.leaf : Yaml.Node → Value
  | .bool b => .bool b
  | .int i => .int i
  | .float x => .float x
  | .str s => .str s
  | _ => .str ""

/-- The text of a key as a part of a path.  A collection is no key. -/
def Yaml.Node.keyText? : Yaml.Node → Option String
  | .str s => some s
  | .null => some "[null]"
  | .seq _ => none
  | .map _ => none
  | n => some ("[" ++ n.leaf.text ++ "]")

/-- What tells two keys of a mapping apart: whether it is a text, and its text. -/
def Yaml.Node.keyIdentity : Yaml.Node → Bool × String
  | .str s => (true, s)
  | n => (false, n.leaf.text)

/-- A path followed by a key; brackets need no dot before them. -/
def joinPath (path key : String) : String :=
  if path = "" then key
  else if key.toList.head? = some '[' then path ++ key
  else path ++ "." ++ key

/-- A path followed by an index. -/
def itemPath (path : String) (index : Nat) : String := path ++ "[" ++ index.repr ++ "]"

/-! ### The keys of one mapping -/

/-- The keys met so far in one mapping, as they are written and as parts of paths. -/
structure Level where
  identities : List (Bool × String)
  texts : List String
deriving Repr, DecidableEq, Inhabited

/-- No key was met. -/
def Level.empty : Level := ⟨[], []⟩

/-- Meets the key of an entry at `path`, and gives the path of its value. -/
def Level.enter (source path : String) (level : Level) (key : Yaml.Node) :
    Report (String × Level) :=
  match key.keyText? with
  | none => .ofResult (.error (.unsupportedKey source path))
  | some text =>
      let child := joinPath path text
      if key.keyIdentity ∈ level.identities then
        .ofResult (.error (.duplicateKey source child))
      else do
        if text ∈ level.texts then .note [.keysCollide child source]
        pure (child, ⟨key.keyIdentity :: level.identities, text :: level.texts⟩)

/-! ### Flattening -/

mutual

/-- Inserts the leaves of a tree at `path` into a map. -/
def flattenNode (source path : String) (target : PropertyMap) :
    Yaml.Node → Report PropertyMap
  | .map entries => flattenEntries source path .empty target entries
  | .seq [] => pure (target.insert path (.str ""))
  | .seq (item :: items) => flattenItems source path 0 target (item :: items)
  | .null => pure (target.insert path (.str ""))
  | .bool b => pure (target.insert path (.bool b))
  | .int i => pure (target.insert path (.int i))
  | .float x => pure (target.insert path (.float x))
  | .str s => pure (target.insert path (.str s))

/-- Inserts the leaves of the items of a sequence, counted from `index`. -/
def flattenItems (source path : String) (index : Nat) (target : PropertyMap) :
    List Yaml.Node → Report PropertyMap
  | [] => pure target
  | item :: items => do
      let target ← flattenNode source (itemPath path index) target item
      flattenItems source path (index + 1) target items

/-- Inserts the leaves of the entries of a mapping, some of whose keys were met before. -/
def flattenEntries (source path : String) (level : Level) (target : PropertyMap) :
    List (Yaml.Node × Yaml.Node) → Report PropertyMap
  | [] => pure target
  | (key, value) :: entries => do
      let (child, level) ← level.enter source path key
      let target ← flattenNode source child target value
      flattenEntries source path level target entries

end

/-- The map of a document tree. -/
def flatten (source : String) : Yaml.Node → Report PropertyMap
  | .null => pure .empty
  | .map entries => flattenEntries source "" .empty .empty entries
  | node => flattenNode source documentKey .empty node

end ProfileLayers
