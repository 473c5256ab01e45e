/-
**Trees with aliases.**

The events of a document spell a tree out.  Its aliases are resolved only when the whole document is
known: an alias names an anchor by a number, and stands for the node that bears that number in the
end.  The number of an anchor is that of the different names seen before it, so an anchor that is
defined again and then a new one share a number.

Main definitions:

* `ProfileLayers.Yaml.Tree` — trees whose leaves are scalars and aliases;
* `ProfileLayers.Yaml.Builder` — a document that is being read;
* `ProfileLayers.Yaml.Tree.resolveWith`, `ProfileLayers.Yaml.Tree.resolve` — replacing aliases, and
  scalars by their nodes;
* `ProfileLayers.Yaml.Builder.finish` — the node of a document.
-/

import ProfileLayers.Yaml.Event
import ProfileLayers.Yaml.Scalar

set_option relaxedAutoImplicit false
set_option autoImplicit false

namespace ProfileLayers.Yaml

/-- A tree whose leaves are scalars and aliases. -/
inductive Tree where
  | alias (number : Nat)
  | scalar (tag? : Option (List Char)) (style : Style) (text : List Char)
  | seq (items : List Tree)
  | map (entries : List (Tree × Tree))
deriving Repr, Inhabited

/-! ### Building -/

/-- A collection whose end is still to come. -/
structure OpenTree where
  isMap : Bool
  /-- The position of its first event, if it bears an anchor. -/
  anchored? : Option Nat
  /-- The nodes in it so far, last one first. -/
  items : List Tree
deriving Repr, Inhabited

/-- Keys and values in turn, paired. -/
def pairUp : List Tree → List (Tree × Tree)
  | k :: v :: rest => (k, v) :: pairUp rest
  | _ => []

/-- The collection once its end has come. -/
def OpenTree.close (o : OpenTree) : Tree :=
  if o.isMap then .map (pairUp o.items.reverse) else .seq o.items.reverse

/-- A document that is being read. -/
structure Builder where
  /-- The number of events so far. -/
  position : Nat
  /-- The anchor names and their present numbers. -/
  names : List (List Char × Nat)
  /-- The anchor numbers and the positions they stand for, latest first. -/
  anchors : List (Nat × Nat)
  /-- The positions of anchored nodes and the nodes. -/
  anchored : List (Nat × Tree)
  /-- The collections around the next node, innermost first. -/
  unclosed : List OpenTree
  root? : Option Tree
deriving Repr, Inhabited

namespace Builder

/-- Nothing was read. -/
def empty : Builder := ⟨0, [], [], [], [], none⟩

/-- Gives an anchor its number, and the number to the present position. -/
def bindAnchor (b : Builder) : Option (List Char) → Builder
  | none => b
  | some name =>
      let number := b.names.length
      let names := b.names.filter fun entry => entry.1 != name
      { b with
        names := (name, number) :: names
        anchors := (number, b.position) :: b.anchors }

/-- Puts a complete node in its place; `anchored?` is the position where it began if it bears an
anchor. -/
def place (b : Builder) (anchored? : Option Nat) (t : Tree) : Builder :=
  let anchored :=
    match anchored? with
    | some position => (position, t) :: b.anchored
    | none => b.anchored
  match b.unclosed with
  | o :: rest => { b with anchored, unclosed := { o with items := t :: o.items } :: rest }
  | [] => { b with anchored, root? := some t }

/-- Begins a collection. -/
def openTree (b : Builder) (isMap : Bool) (anchor? : Option (List Char)) : Builder :=
  let anchored? := anchor?.map fun _ => b.position
  let b := b.bindAnchor anchor?
  { b with unclosed := ⟨isMap, anchored?, []⟩ :: b.unclosed }

/-- Ends the innermost collection. -/
def closeTree (b : Builder) : Builder :=
  match b.unclosed with
  | o :: rest => { b with unclosed := rest }.place o.anchored? o.close
  | [] => b

/-- Reads an event of a document. -/
def add (b : Builder) (e : Event) : Except Fault Builder := do
  let read : Builder ←
    match e with
    | .alias name =>
        match b.names.lookup name with
        | some number => pure (b.place none (.alias number))
        | none => .error .unknownAnchor
    | .scalar anchor? tag? style text =>
        let anchored? := anchor?.map fun _ => b.position
        pure ((b.bindAnchor anchor?).place anchored? (.scalar tag? style text))
    | .sequenceStart anchor? => pure (b.openTree false anchor?)
    | .mappingStart anchor? => pure (b.openTree true anchor?)
    | .sequenceEnd => pure b.closeTree
    | .mappingEnd => pure b.closeTree
    | _ => pure b
  pure { read with position := b.position + 1 }

/-- The node that an anchor number stands for. -/
def target? (b : Builder) (number : Nat) : Option Tree :=
  (b.anchors.lookup number).bind fun position => b.anchored.lookup position

end Builder

/-! ### Resolving -/

/-- How deeply collections may be nested. -/
def depthLimit : Nat := 128

/-- How many aliases may be followed for each event of a document. -/
def aliasesPerEvent : Nat := 100

/-- The tree behind an alias, or the tree itself; the number of aliases followed so far is counted
against `limit`. -/
def Tree.follow (target? : Nat → Option Tree) (limit followed : Nat) :
    Tree → Except Fault (Tree × Nat)
  | .alias number =>
      if limit ≤ followed then .error .tooManyAliases
      else
        match target? number with
        | some t => .ok (t, followed + 1)
        | none => .error .unknownAnchor
  | t => .ok (t, followed)

/-- How trees are resolved: the aliases followed so far are counted. -/
abbrev Resolver : Type := Tree → StateT Nat (Except Fault) Node

/-- Resolves the key and then the value of an entry. -/
def Resolver.entry (inner : Resolver) (entry : Tree × Tree) :
    StateT Nat (Except Fault) (Node × Node) := do
  let key ← inner entry.1
  let value ← inner entry.2
  pure (key, value)

/-- Resolves one tree, given how the trees in it are resolved; `none` if it must not be a collection
because it is nested too deeply. -/
def Tree.resolveWith (target? : Nat → Option Tree) (limit : Nat) (inner? : Option Resolver) :
    Resolver := fun t followed => do
  let (t, followed) ← t.follow target? limit followed
  match t, inner? with
  | .scalar tag? style text, _ => pure (← Node.ofScalar tag? style text, followed)
  | .alias _, _ => .error .unknownAnchor
  | .seq _, none => .error .tooDeep
  | .map _, none => .error .tooDeep
  | .seq items, some inner =>
      let (nodes, followed) ← (items.mapM inner).run followed
      pure (.seq nodes, followed)
  | .map entries, some inner =>
      let (nodes, followed) ← (entries.mapM inner.entry).run followed
      pure (.map nodes, followed)

/-- Replaces aliases by what they stand for and scalars by their nodes; collections may be nested
`depth` times. -/
def Tree.resolve (target? : Nat → Option Tree) (limit : Nat) : Nat → Resolver
  | 0 => resolveWith target? limit none
  | depth + 1 => resolveWith target? limit (some (resolve target? limit depth))

/-- The node of a document whose events were all read.  A document without any event is null. -/
def Builder.finish (b : Builder) : Except Fault Node :=
  match b.root? with
  | none => .ok .null
  | some t => (t.resolve b.target? (b.position * aliasesPerEvent) depthLimit).run' 0

end ProfileLayers.Yaml
