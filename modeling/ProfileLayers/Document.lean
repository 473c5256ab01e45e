/-
**Documents of a stream.**

A document is what selection needs of a tree: its place among the documents with content, what it
declares about profiles, and its properties without the reserved keys.

Main definitions:

* `ProfileLayers.readDocuments` — the trees of a stream, without empty documents;
* `ProfileLayers.Document`, `ProfileLayers.Document.ofNode` — documents;
* `ProfileLayers.Document.readAll` — the documents of a stream.
-/

import ProfileLayers.Flatten
import ProfileLayers.Profile.Declarations
import ProfileLayers.Yaml.Stream

set_option relaxedAutoImplicit false
set_option autoImplicit false

namespace ProfileLayers

/-! ### Trees -/

/-- The tree is a null. -/
def Yaml.Node.isNull : Yaml.Node → Bool
  | .null => true
  | _ => false

/-- Notices of the nulls among documents that are counted from `index`. -/
def emptyDocuments (source : String) (index : Nat) : List Yaml.Node → List Notice
  | [] => []
  | node :: nodes =>
      let later := emptyDocuments source (index + 1) nodes
      if node.isNull then .emptyDocument index source :: later else later

/-- The trees of a stream, without those that are null. -/
def readDocuments (source text : String) : Report (List Yaml.Node) :=
  let reading := Yaml.readStream text
  ⟨emptyDocuments source 0 reading.documents,
    match reading.fault? with
    | some fault => .error (.ofFault source fault)
    | none => .ok (reading.documents.filter fun node => !node.isNull)⟩

/-! ### Documents -/

/-- A document with content. -/
structure Document where
  /-- Its place among the documents with content. -/
  index : Nat
  declarations : Declarations
  /-- Its properties without the reserved keys. -/
  properties : PropertyMap
deriving Repr, DecidableEq, Inhabited

namespace Document

/-- The profiles the document applies to. -/
def profiles (d : Document) : Expression := d.declarations.appliesTo

/-- The document of a flattened tree. -/
def ofProperties (index : Nat) (properties : PropertyMap) : Document where
  index := index
  declarations := .bind properties
  properties := properties.filterKeys fun key => !isReservedKey key

/-- The document of a tree. -/
def ofNode (source : String) (index : Nat) (node : Yaml.Node) : Report Document := do
  let properties ← flatten source node
  pure (ofProperties index properties)

/-- The documents of trees that are counted from `index`. -/
def ofNodes (source : String) (index : Nat) : List Yaml.Node → Report (List Document)
  | [] => pure []
  | node :: nodes => do
      let document ← ofNode source index node
      let documents ← ofNodes source (index + 1) nodes
      pure (document :: documents)

/-- The documents of a stream: all trees are read before the first is flattened. -/
def readAll (source text : String) : Report (List Document) := do
  let nodes ← readDocuments source text
  ofNodes source 0 nodes

end Document

end ProfileLayers
