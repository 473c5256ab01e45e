/-
**Document trees.**

A node is a scalar, a sequence or a mapping.  A mapping keeps all its entries in the order in which
they were written; whether its keys are distinct is not a matter of the tree.

Main definitions:

* `ProfileLayers.Yaml.Node` — the trees;
* `ProfileLayers.Yaml.Node.isScalar` — the leaves.
-/

import ProfileLayers.Number.Binary64

set_option relaxedAutoImplicit false
set_option autoImplicit false

namespace ProfileLayers.Yaml

/-- A document tree. -/
inductive Node where
  | null
  | bool (b : Bool)
  | int (i : Int64)
  | float (x : Binary64)
  | str (s : String)
  | seq (items : List Node)
  | map (entries : List (Node × Node))
deriving Repr, Inhabited

/-- Anything but a collection. -/
def Node.isScalar : Node → Bool
  | .seq _ => false
  | .map _ => false
  | _ => true

end ProfileLayers.Yaml
