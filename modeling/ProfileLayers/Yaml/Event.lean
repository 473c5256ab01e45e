/-
**Events of a YAML stream.**

Events spell a document out as a tree read in order: scalars and aliases, and the beginning and the
end of each collection.

Main definitions:

* `ProfileLayers.Yaml.Event` — the events.
-/

import ProfileLayers.Yaml.Token

set_option relaxedAutoImplicit false
set_option autoImplicit false

namespace ProfileLayers.Yaml

/-- An event.  A collection's tag says nothing about it, so only scalars have one. -/
inductive Event where
  | documentStart
  | documentEnd
  | alias (name : List Char)
  | scalar (anchor? tag? : Option (List Char)) (style : Style) (text : List Char)
  | sequenceStart (anchor? : Option (List Char))
  | sequenceEnd
  | mappingStart (anchor? : Option (List Char))
  | mappingEnd
  | streamEnd
deriving Repr, DecidableEq, Inhabited

/-- The scalar that stands where a node is left out. -/
def Event.missing : Event := .scalar none none .plain []

end ProfileLayers.Yaml
