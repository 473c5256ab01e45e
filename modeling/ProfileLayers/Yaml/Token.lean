/-
**Tokens of a YAML stream.**

Main definitions:

* `ProfileLayers.Yaml.Style` — how a scalar is written;
* `ProfileLayers.Yaml.Token` — the tokens.

The indentation of block collections appears as opening and closing tokens, so that the structure
of a stream is a matter of tokens alone.
-/

set_option relaxedAutoImplicit false
set_option autoImplicit false

namespace ProfileLayers.Yaml

/-- How a scalar is written: bare, or between quotes or as a block. -/
inductive Style where
  | plain
  | quoted
deriving Repr, DecidableEq, Inhabited

/-- A token.  The list of tokens of a readable stream ends with `streamEnd`. -/
inductive Token where
  | version (major minor : Nat)
  | tagHandle (handle replacement : List Char)
  | documentStart
  | documentEnd
  | blockSequenceStart
  | blockMappingStart
  | blockEnd
  | flowSequenceStart
  | flowSequenceEnd
  | flowMappingStart
  | flowMappingEnd
  | blockEntry
  | flowEntry
  | key
  | value
  | alias (name : List Char)
  | anchor (name : List Char)
  | tag (handle suffix : List Char)
  | scalar (style : Style) (text : List Char)
  | streamEnd
deriving Repr, DecidableEq, Inhabited

end ProfileLayers.Yaml
