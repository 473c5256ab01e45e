/-
**Writing JSON.**

The text is compact: nothing but the tokens, and the members of an object in the order of the map.

Main definitions:

* `ProfileLayers.Json.writeValue`, `ProfileLayers.Json.writeMembers`,
  `ProfileLayers.Json.writeMap` — values, members and maps as characters;
* `ProfileLayers.Value.json`, `ProfileLayers.PropertyMap.json` — the texts.
-/

import ProfileLayers.Json.Quoting
import ProfileLayers.PropertyMap

set_option relaxedAutoImplicit false
set_option autoImplicit false

namespace ProfileLayers

namespace Json

/-- JSON has no infinities; powers of ten from `10 ^ -5` to `10 ^ 15` are written with a point. -/
def jsonNumbers : NumberLayout where
  leastPositional := some (-5)
  leastScientific := 16
  exponentSign := "+"
  tie := .even
  infinity := "null"
  negativeInfinity := "null"
  nan := "null"

/-- The characters of a value. -/
def writeValue : Value → List Char
  | .null => "null".toList
  | .bool b => (if b then "true" else "false").toList
  | .int i => i.toInt.repr.toList
  | .float x => (jsonNumbers.write x).toList
  | .str s => quote s

/-- The characters of one member. -/
def writeMember (key : String) (value : Value) : List Char :=
  quote key ++ ':' :: writeValue value

/-- The members with commas between them. -/
def writeMembers : List (String × Value) → List Char
  | [] => []
  | [(key, value)] => writeMember key value
  | (key, value) :: members => writeMember key value ++ ',' :: writeMembers members

/-- The object with these members. -/
def writeMap (members : List (String × Value)) : List Char :=
  '\x7b' :: (writeMembers members ++ ['\x7d'])

end Json

/-- The JSON text of a value. -/
def Value.json (v : Value) : String := String.ofList (Json.writeValue v)

/-- The JSON text of a map. -/
def PropertyMap.json (m : PropertyMap) : String := String.ofList (Json.writeMap m.entries)

end ProfileLayers
