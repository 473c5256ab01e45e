/-
**Property values.**

A property has a null, a truth value, an integer of 64 bits, a floating point number or a text as
its value.

Main definitions:

* `ProfileLayers.Value` — the values;
* `ProfileLayers.Value.text` — a value as the text of a property;
* `ProfileLayers.Value.asBool?`, `ProfileLayers.Value.asInt?`, `ProfileLayers.Value.asNumber?`,
  `ProfileLayers.Value.asText?` — reading a value as one of a kind;
* `ProfileLayers.Value.same` — equality of values, which does not tell the two zeros apart.
-/

import ProfileLayers.Number.Layout

set_option relaxedAutoImplicit false
set_option autoImplicit false

namespace ProfileLayers

/-- The value of a property. -/
inductive Value where
  | null
  | bool (b : Bool)
  | int (i : Int64)
  | float (x : Binary64)
  | str (s : String)
deriving Repr, DecidableEq, Inhabited

/-- Property texts keep the point of a whole number, so that `1.0` is not taken for `1`, and use an
exponent only from `10 ^ 16` on. -/
def propertyNumbers : NumberLayout where
  leastPositional := none
  leastScientific := 16
  exponentSign := ""
  tie := .up
  infinity := "inf"
  negativeInfinity := "-inf"
  nan := "NaN"

namespace Value

/-- A value as the text of a property; a null is empty. -/
def text : Value → String
  | .null => ""
  | .bool b => if b then "true" else "false"
  | .int i => i.toInt.repr
  | .float x => propertyNumbers.write x
  | .str s => s

/-! ### Kinds -/

/-- The value is a null. -/
def isNull : Value → Bool
  | .null => true
  | _ => false

/-- The truth value. -/
def asBool? : Value → Option Bool
  | .bool b => some b
  | _ => none

/-- The integer. -/
def asInt? : Value → Option Int64
  | .int i => some i
  | _ => none

/-- The number; an integer is rounded to a floating point number. -/
def asNumber? : Value → Option Binary64
  | .float x => some x
  | .int i => some (.ofInt i.toInt)
  | _ => none

/-- The text of a text value. -/
def asText? : Value → Option String
  | .str s => some s
  | _ => none

/-! ### Equality -/

/-- Equality of values: of one kind and equal; floating point numbers are compared by value. -/
def same : Value → Value → Bool
  | .float x, .float y => x.same y
  | v, w => v == w

@[simp] theorem text_str (s : String) : text (.str s) = s := rfl

@[simp] theorem text_null : text .null = "" := rfl

end Value

end ProfileLayers
