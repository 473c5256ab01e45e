/-
**Resolving scalars.**

A plain scalar is a null, a truth value, an integer, a floating point number or a text, by its
spelling alone.  Integers that need more than 64 bits become the text of their decimal digits, so
that no digit is lost.  A scalar that is quoted is a text, and a tag of the core schema demands the
type it names.

Main definitions:

* `ProfileLayers.Yaml.integer?` — the integers and their spellings;
* `ProfileLayers.Yaml.number?` — the floating point numbers;
* `ProfileLayers.Yaml.Node.ofPlain` — the node of a plain scalar without a tag;
* `ProfileLayers.Yaml.Node.ofScalar` — the node of any scalar.
-/

import ProfileLayers.Number.Powers
import ProfileLayers.Number.Reading
import ProfileLayers.Yaml.Fault
import ProfileLayers.Yaml.Node
import ProfileLayers.Yaml.Token

set_option relaxedAutoImplicit false
set_option autoImplicit false

namespace ProfileLayers.Yaml

/-! ### Nulls and truth values -/

/-- A spelling of null; the empty scalar is none of them. -/
def isNullWord (cs : List Char) : Bool :=
  ["~".toList, "null".toList, "Null".toList, "NULL".toList].contains cs

/-- The truth values and their spellings. -/
def truth? (cs : List Char) : Option Bool :=
  if ["true".toList, "True".toList, "TRUE".toList].contains cs then some true
  else if ["false".toList, "False".toList, "FALSE".toList].contains cs then some false
  else none

/-! ### Integers -/

/-- Digits after a zero, with or without a sign: no number but a text. -/
def isPaddedNumeral (cs : List Char) : Bool :=
  let digits :=
    match cs with
    | '-' :: rest => rest
    | '+' :: rest => rest
    | _ => cs
  match digits with
  | '0' :: rest => !rest.isEmpty && rest.all Char.isDigit
  | _ => false

/-- A natural number without its sign: decimal, or with the letter of its base after a zero. -/
def unsigned? (cs : List Char) : Option Nat :=
  match cs with
  | '0' :: 'x' :: rest => numeral? 16 rest
  | '0' :: 'o' :: rest => numeral? 8 rest
  | '0' :: 'b' :: rest => numeral? 2 rest
  | _ => numeral? 10 cs

/-- An integer, which has at most 128 bits: below `2 ^ 128`, and not below `- 2 ^ 127`. -/
def integer? (cs : List Char) : Option Int :=
  if isPaddedNumeral cs then none
  else
    match cs with
    | '-' :: rest =>
        (unsigned? rest).bind fun n => if n ≤ powerOfTwo 127 then some (-(n : Int)) else none
    | '+' :: rest =>
        (unsigned? rest).bind fun n => if n < powerOfTwo 128 then some (n : Int) else none
    | _ => (unsigned? cs).bind fun n => if n < powerOfTwo 128 then some (n : Int) else none

/-- An integer as a node: the text of its digits if it has more than 64 bits. -/
def Node.ofInteger (i : Int) : Node :=
  if isInt64 i then .int (Int64.ofInt i) else .str i.repr

/-! ### Floating point numbers -/

/-- The floating point numbers and their spellings.  A decimal number that is too large is none. -/
def number? (cs : List Char) : Option Binary64 :=
  let unsigned? : Option (List Char) :=
    match cs with
    | '+' :: '+' :: _ => none
    | '+' :: '-' :: _ => none
    | '+' :: rest => some rest
    | _ => some cs
  unsigned?.bind fun rest =>
    if [".inf".toList, ".Inf".toList, ".INF".toList].contains rest then some (.infinite false)
    else if ["-.inf".toList, "-.Inf".toList, "-.INF".toList].contains cs then
      some (.infinite true)
    else if [".nan".toList, ".NaN".toList, ".NAN".toList].contains cs then some .nan
    else
      match readBinary64? rest with
      | some (.finite negative mantissa exponent) => some (.finite negative mantissa exponent)
      | _ => none

/-! ### Nodes -/

/-- The node of a plain scalar without a tag. -/
def Node.ofPlain (cs : List Char) : Node :=
  if cs.isEmpty || isNullWord cs then .null
  else
    match truth? cs with
    | some b => .bool b
    | none =>
        match integer? cs with
        | some i => .ofInteger i
        | none =>
            match if isPaddedNumeral cs then none else number? cs with
            | some x => .float x
            | none => .str (String.ofList cs)

/-- The tags of the core schema begin so. -/
def coreTag (name : String) : List Char := ("tag:yaml.org,2002:" ++ name).toList

/-- The node of a scalar.  A private tag, which begins with an exclamation mark, says nothing. -/
def Node.ofScalar (tag? : Option (List Char)) (style : Style) (cs : List Char) :
    Except Fault Node :=
  let untagged : Node :=
    match style with
    | .plain => .ofPlain cs
    | .quoted => .str (String.ofList cs)
  let demand (node? : Option Node) : Except Fault Node :=
    match node? with
    | some node => .ok node
    | none => .error .tagMismatch
  match tag? with
  | none => .ok untagged
  | some tag =>
      if tag == coreTag "bool" then demand ((truth? cs).map .bool)
      else if tag == coreTag "int" then demand ((integer? cs).map .ofInteger)
      else if tag == coreTag "float" then demand ((number? cs).map .float)
      else if tag == coreTag "null" then demand (if isNullWord cs then some .null else none)
      else if tag.head? == some '!' then .ok untagged
      else .ok (.str (String.ofList cs))

end ProfileLayers.Yaml
