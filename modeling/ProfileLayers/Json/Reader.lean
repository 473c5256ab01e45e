/-
**Reading JSON.**

What is read here is an object whose members are simple values; arrays and objects in their place
are refused.  An integer of 64 bits is an integer, any other number the nearest floating point
number, which must be finite.

Main definitions:

* `ProfileLayers.Json.skipSpace` — passing over white space;
* `ProfileLayers.Json.readNumberText` — a number;
* `ProfileLayers.Json.readValue` — a simple value;
* `ProfileLayers.Json.readMembers`, `ProfileLayers.Json.readMap` — the members of an object;
* `ProfileLayers.Json.skipValue` — passing over any value;
* `ProfileLayers.PropertyMap.ofJson?` — the map of a text.
-/

import ProfileLayers.Json.Quoting
import ProfileLayers.Number.Powers
import ProfileLayers.Number.Reading
import ProfileLayers.PropertyMap

set_option relaxedAutoImplicit false
set_option autoImplicit false

namespace ProfileLayers

namespace Json

/-- White space between tokens. -/
def isSpace (c : Char) : Bool := c == ' ' || c == '\n' || c == '\t' || c == '\r'

/-- What follows the white space. -/
def skipSpace (cs : List Char) : List Char := cs.dropWhile isSpace

/-- What follows the word, if it comes next. -/
def afterWord? : List Char → List Char → Option (List Char)
  | [], cs => some cs
  | w :: word, c :: cs => if w = c then afterWord? word cs else none
  | _ :: _, [] => none

/-- What follows the character, if it comes next after white space. -/
def expect? (c : Char) (cs : List Char) : Option (List Char) := afterWord? [c] (skipSpace cs)

/-! ### Numbers -/

/-- The parts of a number; the fraction and the exponent may be missing. -/
structure NumberText where
  negative : Bool
  whole : List Char
  fraction? : Option (List Char)
  exponent? : Option Int
deriving Repr, DecidableEq, Inhabited

/-- The digits after a point. -/
def readFraction (cs : List Char) : Option (Option (List Char) × List Char) :=
  match cs with
  | '.' :: cs =>
      let (digits, rest) := spanDigits cs
      if digits.isEmpty then none else some (some digits, rest)
  | _ => some (none, cs)

/-- The exponent after its letter. -/
def readExponent (cs : List Char) : Option (Option Int × List Char) :=
  match cs with
  | [] => some (none, [])
  | c :: rest =>
      if c == 'e' || c == 'E' then
        let (negative, rest) := readSign rest
        let (digits, rest) := spanDigits rest
        if digits.isEmpty then none
        else
          let n : Int := Nat.ofDigitChars 10 digits 0
          some (some (if negative then -n else n), rest)
      else some (none, cs)

/-- A number: a zero or digits that begin with none, then a fraction and an exponent. -/
def readNumberText (cs : List Char) : Option (NumberText × List Char) := do
  let (negative, cs) :=
    match cs with
    | '-' :: cs => (true, cs)
    | _ => (false, cs)
  let (whole, rest) := spanDigits cs
  if whole.isEmpty || (whole.head? == some '0' && whole.length != 1) then none
  else
    let (fraction?, rest) ← readFraction rest
    let (exponent?, rest) ← readExponent rest
    pure (⟨negative, whole, fraction?, exponent?⟩, rest)

/-- The value of a number.  A minus sign before a zero makes it a floating point number. -/
def NumberText.value? (n : NumberText) : Option Value :=
  let magnitude := Nat.ofDigitChars 10 n.whole 0
  let i : Int := if n.negative then -(magnitude : Int) else magnitude
  let isInteger := n.fraction?.isNone && n.exponent?.isNone && !(n.negative && magnitude == 0)
  if isInteger && isInt64 i then some (.int (Int64.ofInt i))
  else
    let fraction := n.fraction?.getD []
    let x := Binary64.ofDecimal n.negative (Nat.ofDigitChars 10 (n.whole ++ fraction) 0)
      (n.exponent?.getD 0 - fraction.length)
    match x with
    | .finite .. => some (.float x)
    | _ => none

/-! ### Simple values -/

/-- A value that is no array and no object. -/
def readValue (cs : List Char) : Option (Value × List Char) :=
  match cs with
  | [] => none
  | c :: rest =>
      if c = 'n' then (afterWord? "ull".toList rest).map fun rest => (.null, rest)
      else if c = 't' then (afterWord? "rue".toList rest).map fun rest => (.bool true, rest)
      else if c = 'f' then (afterWord? "alse".toList rest).map fun rest => (.bool false, rest)
      else if c = '\x22' then
        (decode rest).map fun (text, rest) => (.str (String.ofList text), rest)
      else do
        let (number, rest) ← readNumberText cs
        let value ← number.value?
        pure (value, rest)

/-- A string that comes next after white space. -/
def readString (cs : List Char) : Option (String × List Char) := do
  let (text, rest) ← decode (← expect? '\x22' cs)
  pure (String.ofList text, rest)

/-! ### Objects -/

/-- Reads members up to the closing brace.  Each takes a character, so `fuel` above their number
suffices. -/
def readMembers : Nat → List Char → Option (List (String × Value) × List Char)
  | 0, _ => none
  | fuel + 1, cs => do
      let (key, rest) ← readString cs
      let (value, rest) ← readValue (skipSpace (← expect? ':' rest))
      match skipSpace rest with
      | [] => none
      | c :: rest =>
          if c = '\x7d' then pure ([(key, value)], rest)
          else if c = ',' then do
            let (members, rest) ← readMembers fuel rest
            pure ((key, value) :: members, rest)
          else none

/-- Reads an object of simple values that comes next after white space. -/
def readMap (cs : List Char) : Option (List (String × Value) × List Char) := do
  let rest ← expect? '\x7b' cs
  match expect? '\x7d' rest with
  | some rest => pure ([], rest)
  | none => readMembers (rest.length + 1) rest

/-! ### Passing over values -/

mutual

/-- Passes over a value that comes next after white space. -/
def skipValue : Nat → List Char → Option (List Char)
  | 0, _ => none
  | fuel + 1, cs =>
      match skipSpace cs with
      | [] => none
      | c :: rest =>
          if c = 'n' then afterWord? "ull".toList rest
          else if c = 't' then afterWord? "rue".toList rest
          else if c = 'f' then afterWord? "alse".toList rest
          else if c = '\x22' then skipString rest
          else if c = '[' then
            match expect? ']' rest with
            | some rest => some rest
            | none => skipItems fuel rest
          else if c = '\x7b' then
            match expect? '\x7d' rest with
            | some rest => some rest
            | none => skipMembers fuel rest
          else (readNumberText (c :: rest)).map Prod.snd

/-- Passes over the items of an array and its closing bracket. -/
def skipItems : Nat → List Char → Option (List Char)
  | 0, _ => none
  | fuel + 1, cs => do
      match skipSpace (← skipValue fuel cs) with
      | [] => none
      | c :: rest =>
          if c = ']' then some rest else if c = ',' then skipItems fuel rest else none

/-- Passes over the members of an object and its closing brace. -/
def skipMembers : Nat → List Char → Option (List Char)
  | 0, _ => none
  | fuel + 1, cs => do
      let rest ← skipString (← expect? '\x22' cs)
      match skipSpace (← skipValue fuel (← expect? ':' rest)) with
      | [] => none
      | c :: rest =>
          if c = '\x7d' then some rest else if c = ',' then skipMembers fuel rest else none

end

end Json

/-- The map of a JSON text: its members are inserted one after another, so the last of several
members with one key gives the value, and the first the place. -/
def PropertyMap.ofJson? (text : String) : Option PropertyMap := do
  let (members, rest) ← Json.readMap text.toList
  if (Json.skipSpace rest).isEmpty then pure (.ofList members) else none

end ProfileLayers
