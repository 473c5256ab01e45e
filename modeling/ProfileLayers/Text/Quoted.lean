/-
**Quoted texts in notices.**

Where a notice shows a text as data it puts it between double quotes, with a backslash before quotes
and backslashes, and writes characters that cannot be seen by letter or number.

Main definitions:

* `ProfileLayers.quoted` — a text between quotes;
* `ProfileLayers.quotedList`, `ProfileLayers.quotedSet` — several of them in brackets or braces;
* `ProfileLayers.quotedOption` — a text that may be missing.
-/

import ProfileLayers.Text.Visible

set_option relaxedAutoImplicit false
set_option autoImplicit false

namespace ProfileLayers

/-- A character inside quotes. -/
def quotedChar (c : Char) : List Char :=
  match c with
  | '\x22' => ['\\', '\x22']
  | '\\' => ['\\', '\\']
  | '\t' => ['\\', 't']
  | '\r' => ['\\', 'r']
  | '\n' => ['\\', 'n']
  | '\x00' => ['\\', '0']
  | c =>
      if isVisible c then [c]
      else ['\\', 'u', '\x7b'] ++ Nat.toDigits 16 c.toNat ++ ['\x7d']

/-- A text between quotes. -/
def quoted (s : String) : String :=
  String.ofList ('\x22' :: (s.toList.flatMap quotedChar ++ ['\x22']))

/-- Quoted texts with commas between them. -/
def quotedItems (items : List String) : String := String.intercalate ", " (items.map quoted)

/-- A list of texts. -/
def quotedList (items : List String) : String := "[" ++ quotedItems items ++ "]"

/-- A set of texts. -/
def quotedSet (items : List String) : String := "\x7b" ++ quotedItems items ++ "\x7d"

/-- A text that may be missing. -/
def quotedOption : Option String → String
  | some s => "Some(" ++ quoted s ++ ")"
  | none => "None"

end ProfileLayers
