/-
**Anchors, tags and directives.**

A tag is a handle and a suffix; the handle is empty when the suffix is the whole tag.  Octets that a
tag writes as percent escapes are kept as the characters of the same number, so that a tag is a list
of octets.  An escaped zero octet ends the part of the tag that it stands in: what is written behind
it must be well formed but says nothing.

Main definitions:

* `ProfileLayers.Yaml.scanAnchor` — the name of an anchor or alias;
* `ProfileLayers.Yaml.scanUri` — the characters of a tag;
* `ProfileLayers.Yaml.untilZero` — the characters that count;
* `ProfileLayers.Yaml.scanTag` — a tag;
* `ProfileLayers.Yaml.scanDirective` — a directive with the rest of its line.
-/

import ProfileLayers.Number.Digits
import ProfileLayers.Yaml.Token
import ProfileLayers.Yaml.Token.Block

set_option relaxedAutoImplicit false
set_option autoImplicit false

namespace ProfileLayers.Yaml

/-- The word that begins here and what follows it. -/
def scanWord (qs : List Placed) : List Char × List Placed :=
  ((qs.takeWhile fun q => isWordChar q.char).map Placed.char,
    qs.dropWhile fun q => isWordChar q.char)

/-! ### Anchors -/

/-- The name after the sign of an anchor or alias.  It is not empty and ends at white space or at
one of a few indicators. -/
def scanAnchor (qs : List Placed) : Except Fault (List Char × List Placed) :=
  let (name, rest) := scanWord qs
  let ended := Placed.endsWord rest ||
    Placed.aheadIs (fun c => "?:,]\x7d%@\x60".toList.contains c) rest
  if name.isEmpty || !ended then .error .badAnchor else .ok (name, rest)

/-! ### Tags -/

/-- How many octets follow this one in the encoding of a character; `none` if none begins with
it. -/
def octetsAfter? (octet : Nat) : Option Nat :=
  if octet < 0x80 then some 0
  else if 0xC0 ≤ octet && octet < 0xE0 then some 1
  else if 0xE0 ≤ octet && octet < 0xF0 then some 2
  else if 0xF0 ≤ octet && octet < 0xF8 then some 3
  else none

/-- Reads the characters of a tag; `due` octets must still follow as percent escapes, and `out` is
the text so far, last character first.  Inside angle brackets some indicators are allowed too. -/
def scanUriFrom (bracketed : Bool) :
    List Placed → Nat → List Char → Except Fault (List Char × List Placed)
  | [], due, out => if due == 0 then .ok (out.reverse, []) else .error .badTag
  | q :: qs, due, out =>
      if q.char == '%' then
        match qs with
        | r :: s :: rest =>
            match hexDigit? r.char, hexDigit? s.char with
            | some high, some low =>
                let octet := 16 * high + low
                let due? :=
                  match due with
                  | 0 => octetsAfter? octet
                  | due + 1 => if 0x80 ≤ octet && octet < 0xC0 then some due else none
                match due? with
                | some due => scanUriFrom bracketed rest due (Char.ofNat octet :: out)
                | none => .error .badTag
            | _, _ => .error .badTag
        | _ => .error .badTag
      else if due != 0 then .error .badTag
      else if isUriChar q.char || (bracketed && ",[]".toList.contains q.char) then
        scanUriFrom bracketed qs 0 (q.char :: out)
      else .ok (out.reverse, q :: qs)

/-- The characters of a tag from here on. -/
def scanUri (bracketed : Bool) (qs : List Placed) : Except Fault (List Char × List Placed) :=
  scanUriFrom bracketed qs 0 []

/-- The characters before the first zero octet, which ends a text. -/
def untilZero (cs : List Char) : List Char := cs.takeWhile fun c => c.toNat != 0

/-- The characters of a tag that count from here on.  Some must be written, and it will do if none
of them counts. -/
def scanUri₁ (bracketed : Bool) (qs : List Placed) : Except Fault (List Char × List Placed) := do
  let (uri, rest) ← scanUri bracketed qs
  if uri.isEmpty then .error .badTag else pure (untilZero uri, rest)

/-- The handle and the suffix of the tag whose exclamation mark was just consumed. -/
def scanTagText (qs : List Placed) : Except Fault (List Char × List Char × List Placed) :=
  if Placed.aheadIs (· == '<') qs then do
    let (uri, rest) ← scanUri₁ true (qs.drop 1)
    if Placed.aheadIs (· == '>') rest then pure ([], uri, rest.drop 1) else .error .badTag
  else
    let (word, rest) := scanWord qs
    if Placed.aheadIs (· == '!') rest then do
      let (suffix, rest) ← scanUri₁ false (rest.drop 1)
      pure ('!' :: (word ++ ['!']), suffix, rest)
    else do
      let (more, rest) ← scanUri false rest
      let suffix := untilZero (word ++ more)
      if suffix.isEmpty then pure ([], ['!'], rest) else pure (['!'], suffix, rest)

/-- The tag whose exclamation mark was just consumed.  White space must follow it, or a comma inside
a flow collection. -/
def scanTag (flow : Bool) (qs : List Placed) : Except Fault (Token × List Placed) := do
  let (handle, suffix, rest) ← scanTagText qs
  if Placed.endsWord rest || (flow && Placed.aheadIs (· == ',') rest) then
    pure (.tag handle suffix, rest)
  else .error .badTag

/-! ### Directives -/

/-- A number of at most nine digits. -/
def scanVersionNumber (qs : List Placed) : Except Fault (Nat × List Placed) :=
  let digits := (qs.takeWhile fun q => q.char.isDigit).map Placed.char
  if digits.isEmpty || 9 < digits.length then .error .badDirective
  else .ok (digits.foldl (fun n c => 10 * n + (c.toNat - '0'.toNat)) 0, qs.drop digits.length)

/-- The two numbers of a version directive. -/
def scanVersion (qs : List Placed) : Except Fault (Token × List Placed) := do
  let (major, rest) ← scanVersionNumber (Placed.skipGap qs)
  if Placed.aheadIs (· == '.') rest then
    let (minor, rest) ← scanVersionNumber (rest.drop 1)
    pure (.version major minor, rest)
  else .error .badDirective

/-- The handle of a tag directive: an exclamation mark, alone or with a word between two. -/
def scanHandle (qs : List Placed) : Except Fault (List Char × List Placed) :=
  if Placed.aheadIs (· == '!') qs then
    let (word, rest) := scanWord (qs.drop 1)
    if Placed.aheadIs (· == '!') rest then .ok ('!' :: (word ++ ['!']), rest.drop 1)
    else if word.isEmpty then .ok (['!'], rest)
    else .error .badDirective
  else .error .badDirective

/-- The handle of a tag directive and what it stands for. -/
def scanTagDirective (qs : List Placed) : Except Fault (Token × List Placed) := do
  let (handle, rest) ← scanHandle (Placed.skipGap qs)
  if Placed.aheadIs isGap rest then
    let (replacement, rest) ← scanUri₁ true (Placed.skipGap rest)
    if Placed.endsWord rest then pure (.tagHandle handle replacement, rest)
    else .error .badDirective
  else .error .badDirective

/-- The directive whose percent sign was just consumed, to the end of its line. -/
def scanDirective (qs : List Placed) : Except Fault (Token × List Placed) := do
  let (name, rest) := scanWord qs
  let (token, rest) ←
    if !Placed.endsWord rest then .error .badDirective
    else if name == "YAML".toList then scanVersion rest
    else if name == "TAG".toList then scanTagDirective rest
    else .error .badDirective
  let rest ← endLine .badDirective rest
  pure (token, rest)

end ProfileLayers.Yaml
