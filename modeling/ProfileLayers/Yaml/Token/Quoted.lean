/-
**Quoted scalars.**

Between single quotes a doubled quote stands for one; between double quotes a backslash begins an
escape.  Line breaks are folded in both, and an escaped line break is read as nothing.

Main definitions:

* `ProfileLayers.Yaml.escape?`, `ProfileLayers.Yaml.escapeDigits?` — what follows a backslash;
* `ProfileLayers.Yaml.scanQuoted` — reading one, after the opening quote.
-/

import ProfileLayers.Number.Digits
import ProfileLayers.Yaml.Fault
import ProfileLayers.Yaml.Position
import ProfileLayers.Yaml.Token.Fold

set_option relaxedAutoImplicit false
set_option autoImplicit false

namespace ProfileLayers.Yaml

/-- The character that a one-letter escape stands for. -/
def escape? (c : Char) : Option Char :=
  match c with
  | '0' => some (Char.ofNat 0x00)
  | 'a' => some (Char.ofNat 0x07)
  | 'b' => some (Char.ofNat 0x08)
  | 't' => some '\t'
  | '\t' => some '\t'
  | 'n' => some '\n'
  | 'v' => some (Char.ofNat 0x0B)
  | 'f' => some (Char.ofNat 0x0C)
  | 'r' => some '\r'
  | 'e' => some (Char.ofNat 0x1B)
  | ' ' => some ' '
  | '\x22' => some '\x22'
  | '/' => some '/'
  | '\\' => some '\\'
  | 'N' => some (Char.ofNat 0x85)
  | '_' => some (Char.ofNat 0xA0)
  | 'L' => some (Char.ofNat 0x2028)
  | 'P' => some (Char.ofNat 0x2029)
  | _ => none

/-- How many hexadecimal digits follow the letter of a numeric escape. -/
def escapeDigits? (c : Char) : Option Nat :=
  match c with
  | 'x' => some 2
  | 'u' => some 4
  | 'U' => some 8
  | _ => none

/-- Reads on.  `code` is what is known of a numeric escape: the digits still to come after the next
one, and the value so far.  `out` is the text so far, last character first. -/
def scanQuotedFrom (single : Bool) :
    List Placed → Option (Nat × Nat) → Spacing → List Char →
      Except Fault (List Char × List Placed)
  | [], _, _, _ => .error .unclosedQuote
  | q :: qs, some (left, value), spacing, out =>
      match hexDigit? q.char with
      | none => .error .badEscape
      | some digit =>
          match left with
          | left + 1 => scanQuotedFrom single qs (some (left, 16 * value + digit)) spacing out
          | 0 =>
              match charOfNumber? (16 * value + digit) with
              | none => .error .badEscape
              | some c => scanQuotedFrom single qs none .none (c :: out)
  | q :: qs, none, spacing, out =>
      if isGap q.char then scanQuotedFrom single qs none (spacing.addGap q.char) out
      else if isBreak q.char then
        if q.isHalfBreak qs then scanQuotedFrom single qs none spacing out
        else scanQuotedFrom single qs none (spacing.addBreak q.char) out
      else if Placed.atDocumentMarker (q :: qs) then .error .unclosedQuote
      else
        let out := spacing.text.reverse ++ out
        if q.char == (if single then '\x27' else '\x22') then
          match qs with
          | r :: rs =>
              if single && r.char == '\x27' then
                scanQuotedFrom single rs none .none ('\x27' :: out)
              else .ok (out.reverse, qs)
          | [] => .ok (out.reverse, qs)
        else if !single && q.char == '\\' then
          match qs with
          | [] => .error .badEscape
          | r :: rs =>
              if isBreak r.char then
                match rs with
                | t :: ts =>
                    if r.char == '\r' && t.char == '\n' then
                      scanQuotedFrom single ts none .escaped out
                    else scanQuotedFrom single (t :: ts) none .escaped out
                | [] => .error .unclosedQuote
              else
                match escape? r.char, escapeDigits? r.char with
                | some c, _ => scanQuotedFrom single rs none .none (c :: out)
                | none, some (n + 1) => scanQuotedFrom single rs (some (n, 0)) .none out
                | none, _ => .error .badEscape
        else scanQuotedFrom single qs none .none (q.char :: out)

/-- Reads a quoted scalar whose opening quote was just consumed. -/
def scanQuoted (single : Bool) (qs : List Placed) : Except Fault (List Char × List Placed) :=
  scanQuotedFrom single qs none .none []

end ProfileLayers.Yaml
