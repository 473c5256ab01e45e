/-
**Quoted strings of JSON.**

A string stands between double quotes.  Quotes, backslashes and control characters are written as
escapes, and nothing else is.  Reading accepts more than writing produces: any character may be
written by its number, one outside the basic plane by two.

Main definitions:

* `ProfileLayers.Json.encode` — the characters between the quotes;
* `ProfileLayers.Json.quote` — a string with its quotes;
* `ProfileLayers.Json.decode` — reading a string after its opening quote;
* `ProfileLayers.Json.skipString` — passing over one without reading it.

Main results:

* `ProfileLayers.Json.decode_encode` — what is written is read back.
-/

import ProfileLayers.Number.Digits

set_option relaxedAutoImplicit false
set_option autoImplicit false

namespace ProfileLayers.Json

/-! ### Writing -/

/-- The hexadecimal digit of a value below sixteen. -/
def hexChar (n : Nat) : Char := Nat.digitChar n

/-- What a character is written as. -/
def encodeChar (c : Char) : List Char :=
  match c with
  | '\x22' => ['\\', '\x22']
  | '\\' => ['\\', '\\']
  | '\x08' => ['\\', 'b']
  | '\x0c' => ['\\', 'f']
  | '\n' => ['\\', 'n']
  | '\r' => ['\\', 'r']
  | '\t' => ['\\', 't']
  | c =>
      if c.toNat < 0x20 then ['\\', 'u', '0', '0', hexChar (c.toNat / 16), hexChar (c.toNat % 16)]
      else [c]

/-- What characters are written as. -/
def encode (cs : List Char) : List Char := cs.flatMap encodeChar

/-- A string between its quotes. -/
def quote (s : String) : List Char := '\x22' :: (encode s.toList ++ ['\x22'])

/-! ### Reading -/

/-- The character that a one-letter escape stands for. -/
def escape? (c : Char) : Option Char :=
  match c with
  | '\x22' => some '\x22'
  | '\\' => some '\\'
  | '/' => some '/'
  | 'b' => some '\x08'
  | 'f' => some '\x0c'
  | 'n' => some '\n'
  | 'r' => some '\r'
  | 't' => some '\t'
  | _ => none

/-- The value of four hexadecimal digits. -/
def fourDigits? (a b c d : Char) : Option Nat := do
  pure (((← hexDigit? a) * 16 + (← hexDigit? b)) * 256 + ((← hexDigit? c) * 16 + (← hexDigit? d)))

/-- The first of two numbers that stand for one character. -/
def isHighHalf (n : Nat) : Bool := 0xD800 ≤ n && n < 0xDC00

/-- The second of two numbers that stand for one character. -/
def isLowHalf (n : Nat) : Bool := 0xDC00 ≤ n && n < 0xE000

/-- Reads a string after its opening quote, up to its closing quote. -/
def decode : List Char → Option (List Char × List Char)
  | [] => none
  | c :: cs =>
      if c = '\x22' then some ([], cs)
      else if c = '\\' then
        match cs with
        | [] => none
        | e :: rest =>
            if e = 'u' then
              match rest with
              | h₁ :: h₂ :: h₃ :: h₄ :: rest =>
                  match fourDigits? h₁ h₂ h₃ h₄ with
                  | none => none
                  | some high =>
                      if isHighHalf high then
                        match rest with
                        | s :: u :: l₁ :: l₂ :: l₃ :: l₄ :: rest =>
                            if s = '\\' ∧ u = 'u' then
                              match fourDigits? l₁ l₂ l₃ l₄ with
                              | none => none
                              | some low =>
                                  if isLowHalf low then do
                                    let c ← charOfNumber?
                                      (0x10000 + (high - 0xD800) * 0x400 + (low - 0xDC00))
                                    let (text, rest) ← decode rest
                                    pure (c :: text, rest)
                                  else none
                            else none
                        | _ => none
                      else do
                        let c ← charOfNumber? high
                        let (text, rest) ← decode rest
                        pure (c :: text, rest)
              | _ => none
            else do
              let c ← escape? e
              let (text, rest) ← decode rest
              pure (c :: text, rest)
      else if c.toNat < 0x20 then none
      else do
        let (text, rest) ← decode cs
        pure (c :: text, rest)

/-- Passes over a string after its opening quote.  Its escapes must be well-formed, but the numbers
in them may stand for no character. -/
def skipString : List Char → Option (List Char)
  | [] => none
  | c :: cs =>
      if c = '\x22' then some cs
      else if c = '\\' then
        match cs with
        | [] => none
        | e :: rest =>
            if e = 'u' then
              match rest with
              | h₁ :: h₂ :: h₃ :: h₄ :: rest =>
                  if (fourDigits? h₁ h₂ h₃ h₄).isSome then skipString rest else none
              | _ => none
            else if (escape? e).isSome then skipString rest
            else none
      else if c.toNat < 0x20 then none
      else skipString cs

/-! ### Reading what was written -/

/-- An escape of one letter is read as its character. -/
theorem decode_escape (e c : Char) (rest : List Char) (h : e ≠ 'u') (he : escape? e = some c) :
    decode ('\\' :: e :: rest) = (decode rest).map fun (text, rest) => (c :: text, rest) := by
  rw [decode.eq_def]
  simp only [h, he, if_false, if_true, Char.reduceEq]
  cases decode rest <;> rfl

/-- An escape with the number of a character is read as that character. -/
theorem decode_number (h₁ h₂ h₃ h₄ c : Char) (rest : List Char)
    (hc : fourDigits? h₁ h₂ h₃ h₄ = some c.toNat) :
    decode ('\\' :: 'u' :: h₁ :: h₂ :: h₃ :: h₄ :: rest) =
      (decode rest).map fun (text, rest) => (c :: text, rest) := by
  have hhigh : isHighHalf c.toNat = false := by
    have hv : c.toNat < 0xD800 ∨ 0xDFFF < c.toNat ∧ c.toNat < 0x110000 := c.valid
    rw [isHighHalf]
    simp only [Bool.and_eq_false_iff, decide_eq_false_iff_not]
    omega
  rw [decode.eq_def]
  simp only [hc, hhigh, charOfNumber?_toNat, if_false, if_true, Char.reduceEq, Bool.false_eq_true]
  cases decode rest <;> rfl

/-- Any other character is read as itself. -/
theorem decode_plain (c : Char) (rest : List Char) (hquote : c ≠ '\x22') (hslash : c ≠ '\\')
    (hlow : ¬ c.toNat < 0x20) :
    decode (c :: rest) = (decode rest).map fun (text, rest) => (c :: text, rest) := by
  rw [decode.eq_def]
  simp only [hquote, hslash, hlow, if_false]
  cases decode rest <;> rfl

theorem decode_encodeChar (c : Char) (rest : List Char) :
    decode (encodeChar c ++ rest) =
      (decode rest).map fun (text, rest) => (c :: text, rest) := by
  unfold encodeChar
  split
  · exact decode_escape _ _ rest (by decide) rfl
  · exact decode_escape _ _ rest (by decide) rfl
  · exact decode_escape _ _ rest (by decide) rfl
  · exact decode_escape _ _ rest (by decide) rfl
  · exact decode_escape _ _ rest (by decide) rfl
  · exact decode_escape _ _ rest (by decide) rfl
  · exact decode_escape _ _ rest (by decide) rfl
  · rename_i hquote hslash _ _ _ _ _
    split
    · rename_i hlow
      apply decode_number
      simp only [fourDigits?, hexChar, hexDigit?_digitChar _ (show c.toNat / 16 < 16 by omega),
        hexDigit?_digitChar _ (show c.toNat % 16 < 16 by omega),
        show hexDigit? '0' = some 0 from rfl]
      simp only [bind, pure, Option.bind]
      congr 1
      omega
    · rename_i hlow
      exact decode_plain c rest (fun h => hquote h) (fun h => hslash h) hlow

/-- What is written is read back, up to the closing quote. -/
theorem decode_encode (cs rest : List Char) :
    decode (encode cs ++ '\x22' :: rest) = some (cs, rest) := by
  induction cs with
  | nil => rw [encode, List.flatMap_nil, List.nil_append, decode.eq_def]; simp
  | cons c cs ih =>
      rw [encode, List.flatMap_cons, List.append_assoc, decode_encodeChar]
      rw [encode] at ih
      rw [ih]
      rfl

end ProfileLayers.Json
