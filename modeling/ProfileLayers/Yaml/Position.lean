/-
**Characters with their positions.**

Block structure depends on columns, and whether a scalar can be a mapping key depends on how many
octets and how many lines it reaches over.  Both are functions of the text alone, so every character
is given its position once, and all later scanning is recursion on a list of placed characters.

Main definitions:

* `ProfileLayers.Yaml.Mark` — a position;
* `ProfileLayers.Yaml.Placed`, `ProfileLayers.Yaml.place` — characters with their positions;
* `ProfileLayers.Yaml.Placed.isLineEnd`, `ProfileLayers.Yaml.Placed.endsWord`,
  `ProfileLayers.Yaml.Placed.atDocumentMarker` — questions about what lies ahead;
* `ProfileLayers.Yaml.Placed.isLineMark` — a byte order mark that counts as white space.

Main results:

* `ProfileLayers.Yaml.chars_place` — placing changes no character.
-/

import ProfileLayers.Yaml.Char

set_option relaxedAutoImplicit false
set_option autoImplicit false

namespace ProfileLayers.Yaml

/-- A position in a stream.  All is counted from zero: lines, the characters before it in its line,
and the octets before it in the whole stream. -/
structure Mark where
  /-- The octets that the characters before it take up in UTF-8. -/
  offset : Nat
  line : Nat
  column : Nat
deriving Repr, DecidableEq, Inhabited

/-- The start of a stream. -/
def Mark.start : Mark := ⟨0, 0, 0⟩

/-- The position after the character `c` when `next?` follows it.  A carriage return before a line
feed is part of the same line break, so the line ends with the line feed only. -/
def Mark.past (m : Mark) (c : Char) (next? : Option Char) : Mark :=
  if c == '\r' && next? == some '\n' then ⟨m.offset + c.utf8Size, m.line, m.column⟩
  else if isBreak c then ⟨m.offset + c.utf8Size, m.line + 1, 0⟩
  else ⟨m.offset + c.utf8Size, m.line, m.column + 1⟩

/-- A character and where it stands. -/
structure Placed where
  char : Char
  mark : Mark
deriving Repr, DecidableEq, Inhabited

/-- The characters with their positions, the first one at `m`. -/
def place (m : Mark) : List Char → List Placed
  | [] => []
  | c :: cs => ⟨c, m⟩ :: place (m.past c cs.head?) cs

/-- The position after all the characters, the first one at `m`. -/
def finish (m : Mark) : List Char → Mark
  | [] => m
  | c :: cs => finish (m.past c cs.head?) cs

@[simp] theorem chars_place (m : Mark) (cs : List Char) : (place m cs).map Placed.char = cs := by
  induction cs generalizing m with
  | nil => rfl
  | cons c cs ih => simp [place, ih]

namespace Placed

/-! ### Looking ahead -/

/-- The next character, if any, satisfies `p`. -/
def aheadIs (p : Char → Bool) : List Placed → Bool
  | [] => false
  | q :: _ => p q.char

/-- The stream or the line ends here. -/
def isLineEnd : List Placed → Bool
  | [] => true
  | q :: _ => isBreak q.char

/-- White space, a line break or the end of the stream comes next. -/
def endsWord : List Placed → Bool
  | [] => true
  | q :: _ => isGap q.char || isBreak q.char

/-- Three times the character `c` at the start of a line, then the end of the word. -/
def atMarker (c : Char) : List Placed → Bool
  | q₁ :: q₂ :: q₃ :: rest =>
      q₁.mark.column == 0 && q₁.char == c && q₂.char == c && q₃.char == c && endsWord rest
  | _ => false

/-- A line that begins with one of the two document markers. -/
def atDocumentMarker (qs : List Placed) : Bool := atMarker '-' qs || atMarker '.' qs

/-! ### Skipping -/

/-- What follows the white space of this line. -/
def skipGap (qs : List Placed) : List Placed := qs.dropWhile fun q => isGap q.char

/-- The rest of the stream from the end of this line on. -/
def skipLine (qs : List Placed) : List Placed := qs.dropWhile fun q => !isBreak q.char

/-- What follows one line break. -/
def skipBreak : List Placed → List Placed
  | [] => []
  | q :: qs =>
      match q.char, qs with
      | '\r', r :: rs => if r.char == '\n' then rs else qs
      | c, _ => if isBreak c then qs else q :: qs

/-- A byte order mark at the start of a line.  It is skipped like a space there, and like a space it
takes up a column. -/
def isLineMark (q : Placed) : Bool := q.char == byteOrderMark && q.mark.column == 0

/-- A carriage return that belongs to the line feed after it. -/
def isHalfBreak (q : Placed) (qs : List Placed) : Bool :=
  q.char == '\r' && aheadIs (· == '\n') qs

end Placed

end ProfileLayers.Yaml
