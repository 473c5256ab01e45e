/-
**Folding of line breaks inside scalars.**

White space between two pieces of a scalar stands for itself inside a line.  When it holds line
breaks, the white space around them is dropped, a single break is read as a space and further
breaks are kept.

Main definitions:

* `ProfileLayers.Yaml.Spacing` — the white space since the last piece;
* `ProfileLayers.Yaml.Spacing.text` — what it is read as.
-/

import ProfileLayers.Yaml.Char

set_option relaxedAutoImplicit false
set_option autoImplicit false

namespace ProfileLayers.Yaml

/-- The white space since the last piece of a scalar. -/
structure Spacing where
  /-- The white space inside a line; forgotten once a line break is met. -/
  blanks : List Char
  /-- A line break was met, and white space no longer counts. -/
  broken : Bool
  /-- The first line break, as it is read. -/
  first : List Char
  /-- The line breaks after the first. -/
  later : List Char
deriving Repr, DecidableEq, Inhabited

namespace Spacing

/-- No white space. -/
def none : Spacing := ⟨[], false, [], []⟩

/-- The spacing after an escaped line break, which itself is read as nothing. -/
def escaped : Spacing := ⟨[], true, [], []⟩

/-- One more space or tab. -/
def addGap (s : Spacing) (c : Char) : Spacing :=
  if s.broken then s else { s with blanks := s.blanks ++ [c] }

/-- One more line break. -/
def addBreak (s : Spacing) (c : Char) : Spacing :=
  if s.broken then { s with later := s.later ++ breakText c } else ⟨[], true, breakText c, []⟩

/-- There is some white space. -/
def isSome (s : Spacing) : Bool := s.broken || !s.blanks.isEmpty

/-- Two breaks folded: a lone line feed is a space, more breaks lose the first. -/
def fold (first later : List Char) : List Char :=
  if first == ['\n'] then (if later.isEmpty then [' '] else later) else first ++ later

/-- What the white space is read as. -/
def text (s : Spacing) : List Char := if s.broken then fold s.first s.later else s.blanks

@[simp] theorem text_none : none.text = [] := rfl

end Spacing

end ProfileLayers.Yaml
