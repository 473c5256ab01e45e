/-
**Block scalars.**

A block scalar keeps its lines (`|`) or folds them (`>`).  Its header may fix the indentation and
say what becomes of the line breaks at the end; without a number the indentation is that of the
first line with content, and never less than the margin of the enclosing block.

Main definitions:

* `ProfileLayers.Yaml.Chomping`, `ProfileLayers.Yaml.scanBlockHeader` — the header;
* `ProfileLayers.Yaml.BlockText` — the text so far and the line breaks that wait for a next line;
* `ProfileLayers.Yaml.scanBlock` — reading one, after its indicator.
-/

import ProfileLayers.Yaml.Fault
import ProfileLayers.Yaml.Position
import ProfileLayers.Yaml.Token.Fold

set_option relaxedAutoImplicit false
set_option autoImplicit false

namespace ProfileLayers.Yaml

/-! ### The header -/

/-- What becomes of the line breaks at the end: none, one or all are kept. -/
inductive Chomping where
  | strip
  | clip
  | keep
deriving Repr, DecidableEq, Inhabited

/-- The chomping that an indicator asks for. -/
def Chomping.ofChar? (c : Char) : Option Chomping :=
  match c with
  | '+' => some .keep
  | '-' => some .strip
  | _ => none

/-- An indentation number, `0` when there is none; zero itself is refused. -/
def scanIncrement : List Placed → Except Fault (Nat × List Placed)
  | [] => .ok (0, [])
  | q :: qs =>
      if q.char == '0' then .error .badBlockHeader
      else if q.char.isDigit then .ok (q.char.toNat - '0'.toNat, qs)
      else .ok (0, q :: qs)

/-- A chomping indicator, `clip` when there is none. -/
def scanChomping : List Placed → Chomping × List Placed
  | [] => (.clip, [])
  | q :: qs =>
      match Chomping.ofChar? q.char with
      | some chomping => (chomping, qs)
      | none => (.clip, q :: qs)

/-- The rest of a line that may hold only white space and a comment, with its line break. -/
def endLine (fault : Fault) (qs : List Placed) : Except Fault (List Placed) :=
  let rest := Placed.skipGap qs
  let rest := if Placed.aheadIs (· == '#') rest then Placed.skipLine rest else rest
  if Placed.isLineEnd rest then .ok (Placed.skipBreak rest) else .error fault

/-- The two indicators of a header in either order, then the end of its line. -/
def scanBlockHeader (qs : List Placed) : Except Fault (Chomping × Nat × List Placed) := do
  let (chomping, increment, rest) ←
    if Placed.aheadIs (fun c => (Chomping.ofChar? c).isSome) qs then do
      let (chomping, rest) := scanChomping qs
      let (increment, rest) ← scanIncrement rest
      pure (chomping, increment, rest)
    else do
      let (increment, rest) ← scanIncrement qs
      let (chomping, rest) := if increment == 0 then (.clip, rest) else scanChomping rest
      pure (chomping, increment, rest)
  let rest ← endLine .badBlockHeader rest
  pure (chomping, increment, rest)

/-! ### Indentation -/

/-- The widest column reached by the blank lines and the first line with content, the line breaks
before that line, and the rest from its content on. -/
def scanLeadingLines :
    List Placed → Nat → List Char → Except Fault (Nat × List Char × List Placed)
  | [], widest, breaks => .ok (widest, breaks, [])
  | q :: qs, widest, breaks =>
      if q.char == ' ' then scanLeadingLines qs widest breaks
      else
        let widest := max widest q.mark.column
        if q.char == '\t' then .error .tabIndentation
        else if q.isHalfBreak qs then scanLeadingLines qs widest breaks
        else if isBreak q.char then scanLeadingLines qs widest (breaks ++ breakText q.char)
        else .ok (widest, breaks, q :: qs)

/-! ### The lines -/

/-- The text so far, and what the last lines left to be decided by the next one. -/
structure BlockText where
  /-- The text, last character first. -/
  out : List Char
  /-- The last line begins with white space, so it is not folded. -/
  indented : Bool
  /-- The line break that ended the last line. -/
  lineBreak : List Char
  /-- The line breaks of the empty lines after it. -/
  blankLines : List Char
deriving Repr, DecidableEq, Inhabited

/-- Begins a line; `indented` says that it starts with white space. -/
def BlockText.beginLine (literal : Bool) (t : BlockText) (indented : Bool) : BlockText :=
  let joined :=
    if !literal && t.lineBreak == ['\n'] && !t.indented && !indented then
      (if t.blankLines.isEmpty then [' '] else [])
    else t.lineBreak
  ⟨(joined ++ t.blankLines).reverse ++ t.out, indented, [], []⟩

/-- The text with the line breaks that its chomping keeps. -/
def BlockText.close (t : BlockText) : Chomping → List Char
  | .strip => t.out.reverse
  | .clip => t.out.reverse ++ t.lineBreak
  | .keep => t.out.reverse ++ t.lineBreak ++ t.blankLines

/-- Reads lines that are indented by `indent` columns; `inLine` says that the content of a line has
begun. -/
def scanBlockLines (literal : Bool) (indent : Nat) :
    List Placed → Bool → BlockText → Except Fault (BlockText × List Placed)
  | [], _, t => .ok (t, [])
  | q :: qs, true, t =>
      if q.isHalfBreak qs then scanBlockLines literal indent qs true t
      else if isBreak q.char then
        scanBlockLines literal indent qs false { t with lineBreak := breakText q.char }
      else scanBlockLines literal indent qs true { t with out := q.char :: t.out }
  | q :: qs, false, t =>
      if decide (q.mark.column < indent) && q.char == ' ' then
        scanBlockLines literal indent qs false t
      else if decide (q.mark.column < indent) && q.char == '\t' then .error .tabIndentation
      else if q.isHalfBreak qs then scanBlockLines literal indent qs false t
      else if isBreak q.char then
        scanBlockLines literal indent qs false
          { t with blankLines := t.blankLines ++ breakText q.char }
      else if q.mark.column == indent then
        let t := t.beginLine literal (isGap q.char)
        scanBlockLines literal indent qs true { t with out := q.char :: t.out }
      else .ok (t, q :: qs)

/-- Reads a block scalar whose indicator was just consumed; the lines of the enclosing block begin
at `margin`. -/
def scanBlock (literal : Bool) (margin : Nat) (qs : List Placed) :
    Except Fault (List Char × List Placed) := do
  let (chomping, increment, rest) ← scanBlockHeader qs
  let (indent, blankLines, rest) ←
    if increment == 0 then do
      let (widest, blankLines, rest) ← scanLeadingLines rest 0 []
      pure (max (max widest margin) 1, blankLines, rest)
    else pure (margin - 1 + increment, [], rest)
  let (t, rest) ← scanBlockLines literal indent rest false ⟨[], false, [], blankLines⟩
  pure (t.close chomping, rest)

end ProfileLayers.Yaml
