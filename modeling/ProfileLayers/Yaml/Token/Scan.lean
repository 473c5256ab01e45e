/-
**From characters to tokens.**

Most tokens begin with a character of their own.  What makes the format hard is that a mapping key
has no sign in front of it: only the colon after a node tells that the node was a key.  The scanner
therefore remembers, for each level of flow collections, the place of the last node that could still
be a key, and puts the tokens that begin the key there once a colon is met.

A node ceases to be a possible key at the end of its line or after 1024 octets.  Where a key is
the only thing that can stand, namely at the margin of a block, losing it that way is a fault.

Main definitions:

* `ProfileLayers.Yaml.Candidate` — a node that may turn out to be a key;
* `ProfileLayers.Yaml.Scanner` — the state between two tokens;
* `ProfileLayers.Yaml.Scanner.next` — scanning one token;
* `ProfileLayers.Yaml.Scanned`, `ProfileLayers.Yaml.scan` — the tokens of a stream, as far as it can
  be read.
-/

import ProfileLayers.Yaml.Token.Plain
import ProfileLayers.Yaml.Token.Quoted
import ProfileLayers.Yaml.Token.Tag

set_option relaxedAutoImplicit false
set_option autoImplicit false

namespace ProfileLayers.Yaml

/-- A node that may turn out to be a mapping key. -/
structure Candidate where
  /-- The number of the node's first token. -/
  number : Nat
  mark : Mark
  /-- Nothing but a key can stand there. -/
  required : Bool
deriving Repr, DecidableEq, Inhabited

/-- A key must end in the line where it begins and within 1024 octets. -/
def Candidate.isStale (c : Candidate) (now : Mark) : Bool :=
  decide (c.mark.line < now.line) || decide (c.mark.offset + 1024 < now.offset)

/-- The state between two tokens. -/
structure Scanner where
  rest : List Placed
  /-- The position after the last character of the stream. -/
  finish : Mark
  /-- The tokens so far, last one first. -/
  emitted : List Token
  /-- The first column that is inside the innermost block collection; zero outside of all. -/
  margin : Nat
  /-- The margins of the enclosing blocks, innermost first. -/
  margins : List Nat
  /-- A node that begins here may be a key. -/
  keyAllowed : Bool
  /-- The candidate of the innermost flow collection, or of the block structure outside of all. -/
  candidate : Option Candidate
  /-- The candidates of the enclosing levels, innermost first. -/
  candidates : List (Option Candidate)
deriving Repr, DecidableEq, Inhabited

namespace Scanner

/-- The state before the first token. -/
def start (cs : List Char) : Scanner :=
  { rest := place .start cs, finish := Yaml.finish .start cs, emitted := [], margin := 0,
    margins := [], keyAllowed := true, candidate := none, candidates := [] }

/-! ### Reading the state -/

/-- Inside a flow collection. -/
def inFlow (s : Scanner) : Bool := !s.candidates.isEmpty

/-- The position of the next character. -/
def mark (s : Scanner) : Mark :=
  match s.rest with
  | q :: _ => q.mark
  | [] => s.finish

/-- The least number of a token that may still turn out to begin a key. -/
def openNumber? (s : Scanner) : Option Nat :=
  (s.candidate :: s.candidates).foldl
    (fun least c => match c, least with
      | none, least => least
      | some c, none => some c.number
      | some c, some n => some (min c.number n)) none

/-! ### Tokens and margins -/

/-- Adds a token. -/
def emit (s : Scanner) (t : Token) : Scanner := { s with emitted := t :: s.emitted }

/-- Adds a token before the one numbered `number`. -/
def emitBefore (s : Scanner) (number : Nat) (t : Token) : Scanner :=
  let newer := s.emitted.length - number
  { s with emitted := s.emitted.take newer ++ t :: s.emitted.drop newer }

/-- Opens a block collection at `column` unless one is open there; `place` adds the opening
token. -/
def openBlock (s : Scanner) (column : Nat) (place : Scanner → Scanner) : Scanner :=
  if s.inFlow || column < s.margin then s
  else { place s with margin := column + 1, margins := s.margin :: s.margins }

/-- How many blocks have their content right of the margin, given the margins, innermost first. -/
def blocksRightOf (limit : Nat) : Nat → List Nat → Nat × Nat × List Nat
  | margin, [] => (0, margin, [])
  | margin, outer :: margins =>
      if limit < margin then
        let (n, result) := blocksRightOf limit outer margins
        (n + 1, result)
      else (0, margin, outer :: margins)

/-- Closes the blocks whose margin is right of `limit`. -/
def closeBlocks (s : Scanner) (limit : Nat) : Scanner :=
  if s.inFlow then s
  else
    let (closed, margin, margins) := blocksRightOf limit s.margin s.margins
    { s with
      emitted := List.replicate closed .blockEnd ++ s.emitted
      margin := margin
      margins := margins }

/-! ### Candidates -/

/-- Forgets the candidates that ended; a required one must not end. -/
def dropStale (s : Scanner) : Except Fault Scanner :=
  let now := s.mark
  let fresh (c : Option Candidate) : Except Fault (Option Candidate) :=
    match c with
    | none => .ok none
    | some c =>
        if c.isStale now then (if c.required then .error .missingColon else .ok none)
        else .ok (some c)
  do
    let candidate ← fresh s.candidate
    let candidates ← s.candidates.mapM fresh
    pure { s with candidate, candidates }

/-- Forgets the innermost candidate; a required one must not be given up. -/
def dropCandidate (s : Scanner) : Except Fault Scanner :=
  match s.candidate with
  | some c => if c.required then .error .missingColon else .ok { s with candidate := none }
  | none => .ok s

/-- A node begins here: it becomes the candidate if a key may stand here. -/
def saveCandidate (s : Scanner) : Except Fault Scanner :=
  if s.keyAllowed then do
    let required := !s.inFlow && s.margin == s.mark.column + 1
    let t ← s.dropCandidate
    pure { t with candidate := some ⟨s.emitted.length, s.mark, required⟩ }
  else .ok s

/-! ### Single tokens -/

/-- The next character is consumed and the token added. -/
def indicator (s : Scanner) (t : Token) : Scanner := { s.emit t with rest := s.rest.drop 1 }

/-- A document marker ends all blocks. -/
def documentMarker (s : Scanner) (t : Token) : Except Fault Scanner := do
  let s ← (s.closeBlocks 0).dropCandidate
  pure { s.emit t with rest := s.rest.drop 3, keyAllowed := false }

/-- A directive ends all blocks. -/
def directive (s : Scanner) : Except Fault Scanner := do
  let s ← (s.closeBlocks 0).dropCandidate
  let (t, rest) ← scanDirective (s.rest.drop 1)
  pure { s.emit t with rest, keyAllowed := false }

/-- The end of the stream ends all blocks. -/
def endStream (s : Scanner) : Except Fault Scanner := do
  let s ← (s.closeBlocks 0).dropCandidate
  pure { s.emit .streamEnd with keyAllowed := false }

/-- A flow collection may be a key, and begins a level of its own. -/
def openFlow (s : Scanner) (t : Token) : Except Fault Scanner := do
  let s ← s.saveCandidate
  pure { s.indicator t with
    candidate := none, candidates := s.candidate :: s.candidates, keyAllowed := true }

/-- The end of a flow collection returns to the level around it, if there is one. -/
def closeFlow (s : Scanner) (t : Token) : Except Fault Scanner := do
  let s ← s.dropCandidate
  let s := { s.indicator t with keyAllowed := false }
  match s.candidates with
  | outer :: candidates => pure { s with candidate := outer, candidates }
  | [] => pure s

/-- A comma. -/
def flowEntry (s : Scanner) : Except Fault Scanner := do
  let s ← s.dropCandidate
  pure { s.indicator .flowEntry with keyAllowed := true }

/-- A block collection may only be opened, and its entries may only begin, where a key could. -/
def requireBlock (s : Scanner) (opening : Token) : Except Fault Scanner :=
  if s.inFlow then .ok s
  else if s.keyAllowed then .ok (s.openBlock s.mark.column (·.emit opening))
  else .error .misplacedIndicator

/-- A dash. -/
def blockEntry (s : Scanner) : Except Fault Scanner := do
  let s ← s.requireBlock .blockSequenceStart
  let s ← s.dropCandidate
  pure { s.indicator .blockEntry with keyAllowed := true }

/-- A question mark. -/
def explicitKey (s : Scanner) : Except Fault Scanner := do
  let s ← s.requireBlock .blockMappingStart
  let s ← s.dropCandidate
  pure { s.indicator .key with keyAllowed := !s.inFlow }

/-- A colon.  If there is a candidate, it was a key: the sign of a key is put before it, and before
that the opening of a mapping if none is open at its column. -/
def value (s : Scanner) : Except Fault Scanner :=
  match s.candidate with
  | some c =>
      let s := s.emitBefore c.number .key
      let s := s.openBlock c.mark.column (·.emitBefore c.number .blockMappingStart)
      .ok { s.indicator .value with candidate := none, keyAllowed := false }
  | none => do
      let s ← s.requireBlock .blockMappingStart
      pure { s.indicator .value with keyAllowed := !s.inFlow }

/-- A node that begins with a property or is a quoted scalar. -/
def node (s : Scanner) (scanNode : List Placed → Except Fault (Token × List Placed)) :
    Except Fault Scanner := do
  let s ← s.saveCandidate
  let (t, rest) ← scanNode (s.rest.drop 1)
  pure { s.emit t with rest, keyAllowed := false }

/-- A plain scalar. -/
def plainScalar (s : Scanner) : Except Fault Scanner := do
  let s ← s.saveCandidate
  let scalar ← scanPlain s.inFlow s.margin s.rest
  pure { s.emit (.scalar .plain scalar.text) with
    rest := scalar.rest, keyAllowed := scalar.broken }

/-- A block scalar. -/
def blockScalar (s : Scanner) (literal : Bool) : Except Fault Scanner := do
  let s ← s.dropCandidate
  let (text, rest) ← scanBlock literal s.margin (s.rest.drop 1)
  pure { s.emit (.scalar .quoted text) with rest, keyAllowed := true }

/-! ### The next token -/

/-- Skips white space, comments and line breaks.  Tabs are white space only where no key may begin;
outside flow collections a key may begin after a line break.  A byte order mark that starts a line
is skipped too, but it takes up a column. -/
def skipSpacing (flow : Bool) : List Placed → Bool → Bool → Bool × List Placed
  | [], keyAllowed, _ => (keyAllowed, [])
  | q :: qs, keyAllowed, inComment =>
      if isBreak q.char then
        if q.isHalfBreak qs then skipSpacing flow qs keyAllowed inComment
        else skipSpacing flow qs (keyAllowed || !flow) false
      else if inComment then skipSpacing flow qs keyAllowed true
      else if q.char == ' ' || (q.char == '\t' && (flow || !keyAllowed)) || q.isLineMark then
        skipSpacing flow qs keyAllowed false
      else if q.char == '#' then skipSpacing flow qs keyAllowed true
      else (keyAllowed, q :: qs)

/-- The characters that are signs of their own and begin no plain scalar. -/
def isIndicator (c : Char) : Bool := "-?:,[]\x7b\x7d#&*!|>\x27\x22%@\x60".toList.contains c

/-- A plain scalar begins with any character that is no indicator; a dash, and outside flow
collections a question mark or a colon, begins one too if it touches the next character. -/
def beginsPlain (flow : Bool) (c : Char) (qs : List Placed) : Bool :=
  !(isGap c || isBreak c || isIndicator c) || (c == '-' && !Placed.aheadIs isGap qs) ||
    (!flow && (c == '?' || c == ':') && !Placed.endsWord qs)

/-- The token that begins with the character `c` before `qs`; the state stands at `c`. -/
def token (s : Scanner) (c : Char) (qs : List Placed) : Except Fault Scanner :=
  let atStart := s.mark.column == 0
  let flow := s.inFlow
  if atStart && c == '%' then s.directive
  else if Placed.atMarker '-' s.rest then s.documentMarker .documentStart
  else if Placed.atMarker '.' s.rest then s.documentMarker .documentEnd
  else if c == '[' then s.openFlow .flowSequenceStart
  else if c == '\x7b' then s.openFlow .flowMappingStart
  else if c == ']' then s.closeFlow .flowSequenceEnd
  else if c == '\x7d' then s.closeFlow .flowMappingEnd
  else if c == ',' then s.flowEntry
  else if c == '-' && Placed.endsWord qs then s.blockEntry
  else if c == '?' && (flow || Placed.endsWord qs) then s.explicitKey
  else if c == ':' && (flow || Placed.endsWord qs) then s.value
  else if c == '*' then s.node fun qs => do
    let (name, rest) ← scanAnchor qs
    pure (.alias name, rest)
  else if c == '&' then s.node fun qs => do
    let (name, rest) ← scanAnchor qs
    pure (.anchor name, rest)
  else if c == '!' then s.node (scanTag flow)
  else if c == '|' && !flow then s.blockScalar true
  else if c == '>' && !flow then s.blockScalar false
  else if c == '\x27' || c == '\x22' then s.node fun qs => do
    let (text, rest) ← scanQuoted (c == '\x27') qs
    pure (.scalar .quoted text, rest)
  else if beginsPlain flow c qs then s.plainScalar
  else .error .strayCharacter

/-- Scans one token, together with the block ends before it. -/
def next (s : Scanner) : Except Fault Scanner := do
  let (keyAllowed, rest) := skipSpacing s.inFlow s.rest s.keyAllowed false
  let s ← { s with keyAllowed, rest }.dropStale
  match s.rest with
  | [] => s.endStream
  | q :: qs => (s.closeBlocks (q.mark.column + 1)).token q.char qs

end Scanner

/-! ### The whole stream -/

/-- The tokens of a stream, as far as it can be read, and the fault at which it breaks off. -/
structure Scanned where
  tokens : List Token
  fault? : Option Fault
deriving Repr, DecidableEq, Inhabited

/-- Scans on.  A token is only known once no key can be put before it, so a fault hides the tokens
from `known` on.  Each token takes a character, so `fuel` above their number suffices. -/
def scanFrom : Nat → Scanner → Nat → Scanned
  | 0, s, known => ⟨s.emitted.reverse.take known, some .strayCharacter⟩
  | fuel + 1, s, known =>
      match s.dropStale with
      | .error fault => ⟨s.emitted.reverse.take known, some fault⟩
      | .ok s =>
          let known := s.openNumber?.getD s.emitted.length
          match s.next with
          | .error fault => ⟨s.emitted.reverse.take known, some fault⟩
          | .ok t =>
              if t.emitted.head? == some .streamEnd then
                if t.candidates.any fun c => c.any Candidate.required then
                  ⟨t.emitted.reverse.take known, some .missingColon⟩
                else ⟨t.emitted.reverse, none⟩
              else scanFrom fuel t known

/-- The tokens of a text. -/
def scan (cs : List Char) : Scanned :=
  if cs.all isReadable then scanFrom (cs.length + 2) (.start cs) 0
  else ⟨[], some .unreadableCharacter⟩

end ProfileLayers.Yaml
