/-
**From tokens to events.**

The grammar of tokens is run as a pushdown automaton that produces one event a step: the stack holds
what is expected once the current node is complete.  Tokens are only demanded when they are needed,
so the documents before a fault are still found.

Main definitions:

* `ProfileLayers.Yaml.Expectation` — what may come next;
* `ProfileLayers.Yaml.Automaton` — the state;
* `ProfileLayers.Yaml.Automaton.next` — the next event;
* `ProfileLayers.Yaml.Parsed`, `ProfileLayers.Yaml.parse` — the events of a stream, as far as it can
  be read.
-/

import ProfileLayers.Yaml.Event
import ProfileLayers.Yaml.Token.Scan

set_option relaxedAutoImplicit false
set_option autoImplicit false

namespace ProfileLayers.Yaml

/-- What may come next. -/
inductive Expectation where
  /-- The first document, which needs no marker. -/
  | firstDocument
  /-- Another document, which needs one, or the end of the stream. -/
  | document
  /-- The content of a document whose marker was read. -/
  | documentContent
  | documentEnd
  | blockNode
  | blockSequenceEntry
  /-- An entry of a sequence that is not indented more than the mapping around it. -/
  | flushSequenceEntry
  | blockMappingKey
  | blockMappingValue
  | flowSequenceEntry (first : Bool)
  /-- A mapping of one entry, written inside a flow sequence without braces. -/
  | flowPairKey
  | flowPairValue
  | flowPairEnd
  | flowMappingKey (first : Bool)
  | flowMappingValue
  /-- A node in a flow mapping that was no key stands for a key without a value. -/
  | flowMappingNoValue
deriving Repr, DecidableEq, Inhabited

/-- The state of the automaton. -/
structure Automaton where
  tokens : List Token
  /-- The fault that is met where the tokens run out. -/
  fault : Fault
  expect : Expectation
  /-- What is expected once the current node is complete. -/
  stack : List Expectation
  /-- The tag handles of the current document and what they stand for. -/
  handles : List (List Char × List Char)
deriving Repr, DecidableEq, Inhabited

namespace Automaton

/-- The next token and the state after it. -/
def peek (a : Automaton) : Except Fault (Token × Automaton) :=
  match a.tokens with
  | t :: ts => .ok (t, { a with tokens := ts })
  | [] => .error a.fault

/-- The current node is complete. -/
def pop (a : Automaton) : Automaton :=
  match a.stack with
  | e :: es => { a with expect := e, stack := es }
  | [] => { a with expect := .document }

/-- A node comes next, and after it what `e` says. -/
def push (a : Automaton) (e : Expectation) : Automaton := { a with stack := e :: a.stack }

/-- A node is left out, and `e` comes next. -/
def skipNode (a : Automaton) (e : Expectation) : Event × Automaton :=
  (.missing, { a with expect := e })

/-! ### Nodes -/

/-- The anchor and the tag in front of a node, in either order. -/
structure Properties where
  anchor? : Option (List Char)
  tag? : Option (List Char × List Char)
deriving Repr, DecidableEq, Inhabited

/-- Reads the properties of a node. -/
def properties (a : Automaton) : Except Fault (Properties × Automaton) := do
  match ← a.peek with
  | (.anchor name, b) =>
      match ← b.peek with
      | (.tag handle suffix, c) => pure (⟨some name, some (handle, suffix)⟩, c)
      | _ => pure (⟨some name, none⟩, b)
  | (.tag handle suffix, b) =>
      match ← b.peek with
      | (.anchor name, c) => pure (⟨some name, some (handle, suffix)⟩, c)
      | _ => pure (⟨none, some (handle, suffix)⟩, b)
  | _ => pure (⟨none, none⟩, a)

/-- The whole text of a tag: its handle replaced by what it stands for. -/
def expandTag (a : Automaton) : Option (List Char × List Char) →
    Except Fault (Option (List Char))
  | none => .ok none
  | some ([], suffix) => .ok (some suffix)
  | some (handle, suffix) =>
      match a.handles.lookup handle with
      | some replacement => .ok (some (replacement ++ suffix))
      | none => .error .unknownTagHandle

/-- Reads a node up to its first event.  A block collection may stand there only if `block`, and a
sequence that is not indented only if `flush`. -/
def node (a : Automaton) (block flush : Bool) : Except Fault (Event × Automaton) := do
  match ← a.peek with
  | (.alias name, b) => pure (.alias name, b.pop)
  | _ =>
      let (props, b) ← a.properties
      let tag? ← b.expandTag props.tag?
      let (t, c) ← b.peek
      match t with
      | .scalar style text =>
          let tag? := if tag? == some ['!'] then none else tag?
          pure (.scalar props.anchor? tag? style text, c.pop)
      | .flowSequenceStart =>
          pure (.sequenceStart props.anchor?, { c with expect := .flowSequenceEntry true })
      | .flowMappingStart =>
          pure (.mappingStart props.anchor?, { c with expect := .flowMappingKey true })
      | _ =>
          if t == .blockEntry && flush then
            pure (.sequenceStart props.anchor?, { b with expect := .flushSequenceEntry })
          else if t == .blockSequenceStart && block then
            pure (.sequenceStart props.anchor?, { c with expect := .blockSequenceEntry })
          else if t == .blockMappingStart && block then
            pure (.mappingStart props.anchor?, { c with expect := .blockMappingKey })
          else if props.anchor?.isSome || tag?.isSome then
            pure (.scalar props.anchor? tag? .plain [], b.pop)
          else .error .missingNode

/-- A node unless one of `ends` comes next; `e` is expected after it. -/
def nodeUnless (a : Automaton) (ends : List Token) (e : Expectation) (block flush : Bool) :
    Except Fault (Event × Automaton) := do
  let (t, _) ← a.peek
  if ends.contains t then pure (a.skipNode e) else (a.push e).node block flush

/-! ### Documents -/

/-- The handles that every document knows. -/
def commonHandles : List (List Char × List Char) :=
  [(['!'], ['!']), (['!', '!'], "tag:yaml.org,2002:".toList)]

/-- Reads the directives in front of a document; `seen` tells that a version was given. -/
def directives : List Token → Bool → List (List Char × List Char) →
    Except Fault (List Token × List (List Char × List Char))
  | .version major minor :: ts, seen, handles =>
      if seen || major != 1 || (minor != 1 && minor != 2) then .error .badVersion
      else directives ts true handles
  | .tagHandle handle replacement :: ts, seen, handles =>
      if (handles.lookup handle).isSome then .error .repeatedTagHandle
      else directives ts seen (handles ++ [(handle, replacement)])
  | ts, _, handles => .ok (ts, handles ++ commonHandles)

/-- A document that begins with its marker, after its directives. -/
def explicitDocument (a : Automaton) : Except Fault (Event × Automaton) := do
  let (tokens, handles) ← directives a.tokens false []
  match ← { a with tokens }.peek with
  | (.documentStart, b) =>
      pure (.documentStart,
        { b with expect := .documentContent, stack := .documentEnd :: a.stack, handles })
  | _ => .error .missingDocumentStart

/-- The end of the stream, or a document. -/
def document (a : Automaton) (first : Bool) : Except Fault (Event × Automaton) := do
  let a := if first then a else { a with tokens := a.tokens.dropWhile (· == .documentEnd) }
  match ← a.peek with
  | (.streamEnd, b) => pure (.streamEnd, b)
  | (.version _ _, _) | (.tagHandle _ _, _) | (.documentStart, _) => a.explicitDocument
  | _ =>
      if first then
        pure (.documentStart,
          { a with
            expect := .blockNode, stack := .documentEnd :: a.stack, handles := commonHandles })
      else a.explicitDocument

/-- The content of a document whose marker was read; it may be left out. -/
def documentContent (a : Automaton) : Except Fault (Event × Automaton) := do
  match ← a.peek with
  | (.version _ _, _) | (.tagHandle _ _, _) | (.documentStart, _) | (.documentEnd, _)
  | (.streamEnd, _) => pure (.missing, a.pop)
  | _ => a.node true false

/-- The end of a document, with or without its marker. -/
def endDocument (a : Automaton) : Except Fault (Event × Automaton) := do
  match ← a.peek with
  | (.documentEnd, b) => pure (.documentEnd, { b with expect := .document })
  | _ => pure (.documentEnd, { a with expect := .document })

/-! ### Block collections -/

/-- The next entry of a block sequence, or its end. -/
def blockSequenceEntry (a : Automaton) : Except Fault (Event × Automaton) := do
  match ← a.peek with
  | (.blockEntry, b) => b.nodeUnless [.blockEntry, .blockEnd] .blockSequenceEntry true false
  | (.blockEnd, b) => pure (.sequenceEnd, b.pop)
  | _ => .error .brokenCollection

/-- The next entry of a sequence that is not indented, or its end, which has no sign. -/
def flushSequenceEntry (a : Automaton) : Except Fault (Event × Automaton) := do
  match ← a.peek with
  | (.blockEntry, b) =>
      b.nodeUnless [.blockEntry, .key, .value, .blockEnd] .flushSequenceEntry true false
  | _ => pure (.sequenceEnd, a.pop)

/-- The next key of a block mapping, or its end. -/
def blockMappingKey (a : Automaton) : Except Fault (Event × Automaton) := do
  match ← a.peek with
  | (.key, b) => b.nodeUnless [.key, .value, .blockEnd] .blockMappingValue true true
  | (.blockEnd, b) => pure (.mappingEnd, b.pop)
  | _ => .error .brokenCollection

/-- The value of a block mapping's entry. -/
def blockMappingValue (a : Automaton) : Except Fault (Event × Automaton) := do
  match ← a.peek with
  | (.value, b) => b.nodeUnless [.key, .value, .blockEnd] .blockMappingKey true true
  | _ => pure (a.skipNode .blockMappingKey)

/-! ### Flow collections -/

/-- The state after the comma before an entry; the first entry has none. -/
def separator (a : Automaton) (first : Bool) : Except Fault Automaton := do
  if first then pure a
  else
    match ← a.peek with
    | (.flowEntry, b) => pure b
    | _ => .error .brokenCollection

/-- The next entry of a flow sequence, or its end. -/
def flowSequenceEntry (a : Automaton) (first : Bool) : Except Fault (Event × Automaton) := do
  match ← a.peek with
  | (.flowSequenceEnd, b) => pure (.sequenceEnd, b.pop)
  | _ =>
      let b ← a.separator first
      match ← b.peek with
      | (.key, c) => pure (.mappingStart none, { c with expect := .flowPairKey })
      | (.flowSequenceEnd, c) => pure (.sequenceEnd, c.pop)
      | _ => (b.push (.flowSequenceEntry false)).node false false

/-- The key of a mapping without braces.  Where it is left out, the token in its place is taken for
its sign. -/
def flowPairKey (a : Automaton) : Except Fault (Event × Automaton) := do
  match ← a.peek with
  | (.value, b) | (.flowEntry, b) | (.flowSequenceEnd, b) => pure (b.skipNode .flowPairValue)
  | _ => (a.push .flowPairValue).node false false

/-- The value of a mapping without braces. -/
def flowPairValue (a : Automaton) : Except Fault (Event × Automaton) := do
  match ← a.peek with
  | (.value, b) => b.nodeUnless [.flowEntry, .flowSequenceEnd] .flowPairEnd false false
  | _ => pure (a.skipNode .flowPairEnd)

/-- The next key of a flow mapping, or its end. -/
def flowMappingKey (a : Automaton) (first : Bool) : Except Fault (Event × Automaton) := do
  match ← a.peek with
  | (.flowMappingEnd, b) => pure (.mappingEnd, b.pop)
  | _ =>
      let b ← a.separator first
      match ← b.peek with
      | (.key, c) =>
          c.nodeUnless [.value, .flowEntry, .flowMappingEnd] .flowMappingValue false false
      | (.flowMappingEnd, c) => pure (.mappingEnd, c.pop)
      | _ => (b.push .flowMappingNoValue).node false false

/-- The value of a flow mapping's entry. -/
def flowMappingValue (a : Automaton) : Except Fault (Event × Automaton) := do
  match ← a.peek with
  | (.value, b) =>
      b.nodeUnless [.flowEntry, .flowMappingEnd] (.flowMappingKey false) false false
  | _ => pure (a.skipNode (.flowMappingKey false))

/-! ### The next event -/

/-- The next event and the state after it. -/
def next (a : Automaton) : Except Fault (Event × Automaton) :=
  match a.expect with
  | .firstDocument => a.document true
  | .document => a.document false
  | .documentContent => a.documentContent
  | .documentEnd => a.endDocument
  | .blockNode => a.node true false
  | .blockSequenceEntry => a.blockSequenceEntry
  | .flushSequenceEntry => a.flushSequenceEntry
  | .blockMappingKey => a.blockMappingKey
  | .blockMappingValue => a.blockMappingValue
  | .flowSequenceEntry first => a.flowSequenceEntry first
  | .flowPairKey => a.flowPairKey
  | .flowPairValue => a.flowPairValue
  | .flowPairEnd => .ok (.mappingEnd, { a with expect := .flowSequenceEntry false })
  | .flowMappingKey first => a.flowMappingKey first
  | .flowMappingValue => a.flowMappingValue
  | .flowMappingNoValue => .ok (a.skipNode (.flowMappingKey false))

end Automaton

/-! ### The whole stream -/

/-- The events of a stream, as far as it can be read, and the fault at which it breaks off. -/
structure Parsed where
  events : List Event
  fault? : Option Fault
deriving Repr, DecidableEq, Inhabited

/-- Runs the automaton.  At most three events in a row take no token, so `fuel` above four times the
number of tokens suffices. -/
def parseFrom : Nat → Automaton → Parsed
  | 0, _ => ⟨[], some .brokenCollection⟩
  | fuel + 1, a =>
      match a.next with
      | .error fault => ⟨[], some fault⟩
      | .ok (.streamEnd, _) => ⟨[], none⟩
      | .ok (e, b) =>
          let parsed := parseFrom fuel b
          { parsed with events := e :: parsed.events }

/-- The events of scanned tokens. -/
def parse (s : Scanned) : Parsed :=
  parseFrom (4 * s.tokens.length + 8)
    { tokens := s.tokens, fault := s.fault?.getD .missingNode, expect := .firstDocument,
      stack := [], handles := [] }

end ProfileLayers.Yaml
