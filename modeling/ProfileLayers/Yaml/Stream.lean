/-
**Reading a stream of documents.**

A stream holds any number of documents.  They are read one by one, up to the end of the stream or to
the first fault, which may lie in a later document.

Main definitions:

* `ProfileLayers.Yaml.Reading` — the documents before the end or the first fault;
* `ProfileLayers.Yaml.readStream` — reading a text.
-/

import ProfileLayers.Text.Blank
import ProfileLayers.Yaml.Event.Grammar
import ProfileLayers.Yaml.Tree

set_option relaxedAutoImplicit false
set_option autoImplicit false

namespace ProfileLayers.Yaml

/-- The documents before the end of a stream or its first fault, and that fault. -/
structure Reading where
  documents : List Node
  fault? : Option Fault
deriving Repr, Inhabited

/-- The documents that events spell out; `b` is the document that is being read, and `last?` the
fault that ends the events. -/
def Reading.ofEvents (last? : Option Fault) : List Event → Builder → Reading
  | [], _ => ⟨[], last?⟩
  | .documentStart :: events, _ => ofEvents last? events .empty
  | .documentEnd :: events, b =>
      match b.finish with
      | .error fault => ⟨[], some fault⟩
      | .ok node =>
          let reading := ofEvents last? events .empty
          { reading with documents := node :: reading.documents }
  | e :: events, b =>
      match b.add e with
      | .error fault => ⟨[], some fault⟩
      | .ok b => ofEvents last? events b

/-- The documents of a stream given by its characters.  A stream without any document holds one
that is null. -/
def readChars (cs : List Char) : Reading :=
  let parsed := parse (scan cs)
  if parsed.events.isEmpty && parsed.fault?.isNone then ⟨[.null], none⟩
  else .ofEvents parsed.fault? parsed.events .empty

/-- The documents of a text.  A text of nothing but blanks holds none. -/
def readStream (text : String) : Reading :=
  if isBlankText text then ⟨[], none⟩ else readChars text.toList

end ProfileLayers.Yaml
