/-
**Snapshots of sources.**

A snapshot holds what a source answered at one moment: its name, and each key that could be read
with its value.

Main definitions:

* `ProfileLayers.Snapshot`, `ProfileLayers.Snapshot.capture` — taking a snapshot;
* `ProfileLayers.Snapshot.json`, `ProfileLayers.Snapshot.ofJson?` — writing and reading it.
-/

import ProfileLayers.Json.Reader
import ProfileLayers.Json.Writer
import ProfileLayers.Source

set_option relaxedAutoImplicit false
set_option autoImplicit false

namespace ProfileLayers

/-- What a source answered at one moment. -/
structure Snapshot where
  name : String
  properties : PropertyMap
deriving Repr, DecidableEq, Inhabited

namespace Snapshot

/-- The answers of a source while `active` are active.  A key without an answer is left out. -/
def capture (active : ProfileSet) (s : Source) : Snapshot where
  name := s.name
  properties := .ofList <|
    (s.keys active).filterMap fun key => (s.get? active key).map fun value => (key, value)

/-! ### Writing -/

/-- The characters of a snapshot: an object with two members. -/
def writeChars (s : Snapshot) : List Char :=
  "\x7b\x22name\x22:".toList ++ Json.quote s.name ++ ",\x22source\x22:".toList ++
    Json.writeMap s.properties.entries ++ ['\x7d']

/-- The JSON text of a snapshot. -/
def json (s : Snapshot) : String := String.ofList s.writeChars

/-- The JSON text of several snapshots. -/
def jsonOfList (snapshots : List Snapshot) : String :=
  "[" ++ String.intercalate "," (snapshots.map json) ++ "]"

/-! ### Reading -/

/-- The members of a snapshot that were read so far. -/
structure Partial where
  name? : Option String
  properties? : Option PropertyMap
deriving Repr, DecidableEq, Inhabited

/-- Reads the member `key` after its colon.  A member must not be repeated; unknown ones are passed
over. -/
def readMember (read : Partial) (key : String) (cs : List Char) : Option (Partial × List Char) :=
  if key = "name" then
    if read.name?.isSome then none
    else do
      let (name, rest) ← Json.readString cs
      pure ({ read with name? := some name }, rest)
  else if key = "source" then
    if read.properties?.isSome then none
    else do
      let (members, rest) ← Json.readMap cs
      pure ({ read with properties? := some (.ofList members) }, rest)
  else do
    let rest ← Json.skipValue (cs.length + 1) cs
    pure (read, rest)

/-- Reads the members of an object up to its closing brace. -/
def readMembers : Nat → Partial → List Char → Option (Partial × List Char)
  | 0, _, _ => none
  | fuel + 1, read, cs => do
      let (key, rest) ← Json.readString cs
      let (read, rest) ← readMember read key (← Json.expect? ':' rest)
      match Json.skipSpace rest with
      | [] => none
      | c :: rest =>
          if c = '\x7d' then pure (read, rest)
          else if c = ',' then readMembers fuel read rest
          else none

/-- Both members were read. -/
def Partial.complete? (read : Partial) : Option Snapshot := do
  pure ⟨← read.name?, ← read.properties?⟩

/-- Reads a snapshot written as an object. -/
def readObject (cs : List Char) : Option (Snapshot × List Char) := do
  let (read, rest) ←
    match Json.expect? '\x7d' cs with
    | some rest => pure (⟨none, none⟩, rest)
    | none => readMembers (cs.length + 1) ⟨none, none⟩ cs
  pure (← read.complete?, rest)

/-- Reads a snapshot written as an array of its two parts. -/
def readArray (cs : List Char) : Option (Snapshot × List Char) := do
  let (name, rest) ← Json.readString cs
  let (members, rest) ← Json.readMap (← Json.expect? ',' rest)
  let rest ← Json.expect? ']' rest
  pure (⟨name, .ofList members⟩, rest)

/-- The snapshot of a JSON text. -/
def ofJson? (text : String) : Option Snapshot := do
  let (snapshot, rest) ←
    match Json.skipSpace text.toList with
    | [] => none
    | c :: rest =>
        if c = '\x7b' then readObject rest else if c = '[' then readArray rest else none
  if (Json.skipSpace rest).isEmpty then pure snapshot else none

end Snapshot

end ProfileLayers
