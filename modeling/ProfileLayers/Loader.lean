/-
**Loading a stream.**

A load first discovers the profiles that the stream activates, and then selects documents: those of
one profile if it is sought, else the default ones.  Every selected document that has properties
becomes a source; later documents come first, because the first source that has a property gives its
value.  A document with negated profiles becomes a conditional source, so that it disappears when
one of them is activated later.

Main definitions:

* `ProfileLayers.DocumentSource`, `ProfileLayers.DocumentSources` — selected documents as sources;
* `ProfileLayers.selectDocuments` — selecting documents;
* `ProfileLayers.Settings.sourcesOf` — sources of selected documents;
* `ProfileLayers.DocumentSources.combine` — one source for all of them;
* `ProfileLayers.Settings.loadDocuments`, `ProfileLayers.Settings.load`,
  `ProfileLayers.Settings.loadFile` — loading a stream.
-/

import ProfileLayers.Document
import ProfileLayers.Profile.Discovery
import ProfileLayers.ResourcePath
import ProfileLayers.Settings
import ProfileLayers.Source
import ProfileLayers.SourceName

set_option relaxedAutoImplicit false
set_option autoImplicit false

namespace ProfileLayers

/-! ### Sources of documents -/

/-- A selected document as a source. -/
structure DocumentSource where
  profiles : Expression
  source : Source
deriving Repr, Inhabited

/-- The result of a load. -/
structure DocumentSources where
  /-- The selected documents, later ones first. -/
  sources : List DocumentSource
  /-- The active profiles after discovery. -/
  active : ProfileSet
deriving Repr, Inhabited

/-- The source of a document. -/
def Document.toSource (d : Document) (name : String) : Source :=
  if d.profiles.negative.isEmpty then .map name d.properties
  else .conditional name d.properties d.profiles.negative

/-- Named documents as sources. -/
def namedSources (named : List (Document × String)) : List DocumentSource :=
  named.map fun (d, name) => ⟨d.profiles, d.toSource name⟩

namespace DocumentSources

/-- Keeps the documents that name a positive profile. -/
def profileSpecific (s : DocumentSources) : DocumentSources :=
  { s with sources := s.sources.filter fun d => !d.profiles.positive.isEmpty }

/-- One source for all: none if there is no document, the source of a single document under the new
name, and a composite of several. -/
def combine (s : DocumentSources) (name : String) : Option Source :=
  match s.sources with
  | [] => none
  | [d] => some (d.source.renamed name)
  | ds => some (.composite name (ds.map (·.source)))

end DocumentSources

/-! ### Selection -/

/-- The documents that match and have properties, later ones first. -/
def selectDocuments (m : Matcher) (documents : List Document) : List Document :=
  (documents.filter fun d => m.accepts d.profiles && !d.properties.isEmpty).reverse

/-- Notices of a selection. -/
def selectionNotices (source : String) (m : Matcher) (documents : List Document) : List Notice :=
  documents.flatMap fun d =>
    .ofMatch m d.profiles ::
      (if m.accepts d.profiles && d.properties.isEmpty then
        [.withoutProperties d.index source]
      else [])

/-- Notices of one pass of discovery, which began with `before` and ended with `after`. -/
def passNotices (documents : List Document) (number : Nat) (before after : ProfileSet) :
    List Notice :=
  let m := Matcher.generic before
  documents.map (fun d => .ofMatch m d.profiles) ++
    [.discoveryPass number after]

/-- Notices of passes of discovery that are counted from `number`. -/
def discoveryNotices (documents : List Document) :
    Nat → ProfileSet → List ProfileSet → List Notice
  | _, _, [] => []
  | number, before, after :: passes =>
      passNotices documents number before after ++
        discoveryNotices documents (number + 1) after passes

/-- Discovery over documents. -/
def discoverProfiles (documents : List Document) (sought? : Option String) (active : ProfileSet) :
    Report Discovery :=
  let discovery := discover (documents.map (·.declarations)) sought? active
  ⟨discoveryNotices documents 1 active discovery.passes, .ok discovery⟩

/-! ### Loading -/

namespace Settings

/-- The name of a document source before repetitions are numbered. -/
def documentName (settings : Settings) (d : Document) : String :=
  ProfileLayers.documentName settings.namePrefix settings.defaultLabel d.profiles

/-- The selected documents as named sources. -/
def sourcesOf (settings : Settings) (selected : List Document) : List (Document × String) :=
  selected.zip (numberRepeats (selected.map settings.documentName))

/-- Loads documents that were read before. -/
def loadRead (settings : Settings) (active : ProfileSet) (source : String)
    (documents : List Document) (sought? : Option String) : Report DocumentSources := do
  let discovery ← discoverProfiles documents sought? active
  let matcher ← .ofResult (Matcher.seek? sought? discovery.active)
  .note (selectionNotices source matcher documents)
  let named := settings.sourcesOf (selectDocuments matcher documents)
  .note (named.map fun (d, name) => .selected d.index name d.properties.size)
  .note [.loaded source sought? named.length documents.length discovery.active]
  pure ⟨namedSources named, discovery.active⟩

/-- Loads a stream while `active` are active: one source for each selected document. -/
def loadDocuments (settings : Settings) (active : ProfileSet) (source text : String)
    (sought? : Option String) : Report DocumentSources := do
  let documents ← Document.readAll source text
  settings.loadRead active source documents sought?

/-- Loads a stream as one source, if any document is selected. -/
def load (settings : Settings) (active : ProfileSet) (source text : String)
    (sought? : Option String) : Report (Option Source) := do
  let sources ← settings.loadDocuments active source text sought?
  pure (sources.combine source)

/-- Loads a file, whose content or failure to be read is given.  A file in which no stream is
expected is not read. -/
def loadFile (settings : Settings) (active : ProfileSet) (path : String)
    (content : Except FileFailure String) (sought? : Option String) : Report (Option Source) :=
  if isYamlPath path then do
    let text ← .ofResult (content.mapError .file)
    settings.load active (sourceNameOf path) text sought?
  else do
    .note [.notYaml path]
    pure none

end Settings

end ProfileLayers
