/-
**Paths of files.**

A path is a text whose parts stand between slashes.  Empty parts and single dots say nothing, except
for a dot at the start of a path that has no other part.  The file name is the last part unless that
leads upwards, and its extension is what follows its last dot, if anything comes before that dot.

Main definitions:

* `ProfileLayers.fileName?`, `ProfileLayers.fileExtension?` — the parts of a path that matter;
* `ProfileLayers.sourceNameOf` — the name of a source that is read from a file;
* `ProfileLayers.yamlExtensions`, `ProfileLayers.isYamlPath` — the files that are expected to hold
  streams.
-/

import ProfileLayers.LoadError
import ProfileLayers.Text.Quoted

set_option relaxedAutoImplicit false
set_option autoImplicit false

namespace ProfileLayers

/-- The parts between slashes. -/
def splitAtSlashes : List Char → List (List Char)
  | [] => [[]]
  | c :: cs =>
      match splitAtSlashes cs with
      | [] => [[c]]
      | part :: parts => if c = '/' then [] :: part :: parts else (c :: part) :: parts

/-- The parts of a path that lead somewhere. -/
def pathParts (path : String) : List (List Char) :=
  (splitAtSlashes path.toList).filter fun part => !part.isEmpty && part != ['.']

/-- The last part of a path, unless it leads upwards. -/
def fileName? (path : String) : Option (List Char) :=
  match (pathParts path).getLast? with
  | some part => if part = ['.', '.'] then none else some part
  | none => none

/-- What follows the last dot of a name, if something comes before that dot. -/
def extensionOf? (name : List Char) : Option (List Char) :=
  let extension := (name.reverse.takeWhile (· != '.')).reverse
  if extension.length + 1 < name.length then some extension else none

/-- The extension of the file that a path names. -/
def fileExtension? (path : String) : Option (List Char) := (fileName? path).bind extensionOf?

/-- The name of a source that is read from a file: the file name, or else the path. -/
def sourceNameOf (path : String) : String :=
  match fileName? path with
  | some name => String.ofList name
  | none => path

/-! ### Files with streams -/

/-- The extensions of files that hold streams. -/
def yamlExtensions : List String := ["yml", "yaml"]

/-- A stream is expected in the file; the case of its extension does not matter. -/
def isYamlPath (path : String) : Bool :=
  (fileExtension? path).any fun extension =>
    yamlExtensions.any fun yaml => yaml.toList == extension.map Char.toLower

/-- Refuses a file in which no stream is expected. -/
def requireYamlPath (path : String) : Except LoadError Unit :=
  if isYamlPath path then .ok ()
  else
    .error (.notApplicable path ("expected one of the extensions " ++ quotedList yamlExtensions))

end ProfileLayers
