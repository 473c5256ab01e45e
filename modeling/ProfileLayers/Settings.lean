/-
**Settings of the loader.**

The settings are read from variables whose names begin with a common prefix, in either case; what
follows the prefix names the setting.  A name is read as a path, so one that goes on after the name
of a setting, with a dot or an index, gives that setting a structure instead of a text, which is an
error.  Other variables are ignored.

Main definitions:

* `ProfileLayers.Settings` — the settings and their defaults;
* `ProfileLayers.Settings.ofVariables` — reading them;
* `ProfileLayers.Settings.activeProfiles` — the profiles that are active from the start;
* `ProfileLayers.version` — the version of the library, which no setting changes.
-/

import ProfileLayers.LoadError
import ProfileLayers.Number.Digits
import ProfileLayers.Number.Powers
import ProfileLayers.Text.TokenList

set_option relaxedAutoImplicit false
set_option autoImplicit false

namespace ProfileLayers

/-- The version of the library. -/
def version : String := "1.0.2"

/-- The settings of the loader. -/
structure Settings where
  /-- The profiles that are active before any stream is loaded, as a comma-separated list. -/
  active : String := ""
  /-- The first part of the names of document sources. -/
  namePrefix : String := "YAML"
  /-- What stands for the declaration in the name of a document that has none. -/
  defaultLabel : String := "(default)"
deriving Repr, DecidableEq, Inhabited

namespace Settings

/-- The settings without any variable. -/
def standard : Settings := {}

/-- The profiles that are active from the start. -/
def activeProfiles (s : Settings) : List String := splitList s.active

/-! ### Variables -/

/-- The beginning of the names of variables. -/
def variablePrefix : String := "vortex_yaml_"

/-- The characters of names in a path. -/
def isPathChar (c : Char) : Bool := c.isAlphanum || c == '_' || c == '-'

/-- The integers in brackets: they have sixty-four bits with a sign, and spaces and tabs may stand
around them. -/
def isIndex (cs : List Char) : Bool :=
  let isGap (c : Char) : Bool := c == ' ' || c == '\t'
  let inner := ((cs.dropWhile isGap).reverse.dropWhile isGap).reverse
  match inner with
  | '-' :: digits => (numeral? 10 digits).any fun n => decide (n ≤ powerOfTwo 63)
  | digits => (numeral? 10 digits).any fun n => decide (n < powerOfTwo 63)

/-- A path goes on with any number of names after dots and of integers in brackets.  Each takes a
character, so `fuel` above their number suffices. -/
def isPathTail : Nat → List Char → Bool
  | _, [] => true
  | 0, _ => false
  | fuel + 1, c :: cs =>
      if c == '.' then
        let name := cs.takeWhile isPathChar
        !name.isEmpty && isPathTail fuel (cs.drop name.length)
      else if c == '[' then
        let index := cs.takeWhile (· != ']')
        isIndex index && cs.length != index.length && isPathTail fuel (cs.drop (index.length + 1))
      else false

/-- A character of a name in lower case.  Outside ASCII only the Kelvin sign has a lower case that
can be part of a path. -/
def lowerChar (c : Char) : Char := if c.toNat == 0x212A then 'k' else c.toLower

/-- What a variable sets. -/
inductive Assignment where
  /-- A setting to a text. -/
  | text (setting : List Char)
  /-- A setting to a structure. -/
  | structured (setting : List Char)
  /-- Nothing. -/
  | other
deriving Repr, DecidableEq, Inhabited

/-- What a variable of this name sets. -/
def Assignment.ofName (name : String) : Assignment :=
  let name := name.toList.map lowerChar
  let front := variablePrefix.toList
  if front.isPrefixOf name then
    let path := name.drop front.length
    let setting := path.takeWhile isPathChar
    let tail := path.drop setting.length
    if tail.isEmpty then .text setting
    else if !setting.isEmpty && isPathTail tail.length tail then .structured setting
    else .other
  else .other

/-- The value that the last variable for a setting gives it: nothing, a text or a structure. -/
def lookup (setting : String) : List (String × String) → Option (Option String)
  | [] => none
  | (name, value) :: given =>
      match lookup setting given with
      | some given => some given
      | none =>
          match Assignment.ofName name with
          | .text s => if s = setting.toList then some (some value) else none
          | .structured s => if s = setting.toList then some none else none
          | .other => none

/-- The error of settings that cannot be used. -/
def unusable : LoadError := .parse "environment" "invalid loader settings" (some .setting)

/-- The text of a setting, or its default. -/
def textOf (setting standard : String) (given : List (String × String)) :
    Except LoadError String :=
  match lookup setting given with
  | none => .ok standard
  | some (some value) => .ok value
  | some none => .error unusable

/-- The settings that variables give. -/
def ofVariables (given : List (String × String)) : Except LoadError Settings := do
  let active ← textOf "active_profiles" standard.active given
  let namePrefix ← textOf "source_name_prefix" standard.namePrefix given
  let defaultLabel ← textOf "default_document_label" standard.defaultLabel given
  pure ⟨active, namePrefix, defaultLabel⟩

end Settings

end ProfileLayers
