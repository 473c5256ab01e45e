/-
**Errors of loading.**

Main definitions:

* `ProfileLayers.Cause` — what lies behind a parse error;
* `ProfileLayers.FileFailure` — why a file cannot be read;
* `ProfileLayers.LoadError` — the errors;
* `ProfileLayers.LoadError.message` — their wording.
-/

import ProfileLayers.Yaml.Fault

set_option relaxedAutoImplicit false
set_option autoImplicit false

namespace ProfileLayers

/-- What lies behind a parse error. -/
inductive Cause where
  /-- The text is not well-formed. -/
  | stream (fault : Yaml.Fault)
  /-- A setting is not a text. -/
  | setting
  /-- Anything else. -/
  | other
deriving Repr, DecidableEq, Inhabited

/-- Why a file cannot be read. -/
inductive FileFailure where
  /-- There is no such file. -/
  | missing
  /-- Its content is not valid UTF-8. -/
  | invalidText
  /-- Anything else, in its own words. -/
  | other (text : String)
deriving Repr, DecidableEq, Inhabited

/-- The wording of a file failure. -/
def FileFailure.message : FileFailure → String
  | .missing => "entity not found"
  | .invalidText => "stream did not contain valid UTF-8"
  | .other text => text

/-- An error of loading. -/
inductive LoadError where
  /-- The content of `source` cannot be read. -/
  | parse (source message : String) (cause? : Option Cause)
  /-- One mapping of `source` has the same key twice; `key` is its full path. -/
  | duplicateKey (source key : String)
  /-- An argument cannot be used. -/
  | invalidArgument (argument reason : String)
  /-- The loader does not handle this resource. -/
  | notApplicable (resource reason : String)
  /-- A file cannot be read. -/
  | file (failure : FileFailure)
deriving Repr, DecidableEq, Inhabited

namespace LoadError

/-- The wording of an error. -/
def message : LoadError → String
  | .parse source message _ =>
      "Failed to parse configuration from '" ++ source ++ "': " ++ message
  | .duplicateKey source key =>
      "Duplicate key '" ++ key ++ "' in configuration from '" ++ source ++ "'"
  | .invalidArgument argument reason => "Invalid argument '" ++ argument ++ "': " ++ reason
  | .notApplicable resource reason =>
      "Loader not applicable to '" ++ resource ++ "': " ++ reason
  | .file failure => "I/O error: " ++ failure.message

/-- The error of a stream that is not well-formed. -/
def ofFault (source : String) (fault : Yaml.Fault) : LoadError :=
  .parse source fault.message (some (.stream fault))

/-- The error of a mapping whose key is a collection. -/
def unsupportedKey (source path : String) : LoadError :=
  .parse source
    ("unsupported mapping key under '" ++ (if path = "" then "<root>" else path) ++
      "': keys must be scalars") none

/-- The error of seeking a profile without a name. -/
def blankProfile (profile : String) : LoadError :=
  .invalidArgument profile "cannot seek null/empty/blank profile"

/-! ### Kinds -/

/-- The content cannot be read. -/
def isParse : LoadError → Bool
  | .parse .. => true
  | _ => false

/-- A key is repeated. -/
def isDuplicateKey : LoadError → Bool
  | .duplicateKey .. => true
  | _ => false

/-- An argument was rejected. -/
def isInvalidArgument : LoadError → Bool
  | .invalidArgument .. => true
  | _ => false

/-- The loader declined a resource. -/
def isNotApplicable : LoadError → Bool
  | .notApplicable .. => true
  | _ => false

/-- A file cannot be read. -/
def isFile : LoadError → Bool
  | .file _ => true
  | _ => false

/-- Something lies behind the error: always for a file, else if it is known. -/
def hasCause : LoadError → Bool
  | .parse _ _ cause? => cause?.isSome
  | .file _ => true
  | _ => false

end LoadError

end ProfileLayers
