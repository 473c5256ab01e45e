/-
**Environments of layered sources.**

An environment loads streams the way an application does at its start.  It loads the default
documents, activates the profiles that they declare, and then loads the documents of each active
profile.  Each profile with documents makes a layer, the default documents make the lowest one, and
the layers of a stream go on top of those of earlier streams.

Main definitions:

* `ProfileLayers.Environment` — the environments;
* `ProfileLayers.Environment.Walk`, `ProfileLayers.Environment.walk` — loading the documents of one
  profile after another;
* `ProfileLayers.Environment.load`, `ProfileLayers.Environment.loadFile` — adding a stream;
* `ProfileLayers.Environment.get?`, `ProfileLayers.Environment.keys` — reading through all layers;
* `ProfileLayers.EnvironmentChange`, `ProfileLayers.Environment.after` — changes as values, and an
  environment after some of them, one after another.
-/

import ProfileLayers.Loader
import ProfileLayers.Snapshot

set_option relaxedAutoImplicit false
set_option autoImplicit false

namespace ProfileLayers

/-- An environment. -/
structure Environment where
  settings : Settings
  active : ProfileSet
  /-- The layers, highest precedence first. -/
  layers : List Source
deriving Repr, Inhabited

/-- The result of adding a stream: the environment after it, and the error if it failed. -/
structure Addition where
  environment : Environment
  failure? : Option LoadError
  notices : List Notice
deriving Repr, Inhabited

namespace Environment

/-- An environment without layers. -/
def start (settings : Settings) (active : ProfileSet) : Environment := ⟨settings, active, []⟩

/-- An environment in which the profiles of the settings are active. -/
def ofSettings (settings : Settings) : Environment :=
  start settings (.ofList settings.activeProfiles)

/-! ### Loading -/

/-- What the walk over the active profiles has come to. -/
structure Walk where
  /-- The number of profiles whose documents were loaded. -/
  position : Nat
  active : ProfileSet
  /-- The layers of profiles, the last activated first. -/
  layers : List Source
  failure? : Option LoadError
  notices : List Notice
deriving Repr, Inhabited

/-- The name of the layer of a profile. -/
def layerName (source profile : String) : String := source ++ "#" ++ profile

/-- Loads the documents of the next profile in order of activation, which may activate more
profiles.  The walk ends with a failure, or when there is no next profile. -/
def Walk.next? (settings : Settings) (source : String) (read : Report (List Document))
    (w : Walk) : Option Walk :=
  match w.failure?, w.active.names[w.position]? with
  | none, some profile =>
      let specific := read >>= fun documents =>
        settings.loadRead w.active source documents (some profile)
      let notices := w.notices ++ specific.notices
      match specific.result with
      | .error e => some { w with failure? := some e, notices := notices }
      | .ok sources =>
          let layer := sources.profileSpecific.combine (layerName source profile)
          some
            { w with
              position := w.position + 1
              active := w.active.insertAll sources.active.names
              layers := layer.toList ++ w.layers
              notices := notices }
  | _, _ => none

/-- Takes the steps of a walk until it ends. -/
def walk (settings : Settings) (source : String) (read : Report (List Document)) :
    Nat → Walk → Walk
  | 0, w => w
  | fuel + 1, w =>
      match w.next? settings source read with
      | none => w
      | some later => walk settings source read fuel later

/-- The number of profiles that can be active at most once documents were loaded. -/
def profileBound (active : ProfileSet) (read : Report (List Document)) : Nat :=
  match read.result with
  | .ok documents => active.size + (declaredNames (documents.map (·.declarations))).length
  | .error _ => active.size

/-- Adds a stream.  If that fails, no layer is added, but profiles that the default documents
activated stay active. -/
def load (env : Environment) (source text : String) : Addition :=
  let read := Document.readAll source text
  let defaults := read >>= fun documents =>
    env.settings.loadRead env.active source documents none
  match defaults.result with
  | .error e => ⟨env, some e, defaults.notices⟩
  | .ok sources =>
      let active := env.active.insertAll sources.active.names
      let w := walk env.settings source read (profileBound active read + 1)
        ⟨0, active, [], none, defaults.notices⟩
      match w.failure? with
      | some e => ⟨{ env with active := w.active }, some e, w.notices⟩
      | none =>
          let layers := w.layers ++ (sources.combine source).toList
          ⟨{ env with active := w.active, layers := layers ++ env.layers }, none,
            w.notices ++ [.layered source layers.length w.active]⟩

/-- The result of adding a file: besides, whether a stream was expected in it. -/
structure FileAddition where
  addition : Addition
  isStream : Bool
deriving Repr, Inhabited

/-- Adds a file, whose content or failure to be read is given.  A file in which no stream is
expected is not read. -/
def loadFile (env : Environment) (path : String) (content : Except FileFailure String) :
    FileAddition :=
  if isYamlPath path then
    match content with
    | .ok text => ⟨env.load (sourceNameOf path) text, true⟩
    | .error failure => ⟨⟨env, some (.file failure), []⟩, true⟩
  else ⟨⟨env, none, []⟩, false⟩

/-! ### Reading -/

/-- The value in the first layer that has the property. -/
def get? (env : Environment) (key : String) : Option Value :=
  env.layers.findSome? (Source.get? env.active key)

/-- The property can be read. -/
def contains (env : Environment) (key : String) : Bool := (env.get? key).isSome

/-- The keys that can be read, each once, in order of precedence. -/
def keys (env : Environment) : List String := unionOfKeys (env.layers.map (Source.keys env.active))

/-- Snapshots of all layers. -/
def snapshots (env : Environment) : List Snapshot := env.layers.map (Snapshot.capture env.active)

end Environment

/-! ### Runs of changes -/

/-- A change of an environment. -/
inductive EnvironmentChange where
  | load (source text : String)
  | loadFile (path : String) (content : Except FileFailure String)
  /-- The active profiles are shared, so they change from outside as well. -/
  | profiles (change : ProfileChange)

/-- The stream that a change reads, with its name. -/
def EnvironmentChange.stream? : EnvironmentChange → Option (String × String)
  | .load source text => some (source, text)
  | .loadFile path (.ok text) => if isYamlPath path then some (sourceNameOf path, text) else none
  | .loadFile _ (.error _) => none
  | .profiles _ => none

namespace Environment

/-- The environment after a change, which may have failed. -/
def apply (env : Environment) : EnvironmentChange → Environment
  | .load source text => (env.load source text).environment
  | .loadFile path content => (env.loadFile path content).addition.environment
  | .profiles change => { env with active := env.active.apply change }

/-- The environment after changes that are made one after another. -/
def after (env : Environment) (changes : List EnvironmentChange) : Environment :=
  changes.foldl apply env

end Environment

end ProfileLayers
