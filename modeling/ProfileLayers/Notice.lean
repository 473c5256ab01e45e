/-
**Notices of a load.**

Loading tells what it does: which documents were skipped, which keys collided, how each document was
matched, and what was selected.  Notices are values; their wording is decided in one place.

Main definitions:

* `ProfileLayers.Notice` — the notices;
* `ProfileLayers.Notice.line` — level and wording;
* `ProfileLayers.Report` — a result together with the notices on the way to it.

Main results:

* `ProfileLayers.Report.result_bind`, `ProfileLayers.Report.notices_bind` — the result of two steps
  is that of the results, and the notices of the second step follow those of the first if the first
  succeeds.
-/

import ProfileLayers.Profile.Matcher
import ProfileLayers.Text.Quoted

set_option relaxedAutoImplicit false
set_option autoImplicit false

namespace ProfileLayers

/-! ### Notices -/

/-- Something that was noticed during a load. -/
inductive Notice where
  /-- A document without content, by its place in the stream. -/
  | emptyDocument (index : Nat) (source : String)
  /-- Two keys of one mapping that are different but have the same place in the map. -/
  | keysCollide (key source : String)
  /-- An expression was matched. -/
  | matched (e : Expression) (status : Status) (matcher : Matcher)
  /-- A pass of discovery ended; passes are counted from one. -/
  | discoveryPass (number : Nat) (active : ProfileSet)
  /-- A document matched but has no properties. -/
  | withoutProperties (index : Nat) (source : String)
  /-- A document was selected under a name. -/
  | selected (index : Nat) (name : String) (keys : Nat)
  /-- A stream was loaded. -/
  | loaded (source : String) (sought? : Option String) (chosen total : Nat)
      (active : ProfileSet)
  /-- A stream was added to an environment. -/
  | layered (source : String) (layers : Nat) (active : ProfileSet)
  /-- A file that no stream is expected in. -/
  | notYaml (path : String)
deriving Repr, DecidableEq, Inhabited

/-- The name of a status. -/
def Status.label : Status → String
  | .found => "Found"
  | .notFound => "NotFound"
  | .abstain => "Abstain"

/-- A matcher with its parts. -/
def Matcher.label : Matcher → String
  | .generic active => "Generic \x7b active: " ++ quotedSet active.names ++ " \x7d"
  | .default active => "DefaultProfile \x7b active: " ++ quotedSet active.names ++ " \x7d"
  | .specific profile active =>
      "SpecificProfile \x7b profile: " ++ quoted profile ++ ", active: " ++
        quotedSet active.names ++ " \x7d"

namespace Notice

/-- The notice of matching an expression. -/
def ofMatch (m : Matcher) (e : Expression) : Notice := .matched e (m.status e) m

/-- How important a notice is. -/
def level : Notice → String
  | .emptyDocument .. => "TRACE"
  | .keysCollide .. => "WARN"
  | .matched .. => "TRACE"
  | .discoveryPass .. => "DEBUG"
  | .withoutProperties .. => "TRACE"
  | .selected .. => "DEBUG"
  | .loaded .. => "DEBUG"
  | .layered .. => "DEBUG"
  | .notYaml _ => "DEBUG"

/-- The wording of a notice. -/
def message : Notice → String
  | .emptyDocument index source =>
      "Skipping empty document #" ++ index.repr ++ " in " ++ source
  | .keysCollide key source =>
      "Distinct keys flatten to '" ++ key ++ "' in " ++ source ++ "; the later entry wins"
  | .matched e status matcher =>
      "Profile expression '" ++ e.text ++ "' -> " ++ status.label ++ " (" ++ matcher.label ++ ")"
  | .discoveryPass number active =>
      "Profile discovery pass " ++ number.repr ++ ": active profiles " ++ quotedSet active.names
  | .withoutProperties index source =>
      "Skipping document " ++ index.repr ++ " of '" ++ source ++ "': no properties"
  | .selected index name keys =>
      "Selected document " ++ index.repr ++ " as '" ++ name ++ "' (" ++ keys.repr ++ " keys)"
  | .loaded source sought? chosen total active =>
      "Loaded '" ++ source ++ "' (profile: " ++ quotedOption sought? ++ "): " ++ chosen.repr ++
        " of " ++ total.repr ++ " documents selected, active profiles " ++
        quotedSet active.names
  | .layered source layers active =>
      "Loaded '" ++ source ++ "' as " ++ layers.repr ++ " layers, active profiles " ++
        quotedSet active.names
  | .notYaml path => "Not a YAML file: " ++ path

/-- Level and wording in one line. -/
def line (n : Notice) : String := n.level ++ " " ++ n.message

end Notice

/-! ### Reports -/

/-- A result, or an error, together with the notices on the way to it. -/
structure Report (α : Type) where
  notices : List Notice
  result : Except LoadError α

namespace Report

variable {α β : Type}

@[ext] theorem ext (r s : Report α) (hnotices : r.notices = s.notices)
    (hresult : r.result = s.result) : r = s := by
  cases r; cases s; cases hnotices; cases hresult; rfl

/-- A result without notices. -/
def ofResult (r : Except LoadError α) : Report α := ⟨[], r⟩

/-- Notices and nothing else. -/
def note (notices : List Notice) : Report Unit := ⟨notices, .ok ()⟩

/-- A step and, if it succeeds, the next one. -/
def bind (r : Report α) (f : α → Report β) : Report β :=
  match r.result with
  | .ok a => ⟨r.notices ++ (f a).notices, (f a).result⟩
  | .error e => ⟨r.notices, .error e⟩

instance : Monad Report where
  pure a := ⟨[], .ok a⟩
  bind := bind

/-- The outcome for an expression, which is noticed. -/
def matching (m : Matcher) (e : Expression) : Report Status := ⟨[.ofMatch m e], .ok (m.status e)⟩

@[simp] theorem result_pure (a : α) : (pure a : Report α).result = .ok a := rfl

@[simp] theorem notices_pure (a : α) : (pure a : Report α).notices = [] := rfl

@[simp] theorem result_bind (r : Report α) (f : α → Report β) :
    (r >>= f).result = r.result.bind fun a => (f a).result := by
  show (bind r f).result = _
  unfold bind
  cases r.result <;> rfl

theorem notices_bind (r : Report α) (f : α → Report β) :
    (r >>= f).notices = r.notices ++
      match r.result with
      | .ok a => (f a).notices
      | .error _ => [] := by
  show (bind r f).notices = _
  unfold bind
  cases r.result <;> simp

@[simp] theorem result_note (notices : List Notice) : (note notices).result = .ok () := rfl

@[simp] theorem result_ofResult (r : Except LoadError α) : (ofResult r).result = r := rfl

end Report

end ProfileLayers
