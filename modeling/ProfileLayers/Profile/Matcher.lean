/-
**Deciding whether a document applies.**

A negated profile that is active vetoes the document.  Otherwise its positive profiles decide, if it
has any, and else it applies.  What makes a positive profile match depends on what is sought: in
discovery that it is active, in the default search that its name is blank, and in the search for one
profile that it is that one.

Main definitions:

* `ProfileLayers.Status` — the outcome for one side of an expression;
* `ProfileLayers.NameTest` — what makes a name match;
* `ProfileLayers.Matcher` — the three searches;
* `ProfileLayers.Matcher.status` — the outcome for a whole expression.
-/

import ProfileLayers.LoadError
import ProfileLayers.Profile.Expression
import ProfileLayers.Profile.Names

set_option relaxedAutoImplicit false
set_option autoImplicit false

namespace ProfileLayers

/-- The outcome of matching. -/
inductive Status where
  /-- A declared profile matches. -/
  | found
  /-- Profiles are declared, and none matches. -/
  | notFound
  /-- Nothing is declared. -/
  | abstain
deriving Repr, DecidableEq, Inhabited

/-- A profile matches. -/
def Status.isFound : Status → Bool
  | .found => true
  | _ => false

/-- What makes a name match. -/
inductive NameTest where
  /-- Nothing but blanks. -/
  | blank
  /-- One of the active profiles. -/
  | active (profiles : ProfileSet)
  /-- This name. -/
  | only (profile : String)
deriving Repr, DecidableEq, Inhabited

namespace NameTest

/-- The name matches. -/
def accepts : NameTest → String → Bool
  | .blank, name => isBlankText name
  | .active profiles, name => profiles.contains name
  | .only profile, name => name == profile

/-- The outcome for a list of names. -/
def status (t : NameTest) (names : List String) : Status :=
  if names.isEmpty then .abstain else if names.any t.accepts then .found else .notFound

/-- Being active; when nothing is, a blank name counts as active. -/
def activeOrBlank (active : ProfileSet) : NameTest :=
  if active.isEmpty then .blank else .active active

end NameTest

/-- A search among documents, given the active profiles. -/
inductive Matcher where
  /-- Discovery of profiles. -/
  | generic (active : ProfileSet)
  /-- The default documents. -/
  | default (active : ProfileSet)
  /-- The documents of one profile. -/
  | specific (profile : String) (active : ProfileSet)
deriving Repr, DecidableEq, Inhabited

namespace Matcher

/-- The active profiles. -/
def active : Matcher → ProfileSet
  | .generic active => active
  | .default active => active
  | .specific _ active => active

/-- The search for one profile, whose name must not be blank. -/
def specific? (profile : String) (active : ProfileSet) : Except LoadError Matcher :=
  if isBlankText profile then .error (.blankProfile profile) else .ok (.specific profile active)

/-- The search for a profile, or the default search if none is sought. -/
def seek? (profile? : Option String) (active : ProfileSet) : Except LoadError Matcher :=
  match profile? with
  | some profile => specific? profile active
  | none => .ok (.default active)

/-- What makes a positive profile match. -/
def positiveTest : Matcher → NameTest
  | .generic active => .activeOrBlank active
  | .default _ => .blank
  | .specific profile _ => .only profile

/-- The outcome for the positive profiles. -/
def positiveStatus (m : Matcher) (e : Expression) : Status := m.positiveTest.status e.positive

/-- The outcome for the negated profiles: `found` if one is active. -/
def negativeStatus (m : Matcher) (e : Expression) : Status :=
  (NameTest.activeOrBlank m.active).status e.negative

/-- The outcome for an expression; it is never `abstain`. -/
def status (m : Matcher) (e : Expression) : Status :=
  if !e.negative.isEmpty && (m.negativeStatus e).isFound then .notFound
  else if e.positive.isEmpty then .found
  else m.positiveStatus e

/-- The document with this expression applies. -/
def accepts (m : Matcher) (e : Expression) : Bool := (m.status e).isFound

end Matcher

end ProfileLayers
