/-
**Profile expressions.**

An expression names the profiles a document applies to: positive ones, of which one must be active,
and negated ones, of which none may be.  The order of names is kept, but matching treats both lists
as sets.

Main definitions:

* `ProfileLayers.Expression` — the expressions;
* `ProfileLayers.Expression.ofTokens` — sorting tokens by their negation mark;
* `ProfileLayers.Expression.parse` — reading a comma-separated text;
* `ProfileLayers.Expression.text` — writing one.
-/

import ProfileLayers.Text.TokenList

set_option relaxedAutoImplicit false
set_option autoImplicit false

namespace ProfileLayers

/-- The profiles a document applies to. -/
structure Expression where
  /-- Profiles of which one must be active. -/
  positive : List String
  /-- Profiles of which none may be active. -/
  negative : List String
  /-- The text with which the expression was declared, if it was declared. -/
  raw : Option String
deriving Repr, DecidableEq, Inhabited

namespace Expression

/-- The name behind a negation mark. -/
def negated? (token : String) : Option String :=
  match token.toList with
  | '!' :: name => some (String.ofList name)
  | _ => none

/-- The expression of a document that declares nothing. -/
def none : Expression := ⟨[], [], Option.none⟩

/-- Sorts tokens, as they are, by their negation mark. -/
def ofTokens (tokens : List String) : Expression where
  positive := tokens.filter fun t => (negated? t).isNone
  negative := tokens.filterMap negated?
  raw := Option.none

/-- Reads a comma-separated text, which is kept as the declaration. -/
def parse (text : String) : Expression := { ofTokens (splitList text) with raw := some text }

/-- No profile is named. -/
def isEmpty (e : Expression) : Bool := e.positive.isEmpty && e.negative.isEmpty

/-- The positive names and the marked negated names. -/
def tokens (e : Expression) : List String := e.positive ++ e.negative.map ("!" ++ ·)

/-- The declared text, or the tokens with commas between them. -/
def text (e : Expression) : String := e.raw.getD (joinList e.tokens)

end Expression

end ProfileLayers
