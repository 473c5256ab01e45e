/-
**What can be wrong with a YAML stream.**

One constructor for each reason that makes a stream unreadable.  The reasons are grouped by the
layer that finds them: characters, tokens, structure, and the resolution of nodes.

Main definitions:

* `ProfileLayers.Yaml.Fault` — the reasons;
* `ProfileLayers.Yaml.Fault.message` — their wording.
-/

set_option relaxedAutoImplicit false
set_option autoImplicit false

namespace ProfileLayers.Yaml

/-- A reason that makes a stream unreadable. -/
inductive Fault where
  /-- A character that no stream may hold. -/
  | unreadableCharacter
  /-- A mapping key at the margin of its block is not followed by a colon. -/
  | missingColon
  /-- A dash, question mark or colon where no entry of that kind may begin. -/
  | misplacedIndicator
  /-- A character that begins no token. -/
  | strayCharacter
  /-- A directive that is unknown or badly written. -/
  | badDirective
  /-- An anchor or alias without a proper name. -/
  | badAnchor
  /-- A tag that is badly written. -/
  | badTag
  /-- A block scalar with an unusable header. -/
  | badBlockHeader
  /-- A tab where indentation is expected. -/
  | tabIndentation
  /-- A quoted scalar that runs into a document marker or the end of the stream. -/
  | unclosedQuote
  /-- An unknown or malformed escape in a quoted scalar. -/
  | badEscape
  /-- A colon that touches an indicator inside a flow collection. -/
  | ambiguousColon
  /-- Two version directives, or a version that is not supported. -/
  | badVersion
  /-- The same tag handle declared twice. -/
  | repeatedTagHandle
  /-- A tag handle that was not declared. -/
  | unknownTagHandle
  /-- Content that follows a document without a document marker. -/
  | missingDocumentStart
  /-- A place where a node must stand and none does. -/
  | missingNode
  /-- A collection whose next entry cannot begin where it does. -/
  | brokenCollection
  /-- An alias whose anchor was not defined before it. -/
  | unknownAnchor
  /-- Aliases expand to far more nodes than the document has. -/
  | tooManyAliases
  /-- Collections are nested too deeply. -/
  | tooDeep
  /-- A scalar that does not fit the type its tag demands. -/
  | tagMismatch
deriving Repr, DecidableEq, Inhabited

/-- The wording of a reason. -/
def Fault.message : Fault → String
  | .unreadableCharacter => "control characters are not allowed"
  | .missingColon => "could not find expected ':'"
  | .misplacedIndicator => "block entries are not allowed in this context"
  | .strayCharacter => "found character that cannot start any token"
  | .badDirective => "found an unusable directive"
  | .badAnchor => "did not find expected alphabetic or numeric character"
  | .badTag => "did not find expected tag"
  | .badBlockHeader => "found an unusable block scalar header"
  | .tabIndentation => "found a tab character where indentation is expected"
  | .unclosedQuote => "found unexpected end of a quoted scalar"
  | .badEscape => "found unknown escape sequence"
  | .ambiguousColon => "found unexpected ':'"
  | .badVersion => "found incompatible or repeated version directive"
  | .repeatedTagHandle => "found repeated tag directive"
  | .unknownTagHandle => "found undefined tag handle"
  | .missingDocumentStart => "did not find expected document start"
  | .missingNode => "did not find expected node content"
  | .brokenCollection => "did not find expected entry"
  | .unknownAnchor => "unknown anchor"
  | .tooManyAliases => "repetition limit exceeded"
  | .tooDeep => "recursion limit exceeded"
  | .tagMismatch => "invalid value for its tag"

end ProfileLayers.Yaml
