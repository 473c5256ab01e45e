/-
**Plain scalars.**

A bare scalar runs over spaces and line breaks until a colon that ends a word, a comment, a
document marker, a line left of its block or, inside a flow collection, an indicator of that
collection.

Main definitions:

* `ProfileLayers.Yaml.PlainScalar` — the text, whether it was followed by a line break, and the
  rest of the stream;
* `ProfileLayers.Yaml.scanPlain` — reading one.
-/

import ProfileLayers.Yaml.Fault
import ProfileLayers.Yaml.Position
import ProfileLayers.Yaml.Token.Fold

set_option relaxedAutoImplicit false
set_option autoImplicit false

namespace ProfileLayers.Yaml

/-- A plain scalar as it was read. -/
structure PlainScalar where
  text : List Char
  /-- A line break lies between the scalar and the rest. -/
  broken : Bool
  rest : List Placed
deriving Repr, DecidableEq, Inhabited

/-- A place before which white space ends the scalar: a column left of `margin` outside flow
collections, a document marker, or a comment. -/
def endsAfterSpacing (flow : Bool) (margin : Nat) (q : Placed) (qs : List Placed) : Bool :=
  (!flow && decide (q.mark.column < margin)) || Placed.atDocumentMarker (q :: qs) || q.char == '#'

/-- An indicator that ends the scalar even inside a word. -/
def endsPlain (flow : Bool) (q : Placed) (qs : List Placed) : Bool :=
  (q.char == ':' && Placed.endsWord qs) || (flow && isFlowIndicator q.char)

/-- Reads on after `spacing`; `out` is the text so far, last character first.  Lines of the scalar
must not begin left of `margin`. -/
def scanPlainFrom (flow : Bool) (margin : Nat) :
    List Placed → Spacing → List Char → Except Fault PlainScalar
  | [], spacing, out => .ok ⟨out.reverse, spacing.broken, []⟩
  | q :: qs, spacing, out =>
      if isGap q.char then
        if spacing.broken && decide (q.mark.column < margin) && q.char == '\t' then
          .error .tabIndentation
        else scanPlainFrom flow margin qs (spacing.addGap q.char) out
      else if isBreak q.char then
        if q.isHalfBreak qs then scanPlainFrom flow margin qs spacing out
        else scanPlainFrom flow margin qs (spacing.addBreak q.char) out
      else if spacing.isSome && endsAfterSpacing flow margin q qs then
        .ok ⟨out.reverse, spacing.broken, q :: qs⟩
      else if flow && q.char == ':' &&
          Placed.aheadIs (fun c => isFlowIndicator c || c == '?') qs then
        .error .ambiguousColon
      else if endsPlain flow q qs then .ok ⟨out.reverse, spacing.broken, q :: qs⟩
      else scanPlainFrom flow margin qs .none (q.char :: (spacing.text.reverse ++ out))

/-- Reads the plain scalar that begins here. -/
def scanPlain (flow : Bool) (margin : Nat) (qs : List Placed) : Except Fault PlainScalar :=
  scanPlainFrom flow margin qs .none []

end ProfileLayers.Yaml
