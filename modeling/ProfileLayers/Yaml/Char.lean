/-
**Character classes of the YAML reader.**

A stream may only hold printable characters; line breaks come in five kinds and are read as a line
feed, except for the two Unicode separators, which are kept; the other white space of the format is
the space and the tab.

Main definitions:

* `ProfileLayers.Yaml.isReadable` — the characters a stream may hold;
* `ProfileLayers.Yaml.isBreak`, `ProfileLayers.Yaml.breakText` — line breaks and what they are
  read as;
* `ProfileLayers.Yaml.isGap` — space and tab;
* `ProfileLayers.Yaml.isWordChar`, `ProfileLayers.Yaml.isUriChar` — the characters of names and of
  tags.
-/

set_option relaxedAutoImplicit false
set_option autoImplicit false

namespace ProfileLayers.Yaml

/-- The characters a stream may hold: tab, line feed, carriage return, next line and the printable
ranges. -/
def isReadable (c : Char) : Bool :=
  let n := c.toNat
  n == 0x09 || n == 0x0A || n == 0x0D || (0x20 ≤ n && n ≤ 0x7E) || n == 0x85 ||
    (0xA0 ≤ n && n ≤ 0xD7FF) || (0xE000 ≤ n && n ≤ 0xFFFD) || (0x10000 ≤ n && n ≤ 0x10FFFF)

/-- The byte order mark. -/
def byteOrderMark : Char := Char.ofNat 0xFEFF

/-- The five line breaks: line feed, carriage return, next line and the two Unicode separators. -/
def isBreak (c : Char) : Bool :=
  c == '\n' || c == '\r' || c.toNat == 0x85 || c.toNat == 0x2028 || c.toNat == 0x2029

/-- What a line break is read as: the two Unicode separators stay, the others become a line
feed. -/
def breakText (c : Char) : List Char :=
  if c.toNat == 0x2028 || c.toNat == 0x2029 then [c] else ['\n']

/-- The white space inside a line. -/
def isGap (c : Char) : Bool := c == ' ' || c == '\t'

/-- The characters of anchors, tag handles and directive names: ASCII letters and digits, the low
line and the hyphen. -/
def isWordChar (c : Char) : Bool := c.isAlphanum || c == '_' || c == '-'

/-- The characters that may stand in a tag as they are. -/
def isUriChar (c : Char) : Bool := isWordChar c || ";/?:@&=+$.!~*'()".toList.contains c

/-- The characters that open or close a collection in flow style, or separate its entries. -/
def isFlowIndicator (c : Char) : Bool := ",[]\x7b\x7d".toList.contains c

end ProfileLayers.Yaml
