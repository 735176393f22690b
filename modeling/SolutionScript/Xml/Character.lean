import SolutionScript.Text.Letter
import SolutionScript.Xml.NameTable

/-!
# Characters of XML

Which characters an XML text may have, and which of them make names. A colon
is no name character here: it parts a prefix from the rest of a name.
-/

namespace SolutionScript.Xml

/-- White space between the parts of a tag or a declaration. -/
def isSpace (c : Char) : Bool := c == ' ' || c == '\t' || c == '\n' || c == '\r'

/-- Whether a code point is a character that an XML text may have. -/
def isXmlCode (n : Nat) : Bool :=
  n == 9 || n == 10 || n == 13 || (0x20 ≤ n && n ≤ 0xD7FF) || (0xE000 ≤ n && n ≤ 0xFFFD) ||
    (0x10000 ≤ n && n ≤ 0x10FFFF)

/-- Whether an XML text may have a character. -/
def isXmlChar (c : Char) : Bool := isXmlCode c.toNat

/-- Whether a character may start a name. -/
def isNameStart (c : Char) : Bool :=
  if c.toNat < 128 then c.isAlpha || c == '_' else Text.inRanges nameStartRanges c.toNat

/-- Whether a character may continue a name. -/
def isNamePart (c : Char) : Bool :=
  if c.toNat < 128 then c.isAlphanum || c == '_' || c == '-' || c == '.'
  else Text.inRanges nameStartRanges c.toNat || Text.inRanges namePartRanges c.toNat

/-- Whether a character may stand in a public identifier. -/
def isPublicIdChar (c : Char) : Bool :=
  c.isAlphanum || " \r\n-'()+,./:=?;!*#@$_%".toList.contains c

end SolutionScript.Xml
