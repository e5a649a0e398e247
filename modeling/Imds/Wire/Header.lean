/-!
# Which Headers Can Be Sent

A header has a name and a value, and neither can be any text. A name is made of
letters, digits and a few marks, with at least one character and at most 65535.
A value is free of control characters, the tab excepted: a line break in a value
would end the header and begin another. Characters beyond ASCII are sent as the
bytes of their UTF-8 form, none of which is a control character.

## Main definitions

* `isName`: Whether a text can be the name of a header.
* `isValue`: Whether a text can be the value of a header.
-/

namespace Imds

namespace Wire

namespace Header

/-- The marks that may stand in a name. -/
def marks : List Char := "!#$%&'*+-.^_|~\x60".toList

/-- Whether a character may stand in a name. -/
def isNameChar (c : Char) : Bool := c.isAlphanum || marks.contains c

/-- How long a name can be. -/
def longestName : Nat := 65535

/-- Whether a text can be the name of a header. -/
def isName (s : String) : Bool :=
  s != "" && s.utf8ByteSize ≤ longestName && s.toList.all isNameChar

/-- Whether a character may stand in a value. -/
def isValueChar (c : Char) : Bool := c == '\t' || (0x20 ≤ c.val && c.val != 0x7F)

/-- Whether a text can be the value of a header. -/
def isValue (s : String) : Bool := s.toList.all isValueChar

end Header

end Wire

end Imds
