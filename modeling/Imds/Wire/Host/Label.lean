import Imds.Text.Pieces
import Imds.Wire.Host.Direction
import Imds.Wire.Host.Joiner
import Imds.Wire.Host.Punycode
import Imds.Wire.Host.Spelling

/-!
# Labels of Host Names

A name is labels with dots between them. A label is sent in ASCII; one that has other
characters is sent as a code behind four characters that say so, and a label that is
typed as such a code stands for the text that it codes. Either way the text has to be
one that a name can have: it is spelled as names are, does not begin with a mark, has
joiners only where they belong, and none of the characters that a host never has.
A code stands for a text that needs one, so the text of a code is not plain. A code is
read once: a text that looks like a code again is a label as any other.

How long labels are is left to those who look names up. The codes alone have a limit,
for the sake of the time it takes to read and write them.

## Main definitions

* `isForbidden`: The characters that a host never has.
* `Label.ofCode?`: The text of a code.
* `Label.isFit`: Whether a text can be a label.
* `Label.ofChars?`: The text of a label as it is typed.
* `Label.sent`: A label as it is sent.
* `Name.ofChars?`: A name as it is sent, from what is typed.
-/

namespace Imds

namespace Wire

namespace Host

/-- Whether a character never stands in a host: controls, the marks that mean
    something in a URL, and those that a request line cannot carry. -/
def isForbidden (c : Char) : Bool :=
  c.val ≤ 0x20 || c.val == 0x7F || "\"#%/:<>?@[\\]^\x60\x7b|\x7d".toList.contains c

/-- Whether a text has characters of ASCII only. -/
def isPlain (cs : List Char) : Bool := cs.all (fun c => c.toNat < 0x80)

namespace Label

/-- What a code begins with. -/
def codeMark : List Char := "xn--".toList

/-- The length of the longest code that is read, its mark aside. -/
def longestCode : Nat := 2000

/-- The length of the longest text that is coded. -/
def longestCoded : Nat := 1000

/-- The text that a code without its mark stands for. It may begin with the mark
    itself, since a code is read once. -/
def ofCode? (code : List Char) : Option (List Char) :=
  if isPlain code && code.length ≤ longestCode && code.getLast?.any (· != '-') then
    (Punycode.decode? code).filter (fun text =>
      text.all Spelling.isKept && Text.isComposed text)
  else none

/-- Whether a text that is spelled as names are can be a label. -/
def isFit (text : List Char) : Bool :=
  !text.head?.any Text.isMark && Joiner.fit [] text && !text.any isForbidden &&
    (isPlain text || text.length ≤ longestCoded)

/-- The text of a label as it is typed, when it is spelled as names are. -/
def ofChars? (label : List Char) : Option (List Char) :=
  (if codeMark.isPrefixOf label then ofCode? (label.drop codeMark.length)
    else some label).filter isFit

/-- A label as it is sent. -/
def sent (text : List Char) : List Char :=
  if isPlain text then text else codeMark ++ Punycode.encode text

end Label

namespace Name

/-- A name as it is sent, from what is typed. -/
def ofChars? (cs : List Char) : Option (List Char) := do
  let spelled ← Spelling.ofChars cs
  let labels ← (Text.pieces '.' spelled).mapM Label.ofChars?
  if Direction.fit labels then some (Text.joined '.' (labels.map Label.sent)) else none

end Name

end Host

end Wire

end Imds
