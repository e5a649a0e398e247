import Imds.Text.Number

/-!
# Percent Escapes

A URL is written in part of ASCII. Other characters, and those that would mean
something where they stand, are written as the bytes of their UTF-8 form, each byte
as a percent sign and two hexadecimal digits. Which characters have to be escaped
depends on the part of the URL. The percent sign itself is never escaped, so that
what is escaped already stays as it is.

## Main definitions

* `Escape.decoded`: The bytes of a text with escapes resolved.
* `Escape.text?`: The text that they form, if they do.
* `Escape.encoded`: A text with some characters escaped.
-/

namespace Imds

namespace Wire

namespace Escape

/-- The bytes of a text with escapes resolved. A percent sign without two digits
    stands for itself. -/
def decoded : List Char → List UInt8
  | '%' :: a :: b :: cs =>
    if Text.isDigit 16 a && Text.isDigit 16 b then
      UInt8.ofNat (Text.digitValue a * 16 + Text.digitValue b) :: decoded cs
    else String.utf8EncodeChar '%' ++ decoded (a :: b :: cs)
  | c :: cs => String.utf8EncodeChar c ++ decoded cs
  | [] => []
termination_by cs => cs.length

/-- The text of a text with escapes resolved, if its bytes are one. -/
def text? (cs : List Char) : Option (List Char) :=
  (String.fromUTF8? (decoded cs).toByteArray).map String.toList

/-- The hexadecimal digit of a value, a capital. -/
def digit (n : Nat) : Char := if n < 10 then Char.ofNat (48 + n) else Char.ofNat (55 + n)

/-- The escape of a byte. -/
def ofByte (b : UInt8) : List Char := ['%', digit (b.toNat / 16), digit (b.toNat % 16)]

/-- Whether a character is escaped wherever it stands: controls, and whatever is
    not in ASCII. -/
def isAlways (c : Char) : Bool := c.val < 0x20 || 0x7F ≤ c.val

/-- A text with the characters escaped that always are or are among some others. -/
def encoded (others : List Char) (cs : List Char) : List Char :=
  cs.flatMap (fun c =>
    if isAlways c || others.contains c then (String.utf8EncodeChar c).flatMap ofByte else [c])

end Escape

end Wire

end Imds
