import Imds.Wire.Escape
import Imds.Wire.Host.Label
import Imds.Wire.Host.Numeric

/-!
# Hosts

A URL says which machine is asked by a name or by a number. A long number stands in
brackets. Any other host has its percent escapes resolved and is brought into the
spelling that is sent; only then does it show whether it is a name or a short number,
because figures can be typed in many ways as well. A host that has to be a number and
is not one in range is refused, and so is a host that is empty once the characters
that mean nothing are gone.

## Main definitions

* `Host`: A name or a number.
* `Host.ofChars?`: The host that is typed.
* `Host.sent`: A host as it is sent.
-/

namespace Imds

namespace Wire

/-- What says which machine is asked. -/
inductive Host where
  /-- A name, as it is sent. -/
  | name (text : List Char)
  /-- A number of 32 bits. -/
  | short (number : Nat)
  /-- A number of 128 bits, in eight groups. -/
  | long (groups : List Nat)
  deriving DecidableEq

namespace Host

/-- The host of a text that is spelled as it is sent. -/
def ofSent? (text : List Char) : Option Host :=
  if text.isEmpty then none
  else if Short.isNumeric text then (Short.ofChars? text).map short
  else some (name text)

/-- The host that is typed. -/
def ofChars? : List Char → Option Host
  | '[' :: cs => if cs.getLast? = some ']' then (Long.ofChars? cs.dropLast).map long else none
  | cs => do
    let text ← Escape.text? cs
    let text ← Name.ofChars? text
    ofSent? text

/-- A host as it is sent. -/
def sent : Host → List Char
  | name text => text
  | short number => Short.sent number
  | long groups => '[' :: Long.sent groups ++ [']']

end Host

end Wire

end Imds
