import Imds.Text.Number
import Imds.Text.Pieces

/-!
# Numeric Hosts

A host that is no name is the number of a machine. Such numbers have 32 bits or 128.

The short ones are written with dots. Up to four parts are numbers themselves, in
base ten, in base eight behind a zero, or in base sixteen behind `0x`; each is a byte
but the last, which fills whatever bytes the others leave.

The long ones are written as eight groups of up to four hexadecimal digits with
colons between them. One run of groups may be left out where two colons stand, and
the last two groups may be written as four decimal bytes. When one is sent, the
longest run of zeros is left out, the first of several, unless it is a single group.

## Main definitions

* `Short.part?`: The number that a part is.
* `Short.isNumeric`: Whether a host has to be a short number.
* `Short.ofChars?`, `Short.sent`: A short number read and written.
* `Long.ofChars?`, `Long.sent`: The groups of a long number read and written.
-/

namespace Imds

namespace Wire

namespace Host

namespace Short

/-- The number that a part is, in the base that its first characters tell. There may
    be no digits behind `0x`. -/
def part? : List Char → Option Nat
  | '0' :: x :: cs =>
    if x = 'x' ∨ x = 'X' then if cs.isEmpty then some 0 else Text.number? 16 cs
    else Text.number? 8 (x :: cs)
  | cs => Text.number? 10 cs

/-- The parts of a host. A dot at the end adds none. -/
def parts (cs : List Char) : List (List Char) :=
  let parts := Text.pieces '.' cs
  if parts.length > 1 ∧ parts.getLast? = some [] then parts.dropLast else parts

/-- Whether a host has to be a short number: its last part is one, or is made of
    figures. -/
def isNumeric (cs : List Char) : Bool :=
  (parts cs).getLast?.any (fun part =>
    (Text.number? 10 part).isSome || (part? part).isSome)

/-- The number of some bytes and a last part that fills the bytes they leave. -/
def total : List Nat → Nat → Option Nat
  | bytes, last =>
    if bytes.length < 4 && bytes.all (· < 256) && last < Nat.pow 256 (4 - bytes.length) then
      some (bytes.foldl (fun n byte => n * 256 + byte) 0 * Nat.pow 256 (4 - bytes.length) + last)
    else none

/-- The short number that a host is. -/
def ofChars? (cs : List Char) : Option Nat := do
  let numbers ← (parts cs).mapM part?
  let last ← numbers.getLast?
  total numbers.dropLast last

/-- A short number as it is sent: four bytes with dots between them. -/
def sent (n : Nat) : List Char :=
  Text.joined '.' ([n / 16777216, n / 65536 % 256, n / 256 % 256, n % 256].map Text.decimalDigits)

end Short

namespace Long

/-- Whether a text is a group. -/
def isGroup (cs : List Char) : Bool := cs.length ≤ 4 && (Text.number? 16 cs).isSome

/-- Whether a text is a byte in decimal digits, without leading zeros. -/
def isByte (cs : List Char) : Bool :=
  cs.length ≤ 3 && (cs.length == 1 || cs.head? != some '0') &&
    (Text.number? 10 cs).any (· < 256)

/-- The two groups that four decimal bytes are. -/
def quad? (cs : List Char) : Option (List Nat) :=
  let parts := Text.pieces '.' cs
  if parts.all isByte then
    match parts.map (Text.numberOf 10) with
    | [a, b, c, d] => some [a * 256 + b, c * 256 + d]
    | _ => none
  else none

/-- The groups of some parts, of which the last may be four decimal bytes. -/
def groups? : List (List Char) → Option (List Nat)
  | [] => some []
  | [part] => if isGroup part then some [Text.numberOf 16 part] else quad? part
  | part :: next :: rest =>
    if isGroup part then (groups? (next :: rest)).map (Text.numberOf 16 part :: ·) else none

/-- The text before two colons, and the text after them if there are any. -/
def splitGap : List Char → List Char × Option (List Char)
  | [] => ([], none)
  | ':' :: ':' :: cs => ([], some cs)
  | c :: cs =>
    let (before, after) := splitGap cs
    (c :: before, after)

/-- The parts of the text on one side of two colons. -/
def side (cs : List Char) : List (List Char) := if cs.isEmpty then [] else Text.pieces ':' cs

/-- The eight groups of a long number. -/
def ofChars? (cs : List Char) : Option (List Nat) :=
  match splitGap cs with
  | (before, none) => (groups? (side before)).filter (fun gs => gs.length == 8)
  | (before, some after) =>
    if (side before).all isGroup then
      (groups? (side after)).bind (fun gs =>
        let start := (side before).map (Text.numberOf 16)
        if start.length + gs.length ≤ 7 then
          some (start ++ List.replicate (8 - (start.length + gs.length)) 0 ++ gs)
        else none)
    else none

/-- How many zeros there are at the beginning of each rest of some groups. -/
def zeros : List Nat → List Nat
  | [] => []
  | g :: gs => (if g = 0 then (zeros gs).headD 0 + 1 else 0) :: zeros gs

/-- Some groups as they are sent. -/
def written (gs : List Nat) : List Char := Text.joined ':' (gs.map Text.hexDigits)

/-- A long number as it is sent. -/
def sent (gs : List Nat) : List Char :=
  let runs := zeros gs
  let longest := runs.foldl max 0
  if longest < 2 then written gs
  else
    let start := runs.takeWhile (· != longest)
    written (gs.take start.length) ++ "::".toList ++ written (gs.drop (start.length + longest))

end Long

end Host

end Wire

end Imds
