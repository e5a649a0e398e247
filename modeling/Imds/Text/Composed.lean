import Imds.Text.Composites
import Imds.Text.Mark

/-!
# Normalized Text

One text can be spelled in several ways: with letters that carry their marks, or
with letters and marks in a row, and then with the marks in this order or that.
The normalized spelling takes every composite apart, puts the marks of each letter
in the order of their ranks, and then composes whatever can be composed. A mark is
composed with its letter unless another mark stands between them that attaches to
the same place.

Only the composites of the table and the syllables of Hangul are taken apart. The
characters that normalization always avoids are left alone here.

## Main definitions

* `partsOf?`, `composite?`: Composites, the syllables of Hangul included.
* `apart`: What a character stands for, without composites.
* `ordered`: Marks put in the order of their ranks.
* `compose`: Letters composed with the marks behind them.
* `composed`: The normalized spelling of a text.
* `isComposed`: Whether a text is spelled that way.
-/

namespace Imds

namespace Text

/-! ## Syllables -/

/-- The first syllable of Hangul. The others follow in the order of their parts. -/
def firstSyllable : Nat := 0xAC00

/-- The first of the nineteen leading consonants. -/
def firstLead : Nat := 0x1100

/-- The first of the twenty-one vowels. -/
def firstVowel : Nat := 0x1161

/-- The place before the first of the twenty-seven trailing consonants. -/
def noTrail : Nat := 0x11A7

/-- How many syllables share their lead and vowel. -/
def trails : Nat := 28

/-- How many vowels there are. -/
def vowels : Nat := 21

/-- How many leading consonants there are. -/
def leads : Nat := 19

/-- The two parts of a syllable: what precedes the trailing consonant and that
    consonant, or the lead and the vowel of a syllable without one. -/
def syllableParts? (n : Nat) : Option (Nat × Nat) :=
  if firstSyllable ≤ n && n < firstSyllable + leads * vowels * trails then
    let i := n - firstSyllable
    if i % trails = 0 then some (firstLead + i / trails / vowels, firstVowel + i / trails % vowels)
    else some (n - i % trails, noTrail + i % trails)
  else none

/-- The syllable of two parts. -/
def syllable? (a b : Nat) : Option Nat :=
  if firstLead ≤ a && a < firstLead + leads && firstVowel ≤ b && b < firstVowel + vowels then
    some (firstSyllable + ((a - firstLead) * vowels + (b - firstVowel)) * trails)
  else if firstSyllable ≤ a && a < firstSyllable + leads * vowels * trails &&
      (a - firstSyllable) % trails == 0 && noTrail < b && b < noTrail + trails then
    some (a + (b - noTrail))
  else none

/-! ## Composites -/

/-- The two characters that a composite stands for. -/
def partsOf? (c : Char) : Option (Char × Char) :=
  if c.toNat < 0x80 then none
  else ((syllableParts? c.toNat).or (parts? c.toNat)).map
    (fun p => (Char.ofNat p.1, Char.ofNat p.2))

/-- The composite that stands for two characters. -/
def composite? (a b : Char) : Option Char :=
  if b.toNat < 0x80 then none
  else ((syllable? a.toNat b.toNat).or (composed? a.toNat b.toNat)).map Char.ofNat

/-- What a character stands for, when composites are taken apart so many times. -/
def apart : Nat → Char → List Char
  | 0, c => [c]
  | depth + 1, c =>
    match partsOf? c with
    | none => [c]
    | some (a, b) => apart depth a ++ [b]

/-- How often a character can be taken apart. The first part of a composite may be
    one again, twice at most; the second part never is. -/
def deepest : Nat := 3

/-! ## Order -/

/-- Marks in the order of their ranks, those of one rank in the order they had. -/
def sortedMarks (marks : List Char) : List Char := marks.mergeSort (fun a b => rank a ≤ rank b)

/-- A text with marks in the order of their ranks, after some marks that wait,
    newest first. -/
def ordered (waiting : List Char) : List Char → List Char
  | [] => sortedMarks waiting.reverse
  | c :: cs =>
    if rank c = 0 then sortedMarks waiting.reverse ++ c :: ordered [] cs
    else ordered (c :: waiting) cs

/-! ## Composition -/

/-- A text composed, behind a character that may take marks and the marks, newest
    first, that it could not take, of which the newest has the given rank. -/
def compose (base : Option Char) (kept : List Char) (newest : Nat) : List Char → List Char
  | [] => base.toList ++ kept.reverse
  | c :: cs =>
    let free := kept.isEmpty || newest < rank c
    match if free then base.bind (fun b => composite? b c) else none with
    | some whole => compose (some whole) kept newest cs
    | none =>
      if rank c = 0 then base.toList ++ (kept.reverse ++ compose (some c) [] 0 cs)
      else compose base (c :: kept) (rank c) cs

/-- The normalized spelling of a text. -/
def composed (cs : List Char) : List Char :=
  compose none [] 0 (ordered [] (cs.flatMap (apart deepest)))

/-- Whether a text is spelled in the normalized way. -/
def isComposed (cs : List Char) : Bool := composed cs == cs

end Text

end Imds
