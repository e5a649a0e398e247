import Imds.Json.Reader

/-!
# Numerals

A numeral is a sign, digits, digits after a point, and an exponent. None of its
value is ever used here, and yet it matters: a document with a number that no
double can hold is not a document. Whether a number is too large is therefore
decided the way it is computed, in steps that each round.

The leading digits are gathered into a 64-bit word. Digits before the point that
do not fit raise the exponent by one each; digits after it lower the exponent
for as long as they fit and are then dropped. The word and the power of ten are
turned into doubles and multiplied. The number is too large when the product is,
or when the power alone lies beyond the largest one, which a word of zero
forgives. A number that is too small is simply zero.

All the numbers that occur on the way to a product that is too large are whole,
so the arithmetic is done on `Nat`: `nearestDouble` is the nearest number with
fifty-three binary digits.

## Main definitions

* `Numeral`: The parts of a numeral.
* `gather`: Leading digits as a word, and the digits that did not fit.
* `nearestDouble`: A whole number rounded to a double.
* `Numeral.fits`: Whether a double can hold the number.
* `Numeral.read`, `Numeral.reader`: Reads a numeral off the front of a text.

## Theorems

* `length_of_read`: A numeral uses up some of the text.
-/

namespace Imds

namespace Json

/-- The parts of a numeral. -/
structure Numeral where
  /-- Whether a minus sign stands in front. -/
  negative : Bool
  /-- The digits before the point. -/
  whole : List Nat
  /-- The digits after the point. -/
  fraction : List Nat
  /-- The exponent, zero when there is none. -/
  exponent : Int
  deriving DecidableEq

/-- The largest 64-bit word. -/
def largestWord : Nat := 0xFFFFFFFFFFFFFFFF

/-- Digits put after a word for as long as the result is a word, and the digits
    that are left. -/
def gather (word : Nat) : List Nat → Nat × List Nat
  | [] => (word, [])
  | d :: ds => if word * 10 + d ≤ largestWord then gather (word * 10 + d) ds else (word, d :: ds)

/-- The least number of fifty-four binary digits. Every smaller one is a
    double. -/
def smallEnd : Nat := 0x20000000000000

/-- A whole number rounded to fifty-three binary digits, a tie to the even
    neighbour. -/
def nearestDouble (n : Nat) : Nat :=
  if n < smallEnd then n
  else
    let unit := Nat.pow 2 (n.log2 - 52)
    let quotient := n / unit
    let rest := n % unit
    if unit < 2 * rest ∨ (2 * rest = unit ∧ quotient % 2 = 1) then (quotient + 1) * unit
    else quotient * unit

/-- The largest power of ten that is looked up. -/
def largestPower : Int := 308

/-- The least power of two beyond the doubles. -/
def doubleEnd : Nat := Nat.pow 2 1024

/-- Whether the word times a power of ten stays within the doubles. -/
def productFits (word : Nat) (power : Int) : Bool :=
  if power < 0 ∨ word = 0 then true
  else if largestPower < power then false
  else nearestDouble (nearestDouble word * nearestDouble (Nat.pow 10 power.toNat)) < doubleEnd

namespace Numeral

/-- Whether a double can hold the number. -/
def fits (n : Numeral) : Bool :=
  let (word, raised) := gather 0 n.whole
  let (word, dropped) := gather word n.fraction
  productFits word
    (n.exponent + (raised.length : Int) - ((n.fraction.length - dropped.length : Nat) : Int))

/-- The digits at the front of a text, and the rest. -/
def digits (s : List Char) : List Nat × List Char :=
  ((s.takeWhile Char.isDigit).map (fun c => c.toNat - '0'.toNat), s.dropWhile Char.isDigit)

/-- The digits at the front of a text, at least one, and the rest. -/
def someDigits (s : List Char) : Option (List Nat × List Char) :=
  if (digits s).1 = [] then none else some (digits s)

/-- The value of digits. -/
def ofDigits (ds : List Nat) : Nat := ds.foldl (fun n d => n * 10 + d) 0

/-- Whether a minus sign stands in front, and the text after it. -/
def readSign : List Char → Bool × List Char
  | '-' :: r => (true, r)
  | s => (false, s)

/-- The digits before the point. A zero stands alone. -/
def readWhole : List Char → Option (List Nat × List Char)
  | '0' :: r => some ([0], r)
  | s => someDigits s

/-- The digits after the point, if there is a point. -/
def readFraction : List Char → Option (List Nat × List Char)
  | '.' :: s => someDigits s
  | s => some ([], s)

/-- The text after a plus sign, if there is one. -/
def skipPlus : List Char → List Char
  | '+' :: r => r
  | s => s

/-- The exponent after its mark: a sign or none, and digits. Only one sign may
    stand there, so a minus sign is looked for only where no plus sign was. -/
def readPower (s : List Char) : Option (Int × List Char) := do
  let (negative, t) := readSign s
  let (ds, r) ← someDigits (if negative then t else skipPlus t)
  some (if negative then -(ofDigits ds : Int) else (ofDigits ds : Int), r)

/-- The exponent, if there is a mark. -/
def readExponent : List Char → Option (Int × List Char)
  | 'e' :: s => readPower s
  | 'E' :: s => readPower s
  | s => some (0, s)

/-- Reads a numeral off the front of a text, if a double can hold it. -/
def read (s : List Char) : Option (Numeral × List Char) := do
  let (negative, s) := readSign s
  let (whole, s) ← readWhole s
  let (fraction, s) ← readFraction s
  let (exponent, s) ← readExponent s
  let n : Numeral := ⟨negative, whole, fraction, exponent⟩
  if n.fits then some (n, s) else none

theorem length_of_someDigits {s r : List Char} {ds : List Nat}
    (h : someDigits s = some (ds, r)) : r.length < s.length := by
  simp only [someDigits] at h
  split at h
  · cases h
  · next hne =>
    have hr : s.dropWhile Char.isDigit = r := congrArg Prod.snd (Option.some.inj h)
    cases s with
    | nil => exact absurd rfl hne
    | cons c s =>
      by_cases hc : c.isDigit = true
      · rw [List.dropWhile_cons_of_pos hc] at hr
        rw [← hr, List.length_cons]
        exact Nat.lt_succ_of_le (length_dropWhile_le _ s)
      · exact absurd (by simp [digits, hc]) hne

theorem length_readSign_le (s : List Char) : (readSign s).2.length ≤ s.length := by
  fun_cases readSign s <;> simp

theorem length_skipPlus_le (s : List Char) : (skipPlus s).length ≤ s.length := by
  fun_cases skipPlus s <;> simp

theorem length_of_readWhole {s r : List Char} {ds : List Nat}
    (h : readWhole s = some (ds, r)) : r.length < s.length := by
  simp only [readWhole] at h
  split at h
  · cases h
    simp
  · exact length_of_someDigits h

theorem length_of_readFraction {s r : List Char} {ds : List Nat}
    (h : readFraction s = some (ds, r)) : r.length ≤ s.length := by
  simp only [readFraction] at h
  split at h
  · exact Nat.le_succ_of_le (Nat.le_of_lt (length_of_someDigits h))
  · cases h
    exact Nat.le_refl _

theorem length_of_readPower {s r : List Char} {e : Int}
    (h : readPower s = some (e, r)) : r.length ≤ s.length := by
  simp only [readPower, Option.bind_eq_bind, Option.bind_eq_some_iff, Option.some.injEq,
    Prod.mk.injEq] at h
  obtain ⟨⟨ds, t⟩, hds, _, rfl⟩ := h
  have h1 := length_of_someDigits hds
  have h2 := length_readSign_le s
  have h3 := length_skipPlus_le (readSign s).2
  show t.length ≤ s.length
  split at h1 <;> omega

theorem length_of_readExponent {s r : List Char} {e : Int}
    (h : readExponent s = some (e, r)) : r.length ≤ s.length := by
  simp only [readExponent] at h
  split at h
  · exact Nat.le_succ_of_le (length_of_readPower h)
  · exact Nat.le_succ_of_le (length_of_readPower h)
  · cases h
    exact Nat.le_refl _

theorem length_of_read {s r : List Char} {n : Numeral} (h : read s = some (n, r)) :
    r.length < s.length := by
  simp only [read, Option.bind_eq_bind, Option.bind_eq_some_iff] at h
  obtain ⟨⟨whole, s1⟩, h1, ⟨fraction, s2⟩, h2, ⟨exponent, s3⟩, h3, h4⟩ := h
  have g0 := length_readSign_le s
  have g1 : s1.length < (readSign s).2.length := length_of_readWhole h1
  have g2 : s2.length ≤ s1.length := length_of_readFraction h2
  have g3 : s3.length ≤ s2.length := length_of_readExponent h3
  split at h4
  · cases h4
    show s3.length < s.length
    omega
  · cases h4

/-- The reader of numerals. -/
def reader : Reader Numeral := ⟨read, length_of_read⟩

end Numeral

end Json

end Imds
