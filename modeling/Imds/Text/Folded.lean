/-!
# Texts Compared Without Regard to Case

Header names, the endpoint mode and the words `true` and `false` are compared
without regard to case, but only the twenty-six letters of ASCII have a case
here: the Kelvin sign is not a `k`, and a dotless i is not an `I`. `Char.toLower`
changes exactly those letters, so folding is a map over the characters.

## Main definitions

* `folded`: A text with the capitals of ASCII made small.
* `sameFolded`: Whether two texts agree up to the case of ASCII letters.

## Theorems

* `sameFolded_iff`: Agreement is equality of the folded characters.
-/

namespace Imds

namespace Text

/-- The characters of a text with the capitals of ASCII made small. -/
def foldedChars (cs : List Char) : List Char := cs.map Char.toLower

/-- A text with the capitals of ASCII made small. -/
def folded (s : String) : String := String.ofList (foldedChars s.toList)

/-- Whether two texts agree up to the case of ASCII letters. -/
def sameFolded (s t : String) : Bool := foldedChars s.toList == foldedChars t.toList

theorem sameFolded_iff {s t : String} :
    sameFolded s t = true ↔ foldedChars s.toList = foldedChars t.toList := by
  simp [sameFolded]

theorem sameFolded_refl (s : String) : sameFolded s s = true := sameFolded_iff.2 rfl

end Text

end Imds
