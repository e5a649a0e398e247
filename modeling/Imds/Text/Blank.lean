/-!
# Blank Characters and Trimming

Everything the metadata service hands over is text with ragged edges: listings
end in newlines, names carry slashes, settings come padded from a shell. Three
trims cover all of it, and they are kept apart because their order shows: a
line that is trimmed of blanks and then of slashes can end in a blank again.

A character is blank when Unicode gives it the property `White_Space`. The
property has twenty-five members, far more than the four that `Char.isWhitespace`
knows, and settings copied from a document do contain the others.

The work is done on lists of characters, where trimming an end is `dropWhile`
on the reversed list. The functions on `String` wrap it.

## Main definitions

* `isBlank`: The characters with the property `White_Space`.
* `trimLeft`, `trimRight`: Dropping a class of characters from one end.
* `trimBlank`: A text without blanks on either end.
* `trimSlashes`: A text without slashes at its end.

## Theorems

* `trimLeft_eq_self`: A text that starts with a kept character is unchanged.
-/

namespace Imds

namespace Text

/-- The characters of the Unicode property `White_Space`. -/
def isBlank (c : Char) : Bool :=
  (0x09 ≤ c.val && c.val ≤ 0x0D) || c.val == 0x20 || c.val == 0x85 || c.val == 0xA0 ||
    c.val == 0x1680 || (0x2000 ≤ c.val && c.val ≤ 0x200A) || c.val == 0x2028 ||
    c.val == 0x2029 || c.val == 0x202F || c.val == 0x205F || c.val == 0x3000

/-- Drops the characters of a class from the front. -/
def trimLeft (p : Char → Bool) (cs : List Char) : List Char := cs.dropWhile p

/-- Drops the characters of a class from the end. -/
def trimRight (p : Char → Bool) (cs : List Char) : List Char := (cs.reverse.dropWhile p).reverse

@[simp] theorem trimRight_nil (p : Char → Bool) : trimRight p [] = [] := rfl

theorem trimLeft_eq_self {p : Char → Bool} {c : Char} {cs : List Char} (h : p c = false) :
    trimLeft p (c :: cs) = c :: cs := by
  simp [trimLeft, h]

/-- The characters of a text without blanks on either end. -/
def trimBlankChars (cs : List Char) : List Char := trimRight isBlank (trimLeft isBlank cs)

/-- Whether a character is the slash that separates path segments. -/
def isSlash (c : Char) : Bool := c == '/'

/-- A text without blanks on either end. -/
def trimBlank (s : String) : String := String.ofList (trimBlankChars s.toList)

/-- A text without slashes at its end. Slashes elsewhere stay. -/
def trimSlashes (s : String) : String := String.ofList (trimRight isSlash s.toList)

end Text

end Imds
