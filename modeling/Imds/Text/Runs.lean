import Imds.Text.Number
import Imds.Text.Pieces

/-!
# Tables of Characters

What Unicode says of characters is said of runs of them: consecutive characters,
or every second one where capitals and small letters alternate. A table lists
such runs in ascending order, each with some numbers, and is searched by halving.

A table is written as words with blanks or line breaks between them. A word has the
first character of a run and, behind a hyphen, its last one; behind a tilde instead
of the hyphen, the last one of a run of every second character. The numbers follow
behind a colon, with dots between them. A word that starts with the colon is about
the character after that of the word before. All numbers are hexadecimal.

## Main definitions

* `Run`: Characters of which a table says the same.
* `Run.covers`: Whether a run is about a character.
* `Runs.ofText`: A table as it is written.
* `Runs.find?`: The run that is about a character.
* `Runs.has`: Whether some run is about a character.
-/

namespace Imds

namespace Text

/-- Characters, given by their numbers, of which a table says the same. -/
structure Run where
  /-- The first one. -/
  first : Nat
  /-- The last one. -/
  last : Nat
  /-- How far each is from the next. -/
  step : Nat
  /-- What is said of them. -/
  numbers : List Nat
  deriving DecidableEq, Inhabited

namespace Run

/-- Whether a run is about a character. -/
def covers (r : Run) (n : Nat) : Bool :=
  r.first ≤ n && n ≤ r.last && (n - r.first) % r.step == 0

/-- The numbers behind the colon of a word. -/
def numbersOf (cs : List Char) : List Nat :=
  if cs.isEmpty then [] else (pieces '.' cs).map (numberOf 16)

/-- The run of a word, when that of the word before ends at a character. -/
def ofWord (previous : Nat) (word : List Char) : Run :=
  let head := word.takeWhile (fun c => c != ':')
  let numbers := numbersOf ((word.dropWhile (fun c => c != ':')).drop 1)
  if head.isEmpty then ⟨previous + 1, previous + 1, 1, numbers⟩
  else
    let first := numberOf 16 (head.takeWhile (isDigit 16))
    match head.dropWhile (isDigit 16) with
    | [] => ⟨first, first, 1, numbers⟩
    | c :: last => ⟨first, numberOf 16 last, if c = '~' then 2 else 1, numbers⟩

end Run

/-- A table of characters: runs in ascending order. -/
abbrev Runs := Array Run

namespace Runs

/-- The runs of words, when the run before them ends at a character. -/
def ofWords : Nat → List (List Char) → List Run
  | _, [] => []
  | previous, word :: words =>
    let r := Run.ofWord previous word
    r :: ofWords r.last words

/-- The words of a table. -/
def wordsOf (s : String) : List (List Char) :=
  (pieces ' ' (s.toList.map (fun c => if c = '\n' then ' ' else c))).filter (fun w => !w.isEmpty)

/-- A table as it is written. -/
def ofText (s : String) : Runs := (ofWords 0 (wordsOf s)).toArray

/-- The run about a character among those from one index up to another. -/
def search (rs : Runs) (n lo hi : Nat) : Option Run :=
  if lo < hi then
    let mid := (lo + hi) / 2
    match rs[mid]? with
    | none => none
    | some r =>
      if r.covers n then some r
      else if n < r.first then search rs n lo mid
      else search rs n (mid + 1) hi
  else none
termination_by hi - lo
decreasing_by all_goals omega

/-- The run that is about a character. -/
def find? (rs : Runs) (n : Nat) : Option Run := search rs n 0 rs.size

/-- Whether some run is about a character. -/
def has (rs : Runs) (c : Char) : Bool := (rs.find? c.toNat).isSome

end Runs

end Text

end Imds
