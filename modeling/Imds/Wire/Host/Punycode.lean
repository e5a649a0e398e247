import Imds.Text.Number

/-!
# Labels in Plain Letters

A label with characters beyond ASCII is sent as letters, digits and hyphens only.
Its ASCII characters come first, closed by a hyphen if there are any. The others
are given in the order of their numbers as insertions: how many places and numbers
to pass over before the next one goes in. Each such distance is written with digits
of base thirty-six, the lowest first, where a digit below a threshold is the last
of its number. The threshold of each place follows from the distances seen so far,
so that a script whose characters lie close together takes few digits.

Reading refuses distances that do not fit into a 32-bit word, and insertions of
what is no character. Each digit read takes a character off the text, and each
digit written takes something off the distance, so both end.

## Main definitions

* `Punycode.threshold`, `Punycode.adapted`: How digits end a distance.
* `Punycode.readDistance`, `Punycode.digitsOf`: A distance read and written.
* `Punycode.decode?`: The text that a code stands for.
* `Punycode.encode`: The code of a text.

## Theorems

* `threshold_pos`: A threshold is a digit above zero.
* `length_of_readDistance`: Reading a distance takes characters off the text.
-/

namespace Imds

namespace Wire

namespace Host

namespace Punycode

/-! ## Digits -/

/-- The number of digits. -/
def base : Nat := 36

/-- The numbers below this fit into a word. -/
def wordBound : Nat := 0x100000000

/-- The value of a digit: the letters, of either case, and then the figures. -/
def digit? (c : Char) : Option Nat :=
  if 'a' ≤ c ∧ c ≤ 'z' then some (c.toNat - 97)
  else if 'A' ≤ c ∧ c ≤ 'Z' then some (c.toNat - 65)
  else if '0' ≤ c ∧ c ≤ '9' then some (c.toNat - 48 + 26)
  else none

/-- The digit of a value. -/
def ofDigit (n : Nat) : Char := if n < 26 then Char.ofNat (97 + n) else Char.ofNat (48 + (n - 26))

/-- Below what value a digit ends its number, at a place with some weight, when
    distances are as large as a bias says. -/
def threshold (bias place : Nat) : Nat := max 1 (min 26 (place - bias))

/-- How often a distance can be divided, in places, and what is left. -/
def shrunk (distance : Nat) : Nat × Nat :=
  if 455 < distance then ((shrunk (distance / 35)).1 + base, (shrunk (distance / 35)).2)
  else (0, distance)
termination_by distance
decreasing_by all_goals exact Nat.div_lt_self (by omega) (by omega)

/-- The bias after a distance, in a text that has so many characters by then. The
    first distance is much larger than those that follow. -/
def adapted (distance count : Nat) (isFirst : Bool) : Nat :=
  let halved := if isFirst then distance / 700 else distance / 2
  let (places, rest) := shrunk (halved + halved / count)
  places + base * rest / (rest + 38)

theorem threshold_pos (bias place : Nat) : 1 ≤ threshold bias place := by
  simp only [threshold]
  omega

/-! ## Reading -/

/-- Reads a distance and adds it to a sum. The digits stand at places with weights. -/
def readDistance (bias : Nat) : Nat → Nat → Nat → List Char → Option (Nat × List Char)
  | _, _, _, [] => none
  | place, weight, sum, c :: cs =>
    match digit? c with
    | none => none
    | some d =>
      let sum := sum + d * weight
      if wordBound ≤ sum then none
      else if d < threshold bias place then some (sum, cs)
      else
        let weight := weight * (base - threshold bias place)
        if wordBound ≤ weight then none else readDistance bias (place + base) weight sum cs

theorem length_of_readDistance {bias : Nat} {cs rest : List Char} {place weight sum total : Nat}
    (h : readDistance bias place weight sum cs = some (total, rest)) :
    rest.length < cs.length := by
  induction cs generalizing place weight sum with
  | nil => simp [readDistance] at h
  | cons c cs ih =>
    simp only [readDistance] at h
    split at h
    · simp at h
    · split at h
      · simp at h
      · split at h
        · simp only [Option.some.injEq, Prod.mk.injEq] at h
          rw [← h.2]
          simp
        · split at h
          · simp at h
          · have := ih h
            simp only [List.length_cons]
            omega

/-- What was read of a code. -/
structure Reading where
  /-- The text so far. -/
  text : List Char
  /-- The number that the next insertion is counted from. -/
  number : Nat
  /-- The place that the next insertion is counted from. -/
  place : Nat
  /-- The size of distances. -/
  bias : Nat

/-- An insertion after a distance, which is counted on from the last place. There is
    none of what is no character. -/
def Reading.insert? (r : Reading) (sum : Nat) : Option Reading :=
  let count := r.text.length + 1
  let number := r.number + sum / count
  let place := sum % count
  if number.isValidChar then
    some ⟨r.text.insertIdx place (Char.ofNat number), number, place + 1,
      adapted (sum - r.place) count (r.place == 0)⟩
  else none

/-- Carries out all insertions of a code. -/
def insertions (r : Reading) (code : List Char) : Option (List Char) :=
  match _h : readDistance r.bias base 1 r.place code with
  | none => if code.isEmpty then some r.text else none
  | some (sum, rest) =>
    match r.insert? sum with
    | none => none
    | some r => insertions r rest
termination_by code.length
decreasing_by exact length_of_readDistance _h

/-- The text that a code stands for. Without a hyphen, or with none but the first
    character, the whole code is insertions. -/
def decode? (code : List Char) : Option (List Char) :=
  let tail := (code.reverse.takeWhile (· != '-')).reverse
  let plain := code.take (code.length - tail.length - 1)
  insertions ⟨plain, 128, 0, 72⟩ (if plain.isEmpty then code else tail)

/-! ## Writing -/

/-- The digits of a distance, from a place on. -/
def digitsOf (bias place distance : Nat) : List Char :=
  let least := threshold bias place
  if distance < least then [ofDigit distance]
  else ofDigit (least + (distance - least) % (base - least)) ::
    digitsOf bias (place + base) ((distance - least) / (base - least))
termination_by distance
decreasing_by
  have hpos := threshold_pos bias place
  have hdiv : (distance - threshold bias place) / (base - threshold bias place) ≤
      distance - threshold bias place := Nat.div_le_self _ _
  omega

/-- What was written of a code. -/
structure Writing where
  /-- The digits, those of the last insertion first. -/
  digits : List (List Char)
  /-- How far it is from the last insertion. -/
  distance : Nat
  /-- How many characters are written. -/
  count : Nat
  /-- The size of distances. -/
  bias : Nat

/-- Goes past a character, or inserts it if it has the number that is due. -/
def Writing.pass (plain due : Nat) (w : Writing) (c : Char) : Writing :=
  if c.toNat < due then { w with distance := w.distance + 1 }
  else if c.toNat = due then
    ⟨digitsOf w.bias base w.distance :: w.digits, 0, w.count + 1,
      adapted w.distance (w.count + 1) (w.count == plain)⟩
  else w

/-- Inserts the characters of a text that have one of the given numbers, in ascending
    order, when the insertions so far went up to a number. -/
def written (text : List Char) (plain : Nat) : Nat → List Nat → Writing → Writing
  | _, [], w => w
  | number, due :: later, w =>
    let w := { w with distance := w.distance + (due - number) * (w.count + 1) }
    let w := text.foldl (Writing.pass plain due) w
    written text plain (due + 1) later { w with distance := w.distance + 1 }

/-- The code of a text. -/
def encode (text : List Char) : List Char :=
  let plain := text.filter (fun c => c.toNat < 0x80)
  let numbers := ((text.map Char.toNat).filter (fun n => 0x80 ≤ n)).mergeSort.eraseReps
  let w := written text plain.length 128 numbers ⟨[], 0, plain.length, 72⟩
  (if plain.isEmpty then [] else plain ++ ['-']) ++ w.digits.reverse.flatten

end Punycode

end Host

end Wire

end Imds
