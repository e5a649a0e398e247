import Imds.Json.Reader

/-!
# Quoted Texts

Between quotation marks a text is written character by character. A few
characters have a short escape, every character can be written by number, and
the characters below the space must be escaped one way or the other. Numbers
are those of 16-bit units, so a character beyond the first plane takes two of
them, a high one and a low one; half a pair is no character, and a text that
contains one is refused.

`encode` picks one way to write each character: the short escapes where there
are any, the number in small hexadecimal digits for the other characters below
the space, and the character itself for all the rest.

## Main definitions

* `hexValue`, `readUnit`: The number of a 16-bit unit.
* `readEscape`: The character of an escape.
* `readChar`: One character of a quoted text.
* `readBody`: A quoted text after its first quotation mark.
* `Quoted.reader`: Reads a quoted text.
* `encode`: A text between quotation marks.

## Theorems

* `length_of_readChar`: A character uses up some of the text.
* `length_of_readBody`: A quoted text uses up some of the text.
-/

namespace Imds

namespace Json

namespace Quoted

/-- The value of a hexadecimal digit. -/
def hexValue (c : Char) : Option Nat :=
  if '0' ≤ c ∧ c ≤ '9' then some (c.toNat - 48)
  else if 'a' ≤ c ∧ c ≤ 'f' then some (c.toNat - 87)
  else if 'A' ≤ c ∧ c ≤ 'F' then some (c.toNat - 55)
  else none

/-- The number of a 16-bit unit: four hexadecimal digits. -/
def readUnit : List Char → Option (Nat × List Char)
  | a :: b :: c :: d :: r => do
    let a ← hexValue a
    let b ← hexValue b
    let c ← hexValue c
    let d ← hexValue d
    some (((a * 16 + b) * 16 + c) * 16 + d, r)
  | _ => none

/-- Whether a unit is the first half of a pair. -/
def isHigh (n : Nat) : Bool := 0xD800 ≤ n && n < 0xDC00

/-- Whether a unit is the second half of a pair. -/
def isLow (n : Nat) : Bool := 0xDC00 ≤ n && n < 0xE000

/-- The character of a pair. -/
def ofPair (high low : Nat) : Char :=
  Char.ofNat (0x10000 + (high - 0xD800) * 0x400 + (low - 0xDC00))

/-- The second half of a pair, written as an escape of its own. -/
def readLow : List Char → Option (Nat × List Char)
  | '\\' :: 'u' :: s => do
    let (low, r) ← readUnit s
    if isLow low then some (low, r) else none
  | _ => none

/-- The character that is written by number. -/
def readNumbered (s : List Char) : Option (Char × List Char) := do
  let (n, r) ← readUnit s
  if isLow n then none
  else if isHigh n then
    let (low, r) ← readLow r
    some (ofPair n low, r)
  else some (Char.ofNat n, r)

/-- The character of an escape, after the backslash. -/
def readEscape : List Char → Option (Char × List Char)
  | '"' :: r => some ('"', r)
  | '\\' :: r => some ('\\', r)
  | '/' :: r => some ('/', r)
  | 'b' :: r => some ('\x08', r)
  | 'f' :: r => some ('\x0c', r)
  | 'n' :: r => some ('\n', r)
  | 'r' :: r => some ('\r', r)
  | 't' :: r => some ('\t', r)
  | 'u' :: r => readNumbered r
  | _ => none

/-- One character of a quoted text. The closing quotation mark is none, and the
    characters below the space must be escaped. -/
def readChar : List Char → Option (Char × List Char)
  | [] => none
  | c :: r =>
    if c = '"' then none
    else if c = '\\' then readEscape r
    else if c.val < 0x20 then none
    else some (c, r)

theorem length_of_readUnit {s r : List Char} {n : Nat} (h : readUnit s = some (n, r)) :
    r.length < s.length := by
  simp only [readUnit] at h
  split at h
  · simp only [Option.bind_eq_bind, Option.bind_eq_some_iff, Option.some.injEq,
      Prod.mk.injEq] at h
    obtain ⟨_, _, _, _, _, _, _, _, _, rfl⟩ := h
    simp only [List.length_cons]
    omega
  · cases h

theorem length_of_readLow {s r : List Char} {n : Nat} (h : readLow s = some (n, r)) :
    r.length < s.length := by
  simp only [readLow] at h
  split at h
  · simp only [Option.bind_eq_bind, Option.bind_eq_some_iff] at h
    obtain ⟨⟨low, t⟩, hlow, h⟩ := h
    split at h
    · cases h
      have := length_of_readUnit hlow
      simp only [List.length_cons]
      omega
    · cases h
  · cases h

theorem length_of_readNumbered {s r : List Char} {c : Char}
    (h : readNumbered s = some (c, r)) : r.length < s.length := by
  simp only [readNumbered, Option.bind_eq_bind, Option.bind_eq_some_iff] at h
  obtain ⟨⟨n, t⟩, hn, h⟩ := h
  have h1 := length_of_readUnit hn
  split at h
  · cases h
  · split at h
    · simp only [Option.bind_eq_some_iff, Option.some.injEq, Prod.mk.injEq] at h
      obtain ⟨⟨low, u⟩, hlow, _, rfl⟩ := h
      have h2 := length_of_readLow hlow
      show u.length < s.length
      exact Nat.lt_trans h2 h1
    · cases h
      exact h1

theorem length_of_readEscape {s r : List Char} {c : Char}
    (h : readEscape s = some (c, r)) : r.length < s.length := by
  simp only [readEscape] at h
  split at h
  case h_9 => exact Nat.lt_succ_of_lt (length_of_readNumbered h)
  case h_10 => cases h
  all_goals
    cases h
    exact Nat.lt_succ_self _

theorem length_of_readChar {s r : List Char} {c : Char} (h : readChar s = some (c, r)) :
    r.length < s.length := by
  simp only [readChar] at h
  split at h
  · cases h
  · split at h
    · cases h
    · split at h
      · exact Nat.lt_succ_of_lt (length_of_readEscape h)
      · split at h
        · cases h
        · cases h
          exact Nat.lt_succ_self _

/-- The text after a closing quotation mark. -/
def afterClosing : List Char → Option (List Char)
  | '"' :: r => some r
  | _ => none

/-- A quoted text after its first quotation mark. `before` holds the characters
    read so far, the last one first. -/
def readBody (before : List Char) (s : List Char) : Option (List Char × List Char) :=
  match _h : readChar s with
  | some (c, r) => readBody (c :: before) r
  | none => (afterClosing s).map (fun r => (before.reverse, r))
termination_by s.length
decreasing_by exact length_of_readChar _h

theorem length_of_afterClosing {s r : List Char} (h : afterClosing s = some r) :
    r.length < s.length := by
  simp only [afterClosing] at h
  split at h
  · cases h
    exact Nat.lt_succ_self _
  · cases h

theorem length_of_readBody {before s cs r : List Char} (h : readBody before s = some (cs, r)) :
    r.length < s.length := by
  fun_induction readBody before s with
  | case1 before s c t ht ih => exact Nat.lt_trans (ih h) (length_of_readChar ht)
  | case2 before s hs =>
    simp only [Option.map_eq_some_iff, Prod.mk.injEq] at h
    obtain ⟨u, hu, -, rfl⟩ := h
    exact length_of_afterClosing hu

/-- Reads a quoted text. -/
def read : List Char → Option (String × List Char)
  | '"' :: s => (readBody [] s).map (fun x => (String.ofList x.1, x.2))
  | _ => none

theorem length_of_read {s r : List Char} {t : String} (h : read s = some (t, r)) :
    r.length < s.length := by
  simp only [read] at h
  split at h
  · simp only [Option.map_eq_some_iff, Prod.mk.injEq] at h
    obtain ⟨⟨cs, u⟩, hu, _, rfl⟩ := h
    exact Nat.lt_succ_of_lt (length_of_readBody hu)
  · cases h

/-- The reader of quoted texts. -/
def reader : Reader String := ⟨read, length_of_read⟩

/-- A hexadecimal digit, small. -/
def hexDigit (n : Nat) : Char := if n < 10 then Char.ofNat (48 + n) else Char.ofNat (87 + n)

/-- How a character is written between quotation marks. -/
def encodeChar (c : Char) : List Char :=
  if c = '"' then ['\\', '"']
  else if c = '\\' then ['\\', '\\']
  else if c = '\x08' then ['\\', 'b']
  else if c = '\x0c' then ['\\', 'f']
  else if c = '\n' then ['\\', 'n']
  else if c = '\r' then ['\\', 'r']
  else if c = '\t' then ['\\', 't']
  else if c.val < 0x20 then ['\\', 'u', '0', '0', hexDigit (c.toNat / 16), hexDigit (c.toNat % 16)]
  else [c]

/-- A text between quotation marks. -/
def encode (cs : List Char) : List Char := '"' :: (cs.flatMap encodeChar ++ ['"'])

end Quoted

end Json

end Imds
