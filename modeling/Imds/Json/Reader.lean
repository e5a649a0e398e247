/-!
# Readers

A reader takes something off the front of a text and hands back the rest. It
may refuse, and when it does not, the rest is shorter than the text. That law
is a field, because loops over readers end by it: a list of items is read by
repeating the reader for one item, and each item uses up some of the text.

## Main definitions

* `Reader`: Reads one thing off the front of a text.
* `skipBlank`: The text after blanks.
* `word`: Reads a fixed word.
* `Reader.separated`: Items with commas between them, up to a closing mark.

## Theorems

* `length_skipBlank_le`: Skipping never lengthens a text.
* `length_of_separated`: A list of items uses up some of the text.
-/

namespace Imds

namespace Json

/-- Reads one thing off the front of a text. -/
structure Reader (α : Type) where
  /-- What was read and the rest, or nothing when the text starts otherwise. -/
  run : List Char → Option (α × List Char)
  /-- Something is always used up. -/
  shrinks : ∀ {s r : List Char} {a : α}, run s = some (a, r) → r.length < s.length

/-- The four characters that may stand between two tokens. -/
def isBlank (c : Char) : Bool := c == ' ' || c == '\t' || c == '\n' || c == '\r'

/-- The text after blanks. -/
def skipBlank (s : List Char) : List Char := s.dropWhile isBlank

theorem length_dropWhile_le {α : Type} (p : α → Bool) (s : List α) :
    (s.dropWhile p).length ≤ s.length :=
  (List.dropWhile_sublist p).length_le

theorem length_skipBlank_le (s : List Char) : (skipBlank s).length ≤ s.length :=
  length_dropWhile_le isBlank s

/-- The text after a fixed word that it starts with. -/
def word : List Char → List Char → Option (List Char)
  | [], s => some s
  | c :: w, d :: s => if c = d then word w s else none
  | _ :: _, [] => none

theorem eq_append_of_word {w s r : List Char} (h : word w s = some r) : s = w ++ r := by
  induction w generalizing s with
  | nil => simpa [word] using h
  | cons c w ih =>
    cases s with
    | nil => simp [word] at h
    | cons d s =>
      simp only [word] at h
      split at h
      · next hcd => rw [hcd, ih h, List.cons_append]
      · cases h

namespace Reader

variable {α : Type}

/-- Items with commas between them, up to a closing mark. There is at least one
    item. `before` holds the items read so far, the last one first. -/
def separated (p : Reader α) (closing : Char) (before : List α) (s : List Char) :
    Option (List α × List Char) :=
  match _h : p.run (skipBlank s) with
  | none => none
  | some (a, r) =>
    match _hr : skipBlank r with
    | [] => none
    | c :: rest =>
      if c = ',' then separated p closing (a :: before) rest
      else if c = closing then some ((a :: before).reverse, rest)
      else none
termination_by s.length
decreasing_by
  have h1 := p.shrinks _h
  have h2 := length_skipBlank_le s
  have h3 := length_skipBlank_le r
  rw [_hr, List.length_cons] at h3
  omega

theorem length_of_separated {p : Reader α} {closing : Char} {before items : List α}
    {s r : List Char} (h : p.separated closing before s = some (items, r)) :
    r.length < s.length := by
  fun_induction separated p closing before s with
  | case1 => cases h
  | case2 => cases h
  | case3 before s a t ht rest hr ih =>
    have h1 := p.shrinks ht
    have h2 := length_skipBlank_le s
    have h3 := length_skipBlank_le t
    rw [hr, List.length_cons] at h3
    have h4 := ih h
    omega
  | case4 before s a t ht rest hr hc =>
    have h1 := p.shrinks ht
    have h2 := length_skipBlank_le s
    have h3 := length_skipBlank_le t
    rw [hr, List.length_cons] at h3
    simp only [Option.some.injEq, Prod.mk.injEq] at h
    rw [← h.2]
    omega
  | case5 => cases h

end Reader

end Json

end Imds
