import Imds.Text.Blank

/-!
# What Trimming Leaves

Trimming drops characters from one end of a list, reverses, and drops again. What it
leaves can be said without any of this: the text is the rest between two runs of blanks,
and it neither begins nor ends in a blank. `Trims` says that, and it says it completely,
since there is only one such rest. Of a line that is all blanks the rest is empty.

## Main definitions

* `Trims`: A text is what is left of a line without the blanks on either end.

## Theorems

* `trimLeft_spec`, `trimRight_spec`: What is dropped from one end, and where it stops.
* `trimLeft_append`, `trimRight_append`: Where the run of dropped characters ends.
* `trims_trimBlank`: What trimming leaves.
* `Trims.eq_trimBlank`: Nothing else fits the description.
* `Trims.trims_self`: What is left is left as it is.
-/

namespace Imds

namespace Text

/-- A text is what is left of a line without the blanks on either end. -/
structure Trims (line text : String) : Prop where
  between : ∃ front back, line.toList = front ++ text.toList ++ back ∧
    (∀ c ∈ front, isBlank c = true) ∧ ∀ c ∈ back, isBlank c = true
  first : ∀ c, text.toList.head? = some c → isBlank c = false
  last : ∀ c, text.toList.getLast? = some c → isBlank c = false

theorem trimLeft_spec (p : Char → Bool) (cs : List Char) :
    (∃ front, cs = front ++ trimLeft p cs ∧ ∀ c ∈ front, p c = true) ∧
      ∀ c, (trimLeft p cs).head? = some c → p c = false := by
  refine ⟨⟨cs.takeWhile p, List.takeWhile_append_dropWhile.symm, ?_⟩, ?_⟩
  · exact List.all_eq_true.1 List.all_takeWhile
  · intro c hc
    have hnot := List.head?_dropWhile_not p cs
    rw [show (cs.dropWhile p).head? = some c from hc] at hnot
    exact hnot

-- The mirror image.
theorem trimRight_spec (p : Char → Bool) (cs : List Char) :
    (∃ back, cs = trimRight p cs ++ back ∧ ∀ c ∈ back, p c = true) ∧
      ∀ c, (trimRight p cs).getLast? = some c → p c = false := by
  rcases trimLeft_spec p cs.reverse with ⟨⟨front, hfront, hall⟩, hfirst⟩
  refine ⟨⟨front.reverse, ?_, fun c hc => hall c (List.mem_reverse.1 hc)⟩, fun c hc => ?_⟩
  · rw [trimRight, ← List.reverse_append]
    exact (List.reverse_eq_iff.1 hfront)
  · rw [trimRight, List.getLast?_reverse] at hc
    exact hfirst c hc

/-- What trimming leaves. -/
theorem trims_trimBlank (line : String) : Trims line (trimBlank line) := by
  rcases trimLeft_spec isBlank line.toList with ⟨⟨front, hfront, hfrontBlank⟩, hfirst⟩
  rcases trimRight_spec isBlank (trimLeft isBlank line.toList) with
    ⟨⟨back, hback, hbackBlank⟩, hlast⟩
  have hchars : (trimBlank line).toList = trimRight isBlank (trimLeft isBlank line.toList) :=
    String.toList_ofList
  refine ⟨⟨front, back, ?_, hfrontBlank, hbackBlank⟩, ?_, ?_⟩
  · rw [hchars, List.append_assoc, ← hback]
    exact hfront
  · -- What is left is where the line without its front begins.
    intro c hc
    rw [hchars] at hc
    refine hfirst c ?_
    rw [hback, List.head?_append, hc]
    rfl
  · intro c hc
    rw [hchars] at hc
    exact hlast c hc

theorem trimLeft_append {p : Char → Bool} {front rest : List Char}
    (hfront : ∀ c ∈ front, p c = true)
    (hrest : ∀ c, rest.head? = some c → p c = false) : trimLeft p (front ++ rest) = rest := by
  rw [trimLeft, List.dropWhile_append_of_pos hfront]
  cases rest with
  | nil => rfl
  | cons c cs => exact trimLeft_eq_self (hrest c rfl)

theorem trimRight_append {p : Char → Bool} {cs back : List Char}
    (hback : ∀ c ∈ back, p c = true)
    (hcs : ∀ c, cs.getLast? = some c → p c = false) : trimRight p (cs ++ back) = cs := by
  have hdrop : trimLeft p (back.reverse ++ cs.reverse) = cs.reverse := by
    refine trimLeft_append (fun c hc => hback c (List.mem_reverse.1 hc)) (fun c hc => hcs c ?_)
    rwa [List.head?_reverse] at hc
  rw [trimLeft] at hdrop
  rw [trimRight, List.reverse_append, hdrop, List.reverse_reverse]

/-- Nothing else fits the description. -/
theorem Trims.eq_trimBlank {line text : String} (h : Trims line text) : text = trimBlank line := by
  rcases h.between with ⟨front, back, hline, hfront, hback⟩
  rw [← String.toList_inj, trimBlank, String.toList_ofList, trimBlankChars, hline]
  cases htext : text.toList with
  | nil =>
      -- The line is all blanks, and the first trim takes them all.
      have hall : ∀ c ∈ front ++ back, isBlank c = true := by
        intro c hc
        exact (List.mem_append.1 hc).elim (hfront c) (hback c)
      have hleft : trimLeft isBlank (front ++ back ++ []) = [] :=
        trimLeft_append hall (fun c hc => by cases hc)
      rw [List.append_nil] at hleft ⊢
      rw [hleft, trimRight_nil]
  | cons c cs =>
      have hfirst : ∀ d, (c :: cs ++ back).head? = some d → isBlank d = false := by
        intro d hd
        exact h.first d (by rw [htext]; exact hd)
      rw [List.append_assoc, trimLeft_append hfront hfirst,
        trimRight_append hback (fun d hd => h.last d (by rw [htext]; exact hd))]

/-- What is left is left as it is. -/
theorem Trims.trims_self {line text : String} (h : Trims line text) : Trims text text where
  between := ⟨[], [], (List.append_nil _).symm, nofun, nofun⟩
  first := h.first
  last := h.last

end Text

end Imds
