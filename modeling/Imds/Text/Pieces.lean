/-!
# Pieces Between Marks

A text with a separating mark falls into pieces: lines at line feeds, the labels
of a host at dots, the steps of a path at slashes. The mark separates pieces, it
does not end them, so the empty text is one empty piece, and a text that ends in
the mark has an empty last piece. Nothing is dropped but the marks, which
`joined_pieces` says.

## Main definitions

* `pieces`: A text cut at each occurrence of a mark.
* `joined`: Pieces put back together, the mark between each two.

## Theorems

* `pieces_ne_nil`: Every text has a piece.
* `joined_pieces`: Joining the pieces of a text gives the text back.
* `length_pieces`: There is one piece more than there are marks.
* `notMem_of_mem_pieces`: A piece does not hold the mark.
-/

namespace Imds

namespace Text

/-- A text cut at each occurrence of a mark. -/
def pieces (mark : Char) : List Char → List (List Char)
  | [] => [[]]
  | c :: cs =>
    if c = mark then [] :: pieces mark cs
    else match pieces mark cs with
      | [] => [[c]]
      | piece :: rest => (c :: piece) :: rest

/-- Pieces put back together, the mark between each two. -/
def joined (mark : Char) : List (List Char) → List Char
  | [] => []
  | [piece] => piece
  | piece :: next :: rest => piece ++ mark :: joined mark (next :: rest)

theorem pieces_ne_nil (mark : Char) (cs : List Char) : pieces mark cs ≠ [] := by
  cases cs with
  | nil => simp [pieces]
  | cons c cs =>
    simp only [pieces]
    split
    · simp
    · split <;> simp

theorem joined_cons {mark : Char} {piece : List Char} {rest : List (List Char)} (h : rest ≠ []) :
    joined mark (piece :: rest) = piece ++ mark :: joined mark rest := by
  cases rest with
  | nil => exact absurd rfl h
  | cons next rest => rfl

theorem joined_push (mark c : Char) (piece : List Char) (rest : List (List Char)) :
    joined mark ((c :: piece) :: rest) = c :: joined mark (piece :: rest) := by
  cases rest <;> rfl

theorem joined_pieces (mark : Char) (cs : List Char) : joined mark (pieces mark cs) = cs := by
  induction cs with
  | nil => rfl
  | cons c cs ih =>
    by_cases h : c = mark
    · subst h
      simp only [pieces, if_true]
      rw [joined_cons (pieces_ne_nil c cs), ih, List.nil_append]
    · simp only [pieces, if_neg h]
      split
      · next hnil => exact absurd hnil (pieces_ne_nil mark cs)
      · next piece rest hcons => rw [joined_push, ← hcons, ih]

theorem length_pieces (mark : Char) (cs : List Char) :
    (pieces mark cs).length = cs.count mark + 1 := by
  induction cs with
  | nil => rfl
  | cons c cs ih =>
    by_cases h : c = mark
    · subst h
      simp [pieces, ih]
    · simp only [pieces, if_neg h, List.count_cons]
      split
      · next hnil => exact absurd hnil (pieces_ne_nil mark cs)
      · next piece rest hcons =>
        rw [hcons] at ih
        simp_all

theorem notMem_of_mem_pieces {mark : Char} {cs piece : List Char} (h : piece ∈ pieces mark cs) :
    mark ∉ piece := by
  induction cs generalizing piece with
  | nil => simp_all [pieces]
  | cons c cs ih =>
    by_cases hc : c = mark
    · simp only [pieces, if_pos hc, List.mem_cons] at h
      rcases h with rfl | h
      · simp
      · exact ih h
    · simp only [pieces, if_neg hc] at h
      split at h
      · next hnil => exact absurd hnil (pieces_ne_nil mark cs)
      · next first rest hcons =>
        rcases List.mem_cons.1 h with rfl | h
        · simp only [List.mem_cons, not_or]
          exact ⟨fun e => hc e.symm, ih (by simp [hcons])⟩
        · exact ih (by simp [hcons, h])

end Text

end Imds
