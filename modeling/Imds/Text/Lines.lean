import Imds.Text.Pieces

/-!
# Lines of a Body

A listing is a body with one item per line. The line feed separates lines, it
does not end them: an empty body is one empty line, and a body that ends in a
line feed has an empty last line. Nothing is dropped, so the lines carry the
same information as the body, which `joinLines_splitLines` says.

## Main definitions

* `splitLines`: The lines of a text, in order, empty ones included.
* `joinLines`: The text whose lines are given.

## Theorems

* `splitLines_ne_nil`: Every text has a line.
* `joinLines_splitLines`: Joining the lines of a text gives the text back.
* `length_splitLines`: There is one line more than there are line feeds.
* `notMem_of_mem_splitLines`: A line holds no line feed.
-/

namespace Imds

namespace Text

/-- The lines of a text, in order, empty ones included. -/
def splitLines (s : String) : List String := (pieces '\n' s.toList).map String.ofList

/-- The text whose lines are given. -/
def joinLines (lines : List String) : String :=
  String.ofList (joined '\n' (lines.map String.toList))

theorem splitLines_ne_nil (s : String) : splitLines s ≠ [] := by
  simp [splitLines, pieces_ne_nil]

theorem joinLines_splitLines (s : String) : joinLines (splitLines s) = s := by
  have h : (String.toList ∘ String.ofList) = id := by
    funext cs
    simp
  simp [joinLines, splitLines, h, joined_pieces]

theorem length_splitLines (s : String) : (splitLines s).length = s.toList.count '\n' + 1 := by
  simp [splitLines, length_pieces]

theorem notMem_of_mem_splitLines {s line : String} (h : line ∈ splitLines s) :
    '\n' ∉ line.toList := by
  obtain ⟨cs, hcs, rfl⟩ := List.mem_map.1 h
  simpa using notMem_of_mem_pieces hcs

end Text

end Imds
