/-!
# Variables of the Environment

The environment of a process holds bytes. Most of what stands there is text, but
nobody makes sure of it. Whoever looks a setting up is told the text of its
variable, and is told nothing both when the variable is not set and when its bytes
are no text, so that the two cannot be told apart by what was looked up.

## Main definitions

* `Variable`: What a variable holds.
* `Variable.text?`: The text that is found there.
-/

namespace Imds

/-- What a variable of the environment holds. -/
inductive Variable where
  /-- A text. -/
  | text (value : String)
  /-- Bytes that are no text. -/
  | garbled (bytes : ByteArray) (h : String.fromUTF8? bytes = none)

namespace Variable

/-- The text that a variable holds, if it is one. -/
def text? : Variable → Option String
  | text value => some value
  | garbled _ _ => none

end Variable

end Imds
