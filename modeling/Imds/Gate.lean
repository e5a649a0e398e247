import Imds.Plan
import Imds.Text.Blank
import Imds.Text.Folded

/-!
# The Switch That Turns Metadata Off

An administrator can forbid a process to use metadata. The switch is a variable
of the environment or a flag inside the process, and it is looked at whenever
an operation starts: it can be thrown while the process runs, and the next
operation has to notice.

The variable holds `true` or `false` in any case and with blanks around, or
nothing at all, which means `false`. Any other text is a mistake, and a mistake
in a switch is not an answer: the operation fails with the value as it was
written. Bytes that are no text are not seen as a mistake. The variable is looked
up as a text, so they look like a variable that is not set.

## Main definitions

* `Gate`: Which switch is consulted.
* `Gate.read`: What the value of the variable says.
* `Gate.isDisabled`: Whether metadata is off now.
* `Gate.pass`: Fails when metadata is off.
-/

namespace Imds

/-- Which switch is consulted. -/
inductive Gate where
  /-- The variable of the environment. -/
  | environment
  /-- The flag inside the process. -/
  | flag
  deriving DecidableEq

namespace Gate

/-- The variable that turns metadata off. -/
def disabledVariable : String := "AWS_EC2_METADATA_DISABLED"

/-- Whether the text of the variable says that metadata is off. -/
def read : Option String → Except Failure Bool
  | none => .ok false
  | some value =>
    let word := Text.folded (Text.trimBlank value)
    if word = "true" then .ok true
    else if word = "false" ∨ word = "" then .ok false
    else .error (.configuration
      (disabledVariable ++ " must be true or false, got " ++ value))

/-- Whether metadata is off now. -/
def isDisabled : Gate → Act Bool
  | environment => do
    let value ← Plan.setting disabledVariable
    Act.ofExcept (read value)
  | flag => Plan.flag

/-- Fails when metadata is off, or when the switch cannot be read. -/
def pass (g : Gate) : Act Unit := do
  if ← g.isDisabled then throw Failure.disabled

end Gate

end Imds
