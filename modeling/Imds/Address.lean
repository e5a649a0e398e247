import Imds.Plan
import Imds.Text.Blank
import Imds.Text.Folded

/-!
# Where the Service Is

Every URL starts with a base address, and every path starts with a slash, so a
base is kept without a slash at its end. A base is fixed, or taken from the
environment, or somebody else provides it. In the environment one variable gives
it outright, and another only says which of the two addresses to use that the
service has on every machine.

The variable that gives the address counts when it is not blank. It is trimmed
of blanks and then of slashes, in that order and once each, so a value that is
made of slashes alone gives the empty base, and one whose blanks hide behind
slashes keeps them.

A provider of another kind can say anything, also that something is wrong with its
configuration. What it goes by is not ours to know: it is looked up under a name,
like a setting that anybody may have changed since the last time, and the provider
makes of it what it likes. The one name that is not for it is that of the switch.

Settings are read when they are needed and never kept. The second variable is
not read when the first one decides.

## Main definitions

* `Address`: Where to find the base address.
* `Address.ofBase`: A fixed base.
* `Address.explicit`: The base that the first variable gives.
* `Address.ofMode`: The base that the second variable selects.
* `Address.ofVariables`: Both together.
* `Address.ofAnswer`: What a provider says.
* `Address.resolve`: The base, read from the environment or provided if need be.
-/

namespace Imds

/-- Where to find the base address. -/
inductive Address where
  /-- Always this one. -/
  | fixed (base : String)
  /-- Ask the environment each time. -/
  | environment
  /-- Ask a provider each time, which goes by what it finds under a name. -/
  | provided (name : String) (h : name ≠ "AWS_EC2_METADATA_DISABLED")
      (answer : Option String → Except String String)

namespace Address

/-- The variable that gives the base address. -/
def endpointVariable : String := "AWS_EC2_METADATA_SERVICE_ENDPOINT"

/-- The variable that selects one of the usual addresses. -/
def modeVariable : String := "AWS_EC2_METADATA_SERVICE_ENDPOINT_MODE"

/-- The address of the service over IPv4. -/
def overIPv4 : String := "http://169.254.169.254"

/-- The address of the service over IPv6. -/
def overIPv6 : String := "http://[fd00:ec2::254]"

/-- A fixed base, without slashes at its end. -/
def ofBase (base : String) : Address := fixed (Text.trimSlashes base)

/-- The base that the first variable gives: none when it is unset or blank. -/
def explicit : Option String → Option String
  | none => none
  | some value =>
    if Text.trimBlank value = "" then none
    else some (Text.trimSlashes (Text.trimBlank value))

/-- The base that the second variable selects. -/
def ofMode : Option String → Except Failure String
  | none => .ok overIPv4
  | some mode =>
    if Text.sameFolded mode "ipv4" then .ok overIPv4
    else if Text.sameFolded mode "ipv6" then .ok overIPv6
    else .error (.configuration
      ("unknown " ++ modeVariable ++ ": " ++ mode ++ " (expected IPv4 or IPv6)"))

/-- The base that the values of the two variables give. -/
def ofVariables (endpoint mode : Option String) : Except Failure String :=
  match explicit endpoint with
  | some base => .ok base
  | none => ofMode mode

/-- What a provider says, with its complaints as failures of the configuration. -/
def ofAnswer (answer : Except String String) : Except Failure String :=
  answer.mapError .configuration

/-- The base address now. -/
def resolve : Address → Act String
  | fixed base => pure base
  | environment => do
    match explicit (← Plan.setting endpointVariable) with
    | some base => pure base
    | none =>
      let mode ← Plan.setting modeVariable
      Act.ofExcept (ofMode mode)
  | provided name _ answer => do
    let value ← Plan.setting name
    Act.ofExcept (ofAnswer (answer value))

end Address

end Imds
