/-!
# Failures

Two kinds of failure are kept apart. A `Fault` is what one exchange with the
service can come to instead of a body: the service was not reached, or it was
reached and refused, or the request never left. A `Failure` is what a whole
operation ends in, after tokens, retries and configuration have had their say,
and some failures carry the fault that brought them about.

Being absent is neither. A value that the service does not have is an answer,
so it has no constructor here.

## Main definitions

* `Fault`: The ways in which one exchange fails.
* `Fault.isFatal`: Whether a fault must end the operation.
* `Fault.isNotFound`: Whether the service answered that there is no such value.
* `Failure`: The ways in which an operation fails.
* `Fault.message`, `Failure.message`: Their wording.
* `Failure.cause`: The fault behind a failure.

## Theorems

* `isFatal_iff`: The two fatal faults.
* `not_isFatal_of_isNotFound`: An absent value is never fatal.
-/

namespace Imds

/-- What one exchange came to instead of a body. -/
inductive Fault where
  /-- No connection came about, or it broke. -/
  | connect (text : String)
  /-- No answer came in time. -/
  | timeout
  /-- The service answered with a status other than success. -/
  | status (code : Nat)
  /-- The caller gave the request up. -/
  | cancelled
  /-- The channel, or the pool it runs on, is closed. -/
  | closed
  /-- The body is not UTF-8. -/
  | badText
  /-- The body is larger than the limit. -/
  | tooLarge (size limit : Nat)
  /-- The request cannot be put on the wire. -/
  | invalidRequest (text : String)
  deriving DecidableEq

namespace Fault

/-- Whether a fault ends the operation at once. Trying again cannot help when
    the channel is closed or the request itself is at fault. -/
def isFatal : Fault → Bool
  | closed => true
  | invalidRequest _ => true
  | _ => false

/-- Whether the service answered that there is no such value. -/
def isNotFound (f : Fault) : Bool := f == status 404

/-- The wording of a fault. -/
def message : Fault → String
  | connect text => "connection failed: " ++ text
  | timeout => "request timeout"
  | status code => "http " ++ toString code
  | cancelled => "request cancelled"
  | closed => "transport is closed"
  | badText => "invalid utf-8"
  | tooLarge size limit =>
    "response too large: " ++ toString size ++ " bytes exceeds limit of " ++ toString limit ++
      " bytes"
  | invalidRequest text => "invalid request: " ++ text

theorem isFatal_iff {f : Fault} :
    f.isFatal = true ↔ f = closed ∨ ∃ text, f = invalidRequest text := by
  cases f <;> simp [isFatal]

theorem isNotFound_iff {f : Fault} : f.isNotFound = true ↔ f = status 404 := by
  simp [isNotFound]

theorem not_isFatal_of_isNotFound {f : Fault} (h : f.isNotFound = true) : f.isFatal = false := by
  rw [isNotFound_iff.1 h]
  rfl

end Fault

/-- What an operation ends in when it does not answer. -/
inductive Failure where
  /-- The use of metadata is switched off. -/
  | disabled
  /-- Every attempt of the budget failed; the last one by `cause`. -/
  | exhausted (attempts : Nat) (cause : Fault)
  /-- There was no attempt to make. -/
  | unreachable
  /-- The service refused to issue a session token. -/
  | tokenRejected (cause : Fault)
  /-- An exchange failed in a way that trying again cannot mend. -/
  | exchange (cause : Fault)
  /-- A shared resource was used after it was torn down. -/
  | resourceClosed
  /-- A setting cannot be understood. -/
  | configuration (text : String)
  deriving DecidableEq

namespace Failure

/-- The fault behind a failure. -/
def cause : Failure → Option Fault
  | exhausted _ fault => some fault
  | tokenRejected fault => some fault
  | exchange fault => some fault
  | _ => none

/-- The wording of a failure. -/
def message : Failure → String
  | disabled => "EC2 metadata usage is disabled"
  | exhausted attempts fault =>
    "unable to contact EC2 metadata service after " ++ toString attempts ++ " attempts: " ++
      fault.message
  | unreachable => "unable to contact EC2 metadata service"
  | tokenRejected fault => "unable to fetch metadata token: " ++ fault.message
  | exchange fault => "transport failure: " ++ fault.message
  | resourceClosed => "shared resource is closed"
  | configuration text => "invalid configuration: " ++ text

end Failure

end Imds
