import Imds.Lease.Operation
import Imds.Pool.Job

/-!
# Pools

A pool has workers, and channels hand it jobs. It is a shared resource: channels
and others hold leases on it, and it runs until the last owner closes. Tearing it
down gives up every job that is not over, and a job that arrives later is lost
from the start.

The state of all pools is their commons and the list of all jobs. What happens is
one event after the other. A caller, a worker and a party that closes a lease may
come in any order; in particular a job can arrive after its caller found the pool
open and before or after somebody tore it down, and a response can be asked for
between the teardown and its signal.

## Main definitions

* `Workers`: The workers of one pool.
* `Pools`: The commons and the jobs.
* `Event`, `Pools.handle`, `Pools.after`: One event, and a history of events.
* `Pools.response`: What a caller who waits for a job gets.

## Theorems

* `isRunning_iff`: A pool runs until it is torn down.
* `after_append`: Histories come one after the other.
-/

namespace Imds

namespace Pool

/-- The workers of one pool. There is at least one. -/
structure Workers where
  /-- Their number. -/
  threads : Nat
  /-- A pool without workers would never do anything. -/
  pos : 0 < threads

namespace Workers

/-- A number of workers, or one if the number is zero. -/
def ofThreads (n : Nat) : Workers := ⟨max 1 n, by omega⟩

/-- The number of workers of the pool that a process shares. -/
def standardThreads : Nat := 2

/-- The factory of a source that makes pools of a number of workers. It never
    fails. -/
def factory (n : Nat) : Nat → Except Failure Workers := fun _ => .ok (ofThreads n)

end Workers

/-- The pools of a process and their jobs. -/
structure Pools where
  /-- The pools and the leases on them. -/
  commons : Commons Workers
  /-- The jobs, in the order in which they arrived. -/
  jobs : List Job

/-- What can happen to pools and jobs. -/
inductive Event where
  /-- A party takes a step of sharing. -/
  | share (move : Move Workers)
  /-- A job arrives at a pool. -/
  | arrive (pool : Nat) (request : Request)
  /-- A worker takes a job. -/
  | start (job : Nat)
  /-- The exchange of a job comes to its end. -/
  | finish (job : Nat) (outcome : Except Fault String)
  /-- The caller notes that it gives a job up. -/
  | note (job : Nat)
  /-- The caller asks for the end of a job. -/
  | askEnd (job : Nat)
  /-- A worker gets to a job whose end was asked for. -/
  | reap (job : Nat)
  /-- The caller lets go of a response. -/
  | drop (job : Nat)

namespace Pools

/-- Pools made by sources with these factories, before anything happened. -/
def ofFactories (factories : Nat → Nat → Except Failure Workers) : Pools :=
  ⟨Commons.ofFactories factories, []⟩

/-- Whether a pool runs. -/
def isRunning (s : Pools) (pool : Nat) : Bool :=
  decide (pool < s.commons.resources.length) && s.commons.teardowns pool == 0

/-- Changes a job. -/
def changeJob (s : Pools) (job : Nat) (f : Job → Job) : Pools :=
  { s with jobs := s.jobs.modify job f }

/-- A step of sharing. The jobs of pools that no longer run are given up. -/
def share (s : Pools) (move : Move Workers) : Pools :=
  let commons := s.commons.step move
  ⟨commons, s.jobs.map (fun j => if commons.teardowns j.pool = 0 then j else j.giveUp)⟩

/-- A job arrives at a pool. -/
def arrive (s : Pools) (pool : Nat) (request : Request) : Pools :=
  { s with
    jobs := s.jobs ++ [if s.isRunning pool then .queue pool request else .stillborn pool request] }

/-- What an event does. -/
def handle (s : Pools) : Event → Pools
  | .share move => s.share move
  | .arrive pool request => s.arrive pool request
  | .start job => s.changeJob job Job.start
  | .finish job outcome => s.changeJob job (fun j => j.finish outcome)
  | .note job => s.changeJob job Job.note
  | .askEnd job => s.changeJob job Job.askEnd
  | .reap job => s.changeJob job Job.reap
  | .drop job => s.changeJob job Job.drop

/-- What a history does. -/
def after (s : Pools) (events : List Event) : Pools := events.foldl handle s

/-- What a caller who waits for a job gets; nothing yet while the job is not
    over. -/
def response (s : Pools) (job : Nat) : Option (Except Fault String) :=
  s.jobs[job]?.bind (fun j => j.response (s.commons.isComplete j.pool))

/-- Whether a job is over. -/
def isOver (s : Pools) (job : Nat) : Bool := (s.jobs[job]?.map Job.isOver).getD true

theorem after_append (s : Pools) (first second : List Event) :
    s.after (first ++ second) = (s.after first).after second :=
  List.foldl_append

theorem isRunning_iff {s : Pools} {pool : Nat} :
    s.isRunning pool = true ↔
      pool < s.commons.resources.length ∧ s.commons.teardowns pool = 0 := by
  simp [isRunning]

end Pools

end Pool

end Imds
