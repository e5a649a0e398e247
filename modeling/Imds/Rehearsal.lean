import Imds.Backoff

/-!
# Rehearsed Retries

The retry loop can be watched without a service. A rehearsal gives the outcome
of every attempt beforehand, as a function of the number of attempts before it,
and notes what the loop does: when each attempt starts, and how long each pause
is. Time passes in the pauses only.

## Main definitions

* `Rehearsal`: What was noted so far.
* `Rehearsal.attempt`, `Rehearsal.wait`: An attempt and a pause, noted.
* `Backoff.rehearse`: The loop over given outcomes, with its notes.

## Theorems

* `rehearse_zero`: Without a budget there is nothing to note.
-/

namespace Imds

/-- What was noted of a retry loop. -/
structure Rehearsal where
  /-- The number of attempts. -/
  calls : Nat
  /-- The time, in milliseconds. -/
  now : Nat
  /-- When each attempt started, newest first. -/
  starts : List Nat
  /-- The pauses, newest first. -/
  pauses : List Duration

namespace Rehearsal

/-- Before anything happened. -/
def fresh : Rehearsal := ⟨0, 0, [], []⟩

/-- Notes the start of an attempt, and answers it. -/
def attempt {α : Type} (outcome : Nat → Verdict α) : StateM Rehearsal (Verdict α) :=
  fun r => (outcome r.calls, { r with calls := r.calls + 1, starts := r.now :: r.starts })

/-- Notes a pause, and lets it pass. -/
def wait (length : Duration) : StateM Rehearsal Unit :=
  fun r => ((), { r with now := r.now + length.toTicks, pauses := length :: r.pauses })

end Rehearsal

namespace Backoff

/-- The loop over given outcomes, with what was noted of it. -/
def rehearse {α : Type} (b : Backoff) (outcome : Nat → Verdict α) : Except Failure α × Rehearsal :=
  (b.retry Rehearsal.wait (Rehearsal.attempt outcome)).run Rehearsal.fresh

theorem rehearse_zero {α : Type} (floor : Duration) (outcome : Nat → Verdict α) :
    rehearse ⟨0, floor⟩ outcome = (.error .unreachable, Rehearsal.fresh) := rfl

end Backoff

end Imds
