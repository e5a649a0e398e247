import Imds.Duration
import Imds.Failure

/-!
# Backoff and Retry

An operation has a budget of attempts. Between two attempts it pauses, first
for the floor of the backoff and then twice as long each time. The factor is a
32-bit word: once doubling would leave the word, it stays at the largest value.

`retry` is the loop, written once for any way of carrying out an attempt and a
pause. What carries them out decides the monad: a plan that is run later, a
rehearsal that counts calls. The loop recurses on the attempts that remain, so
it ends for every budget and every attempt.

## Main definitions

* `Backoff`: A budget and a floor.
* `Backoff.pause`: The pause with a number of attempts left.
* `Verdict`: What one attempt came to.
* `Backoff.retry`: Attempts until one settles, fails for good, or the budget is
  used up.

## Theorems

* `growth_le_succ`: The factor never falls as pauses go on.
* `toNanos_pause`: The length of a pause as one number.
* `retry_zero`: Without a budget nothing is attempted.
-/

namespace Imds

/-- How often to try, and how long to pause at least between two tries. -/
structure Backoff where
  /-- The number of attempts, the first included. -/
  attempts : Nat
  /-- The shortest pause. -/
  floor : Duration
  deriving DecidableEq

/-- What one attempt came to. -/
inductive Verdict (α : Type) where
  /-- The attempt gave a result. -/
  | settled (value : α)
  /-- The attempt failed and may be repeated. -/
  | again (cause : Fault)
  /-- The attempt failed for good. -/
  | fatal (failure : Failure)

namespace Backoff

/-- The floor when nothing else is asked for. -/
def standardFloor : Duration := Duration.ofMillis 250

/-- The backoff when nothing else is asked for. -/
def standard : Backoff := ⟨3, standardFloor⟩

/-- A budget over the standard floor. -/
def ofAttempts (attempts : Nat) : Backoff := ⟨attempts, standardFloor⟩

/-- The power of two for a number of doublings, as far as a 32-bit word
    goes. -/
def growth (doublings : Nat) : Nat := if doublings < 32 then Nat.pow 2 doublings else 0xFFFFFFFF

/-- The pause after a failed attempt, when `remaining` attempts were left before
    it. More remaining than the budget counts as no doubling. -/
def pause (b : Backoff) (remaining : Nat) : Duration :=
  (b.floor.scale (growth (b.attempts - remaining))).max b.floor

/-- The attempts that remain, one by one. -/
def retryFrom {m : Type → Type} [Monad m] {α : Type} (b : Backoff)
    (wait : Duration → m Unit) (attempt : m (Verdict α)) : Nat → m (Except Failure α)
  | 0 => pure (.error .unreachable)
  | remaining + 1 => do
    match ← attempt with
    | .settled value => pure (.ok value)
    | .fatal failure => pure (.error failure)
    | .again cause =>
      if remaining = 0 then pure (.error (.exhausted b.attempts cause))
      else
        wait (b.pause (remaining + 1))
        retryFrom b wait attempt remaining

/-- Attempts until one settles, one fails for good, or the budget is used up.
    The failure then carries the whole budget and the fault of the last
    attempt. -/
def retry {m : Type → Type} [Monad m] {α : Type} (b : Backoff)
    (wait : Duration → m Unit) (attempt : m (Verdict α)) : m (Except Failure α) :=
  retryFrom b wait attempt b.attempts

theorem growth_pos (n : Nat) : 0 < growth n := by
  simp only [growth]
  split
  · exact Nat.two_pow_pos n
  · decide

theorem growth_le_succ (n : Nat) : growth n ≤ growth (n + 1) := by
  simp only [growth]
  split
  · next h =>
    split
    · exact Nat.pow_le_pow_right (by decide) (by omega)
    · have hn : n = 31 := by omega
      subst hn
      decide
  · exact Nat.le_of_eq (if_neg (by omega)).symm

theorem toNanos_pause (b : Backoff) (remaining : Nat) :
    (b.pause remaining).toNanos =
      min Duration.longest.toNanos (b.floor.toNanos * growth (b.attempts - remaining)) := by
  have hfloor := b.floor.toNanos_le_longest
  have hgrow : b.floor.toNanos ≤ b.floor.toNanos * growth (b.attempts - remaining) :=
    Nat.le_mul_of_pos_right _ (growth_pos _)
  rw [pause, Duration.toNanos_max, Duration.toNanos_scale, Nat.max_eq_max]
  omega

theorem retry_zero {m : Type → Type} [Monad m] {α : Type} (floor : Duration)
    (wait : Duration → m Unit) (attempt : m (Verdict α)) :
    retry ⟨0, floor⟩ wait attempt = pure (.error .unreachable) := rfl

end Backoff

end Imds
