import Imds.Proofs.Retry.Course

/-!
# Counting Down in a Word

A driver of the retry loop keeps a word with the attempts that remain, and after each attempt it
is told to stop or to pause. It takes one off the word before it pauses and asks no more than
whether the word is above one, so it has to be shown that nothing is ever taken off zero: the
word would come round to its largest value, and the loop would go on for another four thousand
million attempts.

`Countdown.loop` is such a driver. It is not written with a number of rounds in it, and that it
ends is the statement that the word falls with every pause; a word that came round would be a
gap in this argument. A countdown that has something left is the loop over numbers, so all that
is known of that loop is known of the driver.

On a row of outcomes the word can be followed from attempt to attempt. Up to the attempt that
ends the loop it is the budget less the attempts before, which is never zero.

## Main definitions

* `Countdown`, `Countdown.Step`: What a driver keeps, and what it is told.
* `Countdown.start`, `Countdown.advance`: Its beginning, and one attempt.
* `Countdown.loop`, `Countdown.retry`: The driver.
* `Countdown.after`: The countdown after attempts that are repeated.

## Theorems

* `advance_pause`: A pause takes one off the word and leaves something.
* `loop_eq`, `retry_eq`: The driver is the loop over numbers.
* `after_of_agains`: The word before each attempt.
* `retries_keep_their_course`: How the loop goes, for every budget and every row of outcomes.
-/

namespace Imds

/-- What a driver of the retry loop keeps: the backoff, and the attempts that remain. -/
structure Countdown where
  /-- The backoff. -/
  backoff : Backoff
  /-- The attempts that remain, the next one included. -/
  remaining : UInt32

namespace Countdown

/-- What a driver is told after an attempt. -/
inductive Step (α : Type) where
  /-- The loop is over. -/
  | finished (result : Except Failure α)
  /-- It goes on after a pause. -/
  | pause (length : Duration) (left : Countdown)

/-- The countdown of a budget, if there is something to count. -/
def start (budget : UInt32) (floor : Duration) : Except Failure Countdown :=
  if budget = 0 then .error .unreachable else .ok ⟨⟨budget.toNat, floor⟩, budget⟩

/-- What follows from an attempt. -/
def advance {α : Type} (c : Countdown) : Verdict α → Step α
  | .settled value => .finished (.ok value)
  | .fatal failure => .finished (.error failure)
  | .again cause =>
    if c.remaining ≤ 1 then .finished (.error (.exhausted c.backoff.attempts cause))
    else .pause (c.backoff.pause c.remaining.toNat) { c with remaining := c.remaining - 1 }

variable {α : Type} {c left : Countdown} {length : Duration} {verdict : Verdict α}

/-- A pause comes after an attempt to repeat. It takes one off the word, and leaves something. -/
theorem advance_pause (h : c.advance verdict = .pause length left) :
    verdict.IsAgain ∧ left.backoff = c.backoff ∧ length = c.backoff.pause c.remaining.toNat ∧
      left.remaining.toNat + 1 = c.remaining.toNat ∧ 0 < left.remaining.toNat := by
  cases verdict with
  | settled value => cases h
  | fatal failure => cases h
  | again cause =>
      rw [advance] at h
      by_cases hlast : c.remaining ≤ 1
      · rw [if_pos hlast] at h
        cases h
      · rw [if_neg hlast] at h
        cases h
        have hone : 1 < c.remaining.toNat := by
          rw [UInt32.le_iff_toNat_le, UInt32.toNat_one] at hlast
          omega
        have hsub : (c.remaining - 1).toNat = c.remaining.toNat - 1 :=
          UInt32.toNat_sub_of_le _ _ (UInt32.le_iff_toNat_le.2 (by rw [UInt32.toNat_one]; omega))
        exact ⟨⟨cause, rfl⟩, rfl, rfl, by rw [hsub]; omega, by rw [hsub]; omega⟩

/-- Attempts with pauses between them, for as long as it is told to go on. -/
def loop {m : Type → Type} [Monad m] (wait : Duration → m Unit) (attempt : m (Verdict α))
    (c : Countdown) : m (Except Failure α) :=
  attempt >>= fun verdict =>
    match _h : c.advance verdict with
    | .finished result => pure result
    | .pause length left => wait length >>= fun _ => left.loop wait attempt
termination_by c.remaining.toNat
decreasing_by
  have hfalls := (advance_pause _h).2.2.2.1
  omega

/-- A driver of the retry loop. -/
def retry {m : Type → Type} [Monad m] (budget : UInt32) (floor : Duration)
    (wait : Duration → m Unit) (attempt : m (Verdict α)) : m (Except Failure α) :=
  match start budget floor with
  | .error failure => pure (.error failure)
  | .ok c => c.loop wait attempt

/-- The countdown after attempts, as long as all of them are repeated. -/
def after (c : Countdown) (outcome : Nat → Verdict α) : Nat → Countdown
  | 0 => c
  | k + 1 =>
    match (c.after outcome k).advance (outcome k) with
    | .finished _ => c.after outcome k
    | .pause _ left => left

/-! ### The driver is the loop -/

theorem advance_again (cause : Fault) {n : Nat} (h : c.remaining.toNat = n + 1) :
    c.advance (Verdict.again cause : Verdict α) =
      if n = 0 then .finished (.error (.exhausted c.backoff.attempts cause))
      else .pause (c.backoff.pause (n + 1)) { c with remaining := c.remaining - 1 } := by
  have hiff : c.remaining ≤ 1 ↔ n = 0 := by
    rw [UInt32.le_iff_toNat_le, UInt32.toNat_one, h]
    omega
  rw [advance, h]
  by_cases hn : n = 0
  · rw [if_pos (hiff.2 hn), if_pos hn]
  · rw [if_neg (mt hiff.1 hn), if_neg hn]

-- One round of the driver.
theorem loop_step {m : Type → Type} [Monad m] (wait : Duration → m Unit)
    (attempt : m (Verdict α)) (c : Countdown) :
    c.loop wait attempt = attempt >>= fun verdict =>
      match c.advance verdict with
      | .finished result => pure result
      | .pause length left => wait length >>= fun _ => left.loop wait attempt := by
  rw [loop]
  refine congrArg (attempt >>= ·) (funext fun verdict => ?_)
  split
  · next h => rw [h]
  · next h => rw [h]

/-- A countdown that has something left is the loop over numbers. -/
theorem loop_eq {m : Type → Type} [Monad m] (wait : Duration → m Unit)
    (attempt : m (Verdict α)) {n : Nat} {c : Countdown} (h : c.remaining.toNat = n + 1) :
    c.loop wait attempt = c.backoff.retryFrom wait attempt (n + 1) := by
  -- On what is left beside the next attempt.
  induction n generalizing c with
  | zero =>
      rw [loop_step, Backoff.retryFrom]
      refine congrArg (attempt >>= ·) (funext fun verdict => ?_)
      cases verdict with
      | settled value => rfl
      | fatal failure => rfl
      | again cause => simp only [advance_again cause h, if_true]
  | succ n ih =>
      rw [loop_step, Backoff.retryFrom]
      refine congrArg (attempt >>= ·) (funext fun verdict => ?_)
      cases verdict with
      | settled value => rfl
      | fatal failure => rfl
      | again cause =>
          have hstep := advance_again (α := α) cause h
          rw [if_neg (Nat.succ_ne_zero n)] at hstep
          have hleft := (advance_pause hstep).2.2.2.1
          simp only [hstep, if_neg (Nat.succ_ne_zero n)]
          rw [ih (Nat.succ.inj (hleft.trans h))]

/-- The driver is the loop of its budget. -/
theorem retry_eq {m : Type → Type} [Monad m] (budget : UInt32) (floor : Duration)
    (wait : Duration → m Unit) (attempt : m (Verdict α)) :
    retry budget floor wait attempt =
      (⟨budget.toNat, floor⟩ : Backoff).retry wait attempt := by
  rw [retry, start]
  by_cases hzero : budget = 0
  · subst hzero
    rfl
  · have hpos : budget.toNat ≠ 0 := fun h => hzero (UInt32.toNat_inj.1 h)
    rcases Nat.exists_eq_succ_of_ne_zero hpos with ⟨n, hn⟩
    rw [if_neg hzero]
    refine (loop_eq wait attempt hn).trans ?_
    change _ = Backoff.retryFrom _ wait attempt budget.toNat
    rw [hn]

/-! ### Attempt by attempt -/

section Outcomes

variable {outcome : Nat → Verdict α} {k : Nat}

theorem advance_finished (hstop : verdict.IsAgain → c.remaining.toNat = 1) :
    c.advance verdict = .finished (verdict.conclude c.backoff.attempts) := by
  cases verdict with
  | settled value => rfl
  | fatal failure => rfl
  | again cause =>
      rw [advance_again cause (n := 0) (hstop ⟨cause, rfl⟩), if_pos rfl]
      rfl

-- A repeated attempt that is not the last one takes one off the word.
theorem after_succ {n : Nat} (hagain : (outcome k).IsAgain)
    (hleft : (c.after outcome k).remaining.toNat = n + 2) :
    (c.after outcome k).advance (outcome k) =
        .pause ((c.after outcome k).backoff.pause (n + 2)) (c.after outcome (k + 1)) ∧
      (c.after outcome (k + 1)).backoff = (c.after outcome k).backoff ∧
      (c.after outcome (k + 1)).remaining.toNat = n + 1 := by
  rcases hagain with ⟨cause, hcause⟩
  have hstep := advance_again (α := α) cause hleft
  rw [if_neg (Nat.succ_ne_zero n), ← hcause] at hstep
  have hnext : c.after outcome (k + 1) = { c.after outcome k with
      remaining := (c.after outcome k).remaining - 1 } := by
    rw [after, hstep]
  rw [hnext]
  exact ⟨hstep, rfl, Nat.succ.inj ((advance_pause hstep).2.2.2.1.trans hleft)⟩

/-- Before each attempt the word is what it was less the attempts before, as long as these are
    fewer and all of them are repeated. -/
theorem after_of_agains (hk : k < c.remaining.toNat) (hbefore : ∀ j < k, (outcome j).IsAgain) :
    (c.after outcome k).backoff = c.backoff ∧
      (c.after outcome k).remaining.toNat = c.remaining.toNat - k := by
  induction k with
  | zero => exact ⟨rfl, rfl⟩
  | succ k ih =>
      rcases ih (by omega) (fun j hj => hbefore j (by omega)) with ⟨hbackoff, hremaining⟩
      have hleft : (c.after outcome k).remaining.toNat = c.remaining.toNat - (k + 2) + 2 := by
        omega
      rcases after_succ (hbefore k (Nat.lt_succ_self k)) hleft with ⟨-, hsame, hfalls⟩
      exact ⟨hsame.trans hbackoff, by omega⟩

/-- What the driver is told after a repeated attempt that is not the last one. -/
theorem advance_of_agains (hk : k + 1 < c.remaining.toNat)
    (hbefore : ∀ j < k + 1, (outcome j).IsAgain) :
    (c.after outcome k).advance (outcome k) =
      .pause (c.backoff.pause (c.remaining.toNat - k)) (c.after outcome (k + 1)) := by
  have hearlier : ∀ j < k, (outcome j).IsAgain := fun j hj => hbefore j (by omega)
  have hat := after_of_agains (c := c) (by omega) hearlier
  have hleft : (c.after outcome k).remaining.toNat = c.remaining.toNat - (k + 2) + 2 := by
    omega
  have hstep := (after_succ (hbefore k (Nat.lt_succ_self k)) hleft).1
  rw [hat.1, ← hleft, hat.2] at hstep
  exact hstep

/-- The driver on a row of outcomes: the word is above zero before each attempt of the course, a
    pause follows each but the last, and after the last the loop is over with the result. -/
theorem advance_of_course {calls : Nat} {result : Except Failure α}
    (h : Course c.remaining.toNat outcome calls result)
    (hfull : c.backoff.attempts = c.remaining.toNat) :
    (∀ k < calls, (c.after outcome k).remaining.toNat = c.remaining.toNat - k ∧
      0 < (c.after outcome k).remaining.toNat) ∧
    (∀ k, k + 1 < calls → (c.after outcome k).advance (outcome k) =
      .pause (c.backoff.pauseAfter k) (c.after outcome (k + 1))) ∧
    ∀ k, k + 1 = calls → (c.after outcome k).advance (outcome k) = .finished result := by
  have hle := h.le
  refine ⟨?_, ?_, ?_⟩
  · intro k hk
    have hbefore : ∀ j < k, (outcome j).IsAgain := fun j hj => h.isAgain (by omega)
    have hat := (after_of_agains (c := c) (by omega) hbefore).2
    exact ⟨hat, by omega⟩
  · intro k hk
    rw [Backoff.pauseAfter, hfull]
    have hbefore : ∀ j < k + 1, (outcome j).IsAgain := fun j hj => h.isAgain (by omega)
    exact advance_of_agains (by omega) hbefore
  · rintro k rfl
    rcases h.exists_last (by omega) with ⟨k', hk', -, hbefore, hlast, rfl⟩
    cases hk'
    have hat := after_of_agains (c := c) (by omega) hbefore
    rw [← hfull, ← hat.1]
    exact advance_finished (fun hagain => by
      have := hlast hagain
      omega)

end Outcomes

end Countdown

/-- How a retry loop goes, for every budget that a word holds, every floor and every row of
    outcomes. The row has a course, by which the number of attempts and the result are settled.
    A rehearsal makes as many attempts, with one pause fewer, and notes for each attempt the sum
    of what a timer waits in the pauses before it. There are tasks and threads that have these
    outcomes, and all of them give this result after so many attempts, with the same pauses
    between them; a clock shows the sums to a task, and a thread slept through the pauses in
    full. A thread that carries out the plan of such a loop is one of them. The pauses double
    from the floor until the factor fills its word or the product is longer than any duration,
    and while a timer waits for exactly as long, attempts start after their sum.

    A driver that counts down in a word is this loop, whatever carries it out. Its word is above
    zero before each attempt, so that nothing is ever taken off zero. -/
theorem retries_keep_their_course {α : Type} (budget : UInt32) (floor : Duration)
    (outcome : Nat → Verdict α) :
    let b : Backoff := ⟨budget.toNat, floor⟩
    let c : Countdown := ⟨b, budget⟩
    ∃ calls result, Course b.attempts outcome calls result ∧
      ((b.rehearse outcome).1 = result ∧ (b.rehearse outcome).2.calls = calls ∧
        (b.rehearse outcome).2.pauses.reverse = (List.range (calls - 1)).map b.pauseAfter ∧
        (b.rehearse outcome).2.starts.reverse = (List.range calls).map b.startOf) ∧
      ((∃ (p : Plan (Verdict α)) (s : Site), b.outcomes Site.waits p.drive s = outcome) ∧
        ∀ (p : Plan (Verdict α)) (s : Site), b.outcomes Site.waits p.drive s = outcome →
          (b.retry Plan.pause p).drive s = (result, b.leaves Site.waits p.drive s calls) ∧
          ((∀ s, (p.drive s).2.now = s.now) →
            ∀ k, (b.begins Site.waits p.drive s k).now = s.now + b.startOf k)) ∧
      ((∃ (m : StateM Blocking.World (Verdict α)) (w : Blocking.World),
          b.outcomes Blocking.World.sleep m w = outcome) ∧
        ∀ (m : StateM Blocking.World (Verdict α)) (w : Blocking.World),
          b.outcomes Blocking.World.sleep m w = outcome →
          (Blocking.retry b Blocking.World.sleep m b.attempts).run w =
            (result, b.leaves Blocking.World.sleep m w calls) ∧
          ((∀ w, (m w).2.slept = w.slept) →
            ∀ k, (b.begins Blocking.World.sleep m w k).slept =
              ((List.range k).map b.pauseAfter).reverse ++ w.slept)) ∧
      (∀ p : Plan (Verdict α), Blocking.Direct.run (Blocking.retry b Plan.pause p b.attempts) =
        (Blocking.retry b Blocking.World.sleep p.runIn b.attempts).run) ∧
      (∀ k, k + 1 < calls →
        (b.pauseAfter k).toNanos =
          min Duration.longest.toNanos (floor.toNanos * min (Nat.pow 2 k) 0xFFFFFFFF) ∧
        floor.toNanos ≤ (b.pauseAfter k).toNanos ∧
        (b.pauseAfter k).toNanos ≤ (b.pauseAfter (k + 1)).toNanos) ∧
      (∀ k < calls, (∀ j < k, (b.pauseAfter j).IsTimed) →
        nanosPerMilli * b.startOf k = b.pausedBefore k) ∧
      (∀ (m : Type → Type) [Monad m] (wait : Duration → m Unit) (attempt : m (Verdict α)),
        Countdown.retry budget floor wait attempt = b.retry wait attempt) ∧
      (∀ k < calls, (c.after outcome k).remaining.toNat = budget.toNat - k ∧
        0 < (c.after outcome k).remaining.toNat) ∧
      (∀ k, k + 1 < calls → (c.after outcome k).advance (outcome k) =
        .pause (b.pauseAfter k) (c.after outcome (k + 1))) ∧
      ∀ k, k + 1 = calls → (c.after outcome k).advance (outcome k) = .finished result := by
  intro b c
  rcases exists_course b.attempts outcome with ⟨calls, result, h⟩
  refine ⟨calls, result, h, Backoff.rehearse_of_course h, ⟨b.exists_task outcome, ?_⟩,
    ⟨b.exists_thread outcome, ?_⟩, fun p => ?_, ?_,
    fun k _ => Backoff.startOf_of_isTimed,
    fun m _ wait attempt => Countdown.retry_eq budget floor wait attempt,
    Countdown.advance_of_course (c := c) h rfl⟩
  · rintro p s rfl
    exact ⟨Backoff.drive_retry_of_course h, Backoff.now_begins⟩
  · rintro m w rfl
    exact ⟨Backoff.blocking_retry_of_course h, Backoff.slept_begins⟩
  · rw [Backoff.run_blocking_retry, Blocking.retry_eq]
    rfl
  · intro k hk
    have hle : k ≤ b.attempts := by
      have := h.le
      omega
    exact ⟨b.toNanos_pauseAfter hle, b.floor_le_pauseAfter k, b.pauseAfter_le_succ k⟩

end Imds
