import Imds.Proofs.Blocking.Agreement
import Imds.Proofs.Fetch.Rounds
import Imds.Rehearsal
import Mathlib.Data.Nat.Find

/-!
# The Course of a Retry Loop

A row of outcomes settles how a retry loop goes: how many attempts it makes, and what comes of
them. The row is what attempts would come to if one went on for ever, and the budget says how
much of it is looked at. `Course` puts it as the four ways in which a loop can end, and it does
not know of pauses, clocks or anything else that an attempt could find.

What carries an attempt out has a state, be it the notes of a rehearsal, a site or the world of
a thread. `begins` is the state in which an attempt begins if all before it were repeated, with
a pause after each of them, and `leaves` is the state after the last of a number of attempts,
with no pause after it. Both go up from the first attempt while the loop counts down from its
budget, and `retryFrom_of_agains` lines the two up. The row of outcomes is read off `begins`, so
that every state and every way of attempting has its row, and the loop follows the course of it.

The pause that comes after a number of attempts doubles with each of them, until the factor
fills its word or the product is longer than any duration. A timer waits for a started
millisecond in full and for no more than its longest wait. So a clock shows the sum of the
pauses as long as they are whole milliseconds and not too long, and `long_pause_is_cut_short`
is a loop of two attempts where it shows less.

## Main definitions

* `Verdict.IsAgain`, `Course`: The ways in which a loop ends.
* `Backoff.begins`, `Backoff.outcomes`, `Backoff.leaves`: A loop from a state.
* `Backoff.pauseAfter`, `Backoff.startOf`, `Backoff.pausedBefore`: The pauses, when attempts start,
  and how long the pauses before that are.
* `Duration.IsTimed`: A timer waits for exactly this long.
* `Site.waits`: A pause at a site.

## Theorems

* `exists_course`, `Course.unique`: Every row of outcomes has one course.
* `retryFrom_of_agains`: How far the loop is when only attempts to repeat came before.
* `retry_of_course`: The loop follows the course of its outcomes.
* `toNanos_pauseAfter`, `pauseAfter_le_succ`: How long the pauses are.
* `rehearse_of_course`: What is noted of a rehearsed loop.
* `drive_retry_of_course`, `blocking_retry_of_course`: A task and a thread that retry.
* `startOf_of_isTimed`: When a clock shows the sum of the pauses.
* `long_pause_is_cut_short`: A case where it does not.
-/

namespace Imds

/-- An attempt may be repeated. -/
def Verdict.IsAgain {α : Type} (v : Verdict α) : Prop := ∃ cause, v = .again cause

/-- How a loop with a budget goes on a row of outcomes: after how many attempts it ends, and with
    what. -/
inductive Course {α : Type} (budget : Nat) (outcome : Nat → Verdict α) :
    Nat → Except Failure α → Prop where
  /-- There was no attempt to make. -/
  | none (h : budget = 0) : Course budget outcome 0 (.error .unreachable)
  /-- The first attempt that is not repeated has a value. -/
  | settled (k : Nat) (value : α) (hk : k < budget) (hbefore : ∀ j < k, (outcome j).IsAgain)
    (h : outcome k = .settled value) : Course budget outcome (k + 1) (.ok value)
  /-- The first attempt that is not repeated failed for good. -/
  | fatal (k : Nat) (failure : Failure) (hk : k < budget) (hbefore : ∀ j < k, (outcome j).IsAgain)
    (h : outcome k = .fatal failure) : Course budget outcome (k + 1) (.error failure)
  /-- All attempts of the budget were to be repeated. -/
  | exhausted (k : Nat) (cause : Fault) (hk : k + 1 = budget)
    (hbefore : ∀ j < k, (outcome j).IsAgain) (h : outcome k = .again cause) :
    Course budget outcome (k + 1) (.error (.exhausted budget cause))

namespace Backoff

/-- The pause after an attempt that comes after `k` others. -/
def pauseAfter (b : Backoff) (k : Nat) : Duration := b.pause (b.attempts - k)

/-- When an attempt starts that comes after `k` others, in the milliseconds of a timer. -/
def startOf (b : Backoff) : Nat → Nat
  | 0 => 0
  | k + 1 => b.startOf k + (b.pauseAfter k).toTicks

/-- How long the first pauses are together, in nanoseconds. -/
def pausedBefore (b : Backoff) : Nat → Nat
  | 0 => 0
  | k + 1 => b.pausedBefore k + (b.pauseAfter k).toNanos

section Loop

variable {σ α : Type} (b : Backoff) (wait : Duration → StateM σ Unit)
  (attempt : StateM σ (Verdict α)) (s : σ)

/-- The state in which an attempt begins that comes after `k` others and a pause after each of
    them. -/
def begins : Nat → σ
  | 0 => s
  | k + 1 => (wait (b.pauseAfter k) (attempt (begins k)).2).2

/-- What the attempts come to, one after the other. -/
def outcomes (k : Nat) : Verdict α := (attempt (b.begins wait attempt s k)).1

/-- The state after a number of attempts, with a pause between any two. -/
def leaves : Nat → σ
  | 0 => s
  | k + 1 => (attempt (b.begins wait attempt s k)).2

end Loop

end Backoff

/-! ### Courses -/

section Courses

variable {α : Type} {budget calls : Nat} {outcome : Nat → Verdict α} {result : Except Failure α}

/-- Every row of outcomes has a course, so a loop comes to its end whatever the outcomes are. -/
theorem exists_course (budget : Nat) (outcome : Nat → Verdict α) :
    ∃ calls result, Course budget outcome calls result := by
  by_cases hzero : budget = 0
  · exact ⟨0, _, .none hzero⟩
  by_cases hstop : ∃ k, k < budget ∧ ¬ (outcome k).IsAgain
  · -- The first attempt that is not repeated ends it.
    classical
    have hbefore : ∀ j < Nat.find hstop, (outcome j).IsAgain := by
      intro j hj
      by_contra hagain
      exact Nat.find_min hstop hj ⟨Nat.lt_trans hj (Nat.find_spec hstop).1, hagain⟩
    cases h : outcome (Nat.find hstop) with
    | settled value => exact ⟨_, _, .settled _ value (Nat.find_spec hstop).1 hbefore h⟩
    | fatal failure => exact ⟨_, _, .fatal _ failure (Nat.find_spec hstop).1 hbefore h⟩
    | again cause => exact absurd ⟨cause, h⟩ (Nat.find_spec hstop).2
  · have hall : ∀ j < budget, (outcome j).IsAgain := by
      intro j hj
      by_contra hagain
      exact hstop ⟨j, hj, hagain⟩
    rcases hall (budget - 1) (by omega) with ⟨cause, h⟩
    exact ⟨_, _, .exhausted (budget - 1) cause (by omega) (fun j hj => hall j (by omega)) h⟩

/-- With a budget there is a last attempt. All before it were repeated, it is itself one to
    repeat only if the budget is used up, and the result is what is concluded from it. -/
theorem Course.exists_last (h : Course budget outcome calls result) (hpos : budget ≠ 0) :
    ∃ k, calls = k + 1 ∧ k < budget ∧ (∀ j < k, (outcome j).IsAgain) ∧
      ((outcome k).IsAgain → k + 1 = budget) ∧ result = (outcome k).conclude budget := by
  cases h with
  | none hzero => exact absurd hzero hpos
  | settled k value hk hbefore h =>
      refine ⟨k, rfl, hk, hbefore, ?_, by rw [h]; rfl⟩
      rintro ⟨cause, hcause⟩
      rw [h] at hcause
      cases hcause
  | fatal k failure hk hbefore h =>
      refine ⟨k, rfl, hk, hbefore, ?_, by rw [h]; rfl⟩
      rintro ⟨cause, hcause⟩
      rw [h] at hcause
      cases hcause
  | exhausted k cause hk hbefore h =>
      exact ⟨k, rfl, by omega, hbefore, fun _ => hk, by rw [h]; rfl⟩

theorem Course.of_zero (h : Course 0 outcome calls result) :
    calls = 0 ∧ result = .error .unreachable := by
  cases h with
  | none => exact ⟨rfl, rfl⟩
  | settled k _ hk => exact absurd hk (Nat.not_lt_zero k)
  | fatal k _ hk => exact absurd hk (Nat.not_lt_zero k)
  | exhausted k _ hk => exact absurd hk (Nat.succ_ne_zero k)

/-- A row of outcomes has no more than one course. -/
theorem Course.unique {calls' : Nat} {result' : Except Failure α}
    (h : Course budget outcome calls result) (h' : Course budget outcome calls' result') :
    calls' = calls ∧ result' = result := by
  by_cases hzero : budget = 0
  · subst hzero
    rcases h.of_zero with ⟨rfl, rfl⟩
    exact h'.of_zero
  rcases h.exists_last hzero with ⟨k, rfl, hk, hbefore, hlast, rfl⟩
  rcases h'.exists_last hzero with ⟨k', rfl, hk', hbefore', hlast', rfl⟩
  -- Of two last attempts the earlier one would have been repeated.
  have hnot : ¬ k < k' := fun hlt => by
    have := hlast (hbefore' k hlt)
    omega
  have hnot' : ¬ k' < k := fun hlt => by
    have := hlast' (hbefore k' hlt)
    omega
  have heq : k' = k := by omega
  subst heq
  exact ⟨rfl, rfl⟩

theorem Course.le (h : Course budget outcome calls result) : calls ≤ budget := by
  by_cases hzero : budget = 0
  · subst hzero
    exact Nat.le_of_eq h.of_zero.1
  · rcases h.exists_last hzero with ⟨k, rfl, hk, -⟩
    exact hk

-- All attempts but the last one were repeated.
theorem Course.isAgain (h : Course budget outcome calls result) {j : Nat} (hj : j + 1 < calls) :
    (outcome j).IsAgain := by
  by_cases hzero : budget = 0
  · subst hzero
    have := h.of_zero.1
    omega
  · rcases h.exists_last hzero with ⟨k, rfl, -, hbefore, -⟩
    exact hbefore j (by omega)

end Courses

/-! ### The loop -/

namespace Backoff

section Loop

variable {σ α : Type} {b : Backoff} {wait : Duration → StateM σ Unit}
  (attempt : StateM σ (Verdict α)) {s : σ}

theorem bind_apply {β : Type} (m : StateM σ α) (f : α → StateM σ β) (s : σ) :
    (m >>= f) s = f (m s).1 (m s).2 := rfl

-- An attempt that is not repeated ends the loop with its verdict.
theorem retryFrom_stop {remaining : Nat} (hstop : (attempt s).1.IsAgain → remaining = 0) :
    b.retryFrom wait attempt (remaining + 1) s =
      ((attempt s).1.conclude b.attempts, (attempt s).2) := by
  rw [retryFrom, bind_apply]
  cases h : (attempt s).1 with
  | settled value => rfl
  | fatal failure => rfl
  | again cause =>
      rw [h] at hstop
      simp only [hstop ⟨cause, rfl⟩, if_true]
      rfl

-- An attempt that is repeated leaves the rest of the loop, after a pause.
theorem retryFrom_again {remaining : Nat} (hagain : (attempt s).1.IsAgain)
    (hmore : remaining ≠ 0) :
    b.retryFrom wait attempt (remaining + 1) s =
      b.retryFrom wait attempt remaining (wait (b.pause (remaining + 1)) (attempt s).2).2 := by
  rcases hagain with ⟨cause, h⟩
  rw [retryFrom, bind_apply, h]
  simp only [if_neg hmore]
  rfl

/-- When only attempts to repeat came before, the loop is at the attempt after them, and what is
    left of the budget is the rest. -/
theorem retryFrom_of_agains {k : Nat} (hk : k < b.attempts)
    (hbefore : ∀ j < k, (b.outcomes wait attempt s j).IsAgain) :
    b.retry wait attempt s =
      b.retryFrom wait attempt (b.attempts - k) (b.begins wait attempt s k) := by
  -- On the attempts that came before: each takes one off the budget and is followed by a pause.
  induction k with
  | zero => rfl
  | succ k ih =>
      rw [ih (by omega) (fun j hj => hbefore j (by omega))]
      have hagain : (b.outcomes wait attempt s k).IsAgain := hbefore k (Nat.lt_succ_self k)
      have hleft : b.attempts - k = b.attempts - (k + 1) + 1 := by omega
      rw [hleft, retryFrom_again attempt hagain (by omega), ← hleft]
      rfl

/-- The loop follows the course of its outcomes: it makes as many attempts, with a pause between
    any two and none before the first or after the last, and it gives the result. -/
theorem retry_of_course {calls : Nat} {result : Except Failure α}
    (h : Course b.attempts (b.outcomes wait attempt s) calls result) :
    b.retry wait attempt s = (result, b.leaves wait attempt s calls) := by
  by_cases hzero : b.attempts = 0
  · rw [hzero] at h
    rcases h.of_zero with ⟨rfl, rfl⟩
    rw [retry, hzero]
    rfl
  · rcases h.exists_last hzero with ⟨k, rfl, hk, hbefore, hlast, rfl⟩
    have hleft : b.attempts - k = b.attempts - (k + 1) + 1 := by omega
    have hstop : (b.outcomes wait attempt s k).IsAgain → b.attempts - (k + 1) = 0 := by
      intro hagain
      have := hlast hagain
      omega
    rw [retryFrom_of_agains attempt hk hbefore, hleft, retryFrom_stop attempt hstop]
    rfl

end Loop

/-! ### Pauses -/

section Pauses

variable (b : Backoff) {k : Nat}

theorem growth_eq (k : Nat) : growth k = min (Nat.pow 2 k) 0xFFFFFFFF := by
  rw [growth]
  by_cases hk : k < 32
  · have hle : Nat.pow 2 k ≤ Nat.pow 2 31 := Nat.pow_le_pow_right (by decide) (by omega)
    have hword : Nat.pow 2 31 ≤ 0xFFFFFFFF := by decide
    rw [if_pos hk, Nat.min_eq_left (Nat.le_trans hle hword)]
  · have hle : Nat.pow 2 32 ≤ Nat.pow 2 k := Nat.pow_le_pow_right (by decide) (by omega)
    have hword : 0xFFFFFFFF ≤ Nat.pow 2 32 := by decide
    rw [if_neg hk, Nat.min_eq_right (Nat.le_trans hword hle)]

/-- The pauses double, as far as the factor fits a word and the product a duration. -/
theorem toNanos_pauseAfter (hk : k ≤ b.attempts) : (b.pauseAfter k).toNanos =
    min Duration.longest.toNanos (b.floor.toNanos * min (Nat.pow 2 k) 0xFFFFFFFF) := by
  have hdoublings : b.attempts - (b.attempts - k) = k := by omega
  rw [pauseAfter, toNanos_pause, hdoublings, growth_eq]

theorem floor_le_pauseAfter (k : Nat) : b.floor.toNanos ≤ (b.pauseAfter k).toNanos := by
  have hfloor := b.floor.toNanos_le_longest
  have hgrow := Nat.le_mul_of_pos_right b.floor.toNanos
    (growth_pos (b.attempts - (b.attempts - k)))
  rw [pauseAfter, toNanos_pause]
  omega

theorem pauseAfter_le_succ (k : Nat) :
    (b.pauseAfter k).toNanos ≤ (b.pauseAfter (k + 1)).toNanos := by
  rw [pauseAfter, pauseAfter, toNanos_pause, toNanos_pause]
  by_cases hk : k < b.attempts
  · have hgrow := growth_le_succ (b.attempts - (b.attempts - k))
    have hnext : b.attempts - (b.attempts - (k + 1)) = b.attempts - (b.attempts - k) + 1 := by
      omega
    have hmul := Nat.mul_le_mul_left b.floor.toNanos hgrow
    rw [hnext]
    omega
  · have hsame : b.attempts - (k + 1) = b.attempts - k := by omega
    rw [hsame]

theorem startOf_succ (k : Nat) :
    b.startOf (k + 1) = b.startOf k + (b.pauseAfter k).toTicks := rfl

end Pauses

end Backoff

/-- A timer waits for exactly this long: whole milliseconds, and no more than its longest
    wait. -/
def Duration.IsTimed (d : Duration) : Prop :=
  nanosPerMilli ∣ d.toNanos ∧ d.toNanos ≤ mostTicks * nanosPerMilli

theorem Duration.toTicks_of_isTimed {d : Duration} (h : d.IsTimed) :
    nanosPerMilli * d.toTicks = d.toNanos := by
  rcases h with ⟨⟨n, hn⟩, hle⟩
  rw [hn, nanosPerMilli] at hle
  have hdiv : (1000000 * n + (1000000 - 1)) / 1000000 = n := by omega
  rw [toTicks, hn, nanosPerMilli, hdiv, Nat.min_eq_right (by omega)]

/-- While the pauses are such that a timer waits for exactly as long, an attempt starts after
    their sum. -/
theorem Backoff.startOf_of_isTimed {b : Backoff} {k : Nat}
    (h : ∀ j < k, (b.pauseAfter j).IsTimed) : nanosPerMilli * b.startOf k = b.pausedBefore k := by
  induction k with
  | zero => rfl
  | succ k ih =>
      rw [startOf_succ, Nat.mul_add, ih (fun j hj => h j (by omega)),
        Duration.toTicks_of_isTimed (h k (Nat.lt_succ_self k)), pausedBefore]

/-! ### Rehearsals -/

namespace Backoff

section Rehearsals

variable {α : Type} {b : Backoff} {outcome : Nat → Verdict α}

-- The notes when an attempt begins: as many attempts and pauses as came before it.
theorem begins_rehearsal (b : Backoff) (outcome : Nat → Verdict α) (k : Nat) :
    b.begins Rehearsal.wait (Rehearsal.attempt outcome) Rehearsal.fresh k =
      ⟨k, b.startOf k, ((List.range k).map b.startOf).reverse,
        ((List.range k).map b.pauseAfter).reverse⟩ := by
  induction k with
  | zero => rfl
  | succ k ih =>
      simp only [begins, ih, Rehearsal.attempt, Rehearsal.wait, startOf_succ, List.range_succ,
        List.map_append, List.map_cons, List.map_nil, List.reverse_append, List.reverse_cons,
        List.reverse_nil, List.nil_append, List.cons_append]

theorem outcomes_rehearsal (b : Backoff) (outcome : Nat → Verdict α) :
    b.outcomes Rehearsal.wait (Rehearsal.attempt outcome) Rehearsal.fresh = outcome := by
  funext k
  rw [outcomes, begins_rehearsal]
  rfl

/-- What is noted of a loop over given outcomes. -/
theorem rehearse_of_course {calls : Nat} {result : Except Failure α}
    (h : Course b.attempts outcome calls result) :
    (b.rehearse outcome).1 = result ∧ (b.rehearse outcome).2.calls = calls ∧
      (b.rehearse outcome).2.pauses.reverse = (List.range (calls - 1)).map b.pauseAfter ∧
      (b.rehearse outcome).2.starts.reverse = (List.range calls).map b.startOf := by
  rw [← outcomes_rehearsal b outcome] at h
  have hrun : b.rehearse outcome = (result, b.leaves Rehearsal.wait (Rehearsal.attempt outcome)
      Rehearsal.fresh calls) := retry_of_course _ h
  rw [hrun]
  cases calls with
  | zero => exact ⟨rfl, rfl, rfl, rfl⟩
  | succ k =>
      rw [leaves, begins_rehearsal]
      refine ⟨rfl, rfl, List.reverse_reverse _, ?_⟩
      simp only [Rehearsal.attempt, List.reverse_cons, List.reverse_reverse, List.range_succ,
        List.map_append, List.map_cons, List.map_nil]

end Rehearsals

end Backoff

-- The second attempt starts after thirty years, which is less than the pause before it.
theorem long_pause_is_cut_short :
    let b : Backoff := ⟨2, Duration.ofMillis 1000000000000⟩
    let notes := (b.rehearse (fun _ => (Verdict.again (.status 500) : Verdict String))).2
    notes.starts.reverse = [0, 946080000000] ∧
      notes.pauses = [Duration.ofMillis 1000000000000] ∧
      nanosPerMilli * 946080000000 < b.pausedBefore 1 := by
  decide

/-! ### Tasks and threads -/

/-- A pause at a site. -/
def Site.waits (length : Duration) : StateM Site Unit := fun s => ((), s.elapse length)

namespace Backoff

section Drivers

variable {α : Type} {b : Backoff} {calls : Nat} {result : Except Failure α}

-- A plan that retries is a loop over what its attempts are when they are carried out.
theorem run_retryFrom (b : Backoff) (p : Plan (Verdict α)) (n : Nat) :
    (b.retryFrom Plan.pause p n).run = b.retryFrom Site.waits p.run n := by
  induction n with
  | zero => rfl
  | succ n ih =>
      funext s
      rw [retryFrom, Plan.run_bind, retryFrom, bind_apply]
      cases (p.run s).1 with
      | settled value => rfl
      | fatal failure => rfl
      | again cause =>
          by_cases hlast : n = 0
          · simp only [if_pos hlast]
            rfl
          · simp only [if_neg hlast, Plan.run_bind, ih]
            rfl

/-- A task that retries follows the course of its outcomes. -/
theorem drive_retry_of_course {p : Plan (Verdict α)} {s : Site}
    (h : Course b.attempts (b.outcomes Site.waits p.drive s) calls result) :
    (b.retry Plan.pause p).drive s = (result, b.leaves Site.waits p.drive s calls) := by
  have hdrive : p.drive = p.run := funext (Plan.drive_eq_run p)
  rw [hdrive] at h ⊢
  rw [Plan.drive_eq_run, retry, run_retryFrom]
  exact retry_of_course _ h

-- So it is for a thread, whose pauses are slept through.
theorem runIn_retryFrom (b : Backoff) (p : Plan (Verdict α)) (n : Nat) :
    (b.retryFrom Plan.pause p n).runIn = b.retryFrom Blocking.World.sleep p.runIn n := by
  induction n with
  | zero => rfl
  | succ n ih =>
      funext w
      rw [retryFrom, Plan.runIn_bind, retryFrom, bind_apply]
      cases (p.runIn w).1 with
      | settled value => rfl
      | fatal failure => rfl
      | again cause =>
          by_cases hlast : n = 0
          · simp only [if_pos hlast]
            rfl
          · simp only [if_neg hlast, Plan.runIn_bind, ih]
            rfl

-- The loop of a thread was written down by itself, and it is the same loop.
theorem run_blocking_retry (b : Backoff) (p : Plan (Verdict α)) (n : Nat) :
    Blocking.Direct.run (Blocking.retry b Plan.pause p n) =
      b.retryFrom Blocking.World.sleep p.runIn n := by
  rw [Blocking.retry_eq]
  exact runIn_retryFrom b p n

/-- A thread that retries follows the course of its outcomes. -/
theorem blocking_retry_of_course {m : StateM Blocking.World (Verdict α)} {w : Blocking.World}
    (h : Course b.attempts (b.outcomes Blocking.World.sleep m w) calls result) :
    (Blocking.retry b Blocking.World.sleep m b.attempts).run w =
      (result, b.leaves Blocking.World.sleep m w calls) := by
  rw [Blocking.retry_eq]
  exact retry_of_course _ h

-- Of a task whose attempts take no time, the clock tells when each attempt starts.
theorem now_begins {p : Plan (Verdict α)} {s : Site} (h : ∀ s, (p.drive s).2.now = s.now)
    (k : Nat) : (b.begins Site.waits p.drive s k).now = s.now + b.startOf k := by
  induction k with
  | zero => rfl
  | succ k ih =>
      have hwait : (b.begins Site.waits p.drive s (k + 1)).now =
          (p.drive (b.begins Site.waits p.drive s k)).2.now + (b.pauseAfter k).toTicks := rfl
      rw [hwait, h, ih, startOf_succ, Nat.add_assoc]

-- Of a thread whose attempts do not sleep, the pauses it slept through are those of the loop.
theorem slept_begins {m : StateM Blocking.World (Verdict α)} {w : Blocking.World}
    (h : ∀ w, (m w).2.slept = w.slept) (k : Nat) :
    (b.begins Blocking.World.sleep m w k).slept =
      ((List.range k).map b.pauseAfter).reverse ++ w.slept := by
  induction k with
  | zero => rfl
  | succ k ih =>
      have hwait : (b.begins Blocking.World.sleep m w (k + 1)).slept =
          b.pauseAfter k :: (m (b.begins Blocking.World.sleep m w k)).2.slept := rfl
      rw [hwait, h, ih, List.range_succ, List.map_append, List.reverse_append]
      rfl

-- Every row of outcomes occurs: a task can count its attempts by the records it attaches, and a
-- thread by the pauses it slept through.
theorem exists_task (b : Backoff) (outcome : Nat → Verdict α) :
    ∃ (p : Plan (Verdict α)) (s : Site), b.outcomes Site.waits p.drive s = outcome := by
  let p : Plan (Verdict α) := .ask .attach (fun n => .done (outcome n))
  let s : Site := Site.fresh (fun _ => .error .timeout)
  have hdrive : p.drive = p.run := funext (Plan.drive_eq_run p)
  have hattached : ∀ k, (b.begins Site.waits p.drive s k).attached = k := by
    intro k
    induction k with
    | zero => rfl
    | succ k ih =>
        rw [hdrive] at ih ⊢
        exact congrArg Nat.succ ih
  refine ⟨p, s, funext fun k => ?_⟩
  have hk := hattached k
  rw [hdrive] at hk
  rw [outcomes, hdrive]
  exact congrArg outcome hk

theorem exists_thread (b : Backoff) (outcome : Nat → Verdict α) :
    ∃ (m : StateM Blocking.World (Verdict α)) (w : Blocking.World),
      b.outcomes Blocking.World.sleep m w = outcome := by
  let m : StateM Blocking.World (Verdict α) := fun w => (outcome w.slept.length, w)
  let w : Blocking.World := .fresh (fun _ => .error .timeout)
  refine ⟨m, w, funext fun k => congrArg outcome ?_⟩
  have hslept := slept_begins (b := b) (m := m) (w := w) (fun _ => rfl) k
  rw [hslept, List.length_append, List.length_reverse, List.length_map, List.length_range]
  rfl

end Drivers

end Backoff

end Imds
