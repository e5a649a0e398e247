import Imds.Pool.Channel
import Imds.Proofs.Lease.Stage

/-!
# What a Response Comes To

A caller who hands a request to a pool and waits does nothing else to its job. The job
is then in the hands of workers and of whoever closes the pool, and the response is a
function of three bits of the state: the outcome, if the job finished; whether the pool
was torn down; and whether that was signalled.

The first two decide what happened. A job that is left alone is over without an outcome
exactly if its pool was torn down, also when it arrived after that. The third decides
only what the caller is told. Between the teardown and the signal the job is given up
already, and its response does not yet know why. There is then exactly one lease that
is about to give the signal, so the window closes with its next step; a caller that asks
inside of it is told that the job was cancelled.

## Main definitions

* `Event.Withdraws`: What a caller does to give a job up.
* `Job.outcome?`, `Pools.outcome?`: The outcome of a job that finished.
* `Watched`: A job that is left alone.
* `Pools.underWay`, `Pools.jobAfter`: A job that arrived, and its number.

## Theorems

* `Watched.after`: A job that is left alone stays so.
* `response_of_watched`: Its response, at every moment.
* `window_iff`: Torn down and not signalled: one lease is about to signal.
-/

namespace Imds

namespace Pool

/-- What the caller of a job does to give it up. -/
def Event.Withdraws (job : Nat) : Event → Prop
  | .note j | .askEnd j | .drop j => j = job
  | _ => False

/-- The outcome of a job that finished. -/
def Job.outcome? (j : Job) : Option (Except Fault String) :=
  match j.phase with
  | .finished outcome => some outcome
  | _ => none

/-- The outcome of a job that finished. -/
def Pools.outcome? (s : Pools) (job : Nat) : Option (Except Fault String) :=
  s.jobs[job]?.bind Job.outcome?

/-- A job on a pool whose caller has not given it up: it is over once the pool is torn
    down, and given up only then. -/
structure Job.LeftAlone (j : Job) (pool teardowns : Nat) : Prop where
  pool_eq : j.pool = pool
  noted : j.noted = false
  endAsked : j.endAsked = false
  ended : teardowns ≠ 0 → j.isOver = true
  lost : j.phase = .abandoned → teardowns ≠ 0

/-- A job that is there and is left alone. -/
def Watched (s : Pools) (job pool : Nat) : Prop :=
  ∃ j, s.jobs[job]? = some j ∧ j.LeftAlone pool (s.commons.teardowns pool)

namespace Job.LeftAlone

variable {j : Job} {pool teardowns : Nat}

theorem start (h : j.LeftAlone pool teardowns) : j.start.LeftAlone pool teardowns := by
  unfold Job.start
  split
  · next hqueued =>
    rw [if_neg (by rw [h.endAsked]; exact Bool.false_ne_true)]
    -- A job that waits is not over, so its pool runs.
    have hruns : ¬ teardowns ≠ 0 := by
      intro ht
      have hover := h.ended ht
      rw [Job.isOver, hqueued] at hover
      cases hover
    exact ⟨h.pool_eq, h.noted, h.endAsked, fun ht => absurd ht hruns, fun he => nomatch he⟩
  · exact h

theorem finish (h : j.LeftAlone pool teardowns) (outcome : Except Fault String) :
    (j.finish outcome).LeftAlone pool teardowns := by
  unfold Job.finish
  split
  · exact ⟨h.pool_eq, h.noted, h.endAsked, fun _ => rfl, fun he => nomatch he⟩
  · exact h

theorem reap (h : j.LeftAlone pool teardowns) : j.reap.LeftAlone pool teardowns := by
  rw [Job.reap, if_neg (by rw [h.endAsked]; exact Bool.false_ne_true)]
  exact h

-- A teardown gives the job up if it is not over.
theorem giveUp (h : j.LeftAlone pool teardowns) {teardowns' : Nat} (hpos : teardowns' ≠ 0) :
    j.giveUp.LeftAlone pool teardowns' := by
  unfold Job.giveUp
  by_cases hover : j.isOver = true
  · rw [if_pos hover]
    exact ⟨h.pool_eq, h.noted, h.endAsked, fun _ => hover, fun _ => hpos⟩
  · rw [if_neg hover]
    exact ⟨h.pool_eq, h.noted, h.endAsked, fun _ => rfl, fun _ => hpos⟩

theorem of_le (h : j.LeftAlone pool teardowns) {teardowns' : Nat} (hle : teardowns ≤ teardowns')
    (hzero : teardowns' = 0) : j.LeftAlone pool teardowns' := by
  have heq : teardowns' = teardowns := by omega
  rw [heq]
  exact h

end Job.LeftAlone

/-! ### Events on other jobs -/

theorem teardowns_le_step (c : Commons Workers) (m : Move Workers) (pool : Nat) :
    c.teardowns pool ≤ (c.step m).teardowns pool := by
  rcases Commons.teardowns_step (s := c) m pool with ⟨-, -, heq⟩ | heq
  · omega
  · omega

namespace Watched

variable {s : Pools} {job pool : Nat}

theorem changeJob (h : Watched s job pool) (other : Nat) {f : Job → Job}
    (hf : ∀ j, other = job → j.LeftAlone pool (s.commons.teardowns pool) →
      (f j).LeftAlone pool (s.commons.teardowns pool)) :
    Watched (s.changeJob other f) job pool := by
  rcases h with ⟨j, hj, halone⟩
  by_cases he : other = job
  · refine ⟨f j, ?_, hf j he halone⟩
    change (s.jobs.modify other f)[job]? = some (f j)
    rw [List.getElem?_modify, hj]
    simp [he]
  · refine ⟨j, ?_, halone⟩
    change (s.jobs.modify other f)[job]? = some j
    rw [List.getElem?_modify, hj]
    simp [he]

theorem share (h : Watched s job pool) (m : Move Workers) : Watched (s.share m) job pool := by
  rcases h with ⟨j, hj, halone⟩
  have hle := teardowns_le_step s.commons m pool
  -- Either no teardown happened yet and the job goes on, or it is given up if it was not over.
  refine ⟨if (s.commons.step m).teardowns j.pool = 0 then j else j.giveUp, ?_, ?_⟩
  · change (s.jobs.map _)[job]? = _
    rw [List.getElem?_map, hj]
    rfl
  · change Job.LeftAlone _ pool ((s.commons.step m).teardowns pool)
    rw [halone.pool_eq]
    by_cases hzero : (s.commons.step m).teardowns pool = 0
    · rw [if_pos hzero]
      exact halone.of_le hle hzero
    · rw [if_neg hzero]
      exact halone.giveUp hzero

theorem arrive (h : Watched s job pool) (pool' : Nat) (request : Request) :
    Watched (s.arrive pool' request) job pool := by
  rcases h with ⟨j, hj, halone⟩
  refine ⟨j, ?_, halone⟩
  change (s.jobs ++ [_])[job]? = some j
  rw [List.getElem?_append_left (List.getElem?_eq_some_iff.1 hj).1, hj]

-- A job that is left alone stays so under every event that does not give it up.
theorem handle (h : Watched s job pool) {e : Event} (he : ¬ e.Withdraws job) :
    Watched (s.handle e) job pool := by
  cases e with
  | share m => exact h.share m
  | arrive pool' request => exact h.arrive pool' request
  | start other => exact h.changeJob other (fun _ _ hj => hj.start)
  | finish other outcome => exact h.changeJob other (fun _ _ hj => hj.finish outcome)
  | note other => exact h.changeJob other (fun _ heq => absurd heq he)
  | askEnd other => exact h.changeJob other (fun _ heq => absurd heq he)
  | reap other => exact h.changeJob other (fun _ _ hj => hj.reap)
  | drop other => exact h.changeJob other (fun _ heq => absurd heq he)

theorem after (h : Watched s job pool) {events : List Event}
    (hevents : ∀ e ∈ events, ¬ e.Withdraws job) : Watched (s.after events) job pool := by
  induction events generalizing s with
  | nil => exact h
  | cons e events ih =>
      exact ih (h.handle (hevents e List.mem_cons_self))
        (fun e' he' => hevents e' (List.mem_cons_of_mem _ he'))

-- A job that arrives at a pool that was made is left alone, also if it comes too late.
theorem of_arrive (s : Pools) {pool : Nat} (request : Request)
    (hmade : pool < s.commons.resources.length) :
    Watched (s.arrive pool request) s.jobs.length pool := by
  -- A job that comes too late is given up on the spot, and its pool is torn down already.
  by_cases hruns : s.isRunning pool = true
  · refine ⟨.queue pool request, ?_, rfl, rfl, rfl, ?_, fun he => nomatch he⟩
    · change (s.jobs ++ [_])[s.jobs.length]? = _
      rw [List.getElem?_concat_length, if_pos hruns]
    · exact fun ht => absurd (Pools.isRunning_iff.1 hruns).2 ht
  · refine ⟨.stillborn pool request, ?_, rfl, rfl, rfl, fun _ => rfl, fun _ hzero => ?_⟩
    · change (s.jobs ++ [_])[s.jobs.length]? = _
      rw [List.getElem?_concat_length, if_neg hruns]
    · exact hruns (Pools.isRunning_iff.2 ⟨hmade, hzero⟩)

end Watched

/-- The response of a job that is left alone: its outcome if it finished, nothing while its
    pool runs, and after that what the signal of the teardown has it be. -/
theorem response_of_watched {s : Pools} {job pool : Nat} (h : Watched s job pool) :
    s.response job = match s.outcome? job with
      | some outcome => some outcome
      | none =>
        if s.commons.teardowns pool = 0 then none
        else some (.error (if s.commons.isComplete pool then .closed else .cancelled)) := by
  rcases h with ⟨j, hj, halone⟩
  unfold Pools.response Pools.outcome?
  simp only [hj, Option.bind_some, halone.pool_eq]
  unfold Job.response Job.outcome?
  -- Left alone, a job that waits or runs has a pool that runs, and one given up has none.
  cases hphase : j.phase with
  | finished outcome => rfl
  | abandoned =>
      rw [if_neg (halone.lost hphase)]
      simp [halone.noted]
  | queued =>
      by_cases ht : s.commons.teardowns pool = 0
      · exact (if_pos ht).symm
      · have hover := halone.ended ht
        rw [Job.isOver, hphase] at hover
        cases hover
  | running =>
      by_cases ht : s.commons.teardowns pool = 0
      · exact (if_pos ht).symm
      · have hover := halone.ended ht
        rw [Job.isOver, hphase] at hover
        cases hover

/-! ### The commons of pools -/

namespace Pools

-- Only what is shared changes a commons, and it does so by one step.
theorem handle_commons (s : Pools) (e : Event) :
    (s.handle e).commons = s.commons ∨
      ∃ m, e = .share m ∧ (s.handle e).commons = s.commons.step m := by
  cases e with
  | share m => exact Or.inr ⟨m, rfl, rfl⟩
  | arrive pool request => exact Or.inl rfl
  | start job => exact Or.inl rfl
  | finish job outcome => exact Or.inl rfl
  | note job => exact Or.inl rfl
  | askEnd job => exact Or.inl rfl
  | reap job => exact Or.inl rfl
  | drop job => exact Or.inl rfl

theorem balanced_after {s : Pools} (h : Balanced s.commons) (events : List Event) :
    Balanced (s.after events).commons := by
  induction events generalizing s with
  | nil => exact h
  | cons e events ih =>
      refine ih ?_
      rcases handle_commons s e with heq | ⟨m, -, heq⟩
      · rw [heq]
        exact h
      · rw [heq]
        exact h.step m

/-- A pool is torn down and the signal is not given exactly while one lease is about to
    give it. -/
theorem window_iff {s : Pools} (h : Balanced s.commons) {pool : Nat}
    (hmade : pool < s.commons.resources.length) :
    s.commons.teardowns pool ≠ 0 ∧ s.commons.isComplete pool = false ↔
      s.commons.tally (Lease.isAt .signalling) pool = 1 := by
  have heq := h.signalled_eq hmade
  have hle := h.teardowns_le_one pool
  -- Signals given and signals to be given add up to the teardowns, of which there is one at most.
  cases hdone : s.commons.isComplete pool with
  | true =>
      rw [hdone, if_pos rfl] at heq
      constructor
      · exact fun hw => nomatch hw.2
      · intro hone
        omega
  | false =>
      rw [hdone, if_neg Bool.false_ne_true] at heq
      constructor
      · intro h
        rcases h with ⟨ht, -⟩
        omega
      · intro hone
        exact ⟨by omega, rfl⟩

/-! ### A job under way -/

/-- The state after a job arrived. Others were at work between the look at the lease and
    the arrival, and after it. -/
def underWay (s : Pools) (pool : Nat) (r : Request) (between later : List Event) : Pools :=
  ((s.after between).arrive pool r).after later

/-- The number that the job got. -/
def jobAfter (s : Pools) (between : List Event) : Nat := (s.after between).jobs.length

theorem balanced_underWay {s : Pools} (h : Balanced s.commons) (pool : Nat) (r : Request)
    (between later : List Event) : Balanced (s.underWay pool r between later).commons := by
  have hbetween := balanced_after h between
  exact balanced_after (s := (s.after between).arrive pool r) hbetween later

theorem watched_underWay {s : Pools} {pool : Nat} (r : Request) {between later : List Event}
    (hmade : pool < (s.after between).commons.resources.length)
    (hleft : ∀ e ∈ later, ¬ e.Withdraws (s.jobAfter between)) :
    Watched (s.underWay pool r between later) (s.jobAfter between) pool :=
  (Watched.of_arrive (s.after between) r hmade).after hleft

end Pools

end Pool

end Imds
