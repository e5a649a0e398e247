import Imds.Proofs.Pool.Loss

/-!
# Giving Requests Up

A caller gives a request up in two steps, a note and a demand that its job end, and letting go of
the response makes the same demand. Meanwhile a worker may take the job and bring it to its end,
and another worker may get to the demand. While the pool is up, what becomes of the job depends
on the order of these events and on nothing else.

The order is told here by the history alone, without jobs and their phases. A job begins when a
worker takes it and nobody asked for its end before. It can end in two ways: its exchange comes to
an end after it began, or a worker gets to it after its end was asked for. The first event in the
history that ends it decides. What happened to other jobs is not looked at, so nothing that is done
to one request concerns another.

`Chronicled` says that a job is what its history tells. One event more changes both in the same
way, and most events change neither.

## Main definitions

* `Occurs`: An event somewhere in a history, given what happened before it.
* `Event.job?`, `Event.withdrawsOther`: What an event is about, and whether it gives another job up.
* `Asked`, `Begun`, `Ends`, `Over`, `EndedBy`: What a history tells of a job.
* `Pools.isSent`: Whether the request of a job was sent.
* `Tells`, `Chronicled`, `Followed`: A job is what its history tells.
* `withoutOthers`: A history in which nobody gives another request up.
* `Alike`: Pools that are the same for one job.

## Theorems

* `occurs_concat`: One event more.
* `EndedBy.unique`: One event decides.
* `Followed.after`: A job is followed through a history.
* `Followed.response_eq_some_iff`: Its response.
* `Alike.after_withoutOthers`: What others give up does not concern a job.
* `first_ending_decides`: What comes of requests that are given up.
-/

namespace Imds

namespace Pool

/-! ### What a history tells -/

/-- Somewhere in a history is an event of which something holds, given what happened before
    it. -/
def Occurs (P : List Event → Event → Prop) (events : List Event) : Prop :=
  ∃ before e after, events = before ++ e :: after ∧ P before e

/-- The job that an event is about, if it is about one that arrived. -/
def Event.job? : Event → Option Nat
  | .share _ | .arrive _ _ => none
  | .start job | .finish job _ | .note job | .askEnd job | .reap job | .drop job => some job

/-- The end of a job was asked for. -/
def Asked (job : Nat) : List Event → Prop :=
  Occurs (fun _ e => e = .askEnd job ∨ e = .drop job)

/-- A worker took a job whose end was not asked for before. -/
def Begun (job : Nat) : List Event → Prop :=
  Occurs (fun before e => e = .start job ∧ ¬ Asked job before)

/-- An event that ends a job, given what happened before it. -/
inductive Ends (job : Nat) (before : List Event) : Event → Prop where
  /-- Its exchange comes to an end. -/
  | finished (outcome : Except Fault String) (h : Begun job before) :
    Ends job before (.finish job outcome)
  /-- A worker gets to it, and its end was asked for. -/
  | aborted (h : Asked job before) : Ends job before (.reap job)

/-- A job ended. -/
def Over (job : Nat) : List Event → Prop := Occurs (Ends job)

/-- The first event that ended a job. -/
def EndedBy (job : Nat) (last : Event) : List Event → Prop :=
  Occurs (fun before e => e = last ∧ Ends job before e ∧ ¬ Over job before)

/-- Whether the request of a job was sent. -/
def Pools.isSent (s : Pools) (job : Nat) : Bool := s.jobs[job]?.any Job.taken

section Histories

variable {P : List Event → Event → Prop} {events : List Event} {e : Event} {job : Nat}

theorem not_occurs_nil : ¬ Occurs P [] := by
  rintro ⟨before, e, after, heq, -⟩
  cases before <;> cases heq

/-- One event more. -/
theorem occurs_concat : Occurs P (events ++ [e]) ↔ Occurs P events ∨ P events e := by
  constructor
  · rintro ⟨before, e', after, heq, hP⟩
    rcases split_concat heq with ⟨rfl, rfl, -⟩ | ⟨rest, -, hrest⟩
    · exact Or.inr hP
    · exact Or.inl ⟨before, e', rest, hrest, hP⟩
  · rintro (⟨before, e', after, rfl, hP⟩ | hP)
    · exact ⟨before, e', after ++ [e], by simp, hP⟩
    · exact ⟨events, e, [], rfl, hP⟩

theorem Occurs.append (h : Occurs P events) (more : List Event) : Occurs P (events ++ more) := by
  rcases h with ⟨before, e, after, rfl, hP⟩
  exact ⟨before, e, after ++ more, by simp, hP⟩

theorem not_ends_of_ne (hfinish : ∀ outcome, e ≠ .finish job outcome) (hreap : e ≠ .reap job) :
    ¬ Ends job events e := by
  intro h
  cases h with
  | finished outcome => exact hfinish outcome rfl
  | aborted => exact hreap rfl

theorem EndedBy.over {last : Event} (h : EndedBy job last events) : Over job events := by
  rcases h with ⟨before, e, after, heq, -, hends, -⟩
  exact ⟨before, e, after, heq, hends⟩

theorem EndedBy.mem {last : Event} (h : EndedBy job last events) : last ∈ events := by
  rcases h with ⟨before, e, after, rfl, rfl, -⟩
  exact List.mem_append_right before List.mem_cons_self

-- A job whose end was asked for does not begin any more.
theorem not_begun_of_asked (hasked : Asked job events) (hnot : ¬ Begun job events)
    (more : List Event) : ¬ Begun job (events ++ more) := by
  induction more generalizing events with
  | nil => rwa [List.append_nil]
  | cons e more ih =>
      have hstill : ¬ Begun job (events ++ [e]) := fun h =>
        (occurs_concat.1 h).elim hnot (fun hb => hb.2 hasked)
      have hrest := ih (hasked.append [e]) hstill
      rwa [List.append_assoc, List.singleton_append] at hrest

/-- One event decides. -/
theorem EndedBy.unique {last last' : Event} (h : EndedBy job last events)
    (h' : EndedBy job last' events) : last' = last := by
  rcases h with ⟨before, e, after, rfl, rfl, hends, hnot⟩
  rcases h' with ⟨before', e', after', heq, rfl, hends', hnot'⟩
  -- Of two events at different places the earlier one is before the later one.
  rcases List.append_eq_append_iff.1 heq with ⟨mid, rfl, hrest⟩ | ⟨mid, rfl, hrest⟩
  · cases mid with
    | nil =>
        cases hrest
        rfl
    | cons x mid =>
        cases hrest
        exact absurd ⟨before, e, mid, rfl, hends⟩ hnot'
  · cases mid with
    | nil =>
        cases hrest
        rfl
    | cons x mid =>
        cases hrest
        exact absurd ⟨before', e', mid, rfl, hends'⟩ hnot

end Histories

/-! ### Jobs and their histories -/

/-- What a history tells of the phase of a job. -/
inductive Tells (job : Nat) (events : List Event) : Phase → Prop where
  /-- No worker took it. -/
  | queued (hbegun : ¬ Begun job events) (hover : ¬ Over job events) : Tells job events .queued
  /-- It began and did not end. -/
  | running (hbegun : Begun job events) (hover : ¬ Over job events) : Tells job events .running
  /-- Its exchange came to an end first. -/
  | finished (outcome : Except Fault String) (hbegun : Begun job events)
    (hended : EndedBy job (.finish job outcome) events) : Tells job events (.finished outcome)
  /-- A worker got to it first. -/
  | abandoned (hasked : Asked job events) (hended : EndedBy job (.reap job) events) :
    Tells job events .abandoned

/-- A job on a pool is what its history tells. -/
structure Chronicled (j : Job) (job pool : Nat) (events : List Event) : Prop where
  pool_eq : j.pool = pool
  asked : j.endAsked = true ↔ Asked job events
  taken : j.taken = true ↔ Begun job events
  phase : Tells job events j.phase

theorem Tells.over_iff {job : Nat} {events : List Event} {j : Job} (h : Tells job events j.phase) :
    j.isOver = true ↔ Over job events := by
  rw [Job.isOver]
  generalize j.phase = phase at h ⊢
  cases h with
  | queued _ hover => simp [hover]
  | running _ hover => simp [hover]
  | finished _ _ hended => simp [hended.over]
  | abandoned _ hended => simp [hended.over]

namespace Chronicled

variable {j : Job} {job pool : Nat} {events : List Event} {e : Event}

-- An event that begins nothing and ends nothing leaves the phase as it is told.
theorem tells_concat {phase : Phase} (h : Tells job events phase)
    (hbegun : Begun job (events ++ [e]) → Begun job events)
    (hends : ¬ Over job events → ¬ Ends job events e) : Tells job (events ++ [e]) phase := by
  have hover : ¬ Over job events → ¬ Over job (events ++ [e]) := by
    intro hover hmore
    exact (occurs_concat.1 hmore).elim hover (hends hover)
  cases h with
  | queued hnot hrest => exact .queued (fun h => hnot (hbegun h)) (hover hrest)
  | running hyes hrest => exact .running (hyes.append [e]) (hover hrest)
  | finished outcome hyes hended => exact .finished outcome (hyes.append [e]) (hended.append [e])
  | abandoned hasked hended => exact .abandoned (hasked.append [e]) (hended.append [e])

-- An event that does nothing to a job.
theorem concat (h : Chronicled j job pool events)
    (hasked : Asked job (events ++ [e]) → Asked job events)
    (hbegun : Begun job (events ++ [e]) → Begun job events)
    (hends : ¬ Over job events → ¬ Ends job events e) : Chronicled j job pool (events ++ [e]) where
  pool_eq := h.pool_eq
  asked := h.asked.trans ⟨fun ha => ha.append [e], hasked⟩
  taken := h.taken.trans ⟨fun hb => hb.append [e], hbegun⟩
  phase := tells_concat h.phase hbegun hends

theorem asked_of_ne (hask : e ≠ .askEnd job) (hdrop : e ≠ .drop job)
    (h : Asked job (events ++ [e])) : Asked job events :=
  (occurs_concat.1 h).elim id (fun he => he.elim (fun he => absurd he hask)
    (fun he => absurd he hdrop))

theorem begun_of_ne (hstart : e ≠ .start job) (h : Begun job (events ++ [e])) :
    Begun job events :=
  (occurs_concat.1 h).elim id (fun he => absurd he.1 hstart)

-- An event on another job, or on none.
theorem skip (h : Chronicled j job pool events) (he : e.job? ≠ some job) :
    Chronicled j job pool (events ++ [e]) := by
  have hne : ∀ own : Event, own.job? = some job → e ≠ own := by
    rintro own hown rfl
    exact he hown
  exact h.concat (asked_of_ne (hne _ rfl) (hne _ rfl)) (begun_of_ne (hne _ rfl))
    (fun _ => not_ends_of_ne (fun outcome => hne _ rfl) (hne _ rfl))

theorem start (h : Chronicled j job pool events) :
    Chronicled j.start job pool (events ++ [.start job]) := by
  have hasked : Asked job (events ++ [.start job]) → Asked job events :=
    asked_of_ne (fun h => by cases h) (fun h => by cases h)
  have hends : ¬ Ends job events (.start job) :=
    not_ends_of_ne (fun _ h => by cases h) (fun h => by cases h)
  -- A job whose end was asked for is not begun by being taken.
  have hlate : Asked job events → Begun job (events ++ [.start job]) → Begun job events :=
    fun ha hmore => (occurs_concat.1 hmore).elim id (fun hb => absurd ha hb.2)
  have htold := h.phase
  generalize hphase : j.phase = phase at htold
  cases htold with
  | queued hnot hover =>
      simp only [Job.start, hphase]
      by_cases hask : j.endAsked = true
      · rw [if_pos hask]
        exact h.concat hasked (hlate (h.asked.1 hask)) (fun _ => hends)
      · rw [if_neg hask]
        have hbegun : Begun job (events ++ [.start job]) :=
          occurs_concat.2 (Or.inr ⟨rfl, fun ha => hask (h.asked.2 ha)⟩)
        refine ⟨h.pool_eq, h.asked.trans ⟨fun ha => ha.append _, hasked⟩,
          iff_of_true rfl hbegun, .running hbegun ?_⟩
        exact fun hmore => (occurs_concat.1 hmore).elim hover hends
  | running hyes =>
      simp only [Job.start, hphase]
      exact h.concat hasked (fun _ => hyes) (fun _ => hends)
  | finished outcome hyes =>
      simp only [Job.start, hphase]
      exact h.concat hasked (fun _ => hyes) (fun _ => hends)
  | abandoned ha =>
      simp only [Job.start, hphase]
      exact h.concat hasked (hlate ha) (fun _ => hends)

theorem finish (h : Chronicled j job pool events) (outcome : Except Fault String) :
    Chronicled (j.finish outcome) job pool (events ++ [.finish job outcome]) := by
  have hasked : Asked job (events ++ [.finish job outcome]) → Asked job events :=
    asked_of_ne (fun h => by cases h) (fun h => by cases h)
  have hbegun : Begun job (events ++ [.finish job outcome]) → Begun job events :=
    begun_of_ne (fun h => by cases h)
  have htold := h.phase
  generalize hphase : j.phase = phase at htold
  cases htold with
  | queued hnot =>
      simp only [Job.finish, hphase]
      refine h.concat hasked hbegun (fun _ hends => ?_)
      cases hends with
      | finished _ hyes => exact hnot hyes
  | running hyes hover =>
      simp only [Job.finish, hphase]
      exact ⟨h.pool_eq, h.asked.trans ⟨fun ha => ha.append _, hasked⟩,
        h.taken.trans ⟨fun hb => hb.append _, hbegun⟩,
        .finished outcome (hyes.append _)
          (occurs_concat.2 (Or.inr ⟨rfl, .finished outcome hyes, hover⟩))⟩
  | finished own _ hended =>
      simp only [Job.finish, hphase]
      exact h.concat hasked hbegun (fun hnot => absurd hended.over hnot)
  | abandoned _ hended =>
      simp only [Job.finish, hphase]
      exact h.concat hasked hbegun (fun hnot => absurd hended.over hnot)

theorem reap (h : Chronicled j job pool events) :
    Chronicled j.reap job pool (events ++ [.reap job]) := by
  have hasked : Asked job (events ++ [.reap job]) → Asked job events :=
    asked_of_ne (fun h => by cases h) (fun h => by cases h)
  have hbegun : Begun job (events ++ [.reap job]) → Begun job events :=
    begun_of_ne (fun h => by cases h)
  rw [Job.reap]
  by_cases hask : j.endAsked = true
  · rw [if_pos hask, Job.giveUp]
    by_cases hover : j.isOver = true
    · rw [if_pos hover]
      exact h.concat hasked hbegun (fun hnot => absurd (h.phase.over_iff.1 hover) hnot)
    · rw [if_neg hover]
      have ha := h.asked.1 hask
      exact ⟨h.pool_eq, h.asked.trans ⟨fun ha => ha.append _, hasked⟩,
        h.taken.trans ⟨fun hb => hb.append _, hbegun⟩,
        .abandoned (ha.append _) (occurs_concat.2
          (Or.inr ⟨rfl, .aborted ha, fun hyes => hover (h.phase.over_iff.2 hyes)⟩))⟩
  · rw [if_neg hask]
    refine h.concat hasked hbegun (fun _ hends => ?_)
    cases hends with
    | aborted ha => exact hask (h.asked.2 ha)

theorem note (h : Chronicled j job pool events) :
    Chronicled j.note job pool (events ++ [.note job]) := by
  have hmore : Chronicled j job pool (events ++ [.note job]) :=
    h.concat (asked_of_ne (fun h => by cases h) (fun h => by cases h))
      (begun_of_ne (fun h => by cases h))
      (fun _ => not_ends_of_ne (fun _ h => by cases h) (fun h => by cases h))
  exact ⟨hmore.pool_eq, hmore.asked, hmore.taken, hmore.phase⟩

-- The end of a job is asked for, whether or not its response is let go of.
theorem ask (h : Chronicled j job pool events) (he : e = .askEnd job ∨ e = .drop job)
    (dropped : Bool) :
    Chronicled { j with endAsked := true, dropped := dropped } job pool (events ++ [e]) := by
  have hbegun : Begun job (events ++ [e]) → Begun job events := by
    rcases he with rfl | rfl
    · exact begun_of_ne (fun h => by cases h)
    · exact begun_of_ne (fun h => by cases h)
  have hends : ¬ Ends job events e := by
    rcases he with rfl | rfl
    · exact not_ends_of_ne (fun _ h => by cases h) (fun h => by cases h)
    · exact not_ends_of_ne (fun _ h => by cases h) (fun h => by cases h)
  exact ⟨h.pool_eq, iff_of_true rfl (occurs_concat.2 (Or.inr he)),
    h.taken.trans ⟨fun hb => hb.append _, hbegun⟩, tells_concat h.phase hbegun (fun _ => hends)⟩

-- A job that waits for a worker, before anything happened to it.
theorem queue (job pool : Nat) (r : Request) : Chronicled (.queue pool r) job pool [] where
  pool_eq := rfl
  asked := iff_of_false Bool.false_ne_true not_occurs_nil
  taken := iff_of_false Bool.false_ne_true not_occurs_nil
  phase := .queued not_occurs_nil not_occurs_nil

end Chronicled

/-! ### Following a job -/

/-- A job is there, and it is what its history tells. -/
def Followed (s : Pools) (job pool : Nat) (events : List Event) : Prop :=
  ∃ j, s.jobs[job]? = some j ∧ Chronicled j job pool events

theorem teardowns_le_after (s : Pools) (events : List Event) (pool : Nat) :
    s.commons.teardowns pool ≤ (s.after events).commons.teardowns pool := by
  induction events generalizing s with
  | nil => exact Nat.le_refl _
  | cons e events ih =>
      refine Nat.le_trans ?_ (ih (s.handle e))
      rcases Pools.handle_commons s e with heq | ⟨m, -, heq⟩
      · exact Nat.le_of_eq (by rw [heq])
      · rw [heq]
        exact teardowns_le_step s.commons m pool

namespace Followed

variable {s : Pools} {job pool : Nat} {events : List Event}

theorem changeJob (h : Followed s job pool events) {other : Nat} {f : Job → Job} {e : Event}
    (he : e.job? = some other)
    (hf : ∀ j, other = job → Chronicled j job pool events →
      Chronicled (f j) job pool (events ++ [e])) :
    Followed (s.changeJob other f) job pool (events ++ [e]) := by
  rcases h with ⟨j, hj, htold⟩
  by_cases heq : other = job
  · refine ⟨f j, ?_, hf j heq htold⟩
    change (s.jobs.modify other f)[job]? = some (f j)
    rw [List.getElem?_modify, hj]
    simp [heq]
  · refine ⟨j, ?_, htold.skip (fun hjob => heq (Option.some.inj (he.symm.trans hjob)))⟩
    change (s.jobs.modify other f)[job]? = some j
    rw [List.getElem?_modify, hj]
    simp [heq]

-- As long as the pool is up, a teardown gives no job of it up.
theorem handle (h : Followed s job pool events) {e : Event}
    (hup : (s.handle e).commons.teardowns pool = 0) :
    Followed (s.handle e) job pool (events ++ [e]) := by
  cases e with
  | share m =>
      rcases h with ⟨j, hj, htold⟩
      refine ⟨j, ?_, htold.skip (fun h => by cases h)⟩
      change (s.jobs.map _)[job]? = some j
      rw [List.getElem?_map, hj, Option.map_some, htold.pool_eq]
      exact congrArg some (if_pos hup)
  | arrive pool' request =>
      rcases h with ⟨j, hj, htold⟩
      refine ⟨j, ?_, htold.skip (fun h => by cases h)⟩
      change (s.jobs ++ [_])[job]? = some j
      rw [List.getElem?_append_left (List.getElem?_eq_some_iff.1 hj).1, hj]
  | start other => exact h.changeJob rfl (fun _ heq hj => heq ▸ hj.start)
  | finish other outcome => exact h.changeJob rfl (fun _ heq hj => heq ▸ hj.finish outcome)
  | note other => exact h.changeJob rfl (fun _ heq hj => heq ▸ hj.note)
  | askEnd other =>
      exact h.changeJob rfl (fun j heq hj => heq ▸ hj.ask (Or.inl rfl) j.dropped)
  | reap other => exact h.changeJob rfl (fun _ heq hj => heq ▸ hj.reap)
  | drop other => exact h.changeJob rfl (fun _ heq hj => heq ▸ hj.ask (Or.inr rfl) true)

/-- A job is followed through a history. -/
theorem after (h : Followed s job pool events) {more : List Event}
    (hup : (s.after more).commons.teardowns pool = 0) :
    Followed (s.after more) job pool (events ++ more) := by
  induction more generalizing s events with
  | nil => rwa [List.append_nil]
  | cons e more ih =>
      have hle := teardowns_le_after (s.handle e) more pool
      have hnow : (s.handle e).commons.teardowns pool = 0 :=
        Nat.le_zero.1 (Nat.le_trans hle (Nat.le_of_eq hup))
      have hrest := ih (h.handle hnow) hup
      rwa [List.append_assoc, List.singleton_append] at hrest

theorem isSent_iff (h : Followed s job pool events) : s.isSent job = true ↔ Begun job events := by
  rcases h with ⟨j, hj, htold⟩
  rw [Pools.isSent, hj, Option.any_some]
  exact htold.taken

theorem isOver_iff (h : Followed s job pool events) : s.isOver job = true ↔ Over job events := by
  rcases h with ⟨j, hj, htold⟩
  rw [Pools.isOver, hj, Option.map_some, Option.getD_some]
  exact htold.phase.over_iff

-- There is a response as soon as the job is over.
theorem exists_response_iff (h : Followed s job pool events) :
    (∃ outcome, s.response job = some outcome) ↔ Over job events := by
  rcases h with ⟨j, hj, htold⟩
  rw [← htold.phase.over_iff, Pools.response, hj, Option.bind_some, Job.response, Job.isOver]
  cases j.phase <;> simp

/-- The response of a job whose pool is up. -/
theorem response_eq_some_iff (h : Followed s job pool events)
    (hup : s.commons.isComplete pool = false) {outcome : Except Fault String} :
    s.response job = some outcome ↔ EndedBy job (.finish job outcome) events ∨
      EndedBy job (.reap job) events ∧ outcome = .error .cancelled := by
  rcases h with ⟨j, hj, htold⟩
  rw [Pools.response, hj, Option.bind_some, htold.pool_eq, hup, Job.response]
  have hphase := htold.phase
  generalize j.phase = phase at hphase ⊢
  cases hphase with
  | queued _ hover =>
      simp only [reduceCtorEq, false_iff]
      rintro (hended | ⟨hended, -⟩)
      · exact hover hended.over
      · exact hover hended.over
  | running _ hover =>
      simp only [reduceCtorEq, false_iff]
      rintro (hended | ⟨hended, -⟩)
      · exact hover hended.over
      · exact hover hended.over
  | finished own _ hended =>
      constructor
      · intro heq
        cases heq
        exact Or.inl hended
      · rintro (hother | ⟨hother, -⟩)
        · cases hended.unique hother
          rfl
        · cases hended.unique hother
  | abandoned _ hended =>
      simp only [Bool.and_false, Bool.false_eq_true, if_false, Option.some.injEq]
      constructor
      · intro heq
        exact Or.inr ⟨hended, heq.symm⟩
      · rintro (hother | ⟨-, rfl⟩)
        · cases hended.unique hother
        · rfl

end Followed

/-! ### Other jobs -/

/-- Whether somebody gives another job up. -/
def Event.withdrawsOther (job : Nat) : Event → Bool
  | .note j | .askEnd j | .drop j => j != job
  | _ => false

/-- A history in which nobody gives another request up. -/
def withoutOthers (job : Nat) (events : List Event) : List Event :=
  events.filter (fun e => !e.withdrawsOther job)

/-- Pools that are the same for one job: it is what it is in the other, and so are the commons and
    the number of jobs. -/
structure Alike (s s' : Pools) (job : Nat) : Prop where
  commons : s.commons = s'.commons
  length : s.jobs.length = s'.jobs.length
  job : s.jobs[job]? = s'.jobs[job]?

namespace Alike

variable {s s' : Pools} {job : Nat}

theorem refl (s : Pools) (job : Nat) : Alike s s job := ⟨rfl, rfl, rfl⟩

theorem changeJob (h : Alike s s' job) (other : Nat) (f : Job → Job) :
    Alike (s.changeJob other f) (s'.changeJob other f) job := by
  refine ⟨h.commons, ?_, ?_⟩
  · simp only [Pools.changeJob, List.length_modify, h.length]
  · simp only [Pools.changeJob, List.getElem?_modify, h.job]

-- The same event happens to both.
theorem handle (h : Alike s s' job) (e : Event) : Alike (s.handle e) (s'.handle e) job := by
  cases e with
  | share m =>
      refine ⟨congrArg (·.step m) h.commons, ?_, ?_⟩
      · simp only [Pools.handle, Pools.share, List.length_map, h.length]
      · simp only [Pools.handle, Pools.share, List.getElem?_map, h.job, h.commons]
  | arrive pool r =>
      have hruns : s.isRunning pool = s'.isRunning pool := by
        rw [Pools.isRunning, Pools.isRunning, h.commons]
      refine ⟨h.commons, ?_, ?_⟩
      · simp only [Pools.handle, Pools.arrive, List.length_append, h.length, List.length_cons]
      · simp only [Pools.handle, Pools.arrive, List.getElem?_append, h.length, h.job, hruns]
  | start other => exact h.changeJob other _
  | finish other outcome => exact h.changeJob other _
  | note other => exact h.changeJob other _
  | askEnd other => exact h.changeJob other _
  | reap other => exact h.changeJob other _
  | drop other => exact h.changeJob other _

theorem changeOther (h : Alike s s' job) {other : Nat} (hne : other ≠ job) (f : Job → Job) :
    Alike (s.changeJob other f) s' job := by
  refine ⟨h.commons, ?_, ?_⟩
  · simp only [Pools.changeJob, List.length_modify, h.length]
  · simp only [Pools.changeJob, List.getElem?_modify, if_neg hne, h.job, Option.map_eq_map,
      Option.map_id_fun', id_eq]

-- Somebody gives another job up in one of them.
theorem skip (h : Alike s s' job) {e : Event} (he : e.withdrawsOther job = true) :
    Alike (s.handle e) s' job := by
  cases e with
  | note other => exact h.changeOther (bne_iff_ne.1 he) _
  | askEnd other => exact h.changeOther (bne_iff_ne.1 he) _
  | drop other => exact h.changeOther (bne_iff_ne.1 he) _
  | _ => cases he

/-- What others give up does not concern a job. -/
theorem after_withoutOthers (h : Alike s s' job) (events : List Event) :
    Alike (s.after events) (s'.after (withoutOthers job events)) job := by
  induction events generalizing s s' with
  | nil => exact h
  | cons e events ih =>
      rw [withoutOthers, List.filter_cons]
      by_cases he : e.withdrawsOther job = true
      · rw [if_neg (by simp [he])]
        exact ih (h.skip he)
      · rw [if_pos (by simpa using he)]
        exact ih (h.handle e)

theorem response_eq (h : Alike s s' job) : s.response job = s'.response job := by
  rw [Pools.response, Pools.response, h.job, h.commons]

theorem isSent_eq (h : Alike s s' job) : s.isSent job = s'.isSent job := by
  rw [Pools.isSent, Pools.isSent, h.job]

end Alike

/-! ### Requests that are given up -/

-- A pool that is up in the end was up when the job arrived, and always since.
theorem followed_underWay {s : Pools} {pool : Nat} (r : Request) {between later : List Event}
    (hmade : pool < s.commons.resources.length)
    (hup : (s.underWay pool r between later).commons.teardowns pool = 0) :
    Followed (s.underWay pool r between later) (s.jobAfter between) pool later := by
  have hle := teardowns_le_after ((s.after between).arrive pool r) later pool
  have hzero : (s.after between).commons.teardowns pool = 0 :=
    Nat.le_zero.1 (Nat.le_trans hle (Nat.le_of_eq hup))
  have hruns : (s.after between).isRunning pool = true :=
    Pools.isRunning_iff.2 ⟨Nat.lt_of_lt_of_le hmade (length_after s between), hzero⟩
  have harrived : Followed ((s.after between).arrive pool r) (s.jobAfter between) pool [] := by
    refine ⟨.queue pool r, ?_, .queue _ pool r⟩
    change ((s.after between).jobs ++ [_])[(s.after between).jobs.length]? = _
    rw [List.getElem?_concat_length, if_pos hruns]
  exact harrived.after hup

theorem isComplete_of_up {s : Pools} (h : Balanced s.commons) {pool : Nat}
    (hup : s.isRunning pool = true) : s.commons.isComplete pool = false := by
  rcases Pools.isRunning_iff.1 hup with ⟨hmade, hzero⟩
  have hsignals := h.signalled_eq hmade
  -- A signal would count as a teardown.
  cases hdone : s.commons.isComplete pool with
  | false => rfl
  | true =>
      rw [hdone, if_pos rfl] at hsignals
      omega

/-- What comes of requests that are given up, while their pool is up. A request is sent exactly if
    its job began, so it is never sent when its end was asked for before. The first event that
    ended the job decides the response: its outcome if the exchange came to an end first, and that
    it was cancelled if a worker got to the demand first; nothing that comes later changes it, and
    it never says that the pool is gone. There is a response as soon as a worker gets to a job
    whose end was asked for, or carries out any other. And when others give their requests up, that
    makes no difference. -/
theorem first_ending_decides (factories : Nat → Nat → Except Failure Workers)
    (history : List Event) :
    let s := (Pools.ofFactories factories).after history
    (∀ (slot pool : Nat) (r : Request) (between later : List Event),
      s.commons.get slot = .ok pool →
      let job := s.jobAfter between
      let told := s.underWay pool r between later
      told.isRunning pool = true →
      (told.isSent job = true ↔ Begun job later) ∧
      (∀ before after, later = before ++ after → Asked job before → ¬ Begun job before →
        told.isSent job = false) ∧
      (∀ outcome, told.response job = some outcome ↔
        EndedBy job (.finish job outcome) later ∨
          EndedBy job (.reap job) later ∧ outcome = .error .cancelled) ∧
      (∀ last last', EndedBy job last later → EndedBy job last' later → last' = last) ∧
      (told.isOver job = true ↔ ∃ outcome, told.response job = some outcome) ∧
      (∀ outcome more, told.response job = some outcome → (told.after more).isRunning pool = true →
        (told.after more).response job = some outcome) ∧
      (Asked job later → ∃ outcome, (told.handle (.reap job)).response job = some outcome) ∧
      (¬ Asked job later → ∀ own, ∃ outcome, (told.serve job own).response job = some outcome) ∧
      ((∀ own, .finish job own ∈ later → own ≠ .error .closed) →
        told.response job ≠ some (.error .closed))) ∧
    ∀ (job : Nat) (events : List Event),
      (s.after events).response job = (s.after (withoutOthers job events)).response job ∧
        (s.after events).isSent job = (s.after (withoutOthers job events)).isSent job := by
  intro s
  have hb : Balanced s.commons := Pools.balanced_after (Balanced.ofFactories factories) history
  refine ⟨?_, fun job events => ?_⟩
  · intro slot pool r between later hget job told hruns
    have hmade := (Reaches.of_get hget).lt_length
    have hup := (Pools.isRunning_iff.1 hruns).2
    have hfollowed : Followed told job pool later := followed_underWay r hmade hup
    have hbtold : Balanced told.commons := Pools.balanced_underWay hb pool r between later
    have hresponse : ∀ outcome, told.response job = some outcome ↔ _ := fun outcome =>
      hfollowed.response_eq_some_iff (isComplete_of_up hbtold hruns)
    refine ⟨hfollowed.isSent_iff, ?_, hresponse, fun last last' => EndedBy.unique,
      hfollowed.isOver_iff.trans hfollowed.exists_response_iff.symm, ?_, ?_, ?_, ?_⟩
    · intro before after hlater hasked hnot
      rw [← Bool.not_eq_true, hfollowed.isSent_iff, hlater]
      exact not_begun_of_asked hasked hnot after
    · intro outcome more hout hmore
      have hlonger := hfollowed.after (Pools.isRunning_iff.1 hmore).2
      have hbmore := Pools.balanced_after hbtold more
      rw [hlonger.response_eq_some_iff (isComplete_of_up hbmore hmore)]
      rcases (hresponse outcome).1 hout with hended | ⟨hended, hcancelled⟩
      · exact Or.inl (hended.append more)
      · exact Or.inr ⟨hended.append more, hcancelled⟩
    · intro hasked
      have hreaped : Followed (told.handle (.reap job)) job pool (later ++ [.reap job]) :=
        hfollowed.handle hup
      exact hreaped.exists_response_iff.2 (occurs_concat.2 (Or.inr (.aborted hasked)))
    · intro hnot own
      have htaken : Followed (told.handle (.start job)) job pool (later ++ [.start job]) :=
        hfollowed.handle hup
      have hserved : Followed (told.serve job own) job pool
          (later ++ [.start job] ++ [.finish job own]) := htaken.handle (e := .finish job own) hup
      refine hserved.exists_response_iff.2 (occurs_concat.2 (Or.inr (.finished own ?_)))
      exact occurs_concat.2 (Or.inr ⟨rfl, hnot⟩)
    · intro hown hclosed
      rcases (hresponse _).1 hclosed with hended | ⟨-, hother⟩
      · exact hown _ hended.mem rfl
      · cases hother
  · have halike := (Alike.refl s job).after_withoutOthers events
    exact ⟨halike.response_eq, halike.isSent_eq⟩

-- The end of a job is asked for while it is carried out, and both may come first; or it is asked
-- for before.
example :
    let told := onePool.underWay 0 (.forPath "http://host" "/path" none) []
    (told [.start 0, .askEnd 0, .finish 0 (.ok "body"), .reap 0]).response 0 =
        some (.ok "body") ∧
      (told [.start 0, .askEnd 0, .reap 0, .finish 0 (.ok "body")]).response 0 =
        some (.error .cancelled) ∧
      (told [.askEnd 0, .start 0, .reap 0]).isSent 0 = false :=
  ⟨rfl, rfl, rfl⟩

end Pool

end Imds
