import Imds.Site

/-!
# Tasks

A plan need not be carried out on the spot. An executor polls it: the plan goes
on as far as it can without waiting, and then either has its value or is
suspended, on an exchange or on a pause. The executor completes what the plan
waits for and polls the rest.

Polling is structural on the plan, since only queries that answer at once are
passed. What is left after a suspension lies properly below the plan that was
polled, and the executor ends because plans are well-founded in that order. No
number bounds a plan's depth: an answer can be any text, and each has its own
continuation.

A task that is alone sees exactly what it would have seen on the spot. That is
`drive_eq_run`, and it is why it is enough to know what a plan does on the spot.

## Main definitions

* `Suspension`: What a poll comes to.
* `Plan.poll`: Going on as far as possible without waiting.
* `Plan.Below`: The order on plans by which the executor ends.
* `Plan.Leaves`: What a suspension leaves to do lies below a plan.
* `Plan.drive`: Polling until the value is there.

## Theorems

* `finish_poll`: Polling once and carrying on is carrying the plan out.
* `leaves_poll`: A suspended plan has less left to do.
* `drive_eq_run`: Driving a task gives what carrying it out on the spot gives.
-/

namespace Imds

/-- What a poll comes to. -/
inductive Suspension (α : Type) where
  /-- The value is there. -/
  | finished (value : α)
  /-- An exchange is under way. -/
  | exchanging (channel : Nat) (request : Request) (next : Except Fault String → Plan α)
  /-- A pause is under way. -/
  | sleeping (length : Duration) (next : Plan α)

namespace Plan

variable {α : Type}

/-- Goes on as far as possible without waiting. -/
def poll : Plan α → Site → Suspension α × Site
  | done value, s => (.finished value, s)
  | ask (.send channel request) next, s => (.exchanging channel request next, s)
  | ask (.pause length) next, s => (.sleeping length (next ()), s)
  | ask query next, s => (next (query.answer s).1).poll (query.answer s).2

/-- One plan is what another goes on with after its first query. -/
inductive Child : Plan α → Plan α → Prop where
  | answer (query : Query) (next : query.Answer → Plan α) (a : query.Answer) :
      Child (next a) (ask query next)

theorem child_wellFounded : WellFounded (Child (α := α)) := by
  refine ⟨fun p => ?_⟩
  induction p with
  | done value => exact ⟨_, fun _ h => nomatch h⟩
  | ask query next ih => exact ⟨_, fun _ h => by cases h with | answer _ _ a => exact ih a⟩

/-- One plan is what another goes on with after some queries. -/
abbrev Below : Plan α → Plan α → Prop := Relation.TransGen Child

instance : WellFoundedRelation (Plan α) := ⟨Below, child_wellFounded.transGen⟩

/-- What a suspension leaves to do lies below a plan. -/
def Leaves (p : Plan α) : Suspension α → Prop
  | .finished _ => True
  | .exchanging _ _ next => ∀ outcome, Below (next outcome) p
  | .sleeping _ next => Below next p

theorem leaves_of_child {p q : Plan α} (h : Child q p) {w : Suspension α} (hw : Leaves q w) :
    Leaves p w := by
  cases w with
  | finished value => trivial
  | exchanging channel request next =>
    exact fun outcome => Relation.TransGen.trans (hw outcome) (.single h)
  | sleeping length next => exact Relation.TransGen.trans hw (.single h)

theorem leaves_poll (p : Plan α) (s : Site) : Leaves p (p.poll s).1 := by
  induction p generalizing s with
  | done value => trivial
  | ask query next ih =>
    have step : ∀ a, Child (next a) (ask query next) := fun a => .answer query next a
    cases query with
    | send channel request => exact fun outcome => .single (step outcome)
    | pause length => exact .single (step ())
    | _ => exact leaves_of_child (step _) (ih _ _)

/-- Polls until the value is there. Between two polls the executor completes
    what the plan waits for: the answer of the service, or the end of a
    pause. -/
def drive (p : Plan α) (s : Site) : α × Site :=
  match _h : p.poll s with
  | (.finished value, after) => (value, after)
  | (.exchanging channel request next, after) =>
    drive (next (after.exchange channel request).1) (after.exchange channel request).2
  | (.sleeping length next, after) => drive next (after.elapse length)
termination_by p
decreasing_by
  · have hw := leaves_poll p s
    rw [_h] at hw
    exact hw _
  · have hw := leaves_poll p s
    rw [_h] at hw
    exact hw

/-- A suspended plan carried on to its end on the spot. -/
def finish : Suspension α → Site → α × Site
  | .finished value, s => (value, s)
  | .exchanging channel request next, s =>
    (next (s.exchange channel request).1).run (s.exchange channel request).2
  | .sleeping length next, s => next.run (s.elapse length)

theorem poll_pause (length : Duration) (next : Unit → Plan α) (s : Site) :
    (ask (.pause length) next).poll s = (.sleeping length (next ()), s) := rfl

theorem finish_poll (p : Plan α) (s : Site) : finish (p.poll s).1 (p.poll s).2 = p.run s := by
  induction p generalizing s with
  | done value => rfl
  | ask query next ih =>
    cases query with
    | send channel request => rfl
    | pause length => rw [poll_pause, finish, run_ask, answer_pause]
    | _ => exact ih _ _

theorem drive_eq_run (p : Plan α) (s : Site) : p.drive s = p.run s := by
  rw [← finish_poll]
  fun_induction drive p s with
  | case1 p s value after h => rw [h, finish]
  | case2 p s channel request next after h ih => rw [h, finish, ih, finish_poll]
  | case3 p s length next after h ih => rw [h, finish, ih, finish_poll]

end Plan

/-- An act driven as a task. -/
def Act.drive {α : Type} (a : Act α) (s : Site) : Except Failure α × Site :=
  Plan.drive (a.outcome) s

end Imds
