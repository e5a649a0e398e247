import Imds.Blocking.World
import Imds.Task

/-!
# Dialogues With Any Surroundings

A plan fixes its queries and leaves the answers to its surroundings. `Site` is one
kind of surroundings, where somebody is known to be at work: a service that is a
function of the history, caches that keep what was stored. A statement about what
a plan asks must not depend on that. The switch can be thrown between two queries,
another party can fill the cache, the service can lie.

`Surroundings` is therefore any function that answers a query in view of all that
was asked before. `among` carries a plan out with it and writes the dialogue down.
Every way through the tree of a plan is the dialogue with some surroundings, so
that what holds among all of them holds for every run whatsoever. A site is the
case where the answers come from a state, and that state can be read off the
dialogue; `run_eq_among` and `drive_eq_among` say so for a plan that is carried
out on the spot and for one that is driven as a task. The world of a thread is
another such case, and `runIn_eq_among` says so for a plan that it carries out.

## Main definitions

* `Said`, `Surroundings`: A query with its answer, and who answers.
* `Plan.among`, `Act.among`: A plan or an act carried out, and the dialogue.
* `Exchange`, `exchanges`: The requests of a dialogue with their outcomes.
* `Site.hear`, `Site.voice`: A site after a dialogue, and as surroundings.
* `World.hear`, `World.voice`: The same for the world of a thread.

## Theorems

* `split_concat`: The places in a record that has grown by one.
* `among_bind`: One plan after another continues the dialogue.
* `among_eq_run`, `among_eq_runIn`: Among the voice of a site, or of a world, a plan does
  what it does there.
* `run_eq_among`, `drive_eq_among`: Both ways of carrying a plan out at a site.
* `runIn_eq_among`: What a thread does.
* `among_prefix`: A dialogue only grows.
-/

namespace Imds

-- Records grow at their end: a place in one that has grown is the new one or was there before.
theorem split_concat {α : Type} {xs before after : List α} {x y : α}
    (h : xs ++ [y] = before ++ x :: after) :
    (before = xs ∧ x = y ∧ after = []) ∨
      ∃ rest, after = rest ++ [y] ∧ xs = before ++ x :: rest := by
  rcases List.eq_nil_or_concat after with rfl | ⟨rest, z, rfl⟩
  · have h : xs ++ [y] = before ++ [x] := h
    rcases List.append_inj' h rfl with ⟨hbefore, hx⟩
    cases hx
    exact Or.inl ⟨hbefore.symm, rfl, rfl⟩
  · have h : xs ++ [y] = (before ++ x :: rest) ++ [z] := by
      rw [h, List.append_assoc, List.cons_append, List.concat_eq_append]
    rcases List.append_inj' h rfl with ⟨hxs, hz⟩
    cases hz
    exact Or.inr ⟨rest, by rw [List.concat_eq_append], hxs⟩

/-- One query, and the answer it got. -/
structure Said where
  /-- The query. -/
  query : Query
  /-- The answer. -/
  answer : query.Answer

/-- Whoever answers queries, in view of all that was said before. -/
def Surroundings : Type := List Said → (query : Query) → query.Answer

/-- One request with the channel it went through and what came of it. -/
structure Exchange where
  /-- The channel. -/
  channel : Nat
  /-- The request. -/
  request : Request
  /-- What came of it. -/
  outcome : Except Fault String

/-- The exchange that a query was, if it was one. -/
def Said.exchange? : Said → Option Exchange
  | ⟨.send channel request, outcome⟩ => some ⟨channel, request, outcome⟩
  | _ => none

/-- The exchanges of a dialogue, oldest first. -/
def exchanges (d : List Said) : List Exchange := d.filterMap Said.exchange?

@[simp] theorem exchanges_nil : exchanges [] = [] := rfl

@[simp] theorem exchanges_append (d e : List Said) :
    exchanges (d ++ e) = exchanges d ++ exchanges e :=
  List.filterMap_append

theorem mem_exchanges {e : Exchange} {d : List Said} :
    e ∈ exchanges d ↔ ⟨.send e.channel e.request, e.outcome⟩ ∈ d := by
  rw [exchanges, List.mem_filterMap]
  constructor
  · rintro ⟨⟨query, answer⟩, hx, he⟩
    cases query with
    | send channel request =>
        cases he
        exact hx
    | _ => cases he
  · intro hx
    exact ⟨_, hx, rfl⟩

namespace Plan

variable {α β : Type}

/-- A plan carried out after a dialogue: its value, and the whole dialogue with
    the oldest query first. -/
def among (w : Surroundings) : Plan α → List Said → α × List Said
  | done value, d => (value, d)
  | ask query next, d => (next (w d query)).among w (d ++ [⟨query, w d query⟩])

theorem among_ask (w : Surroundings) (query : Query) (next : query.Answer → Plan α)
    (d : List Said) :
    (ask query next).among w d = (next (w d query)).among w (d ++ [⟨query, w d query⟩]) := rfl

@[simp] theorem among_pure (w : Surroundings) (value : α) (d : List Said) :
    (pure value : Plan α).among w d = (value, d) := rfl

theorem among_bind (w : Surroundings) (p : Plan α) (f : α → Plan β) (d : List Said) :
    (p >>= f).among w d = (f (p.among w d).1).among w (p.among w d).2 := by
  change (p.bind f).among w d = _
  induction p generalizing d with
  | done value => rfl
  | ask query next ih =>
      simp only [bind, among]
      exact ih (w d query) (d ++ [⟨query, w d query⟩])

/-- What a plan says comes after what was said before it. -/
theorem among_prefix (w : Surroundings) (p : Plan α) (d : List Said) :
    ∃ e, (p.among w d).2 = d ++ e := by
  induction p generalizing d with
  | done value => exact ⟨[], (List.append_nil d).symm⟩
  | ask query next ih =>
      rcases ih (w d query) (d ++ [⟨query, w d query⟩]) with ⟨e, he⟩
      refine ⟨⟨query, w d query⟩ :: e, ?_⟩
      rw [among_ask, he, List.append_assoc, List.singleton_append]

end Plan

namespace Act

variable {α β : Type}

/-- An act carried out after a dialogue. -/
def among (w : Surroundings) (a : Act α) (d : List Said) : Except Failure α × List Said :=
  Plan.among w a.outcome d

@[simp] theorem among_pure (w : Surroundings) (value : α) (d : List Said) :
    (pure value : Act α).among w d = (.ok value, d) := rfl

@[simp] theorem among_throw (w : Surroundings) (f : Failure) (d : List Said) :
    (throw f : Act α).among w d = (.error f, d) := rfl

@[simp] theorem among_ofExcept (w : Surroundings) (r : Except Failure α) (d : List Said) :
    (Act.ofExcept r).among w d = (r, d) := rfl

-- A plan as an act says what the plan says.
theorem among_lift (w : Surroundings) (p : Plan α) (d : List Said) :
    (liftM p : Act α).among w d = (.ok (p.among w d).1, (p.among w d).2) :=
  Plan.among_bind w p (fun a => Plan.done (Except.ok a)) d

-- After a failure nothing more is said.
theorem among_bind_error {w : Surroundings} {a : Act α} {f : α → Act β} {d e : List Said}
    {failure : Failure} (h : a.among w d = (.error failure, e)) :
    (a >>= f).among w d = (.error failure, e) := by
  have hbind := Plan.among_bind w a.outcome (ExceptT.bindCont f) d
  rw [show a.outcome.among w d = (.error failure, e) from h] at hbind
  exact hbind

theorem among_bind_ok {w : Surroundings} {a : Act α} {f : α → Act β} {d e : List Said}
    {value : α} (h : a.among w d = (.ok value, e)) :
    (a >>= f).among w d = (f value).among w e := by
  have hbind := Plan.among_bind w a.outcome (ExceptT.bindCont f) d
  rw [show a.outcome.among w d = (.ok value, e) from h] at hbind
  exact hbind

-- What is made of the value of an act goes unsaid.
theorem among_map (w : Surroundings) (a : Act α) (f : α → β) (d : List Said) :
    (a >>= fun value => pure (f value)).among w d =
      ((a.among w d).1.map f, (a.among w d).2) := by
  rcases h : a.among w d with ⟨result, e⟩
  cases result with
  | error failure => exact among_bind_error h
  | ok value => exact among_bind_ok h

/-- What an act says comes after what was said before it. -/
theorem among_prefix (w : Surroundings) (a : Act α) (d : List Said) : d <+: (a.among w d).2 := by
  rcases Plan.among_prefix w a.outcome d with ⟨e, he⟩
  exact ⟨e, he.symm⟩

end Act

namespace Site

/-- A site after the queries of a dialogue. -/
def hear (s : Site) (d : List Said) : Site := d.foldl (fun s e => (e.query.answer s).2) s

/-- A site as surroundings: it answers from the state that the dialogue left. -/
def voice (s : Site) : Surroundings := fun d query => (query.answer (s.hear d)).1

end Site

namespace Blocking.World

/-- A world after the queries of a dialogue. -/
def hear (w : World) (d : List Said) : World := d.foldl (fun w e => (answer e.query w).2) w

/-- A world as surroundings. -/
def voice (w : World) : Surroundings := fun d query => (answer query (w.hear d)).1

end Blocking.World

namespace Plan

variable {α : Type}

/-- Among the voice of a site a plan comes to the value it comes to there, and
    the dialogue tells what became of the site. -/
theorem among_eq_run (s : Site) (p : Plan α) (d : List Said) :
    p.run (s.hear d) = ((p.among s.voice d).1, s.hear (p.among s.voice d).2) := by
  induction p generalizing d with
  | done value => rfl
  | ask query next ih =>
      have hstep : s.hear (d ++ [⟨query, s.voice d query⟩]) = (query.answer (s.hear d)).2 := by
        rw [Site.hear, List.foldl_append]
        rfl
      rw [run_ask, among_ask, ← ih, hstep]
      rfl

theorem run_eq_among (s : Site) (p : Plan α) :
    p.run s = ((p.among s.voice []).1, s.hear (p.among s.voice []).2) :=
  among_eq_run s p []

theorem drive_eq_among (s : Site) (p : Plan α) :
    p.drive s = ((p.among s.voice []).1, s.hear (p.among s.voice []).2) := by
  rw [drive_eq_run, run_eq_among]

/-- Among the voice of a world a plan comes to the value it comes to there. -/
theorem among_eq_runIn (w : Blocking.World) (p : Plan α) (d : List Said) :
    p.runIn (w.hear d) = ((p.among w.voice d).1, w.hear (p.among w.voice d).2) := by
  induction p generalizing d with
  | done value => rfl
  | ask query next ih =>
      have hstep : w.hear (d ++ [⟨query, w.voice d query⟩]) =
          (Blocking.World.answer query (w.hear d)).2 := by
        rw [Blocking.World.hear, List.foldl_append]
        rfl
      rw [runIn_ask, among_ask, ← ih, hstep]
      rfl

theorem runIn_eq_among (w : Blocking.World) (p : Plan α) :
    p.runIn w = ((p.among w.voice []).1, w.hear (p.among w.voice []).2) :=
  among_eq_runIn w p []

end Plan

end Imds
