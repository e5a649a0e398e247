import Imds.Proofs.Dialogue

/-!
# The Conduct of a Plan

`among` tells what a plan says to surroundings that are given from the start. A party
among others has no such surroundings: the answers it gets depend on what everybody else
does in between. What can be said of it in advance is a matter of its plan alone. At each
point of its own dialogue it asks one of certain things, and when it ends, its value is
one that this dialogue accounts for, whatever the answers were.

`Abides` is that statement, read off the tree. It goes down the tree with the dialogue,
so that one query and its answer lead from a plan that abides to a plan that abides. That
makes it an invariant of any history in which the plan takes part, step by step, and
`abides_among` is the case of a history in which it takes part alone.

A longer plan is dealt with piece by piece. `abides_bind` passes the dialogue on from one
piece to the next, and `Abides.since` lets a piece be described in terms of what it adds to
the dialogue, so that a description does not depend on where in a longer plan the piece
stands.

## Main definitions

* `Plan.Abides`: What a plan may ask, and how its dialogue can end.
* `Act.Abides`: The same for an act.
* `Since`: What a dialogue may have gained since an earlier point.

## Theorems

* `abides_bind`: One plan after another.
* `Abides.mono`: A weaker description.
* `Abides.since`: What was asked is known at the end and on the way.
* `abides_among`: A plan that is carried out keeps to its description.
* `run_carries`: What queries keep true is true in the end.
-/

namespace Imds

namespace Plan

variable {α β : Type}

/-- Whatever it is told from here on, a plan asks only what `may` allows, given the
    dialogue so far, and `ends` holds of the dialogue and the value in the end. -/
def Abides (may : List Said → Query → Prop) (ends : List Said → α → Prop) :
    Plan α → List Said → Prop
  | done value, d => ends d value
  | ask query next, d =>
    may d query ∧ ∀ a, Abides may ends (next a) (d ++ [⟨query, a⟩])

variable {may may' : List Said → Query → Prop} {ends ends' : List Said → α → Prop}

theorem Abides.mono {p : Plan α} {d : List Said} (h : p.Abides may ends d)
    (hmay : ∀ e query, may e query → may' e query) (hends : ∀ e a, ends e a → ends' e a) :
    p.Abides may' ends' d := by
  induction p generalizing d with
  | done value => exact hends d value h
  | ask query next ih =>
      rcases h with ⟨hquery, hnext⟩
      exact ⟨hmay d query hquery, fun a => ih a (hnext a)⟩

theorem abides_bind {p : Plan α} {f : α → Plan β} {ends : List Said → β → Prop} {d : List Said}
    (h : p.Abides may (fun e a => (f a).Abides may ends e) d) :
    (p >>= f).Abides may ends d := by
  change (p.bind f).Abides may ends d
  induction p generalizing d with
  | done value => exact h
  | ask query next ih =>
      rcases h with ⟨hquery, hnext⟩
      exact ⟨hquery, fun a => ih a (hnext a)⟩

end Plan

/-- A dialogue is at `e`, was at `d` before, and what was asked in between satisfies
    `may`. -/
def Since (may : Query → Prop) (d e : List Said) : Prop :=
  ∃ said, e = d ++ said ∧ ∀ x ∈ said, may x.query

theorem Since.refl (may : Query → Prop) (d : List Said) : Since may d d :=
  ⟨[], (List.append_nil d).symm, fun _ h => nomatch h⟩

theorem Since.trans {may : Query → Prop} {d e f : List Said} (hde : Since may d e)
    (hef : Since may e f) : Since may d f := by
  rcases hde with ⟨said, rfl, hsaid⟩
  rcases hef with ⟨more, rfl, hmore⟩
  refine ⟨said ++ more, List.append_assoc d said more, fun x hx => ?_⟩
  rcases List.mem_append.1 hx with h | h
  · exact hsaid x h
  · exact hmore x h

theorem Since.mono {may may' : Query → Prop} {d e : List Said} (h : Since may d e)
    (hmay : ∀ query, may query → may' query) : Since may' d e := by
  rcases h with ⟨said, rfl, hsaid⟩
  exact ⟨said, rfl, fun x hx => hmay _ (hsaid x hx)⟩

theorem Since.concat {may : Query → Prop} {d e : List Said} (h : Since may d e) {query : Query}
    (hquery : may query) (a : query.Answer) : Since may d (e ++ [⟨query, a⟩]) := by
  refine h.trans ⟨[⟨query, a⟩], rfl, fun x hx => ?_⟩
  rw [List.mem_singleton.1 hx]
  exact hquery

namespace Plan

variable {α : Type}

/-- Of a plan that asks one kind of query only, it is known on the way and in the end
    that nothing else was asked. -/
theorem Abides.since {may : Query → Prop} {ends : List Said → α → Prop} {p : Plan α}
    {d e : List Said} (he : Since may d e) (h : p.Abides (fun _ => may) ends e) :
    p.Abides (fun e query => Since may d e ∧ may query) (fun e a => Since may d e ∧ ends e a)
      e := by
  induction p generalizing e with
  | done value => exact ⟨he, h⟩
  | ask query next ih =>
      rcases h with ⟨hquery, hnext⟩
      exact ⟨⟨he, hquery⟩, fun a => ih a (he.concat hquery a) (hnext a)⟩

/-- A plan that is carried out ends as its description says. -/
theorem abides_among {may : List Said → Query → Prop} {ends : List Said → α → Prop}
    (w : Surroundings) {p : Plan α} {d : List Said} (h : p.Abides may ends d) :
    ends (p.among w d).2 (p.among w d).1 := by
  induction p generalizing d with
  | done value => exact h
  | ask query next ih =>
      rw [among_ask]
      exact ih _ (h.2 _)

-- Time is all that a pause changes. How it moves the clock is hidden, since the time would
-- be computed wherever two sites are compared.
theorem answer_pause_moves (length : Duration) : ∃ move : Nat → Nat, ∀ s : Site,
    (Query.pause length).answer s = ((), { s with now := move s.now }) :=
  ⟨fun now => now + length.toTicks, fun s => answer_pause length s⟩

theorem answer_pause_eq (length : Duration) (s : Site) :
    ∃ time, (Query.pause length).answer s = ((), { s with now := time }) := by
  rcases answer_pause_moves length with ⟨move, hmove⟩
  exact ⟨_, hmove s⟩

/-- A plan that is carried out has a dialogue with the site, and what each query keeps true of
    the dialogue and the site is true in the end. -/
theorem Abides.run_carries {may : List Said → Query → Prop} {ends : List Said → α → Prop}
    {p : Plan α} {d : List Said} (h : p.Abides may ends d) {P : List Said → Site → Prop}
    (hstep : ∀ e s query, may e query → P e s →
      P (e ++ [⟨query, (query.answer s).1⟩]) (query.answer s).2) {s : Site} (hs : P d s) :
    ∃ e, ends e (p.run s).1 ∧ P e (p.run s).2 := by
  induction p generalizing d s with
  | done value => exact ⟨d, h, hs⟩
  | ask query next ih =>
      rw [run_ask]
      exact ih _ (h.2 _) (hstep d s query h.1 hs)

/-- What no query of a plan changes about a site is what it was when the plan has been
    carried out. -/
theorem Abides.run_preserves {may : Query → Prop} {ends : List Said → α → Prop} {p : Plan α}
    {d : List Said} (h : p.Abides (fun _ => may) ends d) {P : Site → Prop}
    (hstep : ∀ s query, may query → P s → P (query.answer s).2) {s : Site}
    (hs : P s) : P (p.run s).2 := by
  rcases h.run_carries (P := fun _ => P) (fun _ s query => hstep s query) hs with ⟨-, -, hlast⟩
  exact hlast

end Plan

namespace Act

variable {α β : Type}

/-- What an act may ask, and how its dialogue can end, with a result or a failure. -/
def Abides (may : List Said → Query → Prop) (ends : List Said → Except Failure α → Prop)
    (a : Act α) (d : List Said) : Prop :=
  Plan.Abides may ends a.outcome d

variable {may : List Said → Query → Prop} {d : List Said}

theorem Abides.mono {may' : List Said → Query → Prop}
    {ends ends' : List Said → Except Failure α → Prop} {a : Act α} (h : a.Abides may ends d)
    (hmay : ∀ e query, may e query → may' e query) (hends : ∀ e r, ends e r → ends' e r) :
    a.Abides may' ends' d :=
  Plan.Abides.mono h hmay hends

theorem abides_pure {ends : List Said → Except Failure α → Prop} {value : α}
    (h : ends d (.ok value)) : (pure value : Act α).Abides may ends d := h

theorem abides_bind {ends : List Said → Except Failure β → Prop} {a : Act α} {f : α → Act β}
    (h : a.Abides may (fun e r => match r with
      | .ok value => (f value).Abides may ends e
      | .error failure => ends e (.error failure)) d) :
    (a >>= f).Abides may ends d := by
  refine Plan.abides_bind (f := ExceptT.bindCont f) (Plan.Abides.mono h (fun _ _ hq => hq) ?_)
  intro e r hr
  cases r with
  | ok value => exact hr
  | error failure => exact hr

theorem abides_lift {ends : List Said → Except Failure α → Prop} {p : Plan α}
    (h : p.Abides may (fun e value => ends e (.ok value)) d) :
    (liftM p : Act α).Abides may ends d :=
  Plan.abides_bind (f := fun value => Plan.done (Except.ok value)) h

theorem abides_map {ends : List Said → Except Failure β → Prop} {a : Act α} {f : α → β}
    (h : a.Abides may (fun e r => ends e (r.map f)) d) :
    (f <$> a).Abides may ends d := by
  rw [map_eq_pure_bind]
  refine abides_bind (h.mono (fun _ _ hq => hq) ?_)
  intro e r hr
  cases r with
  | ok value => exact hr
  | error failure => exact hr

end Act

end Imds
