import Imds.Proofs.Fetch.Rounds
import Imds.Proofs.Pool.Response

/-!
# Requests Lost to a Teardown

A fetch over a pooled channel makes its requests one after the other, and each of them
passes through the pool: the channel is looked at, a job arrives, the caller waits and
asks for the response. Between any two of these steps anything may happen to the pools.
`Passage` is one request on its way, and `Carried` a row of them. The only thing that
others cannot do is to end the lease of the channel under the caller's hands.

A request is lost if it is answered although its job never finished. The pool is torn
down then, its references are gone for good, and every later request on the channel is
refused. So at most one request of a fetch is lost, and the last exchange decides: if
anything follows the lost request it is refused, and a channel that refuses ends the
fetch. What is left is a fetch whose last read is the lost one. If its response came
after the signal it says that the pool is gone, and the fetch says so too. If it came
inside the window it says that the job was cancelled. That is a passing fault, the
budget is used up, and the fetch reports it as the cause.

## Main definitions

* `Fate`, `Passage`, `Carried`: A request on its way, and a row of them.
* `Shut`: The pool of a lease is gone.

## Theorems

* `Carried.of_lost`: What a lost request is told, and all that come after it.
* `lost_requests_resolve`: What a lost request and its fetch come to.
-/

namespace Imds

namespace Pool

/-- What became of a request. -/
inductive Fate where
  /-- Its job finished. -/
  | answered
  /-- The channel refused it, or the caller withdrew it because the channel is closed. -/
  | refused
  /-- Its job was lost to a teardown that was signalled, or was not yet. -/
  | lost (signalled : Bool)

/-- The fate of a job that was left alone and is over. -/
def fateOf (s : Pools) (job pool : Nat) : Fate :=
  match s.outcome? job with
  | some _ => .answered
  | none => .lost (s.commons.isComplete pool)

/-- Events that do not end a lease. -/
def Keeps (slot : Nat) (events : List Event) : Prop :=
  ∀ e ∈ events, e ≠ .share (.forget slot)

/-- One request on its way through the pool of a lease, from the look at the lease to the
    moment at which the caller is told what came of it. -/
inductive Passage (slot : Nat) (r : Request) :
    Pools → Fate → Except Fault String → Pools → Prop
  /-- The lease does not reach its pool. -/
  | refused {s : Pools} (h : s.commons.isClosed slot = true) :
      Passage slot r s .refused (.error .closed) s
  /-- A job arrives, is left alone, and is over when its response is asked for. -/
  | told {s : Pools} {pool : Nat} {between later : List Event} {outcome : Except Fault String}
      (hget : s.commons.get slot = .ok pool) (hbetween : Keeps slot between)
      (hlater : Keeps slot later) (hleft : ∀ e ∈ later, ¬ e.Withdraws (s.jobAfter between))
      (hresponse :
        (s.underWay pool r between later).response (s.jobAfter between) = some outcome) :
      Passage slot r s (fateOf (s.underWay pool r between later) (s.jobAfter between) pool)
        outcome (s.underWay pool r between later)
  /-- A caller that blocks looks at the lease a second time before it waits, and lets go of
      the response if the lease does not reach its pool any more. -/
  | withdrawn {s : Pools} {pool : Nat} {between later : List Event}
      (hget : s.commons.get slot = .ok pool) (hbetween : Keeps slot between)
      (hlater : Keeps slot later)
      (hclosed : (s.underWay pool r between later).commons.isClosed slot = true) :
      Passage slot r s .refused (.error .closed)
        ((s.underWay pool r between later).handle (.drop (s.jobAfter between)))

/-- A row of requests on one lease, with their outcomes and fates, and anything in
    between. -/
inductive Carried (slot : Nat) : Pools → List (Exchange × Fate) → Prop
  | done (s : Pools) : Carried slot s []
  | more {s s' : Pools} {events : List Event} {e : Exchange} {fate : Fate}
      {rest : List (Exchange × Fate)} (hkeeps : Keeps slot events)
      (h : Passage slot e.request (s.after events) fate e.outcome s')
      (hrest : Carried slot s' rest) : Carried slot s ((e, fate) :: rest)

/-- The pool of a lease is gone. -/
def Shut (s : Pools) (slot pool : Nat) : Prop :=
  ∃ l, s.commons.leases.get? slot = some l ∧ l.resource = pool ∧
    pool < s.commons.resources.length ∧ s.commons.references pool = 0

/-! ### A lease under the hands of its holder -/

/-- The lease is there and points at a pool that was made. -/
def Reaches (s : Pools) (slot pool : Nat) : Prop :=
  ∃ l, s.commons.leases.get? slot = some l ∧ l.resource = pool ∧
    pool < s.commons.resources.length

theorem Reaches.lt_length {s : Pools} {slot pool : Nat} (h : Reaches s slot pool) :
    pool < s.commons.resources.length := by
  rcases h with ⟨l, -, -, hmade⟩
  exact hmade

theorem Reaches.handle {s : Pools} {slot pool : Nat} (h : Reaches s slot pool) {e : Event}
    (he : e ≠ .share (.forget slot)) : Reaches (s.handle e) slot pool := by
  rcases Pools.handle_commons s e with heq | ⟨m, rfl, heq⟩
  · unfold Reaches
    rw [heq]
    exact h
  · rcases h with ⟨l, hl, hresource, hmade⟩
    -- The lease stays unless it is ended, and then it points where it did.
    have hm : m ≠ .forget slot := fun h => he (by rw [h])
    rcases Commons.lease_stays hm hl with ⟨l', hl', hsame⟩
    unfold Reaches
    rw [heq]
    exact ⟨l', hl', hsame.trans hresource,
      Nat.lt_of_lt_of_le hmade (Commons.length_step m)⟩

theorem Reaches.after {s : Pools} {slot pool : Nat} (h : Reaches s slot pool)
    {events : List Event} (hkeeps : Keeps slot events) : Reaches (s.after events) slot pool := by
  induction events generalizing s with
  | nil => exact h
  | cons e events ih =>
      exact ih (h.handle (hkeeps e List.mem_cons_self))
        (fun e' he' => hkeeps e' (List.mem_cons_of_mem _ he'))

theorem Reaches.of_get {s : Pools} {slot pool : Nat} (h : s.commons.get slot = .ok pool) :
    Reaches s slot pool := by
  rcases Commons.get_eq_ok_iff.1 h with ⟨l, hl, hresource, -, hrefs⟩
  exact ⟨l, hl, hresource, Commons.lt_length_of_references_ne_zero hrefs⟩

-- No resource is ever forgotten.
theorem length_after (s : Pools) (events : List Event) :
    s.commons.resources.length ≤ (s.after events).commons.resources.length := by
  induction events generalizing s with
  | nil => exact Nat.le_refl _
  | cons e events ih =>
      refine Nat.le_trans ?_ (ih (s.handle e))
      rcases Pools.handle_commons s e with heq | ⟨m, -, heq⟩
      · exact Nat.le_of_eq (by rw [heq])
      · rw [heq]
        exact Commons.length_step m

theorem references_after_eq_zero {s : Pools} {pool : Nat}
    (hmade : pool < s.commons.resources.length) (hzero : s.commons.references pool = 0)
    (events : List Event) : (s.after events).commons.references pool = 0 := by
  induction events generalizing s with
  | nil => exact hzero
  | cons e events ih =>
      rcases Pools.handle_commons s e with heq | ⟨m, -, heq⟩
      · exact ih (heq ▸ hmade) (heq ▸ hzero)
      · refine ih ?_ ?_
        · rw [heq]
          exact Nat.lt_of_lt_of_le hmade (Commons.length_step m)
        · rw [heq]
          exact Commons.references_step_eq_zero m hmade hzero

theorem Shut.after {s : Pools} {slot pool : Nat} (h : Shut s slot pool) {events : List Event}
    (hkeeps : Keeps slot events) : Shut (s.after events) slot pool := by
  rcases h with ⟨l, hl, hresource, hmade, hzero⟩
  have hreaches : Reaches s slot pool := ⟨l, hl, hresource, hmade⟩
  rcases hreaches.after hkeeps with ⟨l', hl', hresource', hmade'⟩
  exact ⟨l', hl', hresource', hmade', references_after_eq_zero hmade hzero events⟩

theorem Shut.get_ne_ok {s : Pools} {slot pool : Nat} (h : Shut s slot pool) (pool' : Nat) :
    s.commons.get slot ≠ .ok pool' := by
  intro hget
  rcases h with ⟨l, hl, hresource, -, hzero⟩
  rcases Commons.get_eq_ok_iff.1 hget with ⟨l', hl', hresource', -, hrefs⟩
  rw [hl] at hl'
  cases hl'
  exact hrefs (by rw [← hresource', hresource, hzero])

/-! ### A lost request and those after it -/

-- A request on a lease whose pool is gone is refused.
theorem Passage.of_shut {s s' : Pools} {slot pool : Nat} {r : Request} {fate : Fate}
    {outcome : Except Fault String} (hshut : Shut s slot pool)
    (h : Passage slot r s fate outcome s') :
    outcome = .error .closed ∧ fate = .refused ∧ s' = s := by
  -- A job arrives only after a look at the lease that found the pool.
  cases h with
  | refused _ => exact ⟨rfl, rfl, rfl⟩
  | told hget => exact absurd hget (hshut.get_ne_ok _)
  | withdrawn hget => exact absurd hget (hshut.get_ne_ok _)

theorem Carried.of_shut {s : Pools} {slot pool : Nat} {row : List (Exchange × Fate)}
    (hshut : Shut s slot pool) (h : Carried slot s row) :
    ∀ x ∈ row, x.1.outcome = .error .closed := by
  induction h with
  | done s =>
      intro x hx
      cases hx
  | more hkeeps hpassage _ ih =>
      have hshut' := hshut.after hkeeps
      rcases hpassage.of_shut hshut' with ⟨houtcome, -, hsame⟩
      intro x hx
      rcases List.mem_cons.1 hx with rfl | hx
      · exact houtcome
      · exact ih (hsame ▸ hshut') x hx

theorem Passage.balanced {s s' : Pools} {slot : Nat} {r : Request} {fate : Fate}
    {outcome : Except Fault String} (h : Passage slot r s fate outcome s')
    (hb : Balanced s.commons) : Balanced s'.commons := by
  cases h with
  | refused _ => exact hb
  | told _ _ _ _ _ => exact Pools.balanced_underWay hb _ _ _ _
  | withdrawn _ _ _ _ => exact Pools.balanced_underWay hb _ _ _ _

theorem Reaches.underWay {s : Pools} {slot pool : Nat} (h : Reaches s slot pool) (r : Request)
    {between later : List Event} (hbetween : Keeps slot between) (hlater : Keeps slot later) :
    Reaches (s.after between) slot pool ∧ Reaches (s.underWay pool r between later) slot pool := by
  have hreaches := h.after hbetween
  refine ⟨hreaches, ?_⟩
  have harrived : Reaches ((s.after between).arrive pool r) slot pool := hreaches
  exact harrived.after hlater

-- What is torn down has no reference left.
theorem Reaches.shut {s : Pools} {slot pool : Nat} (h : Reaches s slot pool)
    (hb : Balanced s.commons) (htorn : s.commons.teardowns pool ≠ 0) : Shut s slot pool := by
  rcases h with ⟨l, hl, hresource, hmade⟩
  refine ⟨l, hl, hresource, hmade, ?_⟩
  -- One teardown is all that the account allows, and an owner would be one too many.
  have hcount := hb.teardowns_eq hmade
  by_cases hzero : s.commons.references pool = 0
  · exact hzero
  · rw [if_neg hzero] at hcount
    omega

/-- A lost request is told that the pool is gone, or that its job was cancelled if the
    teardown was not signalled yet; and the pool is gone. -/
theorem Passage.of_lost {s s' : Pools} {slot : Nat} {r : Request} {signalled : Bool}
    {outcome : Except Fault String} (h : Passage slot r s (.lost signalled) outcome s')
    (hb : Balanced s.commons) :
    outcome = .error (if signalled then .closed else .cancelled) ∧ ∃ pool, Shut s' slot pool := by
  generalize hfate : Fate.lost signalled = fate at h
  cases h with
  | refused _ => cases hfate
  | withdrawn _ _ _ _ => cases hfate
  | @told pool between later outcome hget hbetween hlater hleft hresponse =>
      rcases (Reaches.of_get hget).underWay r hbetween hlater with ⟨hbefore, hreaches⟩
      have hwatched := Pools.watched_underWay r hbefore.lt_length hleft
      rw [response_of_watched hwatched] at hresponse
      -- A lost request has no outcome, and it was told something, so the pool is torn down.
      unfold fateOf at hfate
      cases hfinished : (s.underWay pool r between later).outcome? (s.jobAfter between) with
      | some own =>
          rw [hfinished] at hfate
          cases hfate
      | none =>
          rw [hfinished] at hfate hresponse
          cases hfate
          simp only [] at hresponse
          by_cases htorn : (s.underWay pool r between later).commons.teardowns pool = 0
          · rw [if_pos htorn] at hresponse
            cases hresponse
          · rw [if_neg htorn] at hresponse
            cases hresponse
            exact ⟨rfl, pool, hreaches.shut (Pools.balanced_underWay hb _ _ _ _) htorn⟩

/-- A lost request is told what it is, and all requests after it are refused. -/
theorem Carried.of_lost {s : Pools} {slot : Nat} {row : List (Exchange × Fate)}
    (h : Carried slot s row) (hb : Balanced s.commons) {before after : List (Exchange × Fate)}
    {e : Exchange} {signalled : Bool} (hrow : row = before ++ (e, .lost signalled) :: after) :
    e.outcome = .error (if signalled then .closed else .cancelled) ∧
      ∀ x ∈ after, x.1.outcome = .error .closed := by
  induction h generalizing before with
  | done s => exact absurd hrow.symm (by simp)
  | @more s s' events e' fate rest hkeeps hpassage hrest ih =>
      have hevents := Pools.balanced_after hb events
      -- Either this is the lost one and the rest comes after it, or it is further on.
      cases before with
      | nil =>
          simp only [List.nil_append, List.cons.injEq, Prod.mk.injEq] at hrow
          rcases hrow with ⟨⟨rfl, rfl⟩, rfl⟩
          rcases hpassage.of_lost hevents with ⟨houtcome, pool, hshut⟩
          exact ⟨houtcome, hrest.of_shut hshut⟩
      | cons x before =>
          simp only [List.cons_append, List.cons.injEq] at hrow
          exact ih (hpassage.balanced hevents) hrow.2

end Pool

/-! ### A fetch that loses a request -/

namespace Round

/-- The last exchange of a round. -/
def closing : Round → Exchange
  | refused issue => issue
  | read _ body => body

theorem getLast_exchanges (init : List Round) (last : Round) :
    ((init ++ [last]).flatMap exchanges).getLast? = some last.closing := by
  rw [List.flatMap_append, List.flatMap_cons, List.flatMap_nil, List.append_nil]
  cases last with
  | refused issue => exact List.getLast?_concat
  | read issue body =>
      change (init.flatMap exchanges ++ [issue, body]).getLast? = some body
      rw [List.append_cons]
      exact List.getLast?_concat

-- A round that ends with a closed channel ends the fetch.
theorem verdict_of_closed {r : Round} {verdict : Verdict (Option String)} (hto : r.ComesTo verdict)
    (hclosed : r.closing.outcome = .error .closed) : verdict = .fatal (.exchange .closed) := by
  cases hto with
  | refused issue failure hfailure =>
      change issue.outcome = _ at hclosed
      rw [hclosed] at hfailure
      cases hfailure
      rfl
  | read issue body =>
      change body.outcome = _ at hclosed
      rw [hclosed]
      rfl

-- A round that ends with a cancelled request is one that went to its read, and the fetch would
-- try again.
theorem verdict_of_cancelled {c : Client} {base path : String} {r : Round}
    {verdict : Verdict (Option String)} (hconforms : r.Conforms c base path)
    (hto : r.ComesTo verdict) (hcancelled : r.closing.outcome = .error .cancelled) :
    verdict = .again .cancelled ∧ r.closing.request.method = .get := by
  cases hto with
  | refused issue failure hfailure =>
      -- A client goes on without a token after a cancelled request for one.
      change issue.outcome = _ at hcancelled
      rw [hcancelled] at hfailure
      cases hfailure
  | read issue body =>
      change body.outcome = _ at hcancelled
      rw [hcancelled]
      exact ⟨rfl, hconforms.2.2.method⟩

end Round

-- A fetch that requested something ended with the last of its rounds.
theorem Client.fetchItems_of_exchanges (c : Client) (path : String) (n : Nat) (whole : Bool)
    (w : Surroundings) {e : Exchange}
    (h : (exchanges ((c.fetchItems path n whole).among w []).2).getLast? = some e) :
    ∃ (base : String) (last : Round) (verdict : Verdict (Option String)),
      last.Conforms c base path ∧ last.ComesTo verdict ∧ last.closing = e ∧
      ((c.fetchItems path n whole).among w []).1 =
        (verdict.conclude n).map (Option.map (items whole)) := by
  -- A fetch that gives up before its first round has requested nothing.
  rw [fetchItems_among] at h ⊢
  rcases c.fetchBody_among path w n [] with ⟨failure, d, hfail, hd, -⟩ |
    ⟨base, opened, -, hopened, hbody⟩
  · rw [hfail] at h
    change (exchanges d).getLast? = some e at h
    rw [hd] at h
    cases h
  · cases n with
    | zero =>
        rw [hbody] at h
        change (exchanges opened).getLast? = some e at h
        rw [hopened] at h
        cases h
    | succ m =>
        rcases retryFrom_among c base path w { c.settings.backoff with attempts := m + 1 } m opened
          with ⟨said, init, last, verdict, hrun, hfollows, hto, -⟩
        rw [hbody, Backoff.retry, hrun] at h ⊢
        change (exchanges (opened ++ said)).getLast? = some e at h
        rw [exchanges_append, hopened, exchanges_nil, List.nil_append, hfollows.exchanges_eq,
          Round.getLast_exchanges, Option.some.injEq] at h
        have hlast := hfollows.conforms last (List.mem_append_right _ List.mem_cons_self)
        exact ⟨base, last, verdict, hlast, hto, h, rfl⟩

namespace Pool

-- A fetch whose last read is lost before the signal reports that it was cancelled.
theorem fetch_of_window {s : Pools} (hb : Balanced s.commons) {slot : Nat} {c : Client}
    {path : String} {n : Nat} {whole : Bool} {w : Surroundings} {row : List (Exchange × Fate)}
    (hrow : row.map Prod.fst = exchanges ((c.fetchItems path n whole).among w []).2)
    (hcarried : Carried slot s row) {rest : List (Exchange × Fate)} {e : Exchange}
    (hlost : row = rest ++ [(e, .lost false)]) :
    ((c.fetchItems path n whole).among w []).1 = .error (.exhausted n .cancelled) ∧
      e.request.method = .get := by
  have hlast : (exchanges ((c.fetchItems path n whole).among w []).2).getLast? = some e := by
    rw [← hrow, hlost, List.map_append]
    exact List.getLast?_concat
  rcases c.fetchItems_of_exchanges path n whole w hlast with
    ⟨base, last, verdict, hconforms, hto, hclosing, hresult⟩
  have hcancelled := (hcarried.of_lost hb hlost).1
  rw [← hclosing] at hcancelled ⊢
  rcases Round.verdict_of_cancelled hconforms hto hcancelled with ⟨rfl, hget⟩
  exact ⟨hresult, hget⟩

-- A fetch that loses a request in any other way reports that the channel is closed.
theorem fetch_of_lost {s : Pools} (hb : Balanced s.commons) {slot : Nat} {c : Client}
    {path : String} {n : Nat} {whole : Bool} {w : Surroundings} {row : List (Exchange × Fate)}
    (hrow : row.map Prod.fst = exchanges ((c.fetchItems path n whole).among w []).2)
    (hcarried : Carried slot s row) {before after : List (Exchange × Fate)} {e : Exchange}
    {signalled : Bool} (hlost : row = before ++ (e, .lost signalled) :: after)
    (hother : after = [] → signalled = true) :
    ((c.fetchItems path n whole).among w []).1 = .error (.exchange .closed) := by
  rcases hcarried.of_lost hb hlost with ⟨houtcome, hafter⟩
  -- Either something follows the lost request, or the signal was given when it was told.
  have hlast : ∃ e', (row.map Prod.fst).getLast? = some e' ∧ e'.outcome = .error .closed := by
    rw [hlost, List.map_append, List.map_cons]
    rcases List.eq_nil_or_concat after with hnil | ⟨rest, x, hconcat⟩
    · refine ⟨e, ?_, ?_⟩
      · rw [hnil]
        exact List.getLast?_concat
      · rw [houtcome, hother hnil]
        rfl
    · refine ⟨x.1, ?_, hafter x ?_⟩
      · rw [hconcat, List.concat_eq_append, List.map_append, ← List.cons_append,
          ← List.append_assoc]
        exact List.getLast?_concat
      · rw [hconcat, List.concat_eq_append]
        exact List.mem_append_right _ List.mem_cons_self
  rcases hlast with ⟨e', hlast, hclosed⟩
  rw [hrow] at hlast
  rcases c.fetchItems_of_exchanges path n whole w hlast with
    ⟨base, last, verdict, -, hto, hclosing, hresult⟩
  rw [← hclosing] at hclosed
  rw [hresult, Round.verdict_of_closed hto hclosed]
  rfl

/-- What becomes of a request that its caller leaves alone, and of its fetch. The response
    is the outcome of the job if it finished, and nothing while the pool runs. Otherwise it
    says that the channel is closed, unless it is asked for while one lease has torn the
    pool down and has still to signal that; then it says that the request was cancelled. So
    a fetch that loses a request reports that the channel is closed, unless the request is
    its last one and was answered inside of that window: then it is a read, and its
    cancellation is reported as what used the budget up. -/
theorem lost_requests_resolve (factories : Nat → Nat → Except Failure Workers)
    (history : List Event) (slot : Nat) :
    let s := (Pools.ofFactories factories).after history
    (∀ (pool : Nat) (r : Request) (between later : List Event), s.commons.get slot = .ok pool →
      (∀ e ∈ later, ¬ e.Withdraws (s.jobAfter between)) →
      let job := s.jobAfter between
      let told := s.underWay pool r between later
      (told.response job = match told.outcome? job with
        | some outcome => some outcome
        | none =>
          if told.commons.teardowns pool = 0 then none
          else some (.error (if told.commons.isComplete pool then .closed else .cancelled))) ∧
      (told.commons.teardowns pool ≠ 0 ∧ told.commons.isComplete pool = false ↔
        told.commons.tally (Lease.isAt .signalling) pool = 1)) ∧
    (∀ (c : Client) (path : String) (n : Nat) (whole : Bool) (w : Surroundings)
      (row : List (Exchange × Fate)),
      row.map Prod.fst = exchanges ((c.fetchItems path n whole).among w []).2 →
      Carried slot s row →
      (∀ rest e, row = rest ++ [(e, .lost false)] →
        ((c.fetchItems path n whole).among w []).1 = .error (.exhausted n .cancelled) ∧
          e.request.method = .get) ∧
      (∀ before e signalled after, row = before ++ (e, .lost signalled) :: after →
        (after = [] → signalled = true) →
        ((c.fetchItems path n whole).among w []).1 = .error (.exchange .closed))) := by
  intro s
  have hb : Balanced s.commons := Pools.balanced_after (Balanced.ofFactories factories) history
  refine ⟨?_, ?_⟩
  · intro pool r between later hget hleft job told
    -- What was made stays, so the pool is still there when the response is asked for.
    have hmade : pool < (s.after between).commons.resources.length :=
      Nat.lt_of_lt_of_le (Reaches.of_get hget).lt_length (length_after s between)
    have htold : pool < told.commons.resources.length :=
      Nat.lt_of_lt_of_le hmade (length_after ((s.after between).arrive pool r) later)
    exact ⟨response_of_watched (Pools.watched_underWay r hmade hleft),
      Pools.window_iff (Pools.balanced_underWay hb pool r between later) htold⟩
  · intro c path n whole w row hrow hcarried
    exact ⟨fun rest e hlost => fetch_of_window hb hrow hcarried hlost,
      fun before e signalled after hlost hother => fetch_of_lost hb hrow hcarried hlost hother⟩

/-- A pool with one owner. -/
def onePool : Pools :=
  (Pools.ofFactories (fun _ => Workers.factory 1)).after [.share (.create (.ofThreads 1) 0)]

/-- A worker takes a job, and the owner of the pool closes it up to the teardown. -/
def toWindow (job : Nat) : List Event :=
  [.start job, .share (.mark 0), .share (.release 0), .share (.tearDown 0)]

theorem keeps_nil {slot : Nat} : Keeps slot [] := fun _ he => nomatch he

theorem keeps_toWindow (job : Nat) : Keeps 0 (toWindow job) := by
  intro e he
  simp only [toWindow, List.mem_cons, List.not_mem_nil, or_false] at he
  rcases he with rfl | rfl | rfl | rfl
  · exact fun h => nomatch h
  · exact fun h => nomatch h
  · exact fun h => nomatch h
  · exact fun h => nomatch h

theorem not_withdraws_toWindow (job : Nat) : ∀ e ∈ toWindow job, ¬ e.Withdraws job := by
  intro e he
  simp only [toWindow, List.mem_cons, List.not_mem_nil, or_false] at he
  rcases he with rfl | rfl | rfl | rfl
  · exact id
  · exact id
  · exact id
  · exact id

/-- A client that tries once. -/
def onceClient : Client where
  settings := ⟨.fixed "http://host", .flag, { Backoff.standard with attempts := 1 }, 60, 0⟩
  channel := 0

/-- Metadata is on, a token is issued, and the read is cancelled. -/
def cancelsRead : Surroundings
  | _, .flag => false
  | _, .send _ r => if r.method = .put then .ok "token" else .error .cancelled
  | _, .attach => 0
  | _, .setting _ | _, .lookup _ _ | _, .enter _ | _, .recollect _ _ => none
  | _, .store _ _ _ | _, .clear _ | _, .shut _ | _, .pause _ | _, .leave _ _
  | _, .remember _ _ _ => ()

/-- What `onceClient` requests among such surroundings, and what became of it. -/
def rowToWindow : List (Exchange × Fate) :=
  [(⟨0, .forToken "http://host" 60, .ok "token"⟩, .answered),
    (⟨0, .forPath "http://host" "/path" (some "token"), .error .cancelled⟩, .lost false)]

/-- Nobody gave the job up and its pool is torn down, but the response says that the job was
    cancelled. And a fetch that loses its read in this way reports it as a passing fault. -/
theorem cancelled_in_window :
    (onePool.commons.get 0 = .ok 0 ∧ (∀ e ∈ toWindow 0, ¬ e.Withdraws 0) ∧
      let told := onePool.underWay 0 (.forPath "http://host" "/path" none) [] (toWindow 0)
      told.outcome? 0 = none ∧ told.commons.teardowns 0 = 1 ∧
        told.response 0 = some (.error .cancelled) ∧ told.response 0 ≠ some (.error .closed)) ∧
    (rowToWindow.map Prod.fst =
        exchanges ((onceClient.fetchItems "/path" 1 true).among cancelsRead []).2 ∧
      Carried 0 onePool rowToWindow ∧
      ((onceClient.fetchItems "/path" 1 true).among cancelsRead []).1 =
        .error (.exhausted 1 .cancelled)) := by
  refine ⟨⟨rfl, ?_, rfl, rfl, rfl, fun h => nomatch h⟩, rfl, ?_, rfl⟩
  · exact not_withdraws_toWindow 0
  · have hissue : Passage 0 (.forToken "http://host" 60) onePool .answered (.ok "token")
        (onePool.underWay 0 (.forToken "http://host" 60) []
          [.start 0, .finish 0 (.ok "token")]) := by
      refine @Passage.told 0 _ onePool 0 [] [.start 0, .finish 0 (.ok "token")] _ rfl keeps_nil
        ?_ ?_ rfl
      · intro e he
        simp only [List.mem_cons, List.not_mem_nil, or_false] at he
        rcases he with rfl | rfl
        · exact fun h => nomatch h
        · exact fun h => nomatch h
      · intro e he
        simp only [List.mem_cons, List.not_mem_nil, or_false] at he
        rcases he with rfl | rfl
        · exact id
        · exact id
    have hread := @Passage.told 0 (.forPath "http://host" "/path" (some "token"))
      (onePool.underWay 0 (.forToken "http://host" 60) []
        [.start 0, .finish 0 (.ok "token")]) 0 [] (toWindow 1) (.error .cancelled) rfl keeps_nil
      (keeps_toWindow 1) (not_withdraws_toWindow 1) rfl
    exact .more keeps_nil hissue (.more keeps_nil hread (.done _))

end Pool

end Imds
