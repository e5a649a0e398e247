import Imds.Proofs.Fetch.Rounds

/-!
# What a Fetch Comes To

A fetch has a budget and meets a service, and between the two lie a token for each
attempt, two kinds of fault and a pause. What the caller gets is nevertheless a
function of little: the switch, the base, the budget, and two outcomes for each
attempt. `foretold` is that function. It is written from the caller's side, attempt
by attempt with the outcomes spelled out, and mentions no plan, no request and no
classification of the library.

`Surroundings.replying` puts two sequences of outcomes in the place of the service:
the `i`-th request for a token is answered by `tokens i`, and a read by `reads i`
when `i` tokens were asked for before it. All other queries are answered as the
surroundings like, so that the caches, the clock and the environment are arbitrary.

That a value is absent is a result and not a failure, and callers rely on the
difference. `lastRead` is the outcome of the last read of a dialogue; a fetch answers
that there is no value exactly when that outcome is status 404. Two things make
this true. A round that goes on did not end in 404, so an earlier 404 cannot be
followed by anything; and a round that was refused has no read, so that the last
read, if there is one, belongs to a round that went on.

## Main definitions

* `attemptsFrom`, `foretold`: What a fetch comes to.
* `issues`, `Surroundings.replying`: A service given by two sequences.
* `lastRead`: The outcome of the last read of a dialogue.

## Theorems

* `attempt_replying`: The verdict of one attempt among such surroundings.
* `retryFrom_replying`: The retry loop comes to what is foretold.
* `conclude_eq_none_iff`: A row of rounds ends in an absence exactly if its last
  read was not found.
* `fetch_comes_to_foretold`: What every fetch comes to.
-/

namespace Imds

/-- What a fetch with budget `N` comes to from its attempt `i` on, when the `i`-th
    request for a token comes to `tokens i` and the read after it to `reads i`. -/
def attemptsFrom (tokens reads : Nat → Except Fault String) (N i : Nat) :
    Except Failure (Option String) :=
  match tokens i with
  | .error (.status 400) => .error (.tokenRejected (.status 400))
  | .error .closed => .error (.exchange .closed)
  | .error (.invalidRequest text) => .error (.exchange (.invalidRequest text))
  | _ =>
    match reads i with
    | .ok body => .ok (some body)
    | .error (.status 404) => .ok none
    | .error .closed => .error (.exchange .closed)
    | .error (.invalidRequest text) => .error (.exchange (.invalidRequest text))
    | .error fault =>
      if i < N then attemptsFrom tokens reads N (i + 1) else .error (.exhausted N fault)
termination_by N - i

/-- What a fetch comes to, given what the switch says and what the base is. -/
def foretold (isOff : Except Failure Bool) (base : Except Failure String)
    (tokens reads : Nat → Except Fault String) (N : Nat) : Except Failure (Option String) :=
  match isOff, base with
  | .error failure, _ => .error failure
  | .ok true, _ => .error .disabled
  | .ok false, .error failure => .error failure
  | .ok false, .ok _ => if N = 0 then .error .unreachable else attemptsFrom tokens reads N 1

/-- How many tokens were asked for in a dialogue. -/
def issues (d : List Said) : Nat := (exchanges d).countP (fun e => e.request.method = .put)

/-- Surroundings in which the service is given by two sequences. -/
def Surroundings.replying (w : Surroundings) (tokens reads : Nat → Except Fault String) :
    Surroundings
  | d, .send _ request => if request.method = .put then tokens (issues d + 1) else reads (issues d)
  | d, query => w d query

/-- The outcome of the last read of a dialogue. -/
def lastRead (d : List Said) : Option (Except Fault String) :=
  (((exchanges d).filter (fun e => e.request.method = .get)).getLast?).map Exchange.outcome

namespace Client

variable (c : Client) (base path : String) (w : Surroundings)
variable (tokens reads : Nat → Except Fault String)

theorem issues_saidOfIssue (d : List Said) :
    issues (d ++ [c.saidOfIssue base w d]) = issues d + 1 := by
  rw [issues, exchanges_append, List.countP_append]
  rfl

theorem issuedBy_replying (d : List Said) :
    c.issuedBy base (w.replying tokens reads) d = tokens (issues d + 1) := rfl

theorem readFrom_replying (d : List Said) (token : Option String) :
    c.readFrom base path (w.replying tokens reads) d token = reads (issues d) := by
  cases token <;> rfl

/-- The verdict of an attempt by its two outcomes: the first decides if it denies a
    token, and otherwise the second. -/
def verdictOf (token body : Except Fault String) : Verdict (Option String) :=
  match ofTokenOutcome token with
  | .error failure => .fatal failure
  | .ok _ => ofReadOutcome body

theorem attempt_replying (d : List Said) :
    ∃ e, issues e = issues d + 1 ∧
      (c.attempt base path).among (w.replying tokens reads) d =
        (verdictOf (tokens (issues d + 1)) (reads (issues d + 1)), e) := by
  rw [verdictOf]
  have hissues := c.issues_saidOfIssue base (w.replying tokens reads) d
  have hissued := c.issuedBy_replying base w tokens reads d
  cases htoken : ofTokenOutcome (tokens (issues d + 1)) with
  | error failure =>
      refine ⟨_, hissues, c.attempt_of_refused base path _ d ?_⟩
      rw [hissued, htoken]
  | ok token =>
      have hrun := c.attempt_of_token base path _ d (hissued.symm ▸ htoken)
      rw [c.readFrom_replying base path w tokens reads, hissues] at hrun
      refine ⟨_, ?_, hrun⟩
      -- The read is no request for a token, so it is not counted.
      rw [issues, exchanges_append, List.countP_append]
      have hread : List.countP (fun e : Exchange => e.request.method = .put)
          (exchanges [c.saidOfRead base path (w.replying tokens reads)
            (d ++ [c.saidOfIssue base (w.replying tokens reads) d]) token]) = 0 := by
        cases token <;> rfl
      rw [hread]
      exact hissues

-- What is foretold of an attempt, in terms of what a client makes of outcomes.
theorem attemptsFrom_eq (N i : Nat) :
    attemptsFrom tokens reads N i =
      match verdictOf (tokens i) (reads i) with
      | .settled value => .ok value
      | .fatal failure => .error failure
      | .again cause =>
        if i < N then attemptsFrom tokens reads N (i + 1) else .error (.exhausted N cause) := by
  rw [attemptsFrom]
  split
  · next h => simp [h, verdictOf, ofTokenOutcome]
  · next h => simp [h, verdictOf, ofTokenOutcome, Fault.isFatal]
  · next h => simp [h, verdictOf, ofTokenOutcome, Fault.isFatal]
  · next hstatus hclosed hinvalid =>
    cases htoken : ofTokenOutcome (tokens i) with
    | error failure =>
        rcases denied_iff.2 ⟨failure, htoken⟩ with h | h | ⟨text, h⟩
        · exact absurd h hstatus
        · exact absurd h hclosed
        · exact absurd h (hinvalid text)
    | ok token =>
        simp only [verdictOf, htoken]
        split
        · next h => simp [h, ofReadOutcome]
        · next h => simp [h, ofReadOutcome, Fault.isNotFound]
        · next h => simp [h, ofReadOutcome, Fault.isNotFound, Fault.isFatal]
        · next h => simp [h, ofReadOutcome, Fault.isNotFound, Fault.isFatal]
        · next fault h404 hclosed' hinvalid' h =>
          have hagain : ofReadOutcome (reads i) = .again fault :=
            again_iff.2 ⟨h, fun e => h404 e, fun e => hclosed' e, fun text e => hinvalid' text e⟩
          rw [hagain]

/-- The retry loop comes to what is foretold from its next attempt on. -/
theorem retryFrom_replying (b : Backoff) (left : Nat) (d : List Said)
    (h : b.attempts = issues d + 1 + left) :
    ((b.retryFrom Plan.pause (c.attempt base path) (left + 1)).among
        (w.replying tokens reads) d).1 =
      attemptsFrom tokens reads b.attempts (issues d + 1) := by
  -- On the attempts that are left; the number of the next one is counted in `d`.
  induction left generalizing d with
  | zero =>
      rcases attempt_replying c base path w tokens reads d with ⟨e, -, hrun⟩
      rw [retryFrom_of_stop c base path _ b hrun (fun _ _ => rfl), attemptsFrom_eq]
      have hlast : ¬ issues d + 1 < b.attempts := by omega
      cases verdictOf (tokens (issues d + 1)) (reads (issues d + 1)) with
      | settled value => rfl
      | fatal failure => rfl
      | again cause => exact (if_neg hlast).symm
  | succ left ih =>
      rcases attempt_replying c base path w tokens reads d with ⟨e, hissues, hrun⟩
      rw [attemptsFrom_eq]
      have hmore : issues d + 1 < b.attempts := by omega
      cases hverdict : verdictOf (tokens (issues d + 1)) (reads (issues d + 1)) with
      | settled value =>
          rw [hverdict] at hrun
          rw [retryFrom_of_stop c base path _ b hrun (fun _ h => nomatch h)]
          rfl
      | fatal failure =>
          rw [hverdict] at hrun
          rw [retryFrom_of_stop c base path _ b hrun (fun _ h => nomatch h)]
          rfl
      | again cause =>
          rw [hverdict] at hrun
          -- The pause is no exchange, so the next attempt has the next number.
          have hpause : issues (e ++ [⟨.pause (b.pause (left + 2)), ()⟩]) = issues d + 1 := by
            rw [issues, exchanges_append, ← hissues, issues]
            exact congrArg _ (List.append_nil _)
          rw [retryFrom_of_again c base path _ b hrun, ih _ (by omega), hpause]
          exact (if_pos hmore).symm

end Client

/-! ### The last read -/

/-- The read of a round, if there is one. -/
def Round.reads : Round → List Exchange
  | refused _ => []
  | read _ body => [body]

theorem Round.filter_exchanges {c : Client} {base path : String} {r : Round}
    (h : r.Conforms c base path) :
    r.exchanges.filter (fun e => e.request.method = .get) = r.reads := by
  cases r with
  | refused issue =>
      have hput : issue.request.method ≠ .get := by
        rw [h.1.method]
        decide
      simp [Round.exchanges, Round.reads, hput]
  | read issue body =>
      have hput : issue.request.method ≠ .get := by
        rw [h.1.method]
        decide
      have hget : body.request.method = .get := h.2.2.method
      simp [Round.exchanges, Round.reads, hput, hget]

theorem lastRead_of_follows {c : Client} {base path : String} {budget : Nat} {said : List Said}
    {init : List Round} {last : Round} (h : Follows c base path budget said init last) :
    lastRead said = (init.flatMap Round.reads ++ last.reads).getLast?.map Exchange.outcome := by
  have hfilter : ∀ rounds : List Round, (∀ r ∈ rounds, r.Conforms c base path) →
      (rounds.flatMap Round.exchanges).filter (fun e => e.request.method = .get) =
        rounds.flatMap Round.reads := by
    intro rounds hrounds
    induction rounds with
    | nil => rfl
    | cons r rounds ih =>
        rw [List.flatMap_cons, List.flatMap_cons, List.filter_append,
          Round.filter_exchanges (hrounds r List.mem_cons_self),
          ih (fun r hr => hrounds r (List.mem_cons_of_mem _ hr))]
  rw [lastRead, h.exchanges_eq, hfilter _ h.conforms, List.flatMap_append, List.flatMap_cons,
    List.flatMap_nil, List.append_nil]

theorem Client.settled_none_iff {outcome : Except Fault String} :
    ofReadOutcome outcome = .settled none ↔ outcome = .error (.status 404) := by
  cases outcome with
  | ok body => simp [ofReadOutcome]
  | error fault =>
      simp only [ofReadOutcome, Except.error.injEq, ← Fault.isNotFound_iff]
      cases fault.isNotFound <;> cases fault.isFatal <;> simp

theorem Verdict.conclude_eq_ok_iff {α : Type} {attempts : Nat} {verdict : Verdict α} {value : α} :
    verdict.conclude attempts = .ok value ↔ verdict = .settled value := by
  cases verdict <;> simp [Verdict.conclude]

/-- A row of rounds ends in an absence exactly if its last read was not found. -/
theorem conclude_eq_none_iff {c : Client} {base path : String} {budget attempts : Nat}
    {said : List Said} {init : List Round} {last : Round} {verdict : Verdict (Option String)}
    (h : Follows c base path budget said init last) (hto : last.ComesTo verdict) :
    verdict.conclude attempts = .ok none ↔ lastRead said = some (.error (.status 404)) := by
  rw [lastRead_of_follows h, Verdict.conclude_eq_ok_iff]
  cases hto with
  | read issue body =>
      rw [Client.settled_none_iff, Round.reads, List.getLast?_concat, Option.map_some,
        Option.some.injEq]
  | refused issue failure hfailure =>
      -- The last read is one of a round that went on, so it was found.
      rw [Round.reads, List.append_nil]
      constructor
      · intro hverdict
        cases hverdict
      · intro hlast
        rcases Option.map_eq_some_iff.1 hlast with ⟨e, he, houtcome⟩
        rcases List.mem_flatMap.1 (List.mem_of_getLast? he) with ⟨r, hr, her⟩
        have hgoes := h.goesOn r hr
        cases r with
        | refused issue => cases her
        | read issue body =>
            rw [Round.reads, List.mem_singleton] at her
            subst her
            rcases hgoes with ⟨fault, hfault, h404, -, -⟩
            rw [houtcome, Except.error.injEq] at hfault
            exact absurd hfault.symm h404

/-! ### Whole fetches -/

theorem lastRead_of_exchanges_eq {d e : List Said} (h : exchanges d = exchanges e) :
    lastRead d = lastRead e := by
  rw [lastRead, lastRead, h]

theorem lastRead_of_silent {d : List Said} (h : exchanges d = []) : lastRead d = none := by
  rw [lastRead, h]
  rfl

-- Without a refusal to start, a fetch answers that there is no value exactly if its last read
-- was not found.
theorem Client.fetchBody_eq_none_iff (c : Client) (path : String) (n : Nat) (w : Surroundings)
    {d : List Said} (hd : exchanges d = []) :
    ((c.fetchBody path n).among w d).1 = .ok none ↔
      lastRead ((c.fetchBody path n).among w d).2 = some (.error (.status 404)) := by
  rcases c.fetchBody_among path w n d with ⟨failure, e, hfail, he, -⟩ |
    ⟨base, opened, -, hopened, hbody⟩
  · rw [hfail, lastRead_of_silent (he.trans hd)]
    simp
  · cases n with
    | zero =>
        rw [hbody]
        change Except.error Failure.unreachable = .ok none ↔ lastRead opened = _
        rw [lastRead_of_silent (hopened.trans hd)]
        simp
    | succ m =>
        rcases retryFrom_among c base path w { c.settings.backoff with attempts := m + 1 } m opened
          with ⟨said, init, last, verdict, hrun, hfollows, hto, -⟩
        have hsaid : exchanges (opened ++ said) = exchanges said := by
          rw [exchanges_append, hopened, hd, List.nil_append]
        rw [hbody, Backoff.retry, hrun, lastRead_of_exchanges_eq hsaid]
        exact conclude_eq_none_iff hfollows hto

-- The switch stops an operation by a failure of the configuration or because metadata is off.
theorem pass_among (g : Gate) (w : Surroundings) (d : List Said) :
    g.pass.among w d = match g.isDisabled.among w d with
      | (.error failure, e) => (.error failure, e)
      | (.ok true, e) => (.error .disabled, e)
      | (.ok false, e) => (.ok (), e) := by
  rcases h : g.isDisabled.among w d with ⟨result, e⟩
  cases result with
  | error failure => exact Act.among_bind_error h
  | ok off =>
      rw [Gate.pass, Act.among_bind_ok h]
      cases off <;> rfl

theorem configuration_of_isDisabled {g : Gate} {w : Surroundings} {d : List Said}
    {failure : Failure} (h : (g.isDisabled.among w d).1 = .error failure) :
    ∃ text, failure = .configuration text := by
  cases g with
  | environment =>
      change Gate.read (w d (.setting Gate.disabledVariable)) = .error failure at h
      unfold Gate.read at h
      split at h
      · cases h
      · simp only [] at h
        split at h
        · cases h
        · split at h
          · cases h
          · cases h
            exact ⟨_, rfl⟩
  | flag =>
      change Except.ok (w d .flag) = .error failure at h
      cases h

-- A provider complains about the configuration, if about anything.
theorem Address.configuration_of_ofAnswer {answer : Except String String} {failure : Failure}
    (h : Address.ofAnswer answer = .error failure) : ∃ text, failure = .configuration text := by
  cases answer with
  | ok base => cases h
  | error complaint =>
      cases h
      exact ⟨complaint, rfl⟩

theorem configuration_of_resolve {a : Address} {w : Surroundings} {d : List Said}
    {failure : Failure} (h : (a.resolve.among w d).1 = .error failure) :
    ∃ text, failure = .configuration text := by
  cases a with
  | fixed base => cases h
  | environment =>
      have hendpoint := Act.among_lift w (Plan.setting Address.endpointVariable) d
      rw [Address.resolve, Act.among_bind_ok hendpoint] at h
      split at h
      · cases h
      · rw [Act.among_bind_ok (Act.among_lift w (Plan.setting Address.modeVariable) _),
          Act.among_ofExcept] at h
        unfold Address.ofMode at h
        split at h
        · cases h
        · split at h
          · cases h
          · split at h
            · cases h
            · cases h
              exact ⟨_, rfl⟩
  | provided name hname answer =>
      rw [Address.resolve, Act.among_bind_ok (Act.among_lift w (Plan.setting name) d),
        Act.among_ofExcept] at h
      exact Address.configuration_of_ofAnswer h

-- What a fetch of a body comes to, and that it requests nothing if it ends early.
theorem Client.fetchBody_replying (c : Client) (path : String) (n : Nat) (w : Surroundings)
    (tokens reads : Nat → Except Fault String) {d e e' : List Said}
    {isOff : Except Failure Bool} {base : Except Failure String} (hd : exchanges d = [])
    (hoff : c.settings.gate.isDisabled.among (w.replying tokens reads) d = (isOff, e))
    (hbase : c.settings.address.resolve.among (w.replying tokens reads) e = (base, e')) :
    ((c.fetchBody path n).among (w.replying tokens reads) d).1 =
        foretold isOff base tokens reads n ∧
      (isOff ≠ .ok false ∨ (∃ failure, base = .error failure) ∨ n = 0 →
        exchanges ((c.fetchBody path n).among (w.replying tokens reads) d).2 = []) := by
  have he : exchanges e = [] := by
    have h := silent_isDisabled c.settings.gate (w.replying tokens reads) d
    rwa [hoff, hd] at h
  have he' : exchanges e' = [] := by
    have h := silent_resolve c.settings.address (w.replying tokens reads) e
    rwa [hbase, he] at h
  have hpass := pass_among c.settings.gate (w.replying tokens reads) d
  rw [hoff] at hpass
  rcases isOff with failure | _ | _
  · rw [fetchBody, Act.among_bind_error hpass]
    exact ⟨rfl, fun _ => he⟩
  · rw [fetchBody, Act.among_bind_ok hpass]
    cases base with
    | error failure =>
        rw [Act.among_bind_error hbase]
        exact ⟨rfl, fun _ => he'⟩
    | ok base =>
        rw [Act.among_bind_ok hbase]
        cases n with
        | zero => exact ⟨rfl, fun _ => he'⟩
        | succ m =>
            have hissues : issues e' = 0 := by
              rw [issues, he']
              rfl
            have hrun := retryFrom_replying c base path w tokens reads
              { c.settings.backoff with attempts := m + 1 } m e'
              (by rw [hissues, Nat.zero_add, Nat.add_comm])
            rw [hissues] at hrun
            refine ⟨?_, ?_⟩
            · rw [foretold, if_neg (Nat.succ_ne_zero m)]
              exact hrun
            · rintro (h | ⟨failure, h⟩ | h)
              · exact absurd rfl h
              · cases h
              · cases h
  · rw [fetchBody, Act.among_bind_error hpass]
    exact ⟨rfl, fun _ => he⟩

-- Only the read of the last attempt is reported as what used a budget up.
theorem cause_of_exhausted {tokens reads : Nat → Except Fault String} {N i n : Nat}
    {cause : Fault} (hi : i ≤ N) (h : attemptsFrom tokens reads N i = .error (.exhausted n cause)) :
    n = N ∧ reads N = .error cause := by
  fun_induction attemptsFrom tokens reads N i with
  | case8 i fault _ _ _ hread hmore _ _ _ ih => exact ih hmore h
  | case9 i fault _ _ _ hread hlast =>
      -- The attempts are used up at the last one only.
      have hN : i = N := by omega
      cases h
      exact ⟨rfl, hN ▸ hread⟩
  | _ => cases h

theorem cause_of_foretold {isOff : Except Failure Bool} {base : Except Failure String}
    {tokens reads : Nat → Except Fault String} {N n : Nat} {cause : Fault}
    (hoff : ∀ failure, isOff = .error failure → ∃ text, failure = .configuration text)
    (hbase : ∀ failure, base = .error failure → ∃ text, failure = .configuration text)
    (h : foretold isOff base tokens reads N = .error (.exhausted n cause)) :
    n = N ∧ reads N = .error cause := by
  unfold foretold at h
  split at h
  · rcases hoff _ rfl with ⟨text, rfl⟩
    cases h
  · cases h
  · rcases hbase _ rfl with ⟨text, rfl⟩
    cases h
  · by_cases hN : N = 0
    · rw [if_pos hN] at h
      cases h
    · rw [if_neg hN] at h
      exact cause_of_exhausted (Nat.one_le_iff_ne_zero.2 hN) h

theorem Client.fetchDocument_eq_none_iff (c : Client) (path : String) (w : Surroundings) :
    ((c.fetchDocument path).among w []).1 = .ok none ↔
      lastRead ((c.fetchDocument path).among w []).2 = some (.error (.status 404)) := by
  rw [fetchDocument_among, fetchItems_among]
  rw [← c.fetchBody_eq_none_iff path c.attempts w exchanges_nil]
  cases ((c.fetchBody path c.attempts).among w []).1 with
  | error failure => simp [Except.map]
  | ok body => simp [Except.map, head_items_true]

theorem Client.fetchValueWith_eq_none_iff (c : Client) (path : String) (force : Bool) (n : Nat)
    (w : Surroundings) :
    ((c.fetchValueWith path force n).among w []).1 = .ok none ↔
      lastRead ((c.fetchValueWith path force n).among w []).2 = some (.error (.status 404)) := by
  rcases fetchValueWith_among c path force n w [] with ⟨failure, e, h, he⟩ |
    ⟨value, e, h, he, -⟩ | ⟨e, -, he, h⟩
  · rw [h, lastRead_of_silent he]
    simp
  · rw [h, lastRead_of_silent he]
    simp
  · rcases fetchAndStore_among c path n w e with ⟨hresult, -, hexch⟩
    rw [h, hresult, lastRead_of_exchanges_eq hexch]
    exact c.fetchBody_eq_none_iff path n w he

/-- What every fetch comes to. First the switch and the base decide, each with a failure
    of the configuration if it cannot be read, and then a budget of none; nothing was
    requested by then. After that it is the outcomes, attempt by attempt. Only a failed
    read can be reported as what used the budget up, and it is the read of the last
    attempt. A fetch answers that there is no value if and only if its last read was
    answered with status 404. -/
theorem fetch_comes_to_foretold (c : Client) (path : String) (force whole : Bool) (N : Nat)
    (w : Surroundings) (tokens reads : Nat → Except Fault String) :
    let v := w.replying tokens reads
    let isOff := c.settings.gate.isDisabled.among v []
    let base := c.settings.address.resolve.among v isOff.2
    let fetch := (c.fetchItems path N whole).among v []
    fetch.1 = (foretold isOff.1 base.1 tokens reads N).map (Option.map (Client.items whole)) ∧
    (isOff.1 ≠ .ok false ∨ (∃ failure, base.1 = .error failure) ∨ N = 0 →
      exchanges fetch.2 = []) ∧
    (∀ failure, isOff.1 = .error failure → ∃ text, failure = .configuration text) ∧
    (∀ failure, base.1 = .error failure → ∃ text, failure = .configuration text) ∧
    (∀ n cause, fetch.1 = .error (.exhausted n cause) → n = N ∧ reads N = .error cause) ∧
    (((c.fetchDocument path).among w []).1 = .ok none ↔
      lastRead ((c.fetchDocument path).among w []).2 = some (.error (.status 404))) ∧
    (((c.fetchValueWith path force N).among w []).1 = .ok none ↔
      lastRead ((c.fetchValueWith path force N).among w []).2 = some (.error (.status 404))) := by
  intro v isOff base fetch
  have hbody : ((c.fetchBody path N).among v []).1 = foretold isOff.1 base.1 tokens reads N ∧
      (isOff.1 ≠ .ok false ∨ (∃ failure, base.1 = .error failure) ∨ N = 0 →
        exchanges ((c.fetchBody path N).among v []).2 = []) :=
    c.fetchBody_replying path N w tokens reads exchanges_nil rfl rfl
  rcases hbody with ⟨hresult, hsilent⟩
  have hfetch : fetch = (((c.fetchBody path N).among v []).1.map (Option.map (Client.items whole)),
      ((c.fetchBody path N).among v []).2) := c.fetchItems_among path N whole v []
  have hoff : ∀ failure, isOff.1 = .error failure → ∃ text, failure = .configuration text :=
    fun _ h => configuration_of_isDisabled h
  have hbase : ∀ failure, base.1 = .error failure → ∃ text, failure = .configuration text :=
    fun _ h => configuration_of_resolve h
  refine ⟨?_, ?_, hoff, hbase, ?_, c.fetchDocument_eq_none_iff path w,
    c.fetchValueWith_eq_none_iff path force N w⟩
  · rw [hfetch, hresult]
  · rw [hfetch]
    exact hsilent
  · intro n cause h
    rw [hfetch, hresult] at h
    -- Splitting a body into items does not touch a failure.
    have hforetold : foretold isOff.1 base.1 tokens reads N = .error (.exhausted n cause) := by
      cases hf : foretold isOff.1 base.1 tokens reads N with
      | error failure =>
          rw [hf] at h
          cases h
          rfl
      | ok body =>
          rw [hf] at h
          cases h
    exact cause_of_foretold hoff hbase hforetold

end Imds
