import Imds.Client
import Imds.Proofs.Blocking.Likeness
import Imds.Proofs.Dialogue

/-!
# The Rounds of a Fetch

What the service sees of a fetch is a row of requests. The statements here group
that row into rounds, one for each attempt: a request for a token, and the read
that follows it unless the answer to the first request forbids one.

A round says nothing about how a client builds its requests. `Conforms` states what
each of them has to look like on the wire, method, URL and token headers, in terms
of the answer that the same round got to its request for a token. A token of an
earlier round has no place to come from: the condition on a read mentions its own
round only.

`Follows` collects what holds of the row as a whole. All requests go to one base;
there are no more rounds than the budget has attempts; every round but the last
ended in a fault that is worth another attempt, so that a refusal is the last thing
a service hears. No variable of the environment is read once the first request is
out, which is why the base cannot change under a running fetch.

The dialogue of the retry loop is described by induction on the attempts that are
left. Everything else in a fetch asks settings and caches and sends nothing.

## Main definitions

* `Round`: One attempt as the service sees it.
* `Denied`, `Transient`: Outcomes after which no read goes out, and after which
  another attempt may.
* `Request.tokens`: The values of all token headers of a request.
* `Round.Conforms`: What the requests of a round look like.
* `Round.ComesTo`: What a round means to the fetch.
* `Follows`: What a row of rounds looks like.
* `KeepsProtocol`: A dialogue in which a fetch keeps to its rounds.
* `MakesRounds`: A dialogue in which a fetch makes rounds once its base is found.

## Theorems

* `attempt_among`: An attempt is a round.
* `retryFrom_among`: The retry loop is a row of rounds.
* `fetchBody_among`: The three ways a fetch can go.
* `requests_form_rounds`: The requests of every fetch form rounds, for tasks and for threads.
-/

namespace Imds

/-- The answer forbids to go on: the service refused, or the channel is closed, or
    the request cannot be put on the wire. -/
def Denied (outcome : Except Fault String) : Prop :=
  outcome = .error (.status 400) ∨ outcome = .error .closed ∨
    ∃ text, outcome = .error (.invalidRequest text)

/-- The read failed in a way that another attempt may mend. -/
def Transient (outcome : Except Fault String) : Prop :=
  ∃ fault, outcome = .error fault ∧ fault ≠ .status 404 ∧ fault ≠ .closed ∧
    ∀ text, fault ≠ .invalidRequest text

/-- The tokens that an answer issues: the one that it is, or none. -/
def issued : Except Fault String → List String
  | .ok token => [token]
  | .error _ => []

/-- The values of all headers of a request that carry a token. -/
def Request.tokens (r : Request) : List String :=
  (r.headers.filter (fun h => Text.sameFolded h.1 "x-aws-ec2-metadata-token")).map Prod.snd

/-- One attempt as the service sees it. -/
inductive Round where
  /-- The request for a token was answered in a way that ended the fetch. -/
  | refused (issue : Exchange)
  /-- A read followed. -/
  | read (issue body : Exchange)

namespace Round

/-- The exchanges of a round. -/
def exchanges : Round → List Exchange
  | refused issue => [issue]
  | read issue body => [issue, body]

/-- A request for a token: it carries none. -/
structure IsIssue (c : Client) (base : String) (e : Exchange) : Prop where
  channel : e.channel = c.channel
  method : e.request.method = ⟨"PUT"⟩
  url : e.request.url = base ++ "/latest/api/token"
  lifetime : e.request.header? "x-aws-ec2-metadata-token-ttl-seconds" =
    some (toString c.settings.lifetime)
  tokens : e.request.tokens = []

/-- A read of a path with the tokens that it has to carry. -/
structure IsRead (c : Client) (base path : String) (tokens : List String) (e : Exchange) :
    Prop where
  channel : e.channel = c.channel
  method : e.request.method = ⟨"GET"⟩
  url : e.request.url = base ++ path
  tokens : e.request.tokens = tokens

/-- What the requests of a round look like. The read carries the token that was
    issued in the same round, once, and no token if none was issued. -/
def Conforms (c : Client) (base path : String) : Round → Prop
  | refused issue => IsIssue c base issue ∧ Denied issue.outcome
  | read issue body => IsIssue c base issue ∧ ¬ Denied issue.outcome ∧
      IsRead c base path (issued issue.outcome) body

/-- The round ended in a fault that another attempt may mend. -/
def GoesOn : Round → Prop
  | refused _ => False
  | read _ body => Transient body.outcome

/-- What a round means to the fetch. -/
inductive ComesTo : Round → Verdict (Option String) → Prop
  | refused (issue : Exchange) (failure : Failure)
      (h : Client.ofTokenOutcome issue.outcome = .error failure) :
      ComesTo (.refused issue) (.fatal failure)
  | read (issue body : Exchange) : ComesTo (.read issue body) (Client.ofReadOutcome body.outcome)

end Round

/-- What a fetch with a budget comes to when its last attempt came to a verdict. -/
def Verdict.conclude {α : Type} (attempts : Nat) : Verdict α → Except Failure α
  | settled value => .ok value
  | again cause => .error (.exhausted attempts cause)
  | fatal failure => .error failure

/-- What a row of rounds looks like: `init` and after them `last`. -/
structure Follows (c : Client) (base path : String) (budget : Nat) (said : List Said)
    (init : List Round) (last : Round) : Prop where
  exchanges_eq : exchanges said = (init ++ [last]).flatMap Round.exchanges
  length_le : (init ++ [last]).length ≤ budget
  conforms : ∀ r ∈ init ++ [last], r.Conforms c base path
  goesOn : ∀ r ∈ init, r.GoesOn
  unasked : ∀ e ∈ said, ∀ name, e.query ≠ .setting name

/-- Operations are allowed and the base is found, the dialogue being at `d` before
    that and at `opened` after it. -/
def Opens (c : Client) (w : Surroundings) (d : List Said) (base : String)
    (opened : List Said) : Prop :=
  ∃ e, c.settings.gate.pass.among w d = (.ok (), e) ∧
    c.settings.address.resolve.among w e = (.ok base, opened)

/-- Between `d` and `d'` nothing was requested, or the requests are those of a row of
    rounds, at a base that was found after `d` and before the first of them. -/
def KeepsProtocol (c : Client) (path : String) (budget : Nat) (w : Surroundings)
    (d d' : List Said) : Prop :=
  exchanges d' = exchanges d ∨ ∃ base start opened said init last,
    d <+: start ∧ Opens c w start base opened ∧ opened ++ said <+: d' ∧
      exchanges d' = exchanges d ++ exchanges said ∧ Follows c base path budget said init last

/-- Between `d` and `d'` a fetch with attempts makes a row of rounds, if it finds a base. -/
def MakesRounds (c : Client) (path : String) (budget : Nat) (w : Surroundings)
    (d d' : List Said) : Prop :=
  ∀ base opened, Opens c w d base opened → 0 < budget →
    ∃ said init last, d' = opened ++ said ∧ Follows c base path budget said init last

/-! ### What sends nothing -/

/-- An act that makes no request, whatever it is told. -/
def Act.Silent {α : Type} (a : Act α) : Prop :=
  ∀ w d, exchanges (a.among w d).2 = exchanges d

section Silence

variable {α β : Type}

theorem silent_pure (value : α) : (pure value : Act α).Silent := fun _ _ => rfl

theorem silent_throw (f : Failure) : (throw f : Act α).Silent := fun _ _ => rfl

theorem silent_ofExcept (r : Except Failure α) : (Act.ofExcept r).Silent := fun _ _ => rfl

-- A query that is no request can be put without breaking the silence.
theorem silent_ask {query : Query} (h : ∀ a, Said.exchange? ⟨query, a⟩ = none) :
    (liftM (Plan.ask query Plan.done) : Act query.Answer).Silent := by
  intro w d
  rw [Act.among_lift, Plan.among_ask]
  change exchanges (d ++ [⟨query, w d query⟩]) = exchanges d
  rw [exchanges_append, exchanges, exchanges, List.filterMap_cons, h, List.filterMap_nil,
    List.append_nil]

theorem silent_bind {a : Act α} {f : α → Act β} (ha : a.Silent) (hf : ∀ v, (f v).Silent) :
    (a >>= f).Silent := by
  intro w d
  rcases hr : a.among w d with ⟨result, e⟩
  have he : exchanges e = exchanges d := by
    rw [← ha w d, hr]
  cases result with
  | error failure =>
      rw [Act.among_bind_error hr]
      exact he
  | ok value =>
      rw [Act.among_bind_ok hr, hf value w e]
      exact he

theorem silent_isDisabled (g : Gate) : g.isDisabled.Silent := by
  cases g with
  | environment => exact silent_bind (silent_ask (fun _ => rfl)) (fun _ => silent_ofExcept _)
  | flag => exact silent_ask (fun _ => rfl)

theorem silent_pass (g : Gate) : g.pass.Silent := by
  refine silent_bind (silent_isDisabled g) (fun off => ?_)
  cases off with
  | false => exact silent_pure ()
  | true => exact silent_throw .disabled

theorem silent_resolve (a : Address) : a.resolve.Silent := by
  cases a with
  | fixed base => exact silent_pure base
  | environment =>
      refine silent_bind (silent_ask (fun _ => rfl)) (fun value => ?_)
      cases Address.explicit value with
      | some base => exact silent_pure base
      | none => exact silent_bind (silent_ask (fun _ => rfl)) (fun _ => silent_ofExcept _)
  | provided name h answer =>
      exact silent_bind (silent_ask (fun _ => rfl)) (fun _ => silent_ofExcept _)

theorem silent_lookup (cache : Nat) (path : String) :
    (liftM (Plan.lookup cache path) : Act (Option String)).Silent :=
  silent_ask (fun _ => rfl)

theorem silent_store (cache : Nat) (path value : String) :
    (liftM (Plan.store cache path value) : Act Unit).Silent :=
  silent_ask (fun _ => rfl)

end Silence

/-! ### One attempt -/

namespace Request

theorem tokens_plain (method : Method) (url : String) : (plain method url).tokens = [] := rfl

theorem tokens_withHeader (r : Request) (name value : String) :
    (r.withHeader name value).tokens =
      r.tokens ++ if Text.sameFolded name tokenHeader then [value] else [] := by
  simp only [tokens, withHeader, List.filter_append, List.map_append]
  change _ ++ List.map Prod.snd (List.filter (fun h => Text.sameFolded h.1 tokenHeader)
    [(name, value)]) = _
  rw [List.filter_cons]
  cases Text.sameFolded name tokenHeader <;> rfl

theorem tokens_forToken (base : String) (lifetime : Nat) :
    (forToken base lifetime).tokens = [] := by
  have h : Text.sameFolded lifetimeHeader tokenHeader = false := by decide +kernel
  rw [forToken, tokens_withHeader, tokens_plain, h]
  rfl

theorem tokens_bare (base path : String) : (bare base path).tokens = [] := by
  have hagent : Text.sameFolded "User-Agent" tokenHeader = false := by decide +kernel
  have haccept : Text.sameFolded "Accept" tokenHeader = false := by decide +kernel
  have hconnection : Text.sameFolded "Connection" tokenHeader = false := by decide +kernel
  rw [bare, tokens_withHeader, tokens_withHeader, tokens_withHeader, tokens_plain, hagent,
    haccept, hconnection]
  rfl

-- A read carries its token in one header, or in none.
theorem tokens_forPath (base path : String) (token : Option String) :
    (forPath base path token).tokens = token.toList := by
  cases token with
  | none => exact tokens_bare base path
  | some t =>
      rw [forPath, tokens_withHeader, tokens_bare, Text.sameFolded_refl]
      rfl

theorem lifetime_forToken (base : String) (lifetime : Nat) :
    (forToken base lifetime).header? lifetimeHeader = some (toString lifetime) := by
  rw [forToken, header?_withHeader, header?_plain, Text.sameFolded_refl]
  rfl

end Request

namespace Client

-- A client gives up on a token exactly after the answers that deny it.
theorem denied_iff {outcome : Except Fault String} :
    Denied outcome ↔ ∃ failure, ofTokenOutcome outcome = .error failure := by
  cases outcome with
  | ok token => simp [Denied, ofTokenOutcome]
  | error fault =>
      by_cases hstatus : fault = .status 400
      · simp [Denied, ofTokenOutcome, hstatus]
      · cases hfatal : fault.isFatal with
        | true => simp [Denied, ofTokenOutcome, hstatus, hfatal, ← Fault.isFatal_iff]
        | false =>
            have hkind := mt Fault.isFatal_iff.2 (by rw [hfatal]; exact Bool.false_ne_true)
            simp [Denied, ofTokenOutcome, hstatus, hfatal, hkind]

-- A token that a client goes on with is the one it was given.
theorem token_of_ok {outcome : Except Fault String} {token : Option String}
    (h : ofTokenOutcome outcome = .ok token) :
    token.toList = issued outcome := by
  cases outcome with
  | ok t =>
      simp only [ofTokenOutcome, Except.ok.injEq] at h
      rw [← h]
      rfl
  | error fault =>
      simp only [ofTokenOutcome] at h
      split at h
      · cases h
      · split at h
        · cases h
        · cases h
          rfl

-- A client tries again after the faults that are not fatal and not an absence.
theorem again_iff {outcome : Except Fault String} {cause : Fault} :
    ofReadOutcome outcome = .again cause ↔ outcome = .error cause ∧ cause ≠ .status 404 ∧
      cause ≠ .closed ∧ ∀ text, cause ≠ .invalidRequest text := by
  cases outcome with
  | ok body => simp [ofReadOutcome]
  | error fault =>
      simp only [ofReadOutcome, Except.error.injEq]
      constructor
      · intro h
        split at h
        · cases h
        · next hfound =>
          split at h
          · cases h
          · next hfatal =>
            cases h
            have hkind := mt Fault.isFatal_iff.2 hfatal
            simp only [not_or, not_exists] at hkind
            exact ⟨rfl, mt Fault.isNotFound_iff.2 hfound, hkind.1, hkind.2⟩
      · intro h
        rcases h with ⟨rfl, h404, hclosed, hinvalid⟩
        rw [if_neg (mt Fault.isNotFound_iff.1 h404), if_neg]
        intro hfatal
        rcases Fault.isFatal_iff.1 hfatal with h | ⟨text, h⟩
        · exact hclosed h
        · exact hinvalid text h

theorem transient_iff {outcome : Except Fault String} :
    Transient outcome ↔ ∃ cause, ofReadOutcome outcome = .again cause := by
  simp only [Transient, again_iff]

variable (c : Client) (base path : String) (w : Surroundings) (d : List Said)

/-- What the service says to the request for a token. -/
def issuedBy : Except Fault String := w d (.send c.channel (.forToken base c.settings.lifetime))

/-- That request and its answer, as a part of the dialogue. -/
def saidOfIssue : Said :=
  ⟨.send c.channel (.forToken base c.settings.lifetime), c.issuedBy base w d⟩

/-- What the service says to the read. -/
def readFrom (token : Option String) : Except Fault String :=
  w d (.send c.channel (.forPath base path token))

/-- The read and its answer, as a part of the dialogue. -/
def saidOfRead (token : Option String) : Said :=
  ⟨.send c.channel (.forPath base path token), c.readFrom base path w d token⟩

theorem acquireToken_among :
    (acquireToken c.channel base c.settings.lifetime).outcome.among w d =
      (ofTokenOutcome (c.issuedBy base w d), d ++ [c.saidOfIssue base w d]) := rfl

theorem attempt_of_refused {failure : Failure}
    (h : ofTokenOutcome (c.issuedBy base w d) = .error failure) :
    (c.attempt base path).among w d = (.fatal failure, d ++ [c.saidOfIssue base w d]) := by
  rw [attempt, Plan.among_bind, acquireToken_among, h]
  rfl

theorem attempt_of_token {token : Option String}
    (h : ofTokenOutcome (c.issuedBy base w d) = .ok token) :
    (c.attempt base path).among w d =
      (ofReadOutcome (c.readFrom base path w (d ++ [c.saidOfIssue base w d]) token),
        d ++ [c.saidOfIssue base w d] ++
          [c.saidOfRead base path w (d ++ [c.saidOfIssue base w d]) token]) := by
  rw [attempt, Plan.among_bind, acquireToken_among, h]
  rfl

/-- An attempt is a round that conforms, and the verdict is the round's. -/
theorem attempt_among : ∃ (said : List Said) (round : Round) (verdict : Verdict (Option String)),
    (c.attempt base path).among w d = (verdict, d ++ said) ∧
      exchanges said = round.exchanges ∧ round.Conforms c base path ∧ round.ComesTo verdict ∧
      ∀ e ∈ said, ∀ name, e.query ≠ .setting name := by
  have hissue : Round.IsIssue c base
      ⟨c.channel, .forToken base c.settings.lifetime, c.issuedBy base w d⟩ :=
    ⟨rfl, rfl, rfl, Request.lifetime_forToken base _, Request.tokens_forToken base _⟩
  cases htoken : ofTokenOutcome (c.issuedBy base w d) with
  | error failure =>
      refine ⟨[c.saidOfIssue base w d], .refused _, .fatal failure,
        attempt_of_refused c base path w d htoken, rfl, ⟨hissue, ?_⟩, .refused _ failure htoken, ?_⟩
      · exact denied_iff.2 ⟨failure, htoken⟩
      · intro e he name
        rw [List.mem_singleton.1 he]
        exact Query.noConfusion
  | ok token =>
      refine ⟨[c.saidOfIssue base w d,
          c.saidOfRead base path w (d ++ [c.saidOfIssue base w d]) token], .read _ _, _,
        (attempt_of_token c base path w d htoken).trans ?_, rfl, ⟨hissue, ?_, ?_⟩, .read _ _, ?_⟩
      · rw [List.append_assoc, List.singleton_append]
      · intro hdenied
        rcases denied_iff.1 hdenied with ⟨failure, hfailure⟩
        rw [htoken] at hfailure
        cases hfailure
      · refine ⟨rfl, ?_, ?_, ?_⟩
        · exact Request.method_forPath base path token
        · exact Request.url_forPath base path token
        · rw [Request.tokens_forPath, token_of_ok htoken]
      · intro e he name
        rcases List.mem_cons.1 he with rfl | he
        · exact Query.noConfusion
        · rw [List.mem_singleton.1 he]
          exact Query.noConfusion

end Client

/-! ### The retry loop -/

namespace Follows

variable {c : Client} {base path : String} {said : List Said} {round : Round}

-- A row of one round.
theorem single (hsaid : exchanges said = round.exchanges) (hround : round.Conforms c base path)
    (hasks : ∀ e ∈ said, ∀ name, e.query ≠ .setting name) {budget : Nat} (hpos : 0 < budget) :
    Follows c base path budget said [] round := by
  refine ⟨?_, hpos, ?_, ?_, hasks⟩
  · rw [hsaid, List.nil_append, List.flatMap_cons, List.flatMap_nil, List.append_nil]
  · intro r hr
    rw [List.mem_singleton.1 hr]
    exact hround
  · intro r hr
    cases hr

-- A round that goes on, a pause, and a row.
theorem cons (hsaid : exchanges said = round.exchanges) (hround : round.Conforms c base path)
    (hasks : ∀ e ∈ said, ∀ name, e.query ≠ .setting name) (hgoes : round.GoesOn)
    (length : Duration) {budget : Nat} {rest : List Said} {init : List Round} {last : Round}
    (h : Follows c base path budget rest init last) :
    Follows c base path (budget + 1) (said ++ [⟨.pause length, ()⟩] ++ rest) (round :: init)
      last := by
  refine ⟨?_, Nat.succ_le_succ h.length_le, ?_, ?_, ?_⟩
  · rw [exchanges_append, exchanges_append, hsaid, h.exchanges_eq]
    change round.exchanges ++ [] ++ _ = _
    rw [List.append_nil, List.cons_append, List.flatMap_cons]
  · intro r hr
    rcases List.mem_cons.1 hr with rfl | hr
    · exact hround
    · exact h.conforms r hr
  · intro r hr
    rcases List.mem_cons.1 hr with rfl | hr
    · exact hgoes
    · exact h.goesOn r hr
  · intro e he name
    rcases List.mem_append.1 he with he | he
    · rcases List.mem_append.1 he with he | he
      · exact hasks e he name
      · rw [List.mem_singleton.1 he]
        exact Query.noConfusion
    · exact h.unasked e he name

end Follows

-- A round after which the client tries again ended in a passing fault.
theorem Round.goesOn_of_again {round : Round} {cause : Fault} (h : round.ComesTo (.again cause)) :
    round.GoesOn := by
  generalize hverdict : Verdict.again cause = verdict at h
  cases h with
  | refused issue failure hfailure => cases hverdict
  | read issue body => exact Client.transient_iff.2 ⟨cause, hverdict.symm⟩

namespace Client

variable (c : Client) (base path : String) (w : Surroundings) (b : Backoff)

-- An attempt that is not repeated ends the loop with its verdict.
theorem retryFrom_of_stop {remaining : Nat} {d e : List Said} {verdict : Verdict (Option String)}
    (h : (c.attempt base path).among w d = (verdict, e))
    (hstop : ∀ cause, verdict = .again cause → remaining = 0) :
    (b.retryFrom Plan.pause (c.attempt base path) (remaining + 1)).among w d =
      (verdict.conclude b.attempts, e) := by
  rw [Backoff.retryFrom, Plan.among_bind, h]
  cases verdict with
  | settled value => rfl
  | fatal failure => rfl
  | again cause =>
      simp only [hstop cause rfl, if_true]
      rfl

-- An attempt that is repeated leaves the rest of the loop, after a pause.
theorem retryFrom_of_again {left : Nat} {d e : List Said} {cause : Fault}
    (h : (c.attempt base path).among w d = (.again cause, e)) :
    (b.retryFrom Plan.pause (c.attempt base path) (left + 2)).among w d =
      (b.retryFrom Plan.pause (c.attempt base path) (left + 1)).among w
        (e ++ [⟨.pause (b.pause (left + 2)), ()⟩]) := by
  rw [Backoff.retryFrom, Plan.among_bind, h]
  simp only [if_neg (Nat.succ_ne_zero left)]
  rw [Plan.among_bind]
  rfl

/-- The loop is a row of rounds, and what it comes to is the verdict of the last
    one. Only a row that uses the budget up ends in a round worth repeating. -/
theorem retryFrom_among (remaining : Nat) (d : List Said) :
    ∃ (said : List Said) (init : List Round) (last : Round) (verdict : Verdict (Option String)),
      (b.retryFrom Plan.pause (c.attempt base path) (remaining + 1)).among w d =
          (verdict.conclude b.attempts, d ++ said) ∧
        Follows c base path (remaining + 1) said init last ∧ last.ComesTo verdict ∧
        ∀ cause, verdict = .again cause → init.length = remaining := by
  -- On the attempts that are left: an attempt that goes on leaves a row for one less.
  induction remaining generalizing d with
  | zero =>
      rcases c.attempt_among base path w d with ⟨said, round, verdict, h, hsaid, hround, hto, hasks⟩
      exact ⟨said, [], round, verdict, retryFrom_of_stop c base path w b h (fun _ _ => rfl),
        .single hsaid hround hasks Nat.one_pos, hto, fun _ _ => rfl⟩
  | succ left ih =>
      rcases c.attempt_among base path w d with ⟨said, round, verdict, h, hsaid, hround, hto, hasks⟩
      by_cases hagain : ∃ cause, verdict = .again cause
      · rcases hagain with ⟨cause, rfl⟩
        have hgoes := Round.goesOn_of_again hto
        rcases ih (d ++ said ++ [⟨.pause (b.pause (left + 2)), ()⟩]) with
          ⟨rest, init, last, final, hrest, hfollows, hfinal, hlength⟩
        refine ⟨said ++ [⟨.pause (b.pause (left + 2)), ()⟩] ++ rest, round :: init, last, final, ?_,
          hfollows.cons hsaid hround hasks hgoes _, hfinal,
          fun cause hcause => congrArg Nat.succ (hlength cause hcause)⟩
        rw [retryFrom_of_again c base path w b h, hrest, List.append_assoc, List.append_assoc,
          List.append_assoc]
      · exact ⟨said, [], round, verdict,
          retryFrom_of_stop c base path w b h (fun cause hcause => absurd ⟨cause, hcause⟩ hagain),
          .single hsaid hround hasks (Nat.succ_pos _), hto,
          fun cause hcause => absurd ⟨cause, hcause⟩ hagain⟩

/-! ### Whole fetches -/

/-- The ways a fetch can go: its opening fails, or its retry loop runs. -/
theorem fetchBody_among (attempts : Nat) (d : List Said) :
    (∃ failure e, (c.fetchBody path attempts).among w d = (.error failure, e) ∧
        exchanges e = exchanges d ∧ ∀ base opened, ¬ Opens c w d base opened) ∨
      ∃ base opened, Opens c w d base opened ∧ exchanges opened = exchanges d ∧
        (c.fetchBody path attempts).among w d =
          (({ c.settings.backoff with attempts := attempts } : Backoff).retry Plan.pause
            (c.attempt base path)).among w opened := by
  rcases hpass : c.settings.gate.pass.among w d with ⟨result, e⟩
  have he : exchanges e = exchanges d := by
    rw [← silent_pass c.settings.gate w d, hpass]
  cases result with
  | error failure =>
      refine Or.inl ⟨failure, e, Act.among_bind_error hpass, he, ?_⟩
      intro base opened hpass
      rcases hpass with ⟨e', hpass', -⟩
      rw [hpass] at hpass'
      cases hpass'
  | ok _ =>
      rcases hresolve : c.settings.address.resolve.among w e with ⟨result, opened⟩
      have hopened : exchanges opened = exchanges d := by
        rw [← he, ← silent_resolve c.settings.address w e, hresolve]
      cases result with
      | error failure =>
          refine Or.inl ⟨failure, opened, ?_, hopened, ?_⟩
          · rw [fetchBody, Act.among_bind_ok hpass, Act.among_bind_error hresolve]
          · intro base opened' hopens
            rcases hopens with ⟨e', hpass', hresolve'⟩
            rw [hpass] at hpass'
            cases hpass'
            rw [hresolve] at hresolve'
            cases hresolve'
      | ok base =>
          refine Or.inr ⟨base, opened, ⟨e, hpass, hresolve⟩, hopened, ?_⟩
          rw [fetchBody, Act.among_bind_ok hpass, Act.among_bind_ok hresolve]
          rfl

-- Once the base is found, a fetch with a budget makes a row of rounds there.
theorem fetchBody_of_opens {c : Client} {base : String} {w : Surroundings} {n : Nat}
    {d opened : List Said} (path : String) (h : Opens c w d base opened) (hpos : 0 < n) :
    ∃ (said : List Said) (init : List Round) (last : Round),
      ((c.fetchBody path n).among w d).2 = opened ++ said ∧
        Follows c base path n said init last := by
  rcases c.fetchBody_among path w n d with ⟨_, _, _, _, hnot⟩ | ⟨base', opened', hopens, _, hbody⟩
  · exact absurd h (hnot base opened)
  · rcases h with ⟨e, hpass, hresolve⟩
    rcases hopens with ⟨e', hpass', hresolve'⟩
    rw [hpass] at hpass'
    cases hpass'
    rw [hresolve] at hresolve'
    cases hresolve'
    rcases Nat.exists_eq_succ_of_ne_zero (Nat.pos_iff_ne_zero.1 hpos) with ⟨m, rfl⟩
    rcases retryFrom_among c base path w { c.settings.backoff with attempts := m + 1 } m opened with
      ⟨said, init, last, verdict, hrun, hfollows, -, -⟩
    exact ⟨said, init, last, (congrArg Prod.snd hbody).trans (congrArg Prod.snd hrun), hfollows⟩

theorem keeps_fetchBody (c : Client) (path : String) (w : Surroundings) (n : Nat)
    (d : List Said) : KeepsProtocol c path n w d ((c.fetchBody path n).among w d).2 := by
  rcases c.fetchBody_among path w n d with ⟨_, e, hfail, he, _⟩ |
    ⟨base, opened, hopens, hexch, hbody⟩
  · rw [hfail]
    exact Or.inl he
  · cases n with
    | zero =>
        rw [hbody]
        exact Or.inl hexch
    | succ m =>
        rcases fetchBody_of_opens path hopens (Nat.succ_pos m) with
          ⟨said, init, last, hsaid, hfollows⟩
        rw [hsaid]
        refine Or.inr ⟨base, d, opened, said, init, last, List.prefix_rfl, hopens,
          List.prefix_rfl, ?_, hfollows⟩
        rw [exchanges_append, hexch]

-- Queries around a fetch that request nothing leave its rounds as they are.
theorem keepsProtocol_of_silent {c : Client} {path : String} {budget : Nat} {w : Surroundings}
    {d e e' d' : List Said} (h : KeepsProtocol c path budget w e e') (hbefore : d <+: e)
    (hsilent : exchanges e = exchanges d) (hafter : e' <+: d')
    (hsilent' : exchanges d' = exchanges e') : KeepsProtocol c path budget w d d' := by
  rcases h with h | ⟨base, start, opened, said, init, last, hstart, hopens, hsaid, hexch, hfollows⟩
  · exact Or.inl (hsilent'.trans (h.trans hsilent))
  · refine Or.inr ⟨base, start, opened, said, init, last, hbefore.trans hstart, hopens,
      hsaid.trans hafter, ?_, hfollows⟩
    rw [hsilent', hexch, hsilent]

theorem fetchItems_among (c : Client) (path : String) (n : Nat) (whole : Bool)
    (w : Surroundings) (d : List Said) :
    (c.fetchItems path n whole).among w d =
      (((c.fetchBody path n).among w d).1.map (Option.map (items whole)),
        ((c.fetchBody path n).among w d).2) :=
  Act.among_map w _ _ d

theorem keeps_fetchItems (c : Client) (path : String) (n : Nat) (whole : Bool)
    (w : Surroundings) (d : List Said) :
    KeepsProtocol c path n w d ((c.fetchItems path n whole).among w d).2 := by
  rw [fetchItems_among]
  exact keeps_fetchBody c path w n d

theorem makes_fetchItems (c : Client) (path : String) (n : Nat) (whole : Bool)
    (w : Surroundings) (d : List Said) :
    MakesRounds c path n w d ((c.fetchItems path n whole).among w d).2 := by
  intro base opened hopens hpos
  rw [fetchItems_among]
  exact fetchBody_of_opens path hopens hpos

theorem fetchDocument_among (c : Client) (path : String) (w : Surroundings) (d : List Said) :
    (c.fetchDocument path).among w d =
      (((c.fetchItems path c.attempts true).among w d).1.map (fun items => items.bind List.head?),
        ((c.fetchItems path c.attempts true).among w d).2) :=
  Act.among_map w _ _ d

-- The one item of a whole body is the body.
theorem head_items_true (body : Option String) :
    (body.map (items true)).bind List.head? = body := by
  cases body <;> rfl

/-- What a fetch of a value does once the cache did not answer. -/
def fetchAndStore (c : Client) (path : String) (n : Nat) : Act (Option String) := do
  let items ← c.fetchItems path n true
  match items.bind List.head? with
  | some value =>
    Plan.store c.settings.cache path value
    pure (some value)
  | none => pure none

-- It comes to the body, and only stores after the fetch.
theorem fetchAndStore_among (c : Client) (path : String) (n : Nat) (w : Surroundings)
    (d : List Said) :
    ((c.fetchAndStore path n).among w d).1 = ((c.fetchBody path n).among w d).1 ∧
      ((c.fetchBody path n).among w d).2 <+: ((c.fetchAndStore path n).among w d).2 ∧
      exchanges ((c.fetchAndStore path n).among w d).2 =
        exchanges ((c.fetchBody path n).among w d).2 := by
  have hitems := fetchItems_among c path n true w d
  rcases hbody : (c.fetchBody path n).among w d with ⟨result, e⟩
  rw [hbody] at hitems
  cases result with
  | error failure =>
      rw [fetchAndStore, Act.among_bind_error hitems]
      exact ⟨rfl, List.prefix_rfl, rfl⟩
  | ok body =>
      rw [fetchAndStore, Act.among_bind_ok hitems, head_items_true]
      cases body with
      | none => exact ⟨rfl, List.prefix_rfl, rfl⟩
      | some value =>
          refine ⟨rfl, ⟨[⟨.store c.settings.cache path value, ()⟩], rfl⟩, ?_⟩
          exact silent_bind (silent_store _ _ _) (fun _ => silent_pure _) w e

/-- What the cache knows of a path, if a fetch asks it. -/
def known (c : Client) (path : String) (force : Bool) : Act (Option String) :=
  if force then pure none else liftM (Plan.lookup c.settings.cache path)

theorem known_among (c : Client) (path : String) (force : Bool) (w : Surroundings)
    (d : List Said) : ∃ value e, (c.known path force).among w d = (.ok value, e) ∧
      exchanges e = exchanges d ∧ d <+: e ∧ (value ≠ none → force = false) := by
  cases force with
  | true => exact ⟨none, d, rfl, rfl, List.prefix_rfl, fun h => absurd rfl h⟩
  | false =>
      have hlookup := Act.among_lift w (Plan.lookup c.settings.cache path) d
      have hsilent := silent_lookup c.settings.cache path w d
      have hgrown := Act.among_prefix w
        (liftM (Plan.lookup c.settings.cache path) : Act (Option String)) d
      rw [hlookup] at hsilent hgrown
      exact ⟨_, _, hlookup, hsilent, hgrown, fun _ => rfl⟩

theorem fetchValueWith_eq (c : Client) (path : String) (force : Bool) (n : Nat) :
    c.fetchValueWith path force n = c.settings.gate.pass >>= fun _ =>
      c.known path force >>= fun known => match known with
        | some value => pure (some value)
        | none => c.fetchAndStore path n := by
  cases force <;> rfl

-- The ways a fetch of a value can go: the switch stops it, the cache answers, or, forced or
-- without an entry, it fetches and stores.
theorem fetchValueWith_among (c : Client) (path : String) (force : Bool) (n : Nat)
    (w : Surroundings) (d : List Said) :
    (∃ failure e, (c.fetchValueWith path force n).among w d = (.error failure, e) ∧
        exchanges e = exchanges d) ∨
      (∃ value e, (c.fetchValueWith path force n).among w d = (.ok (some value), e) ∧
        exchanges e = exchanges d ∧ force = false) ∨
      ∃ e, d <+: e ∧ exchanges e = exchanges d ∧
        (c.fetchValueWith path force n).among w d = (c.fetchAndStore path n).among w e := by
  rw [fetchValueWith_eq]
  rcases hpass : c.settings.gate.pass.among w d with ⟨result, e⟩
  have he : exchanges e = exchanges d := by
    rw [← silent_pass c.settings.gate w d, hpass]
  have hgrown : d <+: e := by
    have h := Act.among_prefix w c.settings.gate.pass d
    rwa [hpass] at h
  cases result with
  | error failure => exact Or.inl ⟨failure, e, Act.among_bind_error hpass, he⟩
  | ok _ =>
      rcases known_among c path force w e with ⟨value, e', hknown, he', hgrown', hforce⟩
      rw [Act.among_bind_ok hpass, Act.among_bind_ok hknown]
      cases value with
      | some value =>
          exact Or.inr (Or.inl ⟨value, e', rfl, he'.trans he, hforce (Option.some_ne_none value)⟩)
      | none => exact Or.inr (Or.inr ⟨e', hgrown.trans hgrown', he'.trans he, rfl⟩)

theorem keeps_fetchValueWith (c : Client) (path : String) (force : Bool) (n : Nat)
    (w : Surroundings) (d : List Said) :
    KeepsProtocol c path n w d ((c.fetchValueWith path force n).among w d).2 := by
  rcases fetchValueWith_among c path force n w d with ⟨_, e, h, he⟩ | ⟨_, e, h, he, -⟩ |
    ⟨e, hgrown, he, h⟩
  · rw [h]
    exact Or.inl he
  · rw [h]
    exact Or.inl he
  · rw [h]
    rcases fetchAndStore_among c path n w e with ⟨-, hafter, hsilent⟩
    exact keepsProtocol_of_silent (keeps_fetchBody c path w n e) hgrown he hafter hsilent

end Client

/-- The requests of every fetch of a client, whoever answers, form rounds at one base:
    each attempt asks for a token of its own, and reads with that token, without one,
    or not at all, as the answer has it. Once an uncached fetch has found its base it
    makes at least one round, unless it has no attempts. This is so for tasks and for
    threads, whatever happens between two queries of either. Carried out on the spot,
    driven as a task or carried out by a thread, a fetch has the dialogue it has with
    the site or the world it meets. -/
theorem requests_form_rounds (c : Client) (path : String) (force whole : Bool) (n : Nat)
    (w : Surroundings) (d : List Said) :
    (MakesRounds c path n w d ((c.fetchItems path n whole).among w d).2 ∧
      MakesRounds c path n w d ((c.fetchLinesWith path n).among w d).2 ∧
      MakesRounds c path c.attempts w d ((c.fetchLines path).among w d).2 ∧
      MakesRounds c path c.attempts w d ((c.fetchDocument path).among w d).2) ∧
    (KeepsProtocol c path n w d ((c.fetchItems path n whole).among w d).2 ∧
      KeepsProtocol c path n w d ((c.fetchLinesWith path n).among w d).2 ∧
      KeepsProtocol c path c.attempts w d ((c.fetchLines path).among w d).2 ∧
      KeepsProtocol c path c.attempts w d ((c.fetchDocument path).among w d).2 ∧
      KeepsProtocol c path n w d ((c.fetchValueWith path force n).among w d).2 ∧
      KeepsProtocol c path c.attempts w d ((c.fetchValue path).among w d).2) ∧
    (MakesRounds c path n w d ((Blocking.fetchItems c path n whole).among w d).2 ∧
      MakesRounds c path n w d ((Blocking.fetchLinesWith c path n).among w d).2 ∧
      MakesRounds c path c.attempts w d ((Blocking.fetchLines c path).among w d).2 ∧
      MakesRounds c path c.attempts w d ((Blocking.fetchDocument c path).among w d).2) ∧
    (KeepsProtocol c path n w d ((Blocking.fetchItems c path n whole).among w d).2 ∧
      KeepsProtocol c path n w d ((Blocking.fetchLinesWith c path n).among w d).2 ∧
      KeepsProtocol c path c.attempts w d ((Blocking.fetchLines c path).among w d).2 ∧
      KeepsProtocol c path c.attempts w d ((Blocking.fetchDocument c path).among w d).2 ∧
      KeepsProtocol c path n w d ((Blocking.fetchValueWith c path force n).among w d).2 ∧
      KeepsProtocol c path c.attempts w d ((Blocking.fetchValue c path).among w d).2) ∧
    (∀ s : Site,
      let told := (c.fetchItems path n whole).among s.voice []
      (c.fetchItems path n whole).outcome.run s = (told.1, s.hear told.2) ∧
        (c.fetchItems path n whole).outcome.drive s = (told.1, s.hear told.2)) ∧
    (∀ world : Blocking.World,
      let told := (Blocking.fetchItems c path n whole).among world.voice []
      (Blocking.fetchItems c path n whole).run world = (told.1, world.hear told.2)) := by
  have hmakes : MakesRounds c path n w d ((c.fetchItems path n whole).among w d).2 ∧
      MakesRounds c path n w d ((c.fetchLinesWith path n).among w d).2 ∧
      MakesRounds c path c.attempts w d ((c.fetchLines path).among w d).2 ∧
      MakesRounds c path c.attempts w d ((c.fetchDocument path).among w d).2 := by
    refine ⟨Client.makes_fetchItems c path n whole w d, Client.makes_fetchItems c path n false w d,
      Client.makes_fetchItems c path _ false w d, ?_⟩
    rw [Client.fetchDocument_among]
    exact Client.makes_fetchItems c path _ true w d
  have hkeeps : KeepsProtocol c path n w d ((c.fetchItems path n whole).among w d).2 ∧
      KeepsProtocol c path n w d ((c.fetchLinesWith path n).among w d).2 ∧
      KeepsProtocol c path c.attempts w d ((c.fetchLines path).among w d).2 ∧
      KeepsProtocol c path c.attempts w d ((c.fetchDocument path).among w d).2 ∧
      KeepsProtocol c path n w d ((c.fetchValueWith path force n).among w d).2 ∧
      KeepsProtocol c path c.attempts w d ((c.fetchValue path).among w d).2 := by
    refine ⟨Client.keeps_fetchItems c path n whole w d, Client.keeps_fetchItems c path n false w d,
      Client.keeps_fetchItems c path _ false w d, ?_,
      Client.keeps_fetchValueWith c path force n w d,
      Client.keeps_fetchValueWith c path false _ w d⟩
    rw [Client.fetchDocument_among]
    exact Client.keeps_fetchItems c path _ true w d
  -- A thread has the plans of a task.
  rw [Blocking.fetchItems_eq, Blocking.fetchLinesWith_eq, Blocking.fetchLines_eq,
    Blocking.fetchDocument_eq, Blocking.fetchValueWith_eq, Blocking.fetchValue_eq]
  exact ⟨hmakes, hkeeps, hmakes, hkeeps, fun s => ⟨Plan.run_eq_among s _, Plan.drive_eq_among s _⟩,
    fun world => Plan.runIn_eq_among world _⟩

end Imds
