import Imds.Nic
import Imds.Proofs.Conduct

/-!
# The Conduct of a Fetch

A fetch looks at settings, sends requests through the channel of its client, and pauses.
It asks nothing else: no cache and no record of an interface is touched before the fetch
is over. Each request is for the path of the fetch: it reads the path, or asks for the token
that the next read carries.

What a fetch comes to can be read off its last request alone. If that was a read and brought
a body, the fetch comes to this body; if it was told that there is none, the fetch comes to
that; and nothing was said after it. A fetch that fails was told neither.

Where it does not matter whether a value is absent or was not had, only bodies count, which
is what `FetchEnds` says.

## Main definitions

* `Query.Looks`, `Client.Fetches`: The queries of an opening, and of a fetch.
* `Request.IsFor`, `Client.Asks`: The requests and the queries of the fetch of a path.
* `brought`, `lastBrought`: What a read brings, and what the last request of a dialogue brought.
* `lastBody`: The body that it brought.
* `JustBrought`, `JustRead`: A dialogue that ends in a read of a path that brought something,
  and one that brought a body.
* `FetchTells`, `FetchEnds`: How the dialogue of a fetch ends.

## Theorems

* `tells_fetchBody`, `tells_fetchItems`, `tells_fetchDocument`: What fetches of a path ask,
  and how they end.
* `abides_fetchItems`: The same where only bodies count.
-/

namespace Imds

/-- What the last request of a dialogue brought, if it was a read. -/
def lastBody (d : List Said) : Option String :=
  match (exchanges d).getLast? with
  | some e => if e.request.method = .get then e.outcome.toOption else none
  | none => none

/-- The dialogue ends in a read of a path that was answered with a body. -/
def JustRead (c : Client) (path body : String) (d : List Said) : Prop :=
  ∃ before base token,
    d = before ++ [⟨.send c.channel (.forPath base path token), .ok body⟩]

/-- How the dialogue of a fetch ends that began after `d`: with the body that it comes to,
    or without one. -/
structure FetchEnds (c : Client) (path : String) (d e : List Said)
    (r : Except Failure (Option String)) : Prop where
  last : lastBody d = none → lastBody e = r.toOption.join
  read : ∀ body, r = .ok (some body) → JustRead c path body e

/-- What the answer to a read brings: the body, or that there is none, or nothing. -/
def brought : Except Fault String → Option (Option String)
  | .ok body => some (some body)
  | .error fault => if fault = .status 404 then some none else none

/-- What the last request of a dialogue brought, if it was a read. -/
def lastBrought (d : List Said) : Option (Option String) :=
  match (exchanges d).getLast? with
  | some e => if e.request.method = .get then brought e.outcome else none
  | none => none

/-- The dialogue ends in a read of a path that brought a value, or that there is none. -/
def JustBrought (c : Client) (path : String) (value : Option String) (d : List Said) : Prop :=
  ∃ before base token outcome,
    d = before ++ [⟨.send c.channel (.forPath base path token), outcome⟩] ∧
      brought outcome = some value

/-- How the dialogue of a fetch ends that began after `d`: it has requested nothing and fails,
    or its last request brought what it comes to. -/
structure FetchTells (c : Client) (path : String) (d e : List Said)
    (r : Except Failure (Option String)) : Prop where
  last : (exchanges e = exchanges d ∧ r.toOption = none) ∨ lastBrought e = r.toOption
  brought : ∀ value, r = .ok value → JustBrought c path value e

-- It depends on the requests alone.
theorem lastBody_congr {d e : List Said} (h : exchanges e = exchanges d) :
    lastBody e = lastBody d := by
  rw [lastBody, h, lastBody]

theorem exchanges_concat_of_silent {d : List Said} {x : Said} (h : x.exchange? = none) :
    exchanges (d ++ [x]) = exchanges d := by
  have hnone : exchanges [x] = [] := by rw [exchanges, List.filterMap_cons, h, List.filterMap_nil]
  rw [exchanges_append, hnone, List.append_nil]

theorem lastBody_concat_send (d : List Said) (channel : Nat) (request : Request)
    (outcome : Except Fault String) :
    lastBody (d ++ [⟨.send channel request, outcome⟩]) =
      if request.method = .get then outcome.toOption else none := by
  have hone : exchanges [⟨.send channel request, outcome⟩] = [⟨channel, request, outcome⟩] := rfl
  rw [lastBody, exchanges_append, hone, List.getLast?_concat]

theorem lastBrought_congr {d e : List Said} (h : exchanges e = exchanges d) :
    lastBrought e = lastBrought d := by
  rw [lastBrought, h, lastBrought]

theorem lastBrought_concat_send (d : List Said) (channel : Nat) (request : Request)
    (outcome : Except Fault String) :
    lastBrought (d ++ [⟨.send channel request, outcome⟩]) =
      if request.method = .get then brought outcome else none := by
  have hone : exchanges [⟨.send channel request, outcome⟩] = [⟨channel, request, outcome⟩] := rfl
  rw [lastBrought, exchanges_append, hone, List.getLast?_concat]

-- A body is all that a read can bring but that there is none.
theorem brought_join (outcome : Except Fault String) :
    (brought outcome).join = outcome.toOption := by
  cases outcome with
  | ok body => rfl
  | error fault =>
      simp only [brought]
      split <;> rfl

theorem lastBody_eq_join (d : List Said) : lastBody d = (lastBrought d).join := by
  rw [lastBody, lastBrought]
  cases (exchanges d).getLast? with
  | none => rfl
  | some e =>
      simp only
      split
      · exact (brought_join e.outcome).symm
      · rfl

theorem FetchTells.of_nothing {c : Client} {path : String} {d e : List Said}
    {r : Except Failure (Option String)} (h : FetchTells c path d e r) (hd : lastBrought d = none) :
    lastBrought e = r.toOption := by
  rcases h.last with ⟨hquiet, hr⟩ | hlast
  · rw [lastBrought_congr hquiet, hd, hr]
  · exact hlast

/-- Where only bodies count. -/
theorem FetchTells.ends {c : Client} {path : String} {d e : List Said}
    {r : Except Failure (Option String)} (h : FetchTells c path d e r) :
    FetchEnds c path d e r where
  last := by
    intro hd
    rcases h.last with ⟨hquiet, hr⟩ | hlast
    · rw [lastBody_congr hquiet, hd, hr]
      rfl
    · rw [lastBody_eq_join, hlast]
  read := by
    intro body hbody
    rcases h.brought (some body) hbody with ⟨before, base, token, outcome, he, houtcome⟩
    have hok : outcome.toOption = some body := by rw [← brought_join, houtcome]; rfl
    cases outcome with
    | ok text =>
        cases hok
        exact ⟨before, base, token, he⟩
    | error fault => cases hok

/-- The queries that only look at the surroundings of the process. -/
def Query.Looks : Query → Prop
  | .setting _ => True
  | .flag => True
  | _ => False

/-- The requests of the fetch of a path: they ask for tokens, or read the path. -/
def Request.IsFor (path : String) (request : Request) : Prop :=
  (∃ base lifetime, request = .forToken base lifetime) ∨
    ∃ base token, request = .forPath base path token

namespace Client

/-- The queries of a fetch. -/
def Fetches (c : Client) : Query → Prop
  | .setting _ => True
  | .flag => True
  | .send channel _ => channel = c.channel
  | .pause _ => True
  | _ => False

/-- The queries of the fetch of a path. -/
def Asks (c : Client) (path : String) (query : Query) : Prop :=
  c.Fetches query ∧ ∀ channel request, query = .send channel request → request.IsFor path

variable {c : Client} {d : List Said}

theorem fetches_of_looks {query : Query} (h : query.Looks) : c.Fetches query := by
  cases query with
  | setting name => trivial
  | flag => trivial
  | _ => exact absurd h id

theorem asks_of_looks {path : String} {query : Query} (h : query.Looks) : c.Asks path query := by
  refine ⟨fetches_of_looks h, ?_⟩
  rintro channel request rfl
  exact absurd h id

-- The switch and the base address are found without a request.
theorem abides_isDisabled (g : Gate) :
    g.isDisabled.Abides (fun _ => Query.Looks) (fun e _ => exchanges e = exchanges d) d := by
  cases g with
  | environment =>
      refine Act.abides_bind (Act.abides_lift ?_)
      exact ⟨trivial, fun _ => exchanges_concat_of_silent rfl⟩
  | flag => exact Act.abides_lift ⟨trivial, fun _ => exchanges_concat_of_silent rfl⟩

theorem abides_pass (g : Gate) :
    g.pass.Abides (fun _ => Query.Looks) (fun e _ => exchanges e = exchanges d) d := by
  refine Act.abides_bind ((abides_isDisabled g).mono (fun _ _ hq => hq) ?_)
  intro e r he
  cases r with
  | error failure => exact he
  | ok off => cases off <;> exact he

-- What is left to look at once the variable of the endpoint was read.
theorem abides_endpoint (found : Option String) {e : List Said} (he : exchanges e = exchanges d) :
    Act.Abides (fun _ => Query.Looks) (fun e _ => exchanges e = exchanges d) (match found with
      | some base => pure base
      | none => do
        let mode ← Plan.setting Address.modeVariable
        Act.ofExcept (Address.ofMode mode)) e := by
  cases found with
  | some base => exact Act.abides_pure he
  | none =>
      refine Act.abides_bind (Act.abides_lift ⟨trivial, fun mode => ?_⟩)
      exact (exchanges_concat_of_silent rfl).trans he

theorem abides_resolve (a : Address) :
    a.resolve.Abides (fun _ => Query.Looks) (fun e _ => exchanges e = exchanges d) d := by
  cases a with
  | fixed base => exact Act.abides_pure rfl
  | environment =>
      refine Act.abides_bind (Act.abides_lift ⟨trivial, fun endpoint => ?_⟩)
      exact abides_endpoint (Address.explicit endpoint) (exchanges_concat_of_silent rfl)
  | provided name h answer =>
      refine Act.abides_bind (Act.abides_lift ⟨trivial, fun value => ?_⟩)
      exact exchanges_concat_of_silent rfl

/-- The verdict on a read is settled just when the read brought something. -/
theorem settles_iff {outcome : Except Fault String} {value : Option String} :
    ofReadOutcome outcome = .settled value ↔ brought outcome = some value := by
  cases outcome with
  | ok body => simp [ofReadOutcome, brought]
  | error fault =>
      by_cases hfound : fault = .status 404
      · simp [ofReadOutcome, brought, hfound, Fault.isNotFound]
      · have hother : fault.isNotFound = false := by
          simpa [Fault.isNotFound] using hfound
        cases hfatal : fault.isFatal <;> simp [ofReadOutcome, brought, hfound, hother, hfatal]

/-- What the last request brought, when an attempt comes to a verdict. -/
def Settles (c : Client) (path : String) (d : List Said) (v : Verdict (Option String)) : Prop :=
  (∀ value, v = .settled value → lastBrought d = some value ∧ JustBrought c path value d) ∧
    ((∀ value, v ≠ .settled value) → lastBrought d = none)

theorem tells_attempt (base path : String) :
    (c.attempt base path).Abides (fun _ => c.Asks path) (c.Settles path) d := by
  refine ⟨⟨rfl, fun _ _ h => ?_⟩, fun issue => ?_⟩
  · cases h
    exact Or.inl ⟨_, _, rfl⟩
  · have hissue : lastBrought
        (d ++ [⟨.send c.channel (.forToken base c.settings.lifetime), issue⟩]) = none := by
      rw [lastBrought_concat_send]
      exact if_neg (show Method.put ≠ Method.get by decide)
    change Plan.Abides _ _ ((Act.ofExcept (ofTokenOutcome issue)).outcome >>= _) _
    cases ofTokenOutcome issue with
    | error failure => exact ⟨nofun, fun _ => hissue⟩
    | ok token =>
        refine ⟨⟨rfl, fun _ _ h => ?_⟩, fun outcome => ?_⟩
        · cases h
          exact Or.inr ⟨_, _, rfl⟩
        · have hread := lastBrought_concat_send
            (d ++ [⟨.send c.channel (.forToken base c.settings.lifetime), issue⟩]) c.channel
            (.forPath base path token) outcome
          rw [if_pos (Request.method_forPath base path token)] at hread
          refine ⟨fun value h => ?_, fun h => ?_⟩
          · have hbrought := settles_iff.1 h
            exact ⟨hread.trans hbrought, _, base, token, outcome, rfl, hbrought⟩
          · rw [hread]
            cases hbrought : brought outcome with
            | none => rfl
            | some value => exact absurd (settles_iff.2 hbrought) (h value)

-- On the attempts that are left. An attempt that does not settle the fetch has brought
-- nothing, so that the rest begins where nothing was brought.
theorem tells_retryFrom (b : Backoff) (base path : String) (remaining : Nat) :
    (b.retryFrom Plan.pause (c.attempt base path) remaining).Abides (fun _ => c.Asks path)
      (FetchTells c path d) d := by
  induction remaining generalizing d with
  | zero => exact ⟨Or.inl ⟨rfl, rfl⟩, nofun⟩
  | succ left ih =>
      refine Plan.abides_bind ((tells_attempt base path).mono (fun _ _ hq => hq) ?_)
      rintro e verdict ⟨hsettled, hnone⟩
      cases verdict with
      | settled value =>
          refine ⟨Or.inr (hsettled value rfl).1, fun value' h => ?_⟩
          cases h
          exact (hsettled value rfl).2
      | fatal failure => exact ⟨Or.inr (hnone nofun), nofun⟩
      | again cause =>
          have he : lastBrought e = none := hnone nofun
          simp only
          split
          · exact ⟨Or.inr he, nofun⟩
          · refine ⟨⟨trivial, nofun⟩, fun _ => ih.mono (fun _ _ hq => hq)
              (fun _ _ hrest => ⟨Or.inr (hrest.of_nothing ?_), hrest.brought⟩)⟩
            exact (lastBrought_congr (exchanges_concat_of_silent rfl)).trans he

/-- What the fetch of a path asks, and what its last request tells of its result. -/
theorem tells_fetchBody (path : String) (n : Nat) :
    (c.fetchBody path n).Abides (fun _ => c.Asks path) (FetchTells c path d) d := by
  refine Act.abides_bind
    ((abides_pass c.settings.gate).mono (fun _ _ hq => asks_of_looks hq) ?_)
  intro e r he
  cases r with
  | error failure => exact ⟨Or.inl ⟨he, rfl⟩, nofun⟩
  | ok _ =>
      refine Act.abides_bind
        ((abides_resolve c.settings.address).mono (fun _ _ hq => asks_of_looks hq) ?_)
      intro e' r he'
      have he' : exchanges e' = exchanges d := he'.trans he
      cases r with
      | error failure => exact ⟨Or.inl ⟨he', rfl⟩, nofun⟩
      | ok base =>
          refine (tells_retryFrom _ base path n).mono (fun _ _ hq => hq) ?_
          refine fun _ _ h => ⟨?_, h.brought⟩
          rcases h.last with ⟨hquiet, hr⟩ | hlast
          · exact Or.inl ⟨hquiet.trans he', hr⟩
          · exact Or.inr hlast

theorem tells_fetchItems (path : String) (n : Nat) (whole : Bool) :
    (c.fetchItems path n whole).Abides (fun _ => c.Asks path)
      (fun e r => ∃ result, r = result.map (Option.map (items whole)) ∧
        FetchTells c path d e result) d := by
  refine Act.abides_bind ((tells_fetchBody path n).mono (fun _ _ hq => hq) ?_)
  intro e r hends
  cases r with
  | error failure => exact ⟨_, rfl, hends⟩
  | ok body => exact ⟨_, rfl, hends⟩

theorem tells_fetchDocument (path : String) :
    (c.fetchDocument path).Abides (fun _ => c.Asks path) (FetchTells c path d) d := by
  refine Act.abides_bind ((tells_fetchItems path c.attempts true).mono (fun _ _ hq => hq) ?_)
  rintro e r ⟨result, rfl, hends⟩
  cases result with
  | error failure => exact hends
  | ok body => cases body <;> exact hends

/-- A fetch asks what fetches ask, and its last request tells what it comes to. -/
theorem abides_fetchItems (path : String) (n : Nat) (whole : Bool) :
    (c.fetchItems path n whole).Abides (fun _ => c.Fetches)
      (fun e r => ∃ result, r = result.map (Option.map (items whole)) ∧
        FetchEnds c path d e result) d :=
  (tells_fetchItems path n whole).mono (fun _ _ hq => hq.1)
    (fun _ _ ⟨result, hr, h⟩ => ⟨result, hr, h.ends⟩)

end Client

end Imds
