import Imds.Proofs.Crowd.Chronicle
import Imds.Proofs.Pool.Loss
import Imds.Proofs.Switch.Client

/-!
# Operations Whose Channel Is Closed on the Way

A channel can be closed while an operation is under way. What the operation then does can be
told from its dialogue alone, cut in two at any point such that the channel is closed from
there on: every request of the second part was answered that it is closed.

Such an answer ends an operation wherever it comes, at a request for a token as well as at a
read. So the second part has one request at most, nothing but giving a right back comes
after it, and the operation says that its channel is closed. If the second part has no
request, then nothing that the closing could have changed was asked, and a fetch comes to
what the last answer of the first part makes of it, unless it gave up before its first
request.

## Main definitions

* `Said.IsClosed`, `closing`: A channel that says that it is closed.
* `Query.Through`: Queries that use one channel at most.
* `Barred`: Dialogues in which that is obeyed, of whatever wish.
* `Decides`: What an answer alone makes of a fetch.
* `Demand.once?`: Demands that are met by one fetch.
* `Unasked`: How a fetch fails that requests nothing.
* `Cut`: How a fetch ends whose channel is closed on the way.

## Theorems

* `fits_closing`, `bars_wish`: Every wish obeys a closed channel.
* `fetchBody_decided`: What a fetch comes to is decided by its last answer.
* `cut_demand`, `cut_of_barred`: Fetches, and any wishes, that are cut in two.
-/

namespace Imds

/-- A request was answered by a closed channel. -/
def Said.IsClosed (x : Said) : Prop :=
  ∃ channel request, x = ⟨.send channel request, .error .closed⟩

/-- Queries that send or close through one channel only. -/
def Query.Through (channel : Nat) : Query → Prop
  | .send k _ => k = channel
  | .shut k => k = channel
  | _ => True

/-- A closed channel ends an operation. -/
def closing : Halt where
  stops x f := x.IsClosed ∧ f = .exchange .closed
  mark := .exchange .closed

/-- Nobody said that the channel was closed, nor is that the result; or it was said, the
    failure says so, and nothing but giving a right back came after it. -/
def Barred {α : Type} (d : List Said) (r : Except Failure α) : Prop :=
  (Unstopped closing d ∧ r ≠ .error (.exchange .closed)) ∨
    ∃ before x after, d = before ++ x :: after ∧ Unstopped closing before ∧ x.IsClosed ∧
      (∀ y ∈ after, ∃ record, y = ⟨.leave record none, ()⟩) ∧ r = .error (.exchange .closed)

/-- An answer alone makes a fetch with a budget come to this: the token was refused, or the
    request for one was in vain for good; or the read brought the body, or that there is none,
    or was in vain for good, or was the last attempt. -/
inductive Decides (n : Nat) : Exchange → Except Failure (Option String) → Prop where
  | rejected (channel : Nat) (request : Request) (hput : request.method = .put) :
      Decides n ⟨channel, request, .error (.status 400)⟩ (.error (.tokenRejected (.status 400)))
  | unissued (channel : Nat) (request : Request) (fault : Fault) (hput : request.method = .put)
      (hfatal : fault.isFatal = true) :
      Decides n ⟨channel, request, .error fault⟩ (.error (.exchange fault))
  | body (channel : Nat) (request : Request) (text : String) (hget : request.method = .get) :
      Decides n ⟨channel, request, .ok text⟩ (.ok (some text))
  | absent (channel : Nat) (request : Request) (hget : request.method = .get) :
      Decides n ⟨channel, request, .error (.status 404)⟩ (.ok none)
  | unread (channel : Nat) (request : Request) (fault : Fault) (hget : request.method = .get)
      (hfatal : fault.isFatal = true) :
      Decides n ⟨channel, request, .error fault⟩ (.error (.exchange fault))
  | exhausted (channel : Nat) (request : Request) (fault : Fault) (hget : request.method = .get)
      (hfault : fault.isFatal = false) (hfound : fault ≠ .status 404) :
      Decides n ⟨channel, request, .error fault⟩ (.error (.exhausted n fault))

/-- The failures of a fetch with a budget that requests nothing. -/
def Unasked (n : Nat) (f : Failure) : Prop :=
  f = .disabled ∨ (∃ text, f = .configuration text) ∨ (f = .unreachable ∧ n = 0)

/-- How a fetch with a budget ends that had said this much, and went on with this when its
    channel was closed. -/
inductive Cut (channel n : Nat) (sofar later : List Said) :
    Except Failure (Option String) → Prop where
  /-- It requests nothing more, and its last answer decides. -/
  | decided (x : Exchange) (r : Except Failure (Option String)) (hlater : exchanges later = [])
      (hlast : (exchanges sofar).getLast? = some x) (h : Decides n x r) :
      Cut channel n sofar later r
  /-- It fails without a request. -/
  | unasked (f : Failure) (hsofar : exchanges sofar = []) (hlater : exchanges later = [])
      (h : Unasked n f) : Cut channel n sofar later (.error f)
  /-- The cache answers, and there is no request. -/
  | known (cache : Nat) (path value : String) (hsofar : exchanges sofar = [])
      (hlater : exchanges later = [])
      (h : (⟨.lookup cache path, some value⟩ : Said) ∈ sofar ++ later) :
      Cut channel n sofar later (.ok (some value))
  /-- Its next request is answered by the closed channel, and is the last thing it says. -/
  | barred (quiet : List Said) (request : Request)
      (hlater : later = quiet ++ [⟨.send channel request, .error .closed⟩])
      (hquiet : exchanges quiet = []) : Cut channel n sofar later (.error (.exchange .closed))

/-! ### A closed channel is obeyed -/

section Obedience

variable {α β : Type} {c : Client} {channel : Nat}

-- Only a request is answered by a channel.
theorem not_closing {query : Query} (h : ∀ k request, query ≠ .send k request)
    (a : query.Answer) (f : Failure) : ¬ closing.stops ⟨query, a⟩ f := by
  rintro ⟨⟨k, request, hx⟩, -⟩
  exact h k request (congrArg Said.query hx)

theorem not_closing_of_isAside (query : Query) (haside : query.IsAside) (a : query.Answer)
    (f : Failure) : ¬ closing.stops ⟨query, a⟩ f := by
  refine not_closing (fun k request h => ?_) a f
  rw [h] at haside
  exact haside

theorem isClosed_iff {k : Nat} {request : Request} {outcome : Except Fault String} :
    (⟨.send k request, outcome⟩ : Said).IsClosed ↔ outcome = .error .closed := by
  constructor
  · rintro ⟨k', request', hx⟩
    cases hx
    rfl
  · rintro rfl
    exact ⟨k, request, rfl⟩

theorem unstopped_send {d : List Said} (hd : Unstopped closing d) {k : Nat} {request : Request}
    {outcome : Except Fault String} (h : outcome ≠ .error .closed) :
    Unstopped closing (d ++ [⟨.send k request, outcome⟩]) :=
  hd.concat (fun _ hstops => h (isClosed_iff.1 hstops.1))

theorem attends_pass_closing (g : Gate) : g.pass.Attends closing channel := by
  intro d hd
  rw [pass_eq]
  have hlook : ∀ k request, g.look ≠ .send k request := by
    intro k request h
    cases g <;> cases h
  refine ⟨⟨hd, by cases g <;> trivial⟩, fun a => ?_⟩
  refine Or.inl ⟨hd.concat (not_closing hlook a), fun h => ?_⟩
  cases htell : g.tell a with
  | ok isOff =>
      simp only [htell] at h
      cases isOff <;> cases h
  | error failure =>
      -- What a look comes to is that the setting cannot be read.
      have hstops : g.Stops ⟨g.look, a⟩ failure := stops_iff.2 (Or.inr htell)
      simp only [htell] at h
      cases h
      cases hstops

theorem attends_resolve_closing (a : Address) : a.resolve.Attends closing channel := by
  cases a with
  | fixed base => exact attends_pure base
  | environment =>
      refine attends_bind (attends_ask _ trivial (not_closing nofun)) (fun endpoint => ?_)
      cases Address.explicit endpoint with
      | some base => exact attends_pure base
      | none =>
          refine attends_bind (attends_ask _ trivial (not_closing nofun)) (fun mode => ?_)
          refine attends_ofExcept (fun h => ?_)
          rcases ofMode_failure h with ⟨_, hf⟩
          cases hf
  | provided name hname answer =>
      refine attends_bind (attends_ask _ trivial (not_closing nofun)) (fun value => ?_)
      refine attends_ofExcept (fun h => ?_)
      rcases Address.configuration_of_ofAnswer h with ⟨_, hf⟩
      cases hf

theorem ofTokenOutcome_closed {outcome : Except Fault String} :
    Client.ofTokenOutcome outcome = .error (.exchange .closed) ↔ outcome = .error .closed := by
  cases outcome with
  | ok token => simp [Client.ofTokenOutcome]
  | error fault =>
      simp only [Client.ofTokenOutcome]
      split
      · next h => simp [h]
      · split
        · simp
        · next h => cases fault <;> simp_all [Fault.isFatal]

theorem ofReadOutcome_closed {outcome : Except Fault String} :
    Client.ofReadOutcome outcome = .fatal (.exchange .closed) ↔ outcome = .error .closed := by
  cases outcome with
  | ok body => simp [Client.ofReadOutcome]
  | error fault =>
      simp only [Client.ofReadOutcome]
      split
      · next h => simp [Fault.isNotFound_iff.1 h]
      · split
        · simp
        · next h => cases fault <;> simp_all [Fault.isFatal]

-- The two requests of an attempt. Either of them ends it where the channel is closed.
theorem attends_attempt_closing (base path : String) {d : List Said}
    (hd : Unstopped closing d) : (c.attempt base path).Abides
      (fun e query => Unstopped closing e ∧ query.OfClient c.channel) (Judges closing) d := by
  refine ⟨⟨hd, rfl⟩, fun issue => ?_⟩
  change Plan.Abides _ _ ((Act.ofExcept (Client.ofTokenOutcome issue)).outcome >>= _) _
  by_cases hissue : issue = .error .closed
  · subst hissue
    exact Or.inr ⟨d, _, _, rfl, hd, ⟨⟨_, _, rfl⟩, rfl⟩, rfl⟩
  · have hasked : Unstopped closing
        (d ++ [⟨.send c.channel (.forToken base c.settings.lifetime), issue⟩]) :=
      unstopped_send hd hissue
    cases htoken : Client.ofTokenOutcome issue with
    | error failure =>
        refine Or.inl ⟨hasked, fun h => hissue (ofTokenOutcome_closed.1 ?_)⟩
        cases h
        exact htoken
    | ok token =>
        refine ⟨⟨hasked, rfl⟩, fun outcome => ?_⟩
        by_cases houtcome : outcome = .error .closed
        · subst houtcome
          exact Or.inr ⟨_, _, _, rfl, hasked, ⟨⟨_, _, rfl⟩, rfl⟩, rfl⟩
        · exact Or.inl ⟨unstopped_send hasked houtcome,
            fun h => houtcome (ofReadOutcome_closed.1 h)⟩

/-- Every client obeys a closed channel. -/
theorem fits_closing (c : Client) : closing.Fits c where
  pass := attends_pass_closing _
  resolve := attends_resolve_closing _
  attempt := fun base path _ hd => attends_attempt_closing base path hd
  aside := not_closing_of_isAside
  unreachable := nofun
  exhausted := nofun

theorem through_of_ofClient {query : Query} (h : query.OfClient channel) :
    query.Through channel := by
  cases query with
  | send k request => exact h
  | shut k => exact h
  | _ => trivial

/-- Whatever it is told, an act obeys a closed channel, and it uses one channel only. -/
def Act.Bars {α : Type} (channel : Nat) (a : Act α) : Prop :=
  ∀ d, Unstopped closing d → a.Abides (fun _ query => query.Through channel) Barred d

theorem bars_of_attends {a : Act α} (h : a.Attends closing channel) : a.Bars channel := by
  refine fun d hd => (h d hd).mono (fun _ _ hq => through_of_ofClient hq.2) ?_
  rintro e r (⟨he, hr⟩ | ⟨before, x, f, rfl, hbefore, ⟨hx, rfl⟩, hr⟩)
  · exact Or.inl ⟨he, hr⟩
  · exact Or.inr ⟨before, x, [], rfl, hbefore, hx, nofun, hr⟩

theorem bars_bind {a : Act α} {k : α → Act β} (ha : a.Bars channel)
    (hk : ∀ x, (k x).Bars channel) : (a >>= k).Bars channel := by
  intro d hd
  refine Act.abides_bind ((ha d hd).mono (fun _ _ hq => hq) ?_)
  intro e r hr
  cases r with
  | ok value =>
      rcases hr with ⟨he, -⟩ | ⟨before, x, after, -, -, -, -, hr⟩
      · exact hk value e he
      · cases hr
  | error failure =>
      rcases hr with ⟨he, hfailure⟩ | ⟨before, x, after, he, hbefore, hx, hafter, hr⟩
      · exact Or.inl ⟨he, fun h => hfailure (by cases h; rfl)⟩
      · cases hr
        exact Or.inr ⟨before, x, after, he, hbefore, hx, hafter, rfl⟩

theorem bars_pure (value : α) : (pure value : Act α).Bars channel :=
  bars_of_attends (attends_pure value)

theorem bars_ask (query : Query) (haside : query.IsAside) (hthrough : query.Through channel) :
    (liftM (Plan.ask query Plan.done) : Act query.Answer).Bars channel :=
  fun _ hd => Act.abides_lift ⟨hthrough, fun a =>
    Or.inl ⟨hd.concat (not_closing_of_isAside query haside a), nofun⟩⟩

theorem bars_map {a : Act α} (ha : a.Bars channel) (k : α → β) : (k <$> a).Bars channel := by
  rw [map_eq_pure_bind]
  exact bars_bind ha (fun x => bars_pure (k x))

-- The right to fetch a listing is given back after the fetch, however it went.
theorem bars_availableKeys (n : Nic) : n.availableKeys.Bars n.client.channel := by
  intro d hd
  refine Act.abides_bind (Act.abides_lift ⟨trivial, fun known => ?_⟩)
  have hentered : Unstopped closing (d ++ [⟨.enter n.record, known⟩]) :=
    hd.concat (not_closing_of_isAside (.enter _) trivial known)
  cases known with
  | some keys => exact Or.inl ⟨hentered, nofun⟩
  | none =>
      refine Act.abides_bind (Act.abides_lift (Plan.Abides.mono
        (attends_fetchItems (fits_closing n.client) n.path _ false _ hentered)
        (fun _ _ hq => through_of_ofClient hq.2) ?_))
      intro e r hr
      cases r with
      | ok lines =>
          rcases hr with ⟨he, -⟩ | ⟨before, x, f, -, -, -, hr⟩
          · refine Act.abides_bind (Act.abides_lift ⟨trivial, fun done => Or.inl ⟨?_, nofun⟩⟩)
            exact he.concat (not_closing_of_isAside (.leave _ _) trivial done)
          · cases hr
      | error failure =>
          refine Act.abides_bind (Act.abides_lift ⟨trivial, fun done => ?_⟩)
          rcases hr with ⟨he, hfailure⟩ | ⟨before, x, f, rfl, hbefore, ⟨hx, rfl⟩, hr⟩
          · exact Or.inl ⟨he.concat (not_closing_of_isAside (.leave _ _) trivial done),
              fun h => hfailure (by cases h; rfl)⟩
          · cases hr
            refine Or.inr ⟨before, x, [⟨.leave n.record none, done⟩],
              List.append_assoc _ _ _, hbefore, hx, fun y hy => ?_, rfl⟩
            exact ⟨n.record, List.mem_singleton.1 hy⟩

theorem bars_fetchItems (c : Client) (path : String) (n : Nat) (whole : Bool) :
    (c.fetchItems path n whole).Bars c.channel :=
  bars_of_attends (attends_fetchItems (fits_closing c) path n whole)

theorem bars_value (n : Nic) (key : String) : (n.value key).Bars n.client.channel := by
  refine bars_bind (bars_ask (.recollect _ _) trivial trivial) (fun known => ?_)
  cases known with
  | some value => exact bars_pure value
  | none =>
      refine bars_bind (bars_availableKeys n) (fun keys => ?_)
      by_cases hlisted : key ∈ keys
      · simp only [if_pos hlisted]
        refine bars_bind (bars_bind (bars_fetchItems _ _ _ true) (fun _ => bars_pure _)) ?_
        exact fun _ => bars_bind (bars_ask (.remember _ _ _) trivial trivial)
          (fun _ => bars_pure _)
      · simp only [if_neg hlisted]
        exact bars_pure none

theorem bars_lines (n : Nic) (key : String) : (n.lines key).Bars n.client.channel := by
  refine bars_bind (bars_availableKeys n) (fun keys => ?_)
  by_cases hlisted : key ∈ keys
  · simp only [if_pos hlisted]
    exact bars_bind (bars_fetchItems _ _ _ false) (fun _ => bars_pure _)
  · simp only [if_neg hlisted]
    exact bars_pure []

theorem bars_question (n : Nic) (q : Question) : (q.act n).Bars n.client.channel := by
  cases q with
  | mac => exact bars_pure _
  | keys => exact bars_map (bars_availableKeys n) _
  | value key => exact bars_map (bars_value n key) _
  | lines key => exact bars_map (bars_lines n key) _
  | scalar v => exact bars_map (bars_value n v.key) _
  | listing l => exact bars_map (bars_lines n l.key) _
  | associations address =>
      exact bars_map (bars_bind (bars_fetchItems _ _ _ false) (fun _ => bars_pure _)) _

/-- Whatever is wished for, a closed channel is obeyed. -/
theorem bars_wish (wish : Wish) : wish.act.Bars wish.client.channel := by
  cases wish with
  | demand c D => exact bars_of_attends (attends_demand (fits_closing c) D)
  | interfaces c => exact bars_map (bars_of_attends (attends_interfaces (fits_closing c))) _
  | interface c mac => exact bars_map (bars_of_attends (attends_ofMac (fits_closing c) mac)) _
  | question n q => exact bars_question n q

end Obedience

/-! ### The last answer decides -/

section Decision

variable {c : Client} {path : String} {n : Nat}

theorem decides_of_comesTo {base : String} {round : Round} {verdict : Verdict (Option String)}
    (hround : round.Conforms c base path) (hto : round.ComesTo verdict) (n : Nat) :
    Decides n round.closing (verdict.conclude n) := by
  cases hto with
  | refused issue failure h =>
      rcases issue with ⟨channel, request, outcome⟩
      have hput : request.method = .put := hround.1.method
      change Decides n ⟨channel, request, outcome⟩ (.error failure)
      cases outcome with
      | ok token => cases h
      | error fault =>
          simp only [Client.ofTokenOutcome] at h
          split at h
          · next hfault =>
            cases h
            subst hfault
            exact .rejected channel request hput
          · split at h
            · next hfatal =>
              cases h
              exact .unissued channel request fault hput hfatal
            · cases h
  | read issue body =>
      rcases body with ⟨channel, request, outcome⟩
      have hget : request.method = .get := hround.2.2.method
      change Decides n ⟨channel, request, outcome⟩ ((Client.ofReadOutcome outcome).conclude n)
      cases outcome with
      | ok text => exact .body channel request text hget
      | error fault =>
          simp only [Client.ofReadOutcome]
          split
          · next hfound =>
            rw [Fault.isNotFound_iff.1 hfound]
            exact .absent channel request hget
          · next hfound =>
            split
            · next hfatal => exact .unread channel request fault hget hfatal
            · next hfatal =>
              refine .exhausted channel request fault hget (by simpa using hfatal) ?_
              exact fun h => hfound (Fault.isNotFound_iff.2 h)

theorem unasked_of_pass {g : Gate} {w : Surroundings} {d : List Said} {f : Failure}
    (h : (g.pass.among w d).1 = .error f) (n : Nat) : Unasked n f := by
  rcases hlook : g.isDisabled.among w d with ⟨result, e⟩
  rw [pass_among, hlook] at h
  cases result with
  | error failure =>
      cases h
      exact Or.inr (Or.inl (configuration_of_isDisabled (by rw [hlook])))
  | ok off =>
      cases off with
      | true =>
          cases h
          exact Or.inl rfl
      | false => cases h

/-- A fetch requests nothing and fails, or its last answer decides what it comes to. -/
theorem fetchBody_decided (c : Client) (path : String) (n : Nat) (w : Surroundings)
    (d : List Said) :
    let told := (c.fetchBody path n).among w d
    (exchanges told.2 = exchanges d ∧ ∃ f, told.1 = .error f ∧ Unasked n f) ∨
      ∃ more x, exchanges told.2 = exchanges d ++ more ∧ more.getLast? = some x ∧
        Decides n x told.1 := by
  intro told
  rcases hpass : c.settings.gate.pass.among w d with ⟨passed, e⟩
  have he : exchanges e = exchanges d := by
    rw [← silent_pass c.settings.gate w d, hpass]
  cases passed with
  | error failure =>
      have htold : told = (.error failure, e) := Act.among_bind_error hpass
      rw [htold]
      exact Or.inl ⟨he, failure, rfl, unasked_of_pass (by rw [hpass]) n⟩
  | ok _ =>
      rcases hresolve : c.settings.address.resolve.among w e with ⟨found, opened⟩
      have hopened : exchanges opened = exchanges d := by
        rw [← he, ← silent_resolve c.settings.address w e, hresolve]
      cases found with
      | error failure =>
          have htold : told = (.error failure, opened) := by
            rw [show told = _ from Act.among_bind_ok hpass]
            exact Act.among_bind_error hresolve
          rw [htold]
          refine Or.inl ⟨hopened, failure, rfl, Or.inr (Or.inl ?_)⟩
          exact configuration_of_resolve (by rw [hresolve])
      | ok base =>
          have htold : told = (({ c.settings.backoff with attempts := n } : Backoff).retry
              Plan.pause (c.attempt base path)).among w opened := by
            rw [show told = _ from Act.among_bind_ok hpass, Act.among_bind_ok hresolve]
            rfl
          cases n with
          | zero =>
              rw [htold]
              exact Or.inl ⟨hopened, .unreachable, rfl, Or.inr (Or.inr ⟨rfl, rfl⟩)⟩
          | succ m =>
              rcases Client.retryFrom_among c base path w
                { c.settings.backoff with attempts := m + 1 } m opened with
                ⟨said, init, last, verdict, hrun, hfollows, hto, -⟩
              rw [htold, Backoff.retry, hrun]
              refine Or.inr ⟨exchanges said, last.closing, ?_, ?_, ?_⟩
              · rw [exchanges_append, hopened]
              · rw [hfollows.exchanges_eq, Round.getLast_exchanges]
              · exact decides_of_comesTo
                  (hfollows.conforms last (List.mem_append_right _ List.mem_cons_self)) hto _

/-- What the end of a fetch of a path says of it: the fetch has requested nothing and fails,
    or is answered by the cache; or its last answer decides. -/
def Concludes (n : Nat) (d : List Said) (r : Except Failure (Option String)) : Prop :=
  (exchanges d = [] ∧ ((∃ f, r = .error f ∧ Unasked n f) ∨ ∃ cache path value,
      r = .ok (some value) ∧ (⟨.lookup cache path, some value⟩ : Said) ∈ d)) ∨
    ∃ x, (exchanges d).getLast? = some x ∧ Decides n x r

theorem concludes_fetchBody (c : Client) (path : String) (n : Nat) (w : Surroundings) :
    Concludes n ((c.fetchBody path n).among w []).2 ((c.fetchBody path n).among w []).1 := by
  rcases fetchBody_decided c path n w [] with ⟨hquiet, f, hf, hunasked⟩ | ⟨more, x, hmore, hx, h⟩
  · exact Or.inl ⟨hquiet, Or.inl ⟨f, hf, hunasked⟩⟩
  · exact Or.inr ⟨x, by rw [hmore, exchanges_nil, List.nil_append, hx], h⟩

theorem concludes_fetchAndStore {w : Surroundings} {d : List Said} (hd : exchanges d = [])
    (c : Client) (path : String) (n : Nat) :
    Concludes n ((c.fetchAndStore path n).among w d).2 ((c.fetchAndStore path n).among w d).1 := by
  rcases Client.fetchAndStore_among c path n w d with ⟨hresult, -, hexchanges⟩
  rcases fetchBody_decided c path n w d with ⟨hquiet, f, hf, hunasked⟩ | ⟨more, x, hmore, hx, h⟩
  · exact Or.inl ⟨(hexchanges.trans hquiet).trans hd, Or.inl ⟨f, hresult.trans hf, hunasked⟩⟩
  · refine Or.inr ⟨x, ?_, by rw [hresult]; exact h⟩
    rw [hexchanges, hmore, hd, List.nil_append, hx]

theorem concludes_fetchValueWith (c : Client) (path : String) (force : Bool) (n : Nat)
    (w : Surroundings) : Concludes n ((c.fetchValueWith path force n).among w []).2
      ((c.fetchValueWith path force n).among w []).1 := by
  rw [Client.fetchValueWith_eq]
  rcases hpass : c.settings.gate.pass.among w [] with ⟨passed, e⟩
  have he : exchanges e = [] := by
    have h := silent_pass c.settings.gate w []
    rwa [hpass] at h
  cases passed with
  | error failure =>
      rw [Act.among_bind_error hpass]
      exact Or.inl ⟨he, Or.inl ⟨failure, rfl, unasked_of_pass (by rw [hpass]) n⟩⟩
  | ok _ =>
      rw [Act.among_bind_ok hpass]
      cases force with
      | true => exact concludes_fetchAndStore he c path n
      | false =>
          have hlookup : (c.known path false).among w e =
              (.ok (w e (.lookup c.settings.cache path)), e ++ [⟨.lookup c.settings.cache path,
                w e (.lookup c.settings.cache path)⟩]) := rfl
          have hquiet : exchanges (e ++ [⟨.lookup c.settings.cache path,
              w e (.lookup c.settings.cache path)⟩]) = [] := by
            rw [exchanges_concat_of_silent rfl, he]
          rw [Act.among_bind_ok hlookup]
          cases hknown : w e (.lookup c.settings.cache path) with
          | none =>
              rw [hknown] at hquiet
              exact concludes_fetchAndStore hquiet c path n
          | some value =>
              rw [hknown] at hquiet
              refine Or.inl ⟨hquiet, Or.inr ⟨c.settings.cache, path, value, rfl, ?_⟩⟩
              exact List.mem_append_right _ List.mem_cons_self

end Decision

/-! ### Demands that are met by one fetch -/

/-- How often a demand tries, and what it makes of the body, if it is met by one fetch. -/
def Demand.once? (c : Client) : Demand → Option (Nat × (Option String → Report))
  | .value _ => some (c.attempts, .text)
  | .valueWith _ _ n => some (n, .text)
  | .scalar _ => some (c.attempts, .text)
  | .items _ n whole => some (n, fun body => .texts (body.map (Client.items whole)))
  | .lines _ => some (c.attempts, fun body => .texts (body.map (Client.items false)))
  | .linesWith _ n => some (n, fun body => .texts (body.map (Client.items false)))
  | .document _ => some (c.attempts, .text)
  | .listing _ => some (c.attempts, fun body => .list ((body.map (Client.items false)).getD []))
  | .identityDocument => some (c.attempts, .text)
  | .region => some (c.attempts, fun body => .text (body.bind Identity.regionOf))
  | .description =>
    some (c.attempts, fun body => .description (body.bind Identity.Document.ofText?))
  | .userData => some (c.attempts, .text)
  | _ => none

section Once

variable {c : Client} {D : Demand} {n : Nat} {k : Option String → Report}

theorem fetchItems_eq (c : Client) (path : String) (n : Nat) (whole : Bool) :
    c.fetchItems path n whole = Option.map (Client.items whole) <$> c.fetchBody path n := by
  rw [map_eq_pure_bind]
  rfl

theorem fetchDocument_eq (c : Client) (path : String) :
    c.fetchDocument path = c.fetchBody path c.attempts := by
  rw [Client.fetchDocument, fetchItems_eq, bind_map_left]
  simp only [Client.head_items_true, bind_pure]

/-- Such a demand is a fetch of a body, or of a value that may be in the cache. -/
theorem act_of_once (h : D.once? c = some (n, k)) :
    ∃ fetch : Act (Option String), D.act c = k <$> fetch ∧
      ((∃ path, fetch = c.fetchBody path n) ∨
        ∃ path force, fetch = c.fetchValueWith path force n) := by
  cases D with
  | value path => cases h; exact ⟨_, rfl, Or.inr ⟨path, false, rfl⟩⟩
  | valueWith path force n => cases h; exact ⟨_, rfl, Or.inr ⟨path, force, rfl⟩⟩
  | scalar v => cases h; exact ⟨_, rfl, Or.inr ⟨v.path, false, rfl⟩⟩
  | items path n whole =>
      cases h
      exact ⟨_, by rw [Demand.act, fetchItems_eq, ← comp_map]; rfl, Or.inl ⟨path, rfl⟩⟩
  | lines path =>
      cases h
      refine ⟨_, ?_, Or.inl ⟨path, rfl⟩⟩
      rw [Demand.act, Client.fetchLines, Client.fetchLinesWith, fetchItems_eq, ← comp_map]
      rfl
  | linesWith path n =>
      cases h
      refine ⟨_, ?_, Or.inl ⟨path, rfl⟩⟩
      rw [Demand.act, Client.fetchLinesWith, fetchItems_eq, ← comp_map]
      rfl
  | document path =>
      cases h
      exact ⟨_, by rw [Demand.act, fetchDocument_eq], Or.inl ⟨path, rfl⟩⟩
  | listing l =>
      cases h
      refine ⟨_, ?_, Or.inl ⟨l.path, rfl⟩⟩
      rw [Demand.act, Client.listing, Client.fetchLines, Client.fetchLinesWith, fetchItems_eq,
        bind_map_left, ← map_eq_pure_bind, ← comp_map]
      rfl
  | identityDocument =>
      cases h
      refine ⟨_, ?_, Or.inl ⟨identityPath, rfl⟩⟩
      rw [Demand.act, Client.identityDocument, fetchDocument_eq]
  | region =>
      cases h
      refine ⟨_, ?_, Or.inl ⟨identityPath, rfl⟩⟩
      rw [Demand.act, Client.region, Client.identityDocument, fetchDocument_eq,
        ← map_eq_pure_bind, ← comp_map]
      rfl
  | description =>
      cases h
      refine ⟨_, ?_, Or.inl ⟨identityPath, rfl⟩⟩
      rw [Demand.act, Client.description, Client.identityDocument, fetchDocument_eq,
        ← map_eq_pure_bind, ← comp_map]
      rfl
  | userData =>
      cases h
      refine ⟨_, ?_, Or.inl ⟨userDataPath, rfl⟩⟩
      rw [Demand.act, Client.userData, fetchDocument_eq]
  | _ => cases h

end Once

/-! ### Cutting a fetch in two -/

section Cutting

variable {channel n : Nat} {sofar later : List Said} {r : Except Failure (Option String)}

/-- Every request of a dialogue was answered that the channel is closed. -/
def AllClosed (channel : Nat) (d : List Said) : Prop :=
  ∀ request (outcome : Except Fault String), ⟨.send channel request, outcome⟩ ∈ d →
    outcome = .error .closed

-- Where a closed channel has not been heard of, there was no request.
theorem quiet_of_unstopped (h : Unstopped closing later) (hclosed : AllClosed channel later)
    (hthrough : ∀ x ∈ later, x.query.Through channel) : exchanges later = [] := by
  rw [exchanges, List.filterMap_eq_nil_iff]
  rintro ⟨query, answer⟩ hx
  cases query with
  | send k request =>
      have hk : k = channel := hthrough _ hx
      subst hk
      exact absurd ⟨⟨k, request, by rw [hclosed request answer hx]⟩, rfl⟩ (h _ hx _)
  | _ => rfl

/-- A dialogue that obeys a closed channel, that the last answer accounts for, and that is
    cut where the channel is closed. -/
theorem cut_of_concludes (hheeds : Heeds closing (sofar ++ later) r)
    (hconcludes : Concludes n (sofar ++ later) r) (hclosed : AllClosed channel later)
    (hthrough : ∀ x ∈ later, x.query.Through channel) : Cut channel n sofar later r := by
  have hwithout : exchanges later = [] → Cut channel n sofar later r := by
    intro hlater
    rw [Concludes, exchanges_append, hlater, List.append_nil] at hconcludes
    rcases hconcludes with ⟨hsofar, ⟨f, rfl, h⟩ | ⟨cache, path, value, rfl, h⟩⟩ | ⟨x, hx, h⟩
    · exact .unasked f hsofar hlater h
    · exact .known cache path value hsofar hlater h
    · exact .decided x r hlater hx h
  rcases hheeds with ⟨hunstopped, -⟩ |
    ⟨before, x, f, hsplit, hbefore, ⟨⟨k, request, rfl⟩, rfl⟩, rfl⟩
  · have hunstopped : Unstopped closing later :=
      fun x hx => hunstopped x (List.mem_append_right _ hx)
    exact hwithout (quiet_of_unstopped hunstopped hclosed hthrough)
  · -- The answer of the closed channel was the last, and stands where the second part ends.
    rcases List.eq_nil_or_concat later with rfl | ⟨quiet, x, rfl⟩
    · exact hwithout rfl
    · rw [List.concat_eq_append] at hsplit hclosed hthrough ⊢
      rw [← List.append_assoc] at hsplit
      rcases List.append_inj' hsplit rfl with ⟨rfl, hx⟩
      cases hx
      have hk : k = channel := hthrough _ (List.mem_append_right _ List.mem_cons_self)
      subst hk
      have hquiet : AllClosed k quiet :=
        fun request outcome hx => hclosed request outcome (List.mem_append_left _ hx)
      refine .barred quiet request rfl (quiet_of_unstopped ?_ hquiet ?_)
      · exact fun x hx => hbefore x (List.mem_append_right _ hx)
      · exact fun x hx => hthrough x (List.mem_append_left _ hx)

theorem through_among {α : Type} {a : Act α} {w : Surroundings} (h : a.Bars channel) :
    ∀ x ∈ (a.among w []).2, x.query.Through channel := by
  have hsince := Plan.Abides.since (Since.refl _ []) (h [] unstopped_nil)
  rcases (Plan.abides_among w hsince).1 with ⟨said, hsaid, hall⟩
  intro x hx
  have hx : x ∈ (Plan.among w a.outcome []).2 := hx
  rw [hsaid] at hx
  exact hall x hx

/-- A demand that is met by one fetch, cut in two where its channel is closed. -/
theorem cut_demand {c : Client} {D : Demand} {k : Option String → Report}
    (honce : D.once? c = some (n, k)) {w : Surroundings} {r : Except Failure Report}
    (hdemand : (D.act c).among w [] = (r, sofar ++ later)) (hclosed : AllClosed c.channel later) :
    ∃ result, r = result.map k ∧ Cut c.channel n sofar later result := by
  rcases act_of_once honce with ⟨fetch, hact, hfetch⟩
  rw [hact, map_eq_pure_bind, Act.among_map, Prod.mk.injEq] at hdemand
  rcases hdemand with ⟨hresult, hdialogue⟩
  have hattends : fetch.Attends closing c.channel := by
    rcases hfetch with ⟨path, rfl⟩ | ⟨path, force, rfl⟩
    · exact attends_fetchBody (fits_closing c) path n
    · exact attends_fetchValueWith (fits_closing c) path force n
  have hconcludes : Concludes n (fetch.among w []).2 (fetch.among w []).1 := by
    rcases hfetch with ⟨path, rfl⟩ | ⟨path, force, rfl⟩
    · exact concludes_fetchBody c path n w
    · exact concludes_fetchValueWith c path force n w
  have hheeds : Heeds closing (fetch.among w []).2 (fetch.among w []).1 :=
    Plan.abides_among w (hattends [] unstopped_nil)
  have hthrough := through_among (w := w) (bars_of_attends hattends)
  rw [hdialogue] at hconcludes hheeds hthrough
  exact ⟨_, hresult.symm, cut_of_concludes hheeds hconcludes hclosed
    (fun x hx => hthrough x (List.mem_append_right _ hx))⟩

/-- Any wish, cut in two where its channel is closed: it requests nothing more, or its next
    request is the last, and nothing but giving a right back comes after it. -/
theorem cut_of_barred {α : Type} {r : Except Failure α} (h : Barred (sofar ++ later) r)
    (hclosed : AllClosed channel later) (hthrough : ∀ x ∈ later, x.query.Through channel) :
    exchanges later = [] ∨ ∃ quiet request rest,
      later = quiet ++ ⟨.send channel request, .error .closed⟩ :: rest ∧ exchanges quiet = [] ∧
        (∀ y ∈ rest, ∃ record, y = ⟨.leave record none, ()⟩) ∧
        r = .error (.exchange .closed) := by
  rcases h with ⟨hunstopped, -⟩ | ⟨before, x, rest, hsplit, hbefore, ⟨k, request, rfl⟩, hrest, hr⟩
  · exact Or.inl (quiet_of_unstopped (fun x hx => hunstopped x (List.mem_append_right _ hx))
      hclosed hthrough)
  · rcases List.append_eq_append_iff.1 hsplit with ⟨quiet, rfl, rfl⟩ | ⟨more, rfl, hmore⟩
    · -- The answer of the closed channel stands in the second part.
      have hk : k = channel := hthrough _ (List.mem_append_right _ List.mem_cons_self)
      subst hk
      have hquiet : AllClosed k quiet :=
        fun request outcome hx => hclosed request outcome (List.mem_append_left _ hx)
      refine Or.inr ⟨quiet, request, rest, rfl, quiet_of_unstopped ?_ hquiet ?_, hrest, hr⟩
      · exact fun x hx => hbefore x (List.mem_append_right _ hx)
      · exact fun x hx => hthrough x (List.mem_append_left _ hx)
    · cases more with
      | nil =>
          have hlater : later = ⟨.send k request, .error .closed⟩ :: rest := hmore.symm
          subst hlater
          have hk : k = channel := hthrough _ List.mem_cons_self
          subst hk
          exact Or.inr ⟨[], request, rest, rfl, rfl, hrest, hr⟩
      | cons y more =>
          -- It stands in the first part, and the second only gives a right back.
          rcases List.cons.inj hmore with ⟨-, hrest'⟩
          refine Or.inl ?_
          rw [exchanges, List.filterMap_eq_nil_iff]
          intro y hy
          rcases hrest y (by rw [hrest']; exact List.mem_append_right _ hy) with ⟨record, rfl⟩
          rfl

end Cutting

end Imds
