import Imds.Proofs.Closing.Fetch
import Imds.Proofs.Switch.Handle

/-!
# Closing Is a Barrier

A channel that was closed stays closed and lets no request through, whatever plans are
carried out at the site and however they take turns. The closing changes nothing else, and
a second one changes nothing at all.

What that means to a wish that is under way is said about its own part of a chronicle, cut
in two at the closing, wherever that falls. A wish that is made later finds the channel
closed. Where it fetches it fails, `Client.refusal` says how, and leaves the site alone; what
the cache, or a handle, can answer is answered, unless the switch comes first.

Clients with another channel are not touched, although they may share everything else: what
they do, and what it leads to, is the same with the channel closed and with it open.

## Main definitions

* `Site.shut`, `Site.Quiet`: A channel is closed, and nothing went through it since.
* `Address.found`, `Client.switch`: What a client is told at a site.
* `Client.refusal`: How a fetch fails whose channel is closed.
* `Demand.budget`, `Demand.cached?`: How often a demand would try, and what the cache answers.

## Theorems

* `quiet_after`, `quiet_work`: Nothing goes through a closed channel.
* `all_closed_after`: What those hear that are under way.
* `act_of_shut`, `refuses_of_shut`: Wishes that are made later.
* `run_shut`: Wishes that go through another channel.
* `close_is_a_barrier`: All of this.
-/

namespace Imds

open Blocking (World)

/-- A site with a channel closed. -/
def Site.shut (s : Site) (channel : Nat) : Site :=
  { s with isShut := updateAt s.isShut channel true }

/-- Since a site was like this a channel has been closed, and nothing went through it. -/
def Site.Quiet (channel : Nat) (s s' : Site) : Prop :=
  s'.isShut channel = true ∧
    ∃ more, s'.sent = more ++ s.sent ∧ ∀ x ∈ more, x.channel ≠ channel

/-! ### Nothing goes through a closed channel -/

section Quiet

variable {k : Nat} {s s' : Site}

theorem Site.Quiet.refl (h : s.isShut k = true) : s.Quiet k s := ⟨h, [], rfl, nofun⟩

theorem Site.Quiet.trans {s'' : Site} (h : s.Quiet k s') (h' : s'.Quiet k s'') :
    s.Quiet k s'' := by
  rcases h with ⟨-, more, hmore, hall⟩
  rcases h' with ⟨hshut, more', hmore', hall'⟩
  refine ⟨hshut, more' ++ more, by rw [hmore', hmore, List.append_assoc], fun x hx => ?_⟩
  rcases List.mem_append.1 hx with hx | hx
  · exact hall' x hx
  · exact hall x hx

theorem quiet_of_same (h : s.isShut k = true) (hshut : s'.isShut = s.isShut)
    (hsent : s'.sent = s.sent) : s.Quiet k s' :=
  ⟨by rw [hshut, h], [], hsent, nofun⟩

/-- No query goes through a closed channel, or opens it. -/
theorem quiet_answer (h : s.isShut k = true) (query : Query) :
    s.Quiet k (query.answer s).2 := by
  cases query with
  | send channel request =>
      simp only [Query.answer, Site.exchange]
      split
      · exact .refl h
      · next hopen =>
        refine ⟨h, [⟨channel, request, s.now⟩], rfl, fun x hx => ?_⟩
        rw [List.mem_singleton.1 hx]
        rintro rfl
        exact hopen h
  | shut channel =>
      refine ⟨?_, [], rfl, fun x hx => absurd hx List.not_mem_nil⟩
      by_cases hk : k = channel
      · rw [hk]
        exact updateAt_self _ _ _
      · exact (updateAt_of_ne _ _ hk).trans h
  | pause length =>
      rcases Plan.answer_pause_eq length s with ⟨time, hpause⟩
      rw [hpause]
      exact quiet_of_same h rfl rfl
  | enter record =>
      simp only [Query.answer]
      split
      · exact .refl h
      · exact quiet_of_same h rfl rfl
  | _ => exact quiet_of_same h rfl rfl

theorem quiet_run {α : Type} (h : s.isShut k = true) (p : Plan α) : s.Quiet k (p.run s).2 := by
  induction p generalizing s with
  | done value => exact .refl h
  | ask query next ih =>
      have hanswer := quiet_answer h query
      exact hanswer.trans (ih _ hanswer.1)

theorem quiet_leaveBehind {α : Type} (h : s.isShut k = true) (p : Party α) :
    s.Quiet k (p.leaveBehind s) := by
  rw [Party.leaveBehind]
  cases p.right with
  | none => exact .refl h
  | some record => exact quiet_of_same h rfl rfl

/-- One thing that happens in a crowd. -/
theorem quiet_take {α : Type} {c : Crowd α} (h : c.site.isShut k = true) (t : Turn α) :
    c.site.Quiet k (c.take t).site := by
  cases t with
  | arrive i plan =>
      simp only [Crowd.take]
      cases c.parties i <;> exact .refl h
  | act i =>
      simp only [Crowd.take]
      cases c.parties i with
      | none => exact .refl h
      | some p =>
          simp only [Party.act]
          cases p.plan with
          | done value => exact .refl h
          | ask query next =>
              simp only
              split
              · exact .refl h
              · exact quiet_answer h query
  | vanish i =>
      simp only [Crowd.take]
      cases c.parties i with
      | none => exact .refl h
      | some p => exact quiet_leaveBehind h p
  | setFlag flag => exact quiet_of_same h rfl rfl
  | setVariable name value => exact quiet_of_same h rfl rfl

/-- A history of a crowd, whatever plans there are. -/
theorem quiet_after {α : Type} {c : Crowd α} (h : c.site.isShut k = true)
    (turns : List (Turn α)) : c.site.Quiet k (c.after turns).site := by
  induction turns generalizing c with
  | nil => exact .refl h
  | cons t turns ih =>
      have htake := quiet_take h t
      exact htake.trans (ih htake.1)

theorem quiet_drive {α : Type} {d : Desk} (h : d.site.isShut k = true) (a : Act α) :
    d.site.Quiet k (d.drive a).2.site := by
  rw [Desk.drive_eq_run]
  exact quiet_run h a.outcome

theorem quiet_perform {d : Desk} (h : d.site.isShut k = true) (o : Operation) :
    d.site.Quiet k (d.perform o).2.site := by
  cases o with
  | demand c D => exact quiet_drive h _
  | interfaces c =>
      have hdrive := quiet_drive h c.interfaces
      simp only [Desk.perform]
      rcases h : d.drive c.interfaces with ⟨result, after⟩
      rw [h] at hdrive
      cases result <;> exact hdrive
  | interface c mac =>
      simp only [Desk.perform, Plan.drive_eq_run]
      exact quiet_run h _
  | question index q =>
      simp only [Desk.perform]
      cases d.nics[index]? with
      | none => exact .refl h
      | some n => exact quiet_drive h _
  | setFlag flag => exact quiet_of_same h rfl rfl
  | setVariable name value => exact quiet_of_same h rfl rfl

/-- Operations one after another. -/
theorem quiet_work {d : Desk} (h : d.site.isShut k = true) (os : List Operation) :
    d.site.Quiet k (d.work os).2.site := by
  induction os generalizing d with
  | nil => exact .refl h
  | cons o os ih =>
      have hperform := quiet_perform h o
      exact hperform.trans (ih hperform.1)

end Quiet

/-! ### Wishes that are under way -/

namespace Chronicle

variable {site : Site} {k : Nat}

-- A channel that somebody closed is closed.
theorem isShut_of_deed {events : List Happening} {x : Deed}
    (hx : x ∈ ((ofSite site).after events).deeds) (hshut : x.said.query = .shut k) :
    ((ofSite site).after events).site.isShut k = true := by
  refine holds_after (P := fun s => ∀ x ∈ s.deeds, x.said.query = .shut k →
    s.site.isShut k = true) nofun ?_ events x hx hshut
  intro s s' _ hs hmoves x hx hshut
  cases hmoves with
  | asks i p query next hp hplan hfree =>
      rcases List.mem_append.1 hx with hx | hx
      · exact (quiet_answer (hs x hx hshut) query).1
      · rw [List.mem_singleton.1 hx] at hshut
        have hquery : query = .shut k := hshut
        subst hquery
        exact updateAt_self _ _ _
  | vanishes i p hp => exact (quiet_leaveBehind (hs x hx hshut) p).1
  | stays => exact hs x hx hshut
  | arrives wish => exact hs x hx hshut
  | flagged flag => exact hs x hx hshut
  | varied name value => exact hs x hx hshut

/-- Once a channel was closed, everybody is told so. -/
theorem all_closed_after {events : List Happening} {before after : List Deed} {j : Nat}
    {answer : Unit}
    (h : ((ofSite site).after events).deeds = before ++ ⟨j, ⟨.shut k, answer⟩⟩ :: after)
    (i : Nat) : AllClosed k (own i (⟨j, ⟨.shut k, answer⟩⟩ :: after)) := by
  intro request outcome hx
  rcases List.mem_cons.1 (mem_own.1 hx) with hx | hx
  · cases hx
  · rcases List.append_of_mem hx with ⟨between, rest, rfl⟩
    have hsplit : ((ofSite site).after events).deeds =
        (before ++ ⟨j, ⟨.shut k, answer⟩⟩ :: between) ++
          ⟨i, ⟨.send k request, outcome⟩⟩ :: rest := by
      rw [h, List.append_assoc, List.cons_append]
    rcases split_deeds hsplit with ⟨first, second, -, hdeeds, p, next, -, -, -, hanswer⟩
    have hshut : ((ofSite site).after first).site.isShut k = true := by
      refine isShut_of_deed (x := ⟨j, ⟨.shut k, answer⟩⟩) ?_ rfl
      rw [hdeeds]
      exact List.mem_append_right _ List.mem_cons_self
    have hanswer : outcome = (((ofSite site).after first).site.exchange k request).1 := hanswer
    rw [hanswer, Site.exchange, if_pos hshut]

/-- A wish that is under way when its channel is closed, and has come to its end. -/
theorem cut_in_chronicle {events : List Happening} {before after : List Deed} {j i : Nat}
    {answer : Unit} {wish : Wish} {p : Party (Except Failure Report)}
    {r : Except Failure Report}
    (hdeeds : ((ofSite site).after events).deeds = before ++ ⟨j, ⟨.shut k, answer⟩⟩ :: after)
    (hwish : ((ofSite site).after events).wishes[i]? = some wish)
    (hchannel : wish.client.channel = k) (hp : ((ofSite site).after events).party i = some p)
    (hr : p.value? = some r) :
    let later := own i (⟨j, ⟨.shut k, answer⟩⟩ :: after)
    (exchanges later = [] ∨ ∃ quiet request rest,
      later = quiet ++ ⟨.send k request, .error .closed⟩ :: rest ∧ exchanges quiet = [] ∧
        (∀ y ∈ rest, ∃ record, y = ⟨.leave record none, ()⟩) ∧
        r = .error (.exchange .closed)) ∧
      ∀ c D n f, wish = .demand c D → D.once? c = some (n, f) →
        ∃ result, r = result.map f ∧ Cut k n (own i before) later result := by
  intro later
  have hclosed : AllClosed k later := all_closed_after hdeeds i
  have hleads : wish.plan.Leads (own i before ++ later) (.done r) := by
    have h := leads_of_value hwish hp hr
    rwa [hdeeds, own_append] at h
  have hbars := bars_wish wish
  rw [hchannel] at hbars
  refine ⟨cut_of_barred (hleads.abides (hbars [] unstopped_nil)) hclosed ?_, ?_⟩
  · rcases hleads.among with ⟨w, hw⟩
    intro x hx
    refine through_among (w := w) hbars x ?_
    rw [show wish.act.among w [] = _ from hw]
    exact List.mem_append_right _ hx
  · rintro c D n f rfl honce
    rcases hleads.among with ⟨w, hw⟩
    rw [← show c.channel = k from hchannel] at hclosed ⊢
    exact cut_demand honce hw hclosed

end Chronicle

/-! ### Wishes that are made later -/

/-- The base address as settings have it now, if it is not fixed. -/
def Address.found (setting : String → Option String) : Address → Except Failure String
  | .fixed base => .ok base
  | .environment => Address.ofVariables (setting endpointVariable) (setting modeVariable)
  | .provided name _ answer => Address.ofAnswer (answer (setting name))

/-- What the switch of a client says at a site. -/
def Client.switch (c : Client) (s : Site) : Except Failure Bool :=
  c.settings.gate.tell (c.settings.gate.shown s.settings s.flag)

/-- How a fetch with a budget fails at a site where its channel is closed: as the switch has
    it, or else as the base address has it, or else for want of attempts, or else because the
    channel is closed. -/
def Client.refusal (c : Client) (s : Site) (n : Nat) : Failure :=
  match c.switch s, c.settings.address.found s.setting with
  | .error f, _ => f
  | .ok true, _ => .disabled
  | .ok false, .error f => f
  | .ok false, .ok _ => if n = 0 then .unreachable else .exchange .closed

/-- How often a demand would try. -/
def Demand.budget (c : Client) : Demand → Nat
  | .valueWith _ _ n => n
  | .items _ n _ => n
  | .linesWith _ n => n
  | _ => c.attempts

/-- What the cache answers: a value that is held and may be taken from there, as long as the
    switch is off. -/
def Client.cached? (c : Client) (s : Site) (path : String) (force : Bool) : Option String :=
  match c.switch s with
  | .ok false => if force then none else s.memo c.settings.cache path
  | _ => none

/-- What the cache answers to a demand. -/
def Demand.cached? (c : Client) (s : Site) (D : Demand) : Option Report :=
  (D.single? c).bind (fun q =>
    (c.cached? s q.path q.force).map (fun value => .text (some value)))

section Later

variable {c : Client} {s : Site}

-- Neither a look at the switch nor the search for the base changes anything.
theorem pass_run (c : Client) (s : Site) : c.settings.gate.pass.run s = (match c.switch s with
    | .error f => .error f
    | .ok true => .error .disabled
    | .ok false => .ok (), s) := by
  have hlook : c.settings.gate.isDisabled.run s = (c.switch s, s) := by
    rw [Client.switch]
    cases c.settings.gate <;> rfl
  cases hswitch : c.switch s with
  | error f =>
      rw [hswitch] at hlook
      exact run_bind_error hlook
  | ok off =>
      rw [hswitch] at hlook
      rw [Gate.pass, run_bind_ok hlook]
      cases off <;> rfl

theorem resolve_run (a : Address) (s : Site) : a.resolve.run s = (a.found s.setting, s) := by
  have hsetting : ∀ name, (liftM (Plan.setting name) : Act (Option String)).run s =
      (.ok (s.setting name), s) := fun name => rfl
  cases a with
  | fixed base => rfl
  | environment =>
      rw [Address.resolve, run_bind_ok (hsetting Address.endpointVariable), Address.found,
        Address.ofVariables]
      cases Address.explicit (s.setting Address.endpointVariable) with
      | some base => rfl
      | none => exact run_bind_ok (hsetting Address.modeVariable)
  | provided name hname answer => exact run_bind_ok (hsetting name)

-- The first request is the last thing that is tried.
theorem attempt_of_shut (h : s.isShut c.channel = true) (base path : String) :
    (c.attempt base path).run s = (.fatal (.exchange .closed), s) := by
  have hsend : (Query.send c.channel (.forToken base c.settings.lifetime)).answer s =
      (.error .closed, s) := by
    rw [Query.answer, Site.exchange, if_pos h]
  change Plan.run (Plan.ask (.send c.channel (.forToken base c.settings.lifetime)) _) s = _
  rw [Plan.run_ask, hsend]
  rfl

theorem fetchItems_of_shut (h : s.isShut c.channel = true) (path : String) (n : Nat)
    (whole : Bool) : (c.fetchItems path n whole).run s = (.error (c.refusal s n), s) := by
  refine run_bind_error ?_
  have hpass := pass_run c s
  have hresolve := resolve_run c.settings.address s
  rw [Client.refusal]
  rcases hswitch : c.switch s with f | _ | _
  · rw [hswitch] at hpass
    exact run_bind_error hpass
  · rw [hswitch] at hpass
    rw [Client.fetchBody, run_bind_ok hpass]
    cases hfound : c.settings.address.found s.setting with
    | error f =>
        rw [hfound] at hresolve
        exact run_bind_error hresolve
    | ok base =>
        rw [hfound] at hresolve
        rw [run_bind_ok hresolve]
        cases n with
        | zero => rfl
        | succ m =>
            change Plan.run ((c.attempt base path) >>= _) s = _
            rw [Plan.run_bind, attempt_of_shut h]
            rfl
  · rw [hswitch] at hpass
    exact run_bind_error hpass

/-- Where its channel is closed, a client fetches nothing for a handle. -/
theorem refuses_of_shut (h : s.isShut c.channel = true) :
    c.Refuses (c.refusal s c.attempts) s :=
  fun path whole => fetchItems_of_shut h path c.attempts whole

theorem fetchValueWith_of_shut (h : s.isShut c.channel = true) (path : String) (force : Bool)
    (n : Nat) : (c.fetchValueWith path force n).run s =
      (heldOr (c.refusal s n) ((c.cached? s path force).map some), s) := by
  have hpass := pass_run c s
  have hstored : (c.fetchAndStore path n).run s = (.error (c.refusal s n), s) :=
    run_bind_error (fetchItems_of_shut h path n true)
  rw [Client.fetchValueWith_eq, Client.cached?]
  rcases hswitch : c.switch s with f | _ | _
  · rw [hswitch] at hpass
    rw [run_bind_error hpass, Client.refusal, hswitch]
    rfl
  · rw [hswitch] at hpass
    rw [run_bind_ok hpass]
    cases force with
    | true => exact hstored
    | false =>
        have hknown : (c.known path false).run s = (.ok (s.memo c.settings.cache path), s) := rfl
        rw [run_bind_ok hknown]
        cases hmemo : s.memo c.settings.cache path with
        | some value =>
            simp only [Bool.false_eq_true, if_false]
            rfl
        | none =>
            simp only [Bool.false_eq_true, if_false]
            exact hstored
  · rw [hswitch] at hpass
    rw [run_bind_error hpass, Client.refusal, hswitch]
    rfl

/-- Everything that metadata answers, at a site where the channel is closed: the cache
    answers, or the fetch fails, and the site is left alone. -/
theorem act_of_shut (h : s.isShut c.channel = true) {D : Demand} (hD : D.AsksMetadata) :
    (D.act c).run s = (heldOr (c.refusal s (D.budget c)) (D.cached? c s), s) := by
  have hfetch : ∀ {α : Type} {a : Act α} (n : Nat), a.run s = (.error (c.refusal s n), s) →
      ∀ k : α → Report, (k <$> a).run s = (.error (c.refusal s n), s) := by
    intro α a n ha k
    rw [run_map, ha]
    rfl
  cases hsingle : D.single? c with
  | some q =>
      have hbudget : D.budget c = q.attempts := by
        cases D <;> cases hsingle <;> rfl
      rw [act_of_single hsingle, run_map, fetchValueWith_of_shut h, heldOr_map, hbudget,
        Demand.cached?, hsingle, Option.map_map]
      rfl
  | none =>
      rw [Demand.cached?, hsingle]
      have hitems := fun path n whole => fetchItems_of_shut h path n whole
      have hdocument : ∀ path, (c.fetchDocument path).run s =
          (.error (c.refusal s c.attempts), s) := fun path => run_bind_error (hitems path _ true)
      have hlisting : ∀ l, (c.listing l).run s = (.error (c.refusal s c.attempts), s) :=
        fun l => run_bind_error (hitems l.path _ false)
      cases D with
      | items path n whole => exact hfetch n (hitems path n whole) _
      | lines path => exact hfetch _ (hitems path _ false) _
      | linesWith path n => exact hfetch n (hitems path n false) _
      | document path => exact hfetch _ (hdocument path) _
      | listing l => exact hfetch _ (hlisting l) _
      | identityDocument => exact hfetch _ (hdocument _) _
      | region => exact hfetch _ (run_bind_error (hdocument _)) _
      | description => exact hfetch _ (run_bind_error (hdocument _)) _
      | userData => exact hfetch _ (hdocument _) _
      | blockDevices => exact hfetch _ (run_bind_error (hlisting _)) _
      | keep path value => exact absurd hD id
      | clearCache => exact absurd hD id
      | close => exact absurd hD id
      | value path => cases hsingle
      | valueWith path force n => cases hsingle
      | scalar v => cases hsingle

theorem interfaces_of_shut (h : s.isShut c.channel = true) :
    c.interfaces.run s = (.error (c.refusal s c.attempts), s) :=
  run_bind_error (run_bind_error (fetchItems_of_shut h _ c.attempts false))

theorem question_of_shut {n : Nic} (h : s.isShut n.client.channel = true) (q : Question) :
    (q.act n).run s = (heldOr (n.client.refusal s n.client.attempts)
      ((s.records n.record).memory.holds n.mac q), s.released n.record q) :=
  -- Whether a listing is being fetched makes no difference to a fetch.
  question_of_refused ⟨refuses_of_shut h, refuses_of_shut (s := s.claim n.record true) h⟩ q

variable {d : Desk}

theorem perform_demand_of_shut (h : d.site.isShut c.channel = true) {D : Demand}
    (hD : D.AsksMetadata) : d.perform (.demand c D) =
      (heldOr (c.refusal d.site (D.budget c)) (D.cached? c d.site), d) := by
  rw [Desk.perform, Desk.drive_eq_run, act_of_shut h hD]

theorem perform_interfaces_of_shut (h : d.site.isShut c.channel = true) :
    d.perform (.interfaces c) = (.error (c.refusal d.site c.attempts), d) := by
  have hdrive : d.drive c.interfaces = (.error (c.refusal d.site c.attempts), d) := by
    rw [Desk.drive_eq_run, interfaces_of_shut h]
  rw [Desk.perform, hdrive]

theorem perform_question_of_shut {index : Nat} {n : Nic} (hn : d.nics[index]? = some n)
    (h : d.site.isShut n.client.channel = true) (q : Question) :
    d.perform (.question index q) =
      (heldOr (n.client.refusal d.site n.client.attempts)
        ((d.site.records n.record).memory.holds n.mac q),
        { d with site := d.site.released n.record q }) := by
  rw [perform_question hn, question_of_shut h]

end Later

/-! ### Wishes that go through another channel -/

section Elsewhere

variable {k k' : Nat}

theorem pause_shut (length : Duration) (s : Site) : (Query.pause length).answer (s.shut k) =
    (((Query.pause length).answer s).1, ((Query.pause length).answer s).2.shut k) := by
  rcases Plan.answer_pause_moves length with ⟨move, hmove⟩
  rw [hmove, hmove]
  rfl

theorem answer_shut (hne : k' ≠ k) {query : Query} (h : query.Through k') (s : Site) :
    query.answer (s.shut k) = ((query.answer s).1, (query.answer s).2.shut k) := by
  cases query with
  | send channel request =>
      have h : channel = k' := h
      subst h
      simp only [Query.answer, Site.exchange, Site.shut, updateAt_of_ne _ _ hne]
      split <;> rfl
  | shut channel =>
      have h : channel = k' := h
      subst h
      simp only [Query.answer, Site.shut, updateAt_comm _ _ _ (Ne.symm hne)]
  | enter record =>
      cases hkeys : (s.records record).keys with
      | some keys => simp only [Query.answer, Site.shut, hkeys, Option.isSome_some, if_true]
      | none =>
          simp only [Query.answer, Site.shut, Site.setRecord, hkeys, Option.isSome_none,
            Bool.false_eq_true, if_false]
  | pause length => exact pause_shut length s
  | _ => rfl

/-- A plan that uses another channel does the same with this one closed. -/
theorem run_shut {α : Type} (hne : k' ≠ k) {p : Plan α} {ends : List Said → α → Prop}
    {d : List Said} (h : p.Abides (fun _ query => query.Through k') ends d) (s : Site) :
    p.run (s.shut k) = ((p.run s).1, (p.run s).2.shut k) := by
  induction p generalizing d s with
  | done value => rfl
  | ask query next ih =>
      rw [Plan.run_ask, answer_shut hne h.1]
      exact ih _ (h.2 _) _

end Elsewhere

/-- Closing a channel is a barrier. It closes the channel for good, changes nothing else, and
    changes nothing when it is done again. From then on nothing goes through the channel,
    whoever is at the site and in whatever order they take turns.

    A wish that was under way through the channel comes to its end, unless it has to wait for
    another party, which need not use the channel. It requests nothing more, or its next
    request is its last, after which it says nothing, but for giving a right back, and fails
    because the channel is closed. A fetch of its own that requests nothing more ends as its
    last answer decides.

    What is asked for later is answered by the cache or by what a handle holds, or fails as
    the switch, the base address, the number of attempts and the closed channel have it, in
    this order; it changes nothing, and the same is true of a thread. Clients that have
    another channel do what they do at a site where this one is open. -/
theorem close_is_a_barrier (k : Nat) :
    (∀ (c : Client) (s : Site), c.channel = k →
      c.close.run s = ((), s.shut k) ∧ (s.isShut k = true → s.shut k = s)) ∧
    (∀ (α : Type) (c : Crowd α) (turns : List (Turn α)), c.site.isShut k = true →
      c.site.Quiet k (c.after turns).site) ∧
    (∀ (d : Desk) (os : List Operation), d.site.isShut k = true →
      d.site.Quiet k (d.work os).2.site) ∧
    (∀ (site : Site) (events : List Happening) (before after : List Deed) (j : Nat)
      (answer : Unit) (i : Nat) (wish : Wish) (p : Party (Except Failure Report)),
      let s := (Chronicle.ofSite site).after events
      s.deeds = before ++ ⟨j, ⟨.shut k, answer⟩⟩ :: after → s.wishes[i]? = some wish →
      wish.client.channel = k → s.party i = some p →
        let later := own i (⟨j, ⟨.shut k, answer⟩⟩ :: after)
        (∃ m p', (s.after (List.replicate m (.act i))).party i = some p' ∧
          ((∃ r, p'.value? = some r) ∨ ∃ query next, p'.plan = .ask query next ∧
            query.isBlocked (s.after (List.replicate m (.act i))).site = true)) ∧
        ∀ r, p.value? = some r →
          (exchanges later = [] ∨ ∃ quiet request rest,
            later = quiet ++ ⟨.send k request, .error .closed⟩ :: rest ∧ exchanges quiet = [] ∧
              (∀ y ∈ rest, ∃ record, y = ⟨.leave record none, ()⟩) ∧
              r = .error (.exchange .closed)) ∧
            ∀ c D n f, wish = .demand c D → D.once? c = some (n, f) →
              ∃ result, r = result.map f ∧ Cut k n (own i before) later result) ∧
    (∀ (d : Desk) (b : Blocking.Desk), d.site.isShut k = true → d.Agrees b →
      (∀ c D, c.channel = k → D.AsksMetadata →
        let r := heldOr (c.refusal d.site (D.budget c)) (D.cached? c d.site)
        d.perform (.demand c D) = (r, d) ∧
          (b.perform (.demand c D)).1 = r ∧ d.Agrees (b.perform (.demand c D)).2) ∧
      (∀ c, c.channel = k →
        let r := Except.error (c.refusal d.site c.attempts)
        d.perform (.interfaces c) = (r, d) ∧
          (b.perform (.interfaces c)).1 = r ∧ d.Agrees (b.perform (.interfaces c)).2) ∧
      ∀ index n q, d.nics[index]? = some n → n.client.channel = k →
        let r := heldOr (n.client.refusal d.site n.client.attempts)
          ((d.site.records n.record).memory.holds n.mac q)
        let d' := { d with site := d.site.released n.record q }
        d.perform (.question index q) = (r, d') ∧
          (b.perform (.question index q)).1 = r ∧
          d'.Agrees (b.perform (.question index q)).2) ∧
    ∀ (wish : Wish) (s : Site), wish.client.channel ≠ k →
      wish.act.drive (s.shut k) = ((wish.act.drive s).1, (wish.act.drive s).2.shut k) := by
  refine ⟨?_, ?_, ?_, ?_, ?_, ?_⟩
  · rintro c s rfl
    exact ⟨rfl, fun h => by rw [Site.shut, updateAt_eq_self h]⟩
  · exact fun α c turns h => quiet_after h turns
  · exact fun d os h => quiet_work h os
  · intro site events before after j answer i wish p s hdeeds hwish hchannel hp later
    refine ⟨Chronicle.ends_or_waits hp, fun r hr => ?_⟩
    exact Chronicle.cut_in_chronicle hdeeds hwish hchannel hp hr
  · -- What a desk does is known, and a thread's desk that agrees with it does the same.
    intro d b hshut hagrees
    have hboth : ∀ {o : Operation} {r : Except Failure Report} {d' : Desk},
        d.perform o = (r, d') →
          d.perform o = (r, d') ∧ (b.perform o).1 = r ∧ d'.Agrees (b.perform o).2 := by
      intro o r d' h
      have hthread := agrees_perform hagrees o
      rw [h] at hthread
      exact ⟨h, hthread⟩
    refine ⟨?_, ?_, ?_⟩
    · rintro c D rfl hD
      exact hboth (perform_demand_of_shut hshut hD)
    · rintro c rfl
      exact hboth (perform_interfaces_of_shut hshut)
    · rintro index n q hn rfl
      exact hboth (perform_question_of_shut hn hshut q)
  · intro wish s hne
    simp only [Act.drive, Plan.drive_eq_run]
    exact run_shut hne (bars_wish wish [] unstopped_nil) s

-- The channel is closed after the token was issued. The read is not sent, and the fetch does
-- not try again, although two attempts are left.
theorem closed_before_the_read :
    let c : Client := ⟨⟨.fixed "http://host", .flag, ⟨3, Duration.zero⟩, 21600, 0⟩, 0⟩
    let s := (Chronicle.ofSite (Site.fresh (fun _ => .ok "t"))).after
      [.arrive (.demand c (.document "/a")) .thread, .act 0, .act 0,
        .arrive (.demand c .close) .task, .act 1, .act 0]
    let look : Said := ⟨.flag, false⟩
    let issue : Said := ⟨.send 0 (.forToken "http://host" 21600), .ok "t"⟩
    let read : Said := ⟨.send 0 (.forPath "http://host" "/a" (some "t")), .error .closed⟩
    s.deeds = [⟨0, look⟩, ⟨0, issue⟩] ++ ⟨1, ⟨.shut 0, ()⟩⟩ :: [⟨0, read⟩] ∧
      s.site.sent.length = 1 ∧
      ∃ result, Cut 0 3 [look, issue] [read] result ∧
        (s.party 0).bind Party.value? = some (result.map .text) := by
  intro c s look issue read
  have hdeeds : s.deeds = [⟨0, look⟩, ⟨0, issue⟩] ++ ⟨1, ⟨.shut 0, ()⟩⟩ :: [⟨0, read⟩] := rfl
  refine ⟨hdeeds, rfl, ?_⟩
  have hcut := (close_is_a_barrier 0).2.2.2.1 _ _ _ _ 1 () 0 _ _ hdeeds rfl rfl rfl
  rcases (hcut.2 _ rfl).2 c (.document "/a") 3 .text rfl rfl with ⟨result, hresult, h⟩
  exact ⟨result, h, congrArg some hresult⟩

end Imds
