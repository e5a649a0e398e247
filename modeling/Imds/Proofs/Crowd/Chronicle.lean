import Imds.Proofs.Cache.Scene

/-!
# The Chronicle of a Crowd

Whoever is at a site has made a wish: a demand to a client, a question to a handle on an
interface, or the wish for a handle on one interface or on all of them. Tasks and threads
make wishes, and each has its own operations for them. A `Chronicle` keeps the wishes and
writes down every query with its answer, whoever put it.

A statement about a crowd comes in two halves. What one wish may say, and what it comes to,
is a matter of its plan, whatever it is told. What it is told is a matter of the site at the
time. `Leads` is the link for the first half: at any time a party goes on with what its
wish leads to by way of its own part of the chronicle, so that a conduct known of the plan is
kept in the crowd, and a wish that has ended is one that was carried out among surroundings
that gave just these answers. `split_deeds` is the link for the second half: any deed takes
the history back to the moment when it was done, with the site as it was then.

## Main definitions

* `Plan.Leads`: What is left of a plan after a dialogue.
* `Surroundings.echo`: Surroundings that answer as was answered before.
* `Wish`, `Wish.plan`: What somebody wants, and the plan for it.
* `Wish.blocking`, `Wish.planOf`: How a thread meets a wish, and the plan of either.
* `Chronicle`, `Chronicle.after`: A crowd with its record, and a history.
* `Chronicle.Moves`: Everything that can happen.
* `Chronicle.Moment`: When a deed was done.

## Theorems

* `planOf_eq`: A thread with a wish asks what a task asks.
* `Leads.abides`, `Leads.among`: Plans in a crowd keep to their conduct.
* `leads_of_party`, `leads_of_deed`: What parties say, and go on with.
* `split_deeds`: The moment of a deed.
* `ends_or_waits`: A party comes to its end unless it has to wait.
-/

namespace Imds

/-! ### What is left of a plan -/

/-- A plan is what another one leads to by way of a dialogue. -/
inductive Plan.Leads {α : Type} (p : Plan α) : List Said → Plan α → Prop where
  | start : Leads p [] p
  | told {d : List Said} {query : Query} {next : query.Answer → Plan α}
      (h : Leads p d (.ask query next)) (a : query.Answer) : Leads p (d ++ [⟨query, a⟩]) (next a)

section Answers

instance (query : Query) : Nonempty query.Answer := by
  cases query <;> exact ⟨default⟩

/-- Surroundings that give the answers of a dialogue, in the places where it has them. -/
noncomputable def Surroundings.echo (d : List Said) : Surroundings :=
  fun e query => Classical.epsilon (fun a => e ++ [⟨query, a⟩] <+: d)

theorem echo_of_prefix {d e : List Said} {query : Query} {a : query.Answer}
    (h : e ++ [⟨query, a⟩] <+: d) : Surroundings.echo d e query = a := by
  have hecho : e ++ [⟨query, Surroundings.echo d e query⟩] <+: d :=
    Classical.epsilon_spec (p := fun b => e ++ [(⟨query, b⟩ : Said)] <+: d) ⟨a, h⟩
  have heq := List.IsPrefix.eq_of_length
    (List.prefix_of_prefix_length_le hecho h (by simp)) (by simp)
  have hsaid := List.append_cancel_left heq
  simp only [List.cons.injEq, and_true, Said.mk.injEq, heq_eq_eq, true_and] at hsaid
  exact hsaid

end Answers

namespace Plan.Leads

variable {α : Type} {p q : Plan α} {d : List Said}

theorem abides {may : List Said → Query → Prop} {ends : List Said → α → Prop}
    (h : p.Leads d q) (hp : p.Abides may ends []) : q.Abides may ends d := by
  induction h with
  | start => exact hp
  | told _ a ih => exact ih.2 a

theorem among_echo (h : p.Leads d q) {whole : List Said} (hwhole : d <+: whole) :
    p.among (.echo whole) [] = q.among (.echo whole) d := by
  induction h with
  | start => rfl
  | told h a ih =>
      rw [ih (List.IsPrefix.trans (List.prefix_append _ _) hwhole), among_ask,
        echo_of_prefix hwhole]

/-- A plan that was led to its end is one that was carried out among some surroundings. -/
theorem among {value : α} (h : p.Leads d (.done value)) :
    ∃ w, p.among w [] = (value, d) :=
  ⟨.echo d, h.among_echo (List.prefix_refl d)⟩

end Plan.Leads

/-! ### Wishes and their record -/

/-- What somebody wants of a client, or of a handle on an interface. -/
inductive Wish where
  /-- A demand is put to a client. -/
  | demand (client : Client) (demand : Demand)
  /-- Handles on all interfaces are wanted. -/
  | interfaces (client : Client)
  /-- A handle on one interface is wanted. -/
  | interface (client : Client) (mac : String)
  /-- A question is put to a handle. -/
  | question (nic : Nic) (question : Question)

namespace Wish

/-- How a wish is met. Of handles that were made their hardware addresses are reported. -/
def act : Wish → Act Report
  | .demand c D => D.act c
  | .interfaces c => (fun nics => .list (nics.map Nic.mac)) <$> c.interfaces
  | .interface c mac => (fun n => .text (some n.mac)) <$> (Nic.ofMac c mac).act
  | .question n q => q.act n

/-- The plan for a wish. -/
def plan (wish : Wish) : Plan (Except Failure Report) := wish.act.outcome

/-- How a thread meets a wish. -/
def blocking : Wish → Blocking.Direct Report
  | .demand c D => Blocking.demand c D
  | .interfaces c => (fun nics => .list (nics.map Blocking.Nic.mac)) <$> Blocking.interfaces c
  | .interface c mac => (fun n => .text (some n.mac)) <$> (Blocking.Nic.ofMac c mac).act
  | .question n q => Blocking.question n.blocking q

/-- The plan for a wish of a party that waits in some way. -/
def planOf (wish : Wish) : Manner → Plan (Except Failure Report)
  | .task => wish.plan
  | .thread => wish.blocking.outcome

theorem blocking_eq (wish : Wish) : wish.blocking = wish.act := by
  cases wish with
  | demand c D => exact Blocking.demand_eq c D
  | interfaces c =>
      rw [blocking, Blocking.interfaces_eq, act, ← comp_map]
      refine congrArg (· <$> c.interfaces) (funext fun nics => congrArg Report.list ?_)
      exact List.map_map
  | interface c mac => rfl
  | question n q => exact Blocking.question_eq n q

/-- A thread with a wish asks what a task asks. -/
theorem planOf_eq (wish : Wish) (waiting : Manner) : wish.planOf waiting = wish.plan := by
  cases waiting with
  | task => rfl
  | thread => rw [planOf, blocking_eq, plan]

/-- The client that meets a wish. -/
def client : Wish → Client
  | .demand c _ => c
  | .interfaces c => c
  | .interface c _ => c
  | .question n _ => n.client

end Wish

/-- A crowd with its record. -/
structure Chronicle where
  /-- The crowd. -/
  crowd : Crowd (Except Failure Report)
  /-- The wishes, oldest first. A party has the number of its wish. -/
  wishes : List Wish
  /-- What was done, oldest first. -/
  deeds : List Deed

/-- What happens in a crowd. -/
inductive Happening where
  /-- Somebody makes a wish. -/
  | arrive (wish : Wish) (waiting : Manner)
  /-- A party puts its next query. -/
  | act (i : Nat)
  /-- A party vanishes. -/
  | vanish (i : Nat)
  /-- Somebody throws the flag. -/
  | setFlag (flag : Bool)
  /-- Somebody sets a variable of the environment, or removes it. -/
  | setVariable (name : String) (value : Option Variable)

namespace Chronicle

/-- A site where nobody is, and nothing was done. -/
def ofSite (site : Site) : Chronicle := ⟨.ofSite site, [], []⟩

/-- The site. -/
def site (s : Chronicle) : Site := s.crowd.site

/-- The party with a number. -/
def party (s : Chronicle) (i : Nat) : Option (Party (Except Failure Report)) := s.crowd.parties i

/-- The turn that the crowd takes. -/
def turn (s : Chronicle) : Happening → Turn (Except Failure Report)
  | .arrive wish waiting => .arrive s.wishes.length (wish.planOf waiting)
  | .act i => .act i
  | .vanish i => .vanish i
  | .setFlag flag => .setFlag flag
  | .setVariable name value => .setVariable name value

/-- What is written down of it. -/
def noted (s : Chronicle) : Happening → List Deed
  | .act i => (((s.party i).bind (fun p => p.said? s.site)).map (Deed.mk i)).toList
  | _ => []

/-- The wishes that come with it. -/
def brought : Happening → List Wish
  | .arrive wish _ => [wish]
  | _ => []

/-- A chronicle after something happened. -/
def take (s : Chronicle) (e : Happening) : Chronicle :=
  ⟨s.crowd.take (s.turn e), s.wishes ++ brought e, s.deeds ++ s.noted e⟩

/-- A chronicle after a history. -/
def after (s : Chronicle) (events : List Happening) : Chronicle := events.foldl take s

/-- What a chronicle says of parties: those that have not come yet are not there and have
    done nothing, and those that are there go on with what their wish has led them to. -/
structure Sound (s : Chronicle) : Prop where
  unborn : ∀ i, s.wishes.length ≤ i → s.party i = none ∧ own i s.deeds = []
  leads : ∀ i p wish, s.party i = some p → s.wishes[i]? = some wish →
    wish.plan.Leads (own i s.deeds) p.plan

theorem after_append (s : Chronicle) (first second : List Happening) :
    s.after (first ++ second) = (s.after first).after second :=
  List.foldl_append

theorem after_concat (s : Chronicle) (events : List Happening) (e : Happening) :
    s.after (events ++ [e]) = (s.after events).take e :=
  s.after_append events [e]

-- Wishes and deeds are only ever added.
theorem wishes_after (s : Chronicle) (events : List Happening) :
    (s.after events).wishes = s.wishes ++ events.flatMap brought := by
  induction events generalizing s with
  | nil => exact (List.append_nil _).symm
  | cons e events ih =>
      refine (ih (s.take e)).trans ?_
      rw [List.flatMap_cons, ← List.append_assoc]
      rfl

theorem wishes_prefix (s : Chronicle) (events : List Happening) :
    s.wishes <+: (s.after events).wishes :=
  ⟨events.flatMap brought, (s.wishes_after events).symm⟩

theorem deeds_prefix (s : Chronicle) (events : List Happening) :
    s.deeds <+: (s.after events).deeds := by
  induction events generalizing s with
  | nil => exact List.prefix_refl _
  | cons e events ih => exact List.IsPrefix.trans (List.prefix_append _ _) (ih (s.take e))

theorem mem_own {i : Nat} {x : Said} {deeds : List Deed} : x ∈ own i deeds ↔ ⟨i, x⟩ ∈ deeds := by
  rw [own, List.mem_filterMap]
  constructor
  · rintro ⟨⟨j, y⟩, hy, hx⟩
    split at hx
    · next hj =>
      cases hx
      rw [show j = i from hj] at hy
      exact hy
    · cases hx
  · exact fun hx => ⟨_, hx, if_pos rfl⟩

/-! ### Single steps -/

section Steps

variable {s : Chronicle}

theorem act_of_ask {p : Party (Except Failure Report)} {site : Site} {query : Query}
    {next : query.Answer → Plan (Except Failure Report)} (hplan : p.plan = .ask query next)
    (hfree : query.isBlocked site = false) :
    p.act site = (⟨next (query.answer site).1, query.rightAfter p.right (query.answer site).1⟩,
        (query.answer site).2) ∧
      p.said? site = some ⟨query, (query.answer site).1⟩ := by
  have hfree : ¬ query.isBlocked site = true := by
    rw [hfree]
    exact Bool.false_ne_true
  rw [Party.act, Party.said?, hplan]
  exact ⟨if_neg hfree, if_neg hfree⟩

-- A party that is done, or has to wait, stays as it is.
theorem act_of_idle {p : Party (Except Failure Report)} {site : Site}
    (h : ∀ query next, p.plan = .ask query next → query.isBlocked site = true) :
    p.act site = (p, site) ∧ p.said? site = none := by
  rw [Party.act, Party.said?]
  cases hplan : p.plan with
  | done value => exact ⟨rfl, rfl⟩
  | ask query next => exact ⟨if_pos (h query next hplan), if_pos (h query next hplan)⟩

-- A party puts its next query, if it need not wait.
theorem take_of_ask {i : Nat} {p : Party (Except Failure Report)} {query : Query}
    {next : query.Answer → Plan (Except Failure Report)} (hp : s.party i = some p)
    (hplan : p.plan = .ask query next) (hfree : query.isBlocked s.site = false) :
    s.take (.act i) = ⟨⟨(query.answer s.site).2, updateAt s.crowd.parties i
      (some ⟨next (query.answer s.site).1, query.rightAfter p.right (query.answer s.site).1⟩)⟩,
      s.wishes, s.deeds ++ [⟨i, ⟨query, (query.answer s.site).1⟩⟩]⟩ := by
  rcases s with ⟨⟨site, parties⟩, wishes, deeds⟩
  have hp : parties i = some p := hp
  rcases act_of_ask hplan hfree with ⟨hact, hsaid⟩
  have hact : p.act site = _ := hact
  have hsaid : p.said? site = _ := hsaid
  simp only [take, turn, Crowd.take, noted, party, Chronicle.site, hp, brought, List.append_nil,
    hact, Option.bind_some, hsaid, Option.map_some, Option.toList_some]

/-- Everything that can happen to a chronicle. -/
inductive Moves (s : Chronicle) : Chronicle → Prop where
  /-- Nothing: a party that is not there, is done or has to wait was to act. -/
  | stays : Moves s s
  /-- Somebody has come. -/
  | arrives (wish : Wish) : Moves s ⟨⟨s.site, updateAt s.crowd.parties s.wishes.length
      (some (.ofPlan wish.plan))⟩, s.wishes ++ [wish], s.deeds⟩
  /-- A party has put its next query, and was told the answer. -/
  | asks (i : Nat) (p : Party (Except Failure Report)) (query : Query)
      (next : query.Answer → Plan (Except Failure Report)) (hp : s.party i = some p)
      (hplan : p.plan = .ask query next) (hfree : query.isBlocked s.site = false) :
      Moves s ⟨⟨(query.answer s.site).2, updateAt s.crowd.parties i
        (some ⟨next (query.answer s.site).1, query.rightAfter p.right (query.answer s.site).1⟩)⟩,
        s.wishes, s.deeds ++ [⟨i, ⟨query, (query.answer s.site).1⟩⟩]⟩
  /-- A party has vanished. -/
  | vanishes (i : Nat) (p : Party (Except Failure Report)) (hp : s.party i = some p) :
      Moves s ⟨⟨p.leaveBehind s.site, updateAt s.crowd.parties i none⟩, s.wishes, s.deeds⟩
  /-- The flag was thrown. -/
  | flagged (flag : Bool) :
      Moves s ⟨⟨s.site.setFlag flag, s.crowd.parties⟩, s.wishes, s.deeds⟩
  /-- A variable of the environment was set, or removed. -/
  | varied (name : String) (value : Option Variable) :
      Moves s ⟨⟨s.site.setVariable name value, s.crowd.parties⟩, s.wishes, s.deeds⟩

theorem moves_act (s : Chronicle) (i : Nat) : s.Moves (s.take (.act i)) := by
  rcases s with ⟨⟨site, parties⟩, wishes, deeds⟩
  cases hp : parties i with
  | none =>
      have htake : take ⟨⟨site, parties⟩, wishes, deeds⟩ (.act i) =
          ⟨⟨site, parties⟩, wishes, deeds⟩ := by
        simp only [take, turn, Crowd.take, noted, party, hp, brought, Option.bind_none,
          Option.map_none, Option.toList_none, List.append_nil]
      rw [htake]
      exact .stays
  | some p =>
      by_cases hquery : ∃ query next, p.plan = .ask query next ∧ query.isBlocked site = false
      · rcases hquery with ⟨query, next, hplan, hfree⟩
        rw [take_of_ask (s := ⟨⟨site, parties⟩, wishes, deeds⟩) hp hplan hfree]
        exact .asks i p query next hp hplan hfree
      · have hidle : ∀ query next, p.plan = .ask query next → query.isBlocked site = true := by
          intro query next hplan
          cases hb : query.isBlocked site with
          | true => rfl
          | false => exact absurd ⟨query, next, hplan, hb⟩ hquery
        rcases act_of_idle hidle with ⟨hact, hsaid⟩
        have htake : take ⟨⟨site, parties⟩, wishes, deeds⟩ (.act i) =
            ⟨⟨site, parties⟩, wishes, deeds⟩ := by
          simp only [take, turn, Crowd.take, noted, party, Chronicle.site, hp, brought,
            List.append_nil, hact, Option.bind_some, hsaid, Option.map_none, Option.toList_none,
            updateAt_eq_self hp]
        rw [htake]
        exact .stays

-- Somebody comes, who was not there.
theorem Sound.take_arrive (h : s.Sound) (wish : Wish) (waiting : Manner) :
    s.take (.arrive wish waiting) = ⟨⟨s.site, updateAt s.crowd.parties s.wishes.length
      (some (.ofPlan wish.plan))⟩, s.wishes ++ [wish], s.deeds⟩ := by
  have hnone : s.crowd.parties s.wishes.length = none := (h.unborn _ (Nat.le_refl _)).1
  simp only [take, turn, Crowd.take, hnone, noted, brought, List.append_nil, site,
    wish.planOf_eq]

/-- A chronicle moves whenever something happens. -/
theorem Sound.moves (h : s.Sound) (e : Happening) : s.Moves (s.take e) := by
  cases e with
  | act i => exact moves_act s i
  | arrive wish waiting =>
      rw [h.take_arrive]
      exact .arrives wish
  | vanish i =>
      cases hp : s.crowd.parties i with
      | none =>
          have htake : s.take (.vanish i) = s := by
            simp only [take, turn, Crowd.take, hp, noted, brought, List.append_nil]
          rw [htake]
          exact .stays
      | some p =>
          have htake : s.take (.vanish i) =
              ⟨⟨p.leaveBehind s.site, updateAt s.crowd.parties i none⟩, s.wishes, s.deeds⟩ := by
            simp only [take, turn, Crowd.take, hp, noted, brought, List.append_nil, site]
          rw [htake]
          exact .vanishes i p hp
  | setFlag flag =>
      have htake : s.take (.setFlag flag) =
          ⟨⟨s.site.setFlag flag, s.crowd.parties⟩, s.wishes, s.deeds⟩ := by
        simp only [take, turn, Crowd.take, noted, brought, List.append_nil, site]
      rw [htake]
      exact .flagged flag
  | setVariable name value =>
      have htake : s.take (.setVariable name value) =
          ⟨⟨s.site.setVariable name value, s.crowd.parties⟩, s.wishes, s.deeds⟩ := by
        simp only [take, turn, Crowd.take, noted, brought, List.append_nil, site]
      rw [htake]
      exact .varied name value

theorem Sound.lt_of_party (h : s.Sound) {i : Nat} {p : Party (Except Failure Report)}
    (hp : s.party i = some p) : i < s.wishes.length := by
  apply Decidable.byContradiction
  intro hi
  rw [(h.unborn i (Nat.not_lt.1 hi)).1] at hp
  cases hp

-- Whoever comes was not there, and has said nothing.
theorem Sound.arrives (h : s.Sound) (wish : Wish) : Sound
    ⟨⟨s.site, updateAt s.crowd.parties s.wishes.length (some (.ofPlan wish.plan))⟩,
      s.wishes ++ [wish], s.deeds⟩ := by
  refine ⟨fun i hi => ?_, fun i p w hp hw => ?_⟩
  · have hi : s.wishes.length + 1 ≤ i := by simpa using hi
    refine ⟨?_, (h.unborn i (by omega)).2⟩
    exact (updateAt_of_ne _ _ (by omega)).trans (h.unborn i (by omega)).1
  · have hp : updateAt s.crowd.parties s.wishes.length _ i = some p := hp
    have hw : (s.wishes ++ [wish])[i]? = some w := hw
    by_cases hi : i = s.wishes.length
    · subst hi
      rw [updateAt_self] at hp
      rw [List.getElem?_concat_length] at hw
      cases hp
      cases hw
      change wish.plan.Leads (own _ s.deeds) _
      rw [(h.unborn _ (Nat.le_refl _)).2]
      exact .start
    · rw [updateAt_of_ne _ _ hi] at hp
      rw [List.getElem?_append_left (h.lt_of_party hp)] at hw
      exact h.leads i p w hp hw

-- Whoever is answered goes on with the plan. The others have said what they had said.
theorem Sound.asks (h : s.Sound) {i : Nat} {p : Party (Except Failure Report)} {query : Query}
    {next : query.Answer → Plan (Except Failure Report)} (hp : s.party i = some p)
    (hplan : p.plan = .ask query next) (answer : query.Answer) (site : Site) (right : Option Nat) :
    Sound ⟨⟨site, updateAt s.crowd.parties i (some ⟨next answer, right⟩)⟩, s.wishes,
      s.deeds ++ [⟨i, ⟨query, answer⟩⟩]⟩ := by
  have hlt := h.lt_of_party hp
  refine ⟨fun j hj => ?_, fun j q w hq hw => ?_⟩
  · have hj : s.wishes.length ≤ j := hj
    have hne : i ≠ j := by omega
    refine ⟨(updateAt_of_ne _ _ (Ne.symm hne)).trans (h.unborn j hj).1, ?_⟩
    rw [own_append, own_of_ne hne, List.append_nil]
    exact (h.unborn j hj).2
  · have hq : updateAt s.crowd.parties i _ j = some q := hq
    have hw : s.wishes[j]? = some w := hw
    by_cases hj : j = i
    · subst hj
      rw [updateAt_self] at hq
      cases hq
      have hleads := h.leads j p w hp hw
      rw [hplan] at hleads
      rw [own_append, own_self]
      exact hleads.told _
    · rw [updateAt_of_ne _ _ hj] at hq
      rw [own_append, own_of_ne (Ne.symm hj), List.append_nil]
      exact h.leads j q w hq hw

theorem Sound.vanishes (h : s.Sound) (i : Nat) (site : Site) :
    Sound ⟨⟨site, updateAt s.crowd.parties i none⟩, s.wishes, s.deeds⟩ := by
  refine ⟨fun j hj => ⟨?_, (h.unborn j hj).2⟩, fun j q w hq hw => ?_⟩
  · by_cases hj' : j = i
    · subst hj'
      exact updateAt_self _ _ _
    · exact (updateAt_of_ne _ _ hj').trans (h.unborn j hj).1
  · have hq : updateAt s.crowd.parties i none j = some q := hq
    by_cases hj : j = i
    · rw [hj, updateAt_self] at hq
      cases hq
    · rw [updateAt_of_ne _ _ hj] at hq
      exact h.leads j q w hq hw

/-- A chronicle stays sound. -/
theorem Sound.of_moves (h : s.Sound) {s' : Chronicle} (hmoves : s.Moves s') : s'.Sound := by
  cases hmoves with
  | stays => exact h
  | arrives wish => exact h.arrives wish
  | asks i p query next hp hplan hfree => exact h.asks hp hplan _ _ _
  | vanishes i p hp => exact h.vanishes i _
  | flagged flag => exact ⟨h.unborn, h.leads⟩
  | varied name value => exact ⟨h.unborn, h.leads⟩

end Steps

/-! ### Histories -/

section Histories

variable {site : Site}

theorem sound_ofSite (site : Site) : (ofSite site).Sound :=
  ⟨fun _ _ => ⟨rfl, rfl⟩, fun _ _ _ h => nomatch h⟩

/-- What holds at first, and stays as it is whenever a chronicle moves, holds after any history
    in which everybody comes at a time that is right for the wish. -/
theorem holds_after_arrivals {P : Chronicle → Prop} (mayCome : Chronicle → Wish → Prop)
    (hstart : P (ofSite site)) (hmoves : ∀ s s', s.Sound → P s →
      (∀ wish, s'.wishes = s.wishes ++ [wish] → mayCome s wish) → s.Moves s' → P s')
    {events : List Happening} (hcome : ∀ first wish waiting rest,
      events = first ++ .arrive wish waiting :: rest → mayCome ((ofSite site).after first) wish) :
    P ((ofSite site).after events) := by
  suffices hrun : ∀ first rest : List Happening, events = first ++ rest →
      ((ofSite site).after first).Sound → P ((ofSite site).after first) →
      P (((ofSite site).after first).after rest) from
    hrun [] events rfl (sound_ofSite site) hstart
  -- On what is still to happen.
  intro first rest
  induction rest generalizing first with
  | nil => exact fun _ _ h => h
  | cons e rest ih =>
      intro hevents hsound h
      have hmove := hsound.moves e
      have hnext : P (((ofSite site).after first).take e) := by
        refine hmoves _ _ hsound h (fun wish hwish => ?_) hmove
        have hbrought : brought e = [wish] := List.append_cancel_left hwish
        cases e with
        | arrive wish' waiting =>
            cases hbrought
            exact hcome first wish waiting rest hevents
        | _ => cases hbrought
      rw [← after_concat] at hnext
      have hsound' := hsound.of_moves hmove
      rw [← after_concat] at hsound'
      have hend := ih (first ++ [e]) (by rw [hevents, List.append_assoc]; rfl) hsound' hnext
      rwa [after_concat] at hend

/-- What holds at first, and stays as it is whenever a chronicle moves, holds after any
    history. -/
theorem holds_after {P : Chronicle → Prop} (hstart : P (ofSite site))
    (hmoves : ∀ s s', s.Sound → P s → s.Moves s' → P s') (events : List Happening) :
    P ((ofSite site).after events) :=
  holds_after_arrivals (fun _ _ => True) hstart
    (fun s s' hsound h _ hmove => hmoves s s' hsound h hmove) (fun _ _ _ _ _ => trivial)

theorem sound_of_history (site : Site) (events : List Happening) :
    ((ofSite site).after events).Sound :=
  holds_after (sound_ofSite site) (fun _ _ hs _ hmoves => hs.of_moves hmoves) events

/-- In the course of a history there was the moment of a deed: what had been done by then is
    what stands before it, and a party put its query there and was told the answer. -/
def Moment (site : Site) (events : List Happening) (before : List Deed) (x : Deed) : Prop :=
  ∃ first second, events = first ++ second ∧ ((ofSite site).after first).deeds = before ∧
    ∃ p next, ((ofSite site).after first).party x.errand = some p ∧
      p.plan = .ask x.said.query next ∧
      x.said.query.isBlocked ((ofSite site).after first).site = false ∧
      x.said.answer = (x.said.query.answer ((ofSite site).after first).site).1

/-- Every deed was done at some moment. -/
theorem split_deeds {events : List Happening} {before after : List Deed} {x : Deed}
    (h : ((ofSite site).after events).deeds = before ++ x :: after) :
    Moment site events before x := by
  suffices hrev : ∀ reversed : List Happening, ∀ after,
      ((ofSite site).after reversed.reverse).deeds = before ++ x :: after →
      Moment site reversed.reverse before x by
    have hevents := hrev events.reverse after
    rw [List.reverse_reverse] at hevents
    exact hevents h
  -- On what happened, the last first. Either the deed was done then, or before.
  intro reversed
  induction reversed with
  | nil =>
      intro after h
      have h : ([] : List Deed) = before ++ x :: after := h
      simp at h
  | cons e reversed ih =>
      intro after h
      rw [List.reverse_cons, after_concat] at h
      have hearlier : ∀ after', ((ofSite site).after reversed.reverse).deeds =
          before ++ x :: after' → Moment site (e :: reversed).reverse before x := by
        intro after' h'
        rcases ih after' h' with ⟨first, second, hsplit, hrest⟩
        exact ⟨first, second ++ [e], by rw [List.reverse_cons, hsplit, List.append_assoc], hrest⟩
      generalize hs : (ofSite site).after reversed.reverse = s at h
      have hmoves := (sound_of_history site reversed.reverse).moves e
      rw [hs] at hmoves
      generalize s.take e = s' at h hmoves
      cases hmoves with
      | asks i p query next hp hplan hfree =>
          rcases split_concat h with ⟨hbefore, hx, -⟩ | ⟨rest, -, hrest⟩
          · refine ⟨reversed.reverse, [e], List.reverse_cons, by rw [hs, hbefore], p, ?_⟩
            subst hx
            rw [hs]
            exact ⟨next, hp, hplan, hfree, rfl⟩
          · exact hearlier rest (by rw [hs, hrest])
      | stays => exact hearlier after (by rw [hs]; exact h)
      | arrives wish => exact hearlier after (by rw [hs]; exact h)
      | vanishes i p hp => exact hearlier after (by rw [hs]; exact h)
      | flagged flag => exact hearlier after (by rw [hs]; exact h)
      | varied name value => exact hearlier after (by rw [hs]; exact h)

/-- A party that is there goes on with what its wish has led it to. -/
theorem leads_of_party {events : List Happening} {i : Nat} {p : Party (Except Failure Report)}
    (hp : ((ofSite site).after events).party i = some p) :
    ∃ wish, ((ofSite site).after events).wishes[i]? = some wish ∧
      wish.plan.Leads (own i ((ofSite site).after events).deeds) p.plan := by
  have hsound := sound_of_history site events
  have hwish := List.getElem?_eq_getElem (hsound.lt_of_party hp)
  exact ⟨_, hwish, hsound.leads i p _ hp hwish⟩

/-- A party that has come to its value was led there. -/
theorem leads_of_value {events : List Happening} {i : Nat} {wish : Wish}
    {p : Party (Except Failure Report)} {r : Except Failure Report}
    (hwish : ((ofSite site).after events).wishes[i]? = some wish)
    (hp : ((ofSite site).after events).party i = some p) (hr : p.value? = some r) :
    wish.plan.Leads (own i ((ofSite site).after events).deeds) (.done r) := by
  have hleads := (sound_of_history site events).leads i p wish hp hwish
  rw [Party.value?] at hr
  cases hplan : p.plan with
  | done value =>
      rw [hplan] at hr hleads
      cases hr
      exact hleads
  | ask query next =>
      rw [hplan] at hr
      cases hr

/-- Whoever did a deed did it as the wish led to it. -/
theorem leads_of_deed {events : List Happening} {before after : List Deed} {x : Deed}
    (h : ((ofSite site).after events).deeds = before ++ x :: after) :
    ∃ wish next, ((ofSite site).after events).wishes[x.errand]? = some wish ∧
      wish.plan.Leads (own x.errand before) (.ask x.said.query next) := by
  rcases split_deeds h with ⟨first, second, rfl, rfl, p, next, hp, hplan, -, -⟩
  rcases leads_of_party hp with ⟨wish, hwish, hleads⟩
  rw [hplan] at hleads
  refine ⟨wish, next, ?_, hleads⟩
  rw [after_append]
  rcases wishes_prefix ((ofSite site).after first) second with ⟨more, hmore⟩
  rw [← hmore, List.getElem?_append_left (List.getElem?_eq_some_iff.1 hwish).1]
  exact hwish

/-- A party that goes on alone comes to its end, or to where it has to wait for another. -/
theorem ends_or_waits {s : Chronicle} {i : Nat} {p : Party (Except Failure Report)}
    (hp : s.party i = some p) :
    ∃ m p', (s.after (List.replicate m (.act i))).party i = some p' ∧
      ((∃ r, p'.value? = some r) ∨ ∃ query next, p'.plan = .ask query next ∧
        query.isBlocked (s.after (List.replicate m (.act i))).site = true) := by
  -- On what is left to do: an answer leads to a part of it.
  rcases p with ⟨plan, right⟩
  induction plan generalizing s right with
  | done value => exact ⟨0, _, hp, Or.inl ⟨value, rfl⟩⟩
  | ask query next ih =>
      cases hblocked : query.isBlocked s.site with
      | true => exact ⟨0, _, hp, Or.inr ⟨query, next, rfl, hblocked⟩⟩
      | false =>
          have hp' : (s.take (.act i)).party i = some ⟨next (query.answer s.site).1,
              query.rightAfter right (query.answer s.site).1⟩ := by
            rw [take_of_ask hp rfl hblocked]
            exact updateAt_self _ _ _
          rcases ih _ _ hp' with ⟨m, p', hend, hrest⟩
          exact ⟨m + 1, p', hend, hrest⟩

end Histories

end Chronicle

end Imds
