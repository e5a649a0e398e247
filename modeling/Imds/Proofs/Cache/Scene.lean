import Imds.Crowd
import Imds.Proofs.Blocking.Likeness
import Imds.Proofs.Cache.Memo

/-!
# Caches That Several Parties Use

A cache is not locked while a value is fetched. Between the moment when a party looks its
path up and the moment when it stores what it read, others may have stored something else
for the path, or cleared the cache, and the party may be gone before it stores anything.
What can be relied on all the same is said here for every history of a crowd.

A `Scene` is a crowd with a record of it. The parties carry out errands, which are numbered
as they come. Some are tasks that are suspended while they wait, and some are threads that
stand still, with the operations that were written for them; both can use one cache. Each
query that is put is noted down as a deed of its party, with the answer it got. The record
does not interfere: the crowd in a scene takes the turns that it would take anyway, one query
at a time, with any number of turns of others in between, and a party may vanish between any
two of its queries.

The deeds of one party are its own dialogue, and its plan keeps to the conduct of its
demand with respect to that dialogue, whatever the others do. `Sound` collects this with
what the record says about caches: they are what the deeds made of them, one after the
other, and whoever looks a path up is told what they had made of it by then.

## Main definitions

* `Manner`: Whether a party is a task or a thread.
* `Errand`, `Deed`: A client with a demand, and one query of a party with its answer.
* `Scene`, `Event`, `Scene.take`, `Scene.after`: A crowd with its record, and its history.
* `own`: The dialogue of one party among all deeds.
* `Memo.hear`, `Memo.replay`: A memo after a deed, and after deeds one after another.
* `Scene.Sound`: What the record says at any time.

## Theorems

* `Errand.plan_eq`: A thread on an errand asks what a task asks.
* `memo_answer`: A query does to caches what it does to a memo.
* `sound_take`, `sound_after`: Soundness along a history.
-/

namespace Imds

/-- A client with a demand. -/
structure Errand where
  /-- The client. -/
  client : Client
  /-- What is asked of it. -/
  demand : Demand

/-- How a party waits for the answers to its queries. -/
inductive Manner where
  /-- It is a task, which an executor suspends. -/
  | task
  /-- It is a thread, which stands still. -/
  | thread
  deriving DecidableEq

/-- The plan of a party on an errand. -/
def Errand.plan (e : Errand) : Manner → Plan (Except Failure Report)
  | .task => (e.demand.act e.client).outcome
  | .thread => (Blocking.demand e.client e.demand).outcome

theorem Errand.plan_eq (e : Errand) (waiting : Manner) :
    e.plan waiting = (e.demand.act e.client).outcome := by
  cases waiting with
  | task => rfl
  | thread => rw [plan, Blocking.demand_eq]

/-- One query of a party, and the answer it got. -/
structure Deed where
  /-- The number of the errand that the party is on. -/
  errand : Nat
  /-- The query with its answer. -/
  said : Said

/-- The dialogue of one party among the deeds of all. -/
def own (i : Nat) (deeds : List Deed) : List Said :=
  deeds.filterMap (fun x => if x.errand = i then some x.said else none)

/-- A crowd with its record. -/
structure Scene where
  /-- The crowd. -/
  crowd : Crowd (Except Failure Report)
  /-- The errands that parties came with, oldest first. A party has the number of its
      errand. -/
  errands : List Errand
  /-- What was done, oldest first. -/
  deeds : List Deed

/-- What happens at a scene. -/
inductive Event where
  /-- A party comes with an errand. -/
  | arrive (errand : Errand) (waiting : Manner)
  /-- A party puts its next query. -/
  | act (i : Nat)
  /-- A party vanishes. -/
  | vanish (i : Nat)
  /-- Somebody throws the flag. -/
  | setFlag (flag : Bool)
  /-- Somebody sets a variable of the environment, or removes it. -/
  | setVariable (name : String) (value : Option Variable)

/-- What a party says next. A party that is done, or has to wait, says nothing. -/
def Party.said? {α : Type} (p : Party α) (s : Site) : Option Said :=
  match p.plan with
  | .done _ => none
  | .ask query _ => if query.isBlocked s then none else some ⟨query, (query.answer s).1⟩

namespace Scene

/-- A site where nobody is, and nothing was done. -/
def ofSite (site : Site) : Scene := ⟨.ofSite site, [], []⟩

/-- The turn that the crowd takes in an event. -/
def turn (s : Scene) : Event → Turn (Except Failure Report)
  | .arrive e waiting => .arrive s.errands.length (e.plan waiting)
  | .act i => .act i
  | .vanish i => .vanish i
  | .setFlag flag => .setFlag flag
  | .setVariable name value => .setVariable name value

/-- What is noted down of an event. -/
def noted (s : Scene) : Event → List Deed
  | .act i => (((s.crowd.parties i).bind (fun p => p.said? s.crowd.site)).map (Deed.mk i)).toList
  | _ => []

/-- The errands that come with an event. -/
def brought : Event → List Errand
  | .arrive e _ => [e]
  | _ => []

/-- A scene after an event. -/
def take (s : Scene) (e : Event) : Scene :=
  ⟨s.crowd.take (s.turn e), s.errands ++ brought e, s.deeds ++ s.noted e⟩

/-- A scene after a history. -/
def after (s : Scene) (events : List Event) : Scene := events.foldl take s

end Scene

namespace Memo

/-- A memo after a query was answered. -/
def hear (m : Memo) : Said → Memo
  | ⟨.store cache path value, _⟩ => m.hold cache path value
  | ⟨.clear cache, _⟩ => m.forget cache
  | _ => m

/-- A memo after deeds one after another. -/
def replay (m : Memo) (deeds : List Deed) : Memo := deeds.foldl (fun m x => m.hear x.said) m

theorem replay_concat (m : Memo) (deeds : List Deed) (x : Deed) :
    m.replay (deeds ++ [x]) = (m.replay deeds).hear x.said := by
  rw [replay, List.foldl_append]
  rfl

end Memo

/-- What the record of a scene says, the site having been this one at first. -/
structure Scene.Sound (site : Site) (s : Scene) : Prop where
  /-- The caches are what was made of them. -/
  memo : s.crowd.site.memo = site.memo.replay s.deeds
  /-- A party that has not come yet is not there, and has done nothing. -/
  unborn : ∀ i, s.errands.length ≤ i → s.crowd.parties i = none ∧ own i s.deeds = []
  /-- A party that is there keeps to the conduct of its demand. -/
  conduct : ∀ i party errand, s.crowd.parties i = some party → s.errands[i]? = some errand →
    party.plan.Abides (errand.demand.May errand.client) (errand.demand.Ends errand.client)
      (own i s.deeds)
  /-- Whatever was asked, the demand of the party allowed at that point. -/
  allowed : ∀ before x after, s.deeds = before ++ x :: after → ∃ errand,
    s.errands[x.errand]? = some errand ∧
      errand.demand.May errand.client (own x.errand before) x.said.query
  /-- Whoever looked a path up was told what was held for it. -/
  told : ∀ before i cache path answer after,
    s.deeds = before ++ ⟨i, ⟨.lookup cache path, answer⟩⟩ :: after →
      answer = site.memo.replay before cache path

/-! ### Single steps -/

-- A query does to the caches of a site what it does to a memo.
theorem memo_answer (s : Site) (query : Query) :
    (query.answer s).2.memo = s.memo.hear ⟨query, (query.answer s).1⟩ := by
  cases query with
  | store cache path value => exact memo_setCache_insert s cache path value
  | clear cache => exact memo_setCache_empty s cache
  | _ => exact memo_of_caches (caches_answer id)

@[simp] theorem own_append (i : Nat) (d e : List Deed) : own i (d ++ e) = own i d ++ own i e :=
  List.filterMap_append

theorem own_self (i : Nat) (x : Said) : own i [⟨i, x⟩] = [x] := by
  simp [own]

theorem own_of_ne {i j : Nat} (h : j ≠ i) (x : Said) : own i [⟨j, x⟩] = [] := by
  simp [own, h]

namespace Scene

variable {site : Site} {s s' : Scene}

theorem sound_ofSite (site : Site) : (ofSite site).Sound site where
  memo := rfl
  unborn := fun _ _ => ⟨rfl, rfl⟩
  conduct := nofun
  allowed := fun before x after h => by simp [ofSite] at h
  told := fun before i cache path answer after h => by simp [ofSite] at h

-- What brings no errand and no deed leaves the record sound, if it leaves the caches and the
-- plans of all parties alone.
theorem Sound.of_same (h : s.Sound site) (hmemo : s'.crowd.site.memo = s.crowd.site.memo)
    (hparties : ∀ i p, s'.crowd.parties i = some p →
      ∃ p', s.crowd.parties i = some p' ∧ p'.plan = p.plan)
    (herrands : s'.errands = s.errands) (hdeeds : s'.deeds = s.deeds) : s'.Sound site where
  memo := by rw [hmemo, hdeeds, h.memo]
  unborn := by
    intro i hi
    rw [herrands] at hi
    rw [hdeeds]
    refine ⟨?_, (h.unborn i hi).2⟩
    cases hparty : s'.crowd.parties i with
    | none => rfl
    | some p =>
        rcases hparties i p hparty with ⟨p', hp', -⟩
        rw [(h.unborn i hi).1] at hp'
        cases hp'
  conduct := by
    intro i p errand hp herrand
    rcases hparties i p hp with ⟨p', hp', hplan⟩
    rw [herrands] at herrand
    rw [hdeeds, ← hplan]
    exact h.conduct i p' errand hp' herrand
  allowed := by rw [herrands, hdeeds]; exact h.allowed
  told := by rw [hdeeds]; exact h.told

theorem Sound.lt_of_party (h : s.Sound site) {i : Nat} {p : Party (Except Failure Report)}
    (hp : s.crowd.parties i = some p) : i < s.errands.length := by
  apply Decidable.byContradiction
  intro hi
  rw [(h.unborn i (Nat.not_lt.1 hi)).1] at hp
  cases hp

theorem sound_arrive (h : s.Sound site) (e : Errand) (waiting : Manner) :
    (s.take (.arrive e waiting)).Sound site := by
  have hnone : s.crowd.parties s.errands.length = none := (h.unborn _ (Nat.le_refl _)).1
  have htake : s.take (.arrive e waiting) = ⟨⟨s.crowd.site, updateAt s.crowd.parties
      s.errands.length (some (.ofPlan (e.demand.act e.client).outcome))⟩, s.errands ++ [e],
      s.deeds⟩ := by
    simp only [take, turn, Crowd.take, hnone, noted, brought, List.append_nil, e.plan_eq]
  rw [htake]
  exact {
    memo := h.memo
    unborn := by
      intro i hi
      have hi : s.errands.length + 1 ≤ i := by rwa [List.length_append] at hi
      refine ⟨?_, (h.unborn i (by omega)).2⟩
      change updateAt s.crowd.parties s.errands.length _ i = none
      rw [updateAt_of_ne _ _ (by omega)]
      exact (h.unborn i (by omega)).1
    conduct := by
      intro i p errand hp herrand
      change updateAt s.crowd.parties s.errands.length _ i = some p at hp
      by_cases hi : i = s.errands.length
      · subst hi
        rw [updateAt_self] at hp
        rw [List.getElem?_concat_length] at herrand
        cases hp
        cases herrand
        rw [(h.unborn _ (Nat.le_refl _)).2]
        exact abides_demand e.client e.demand
      · rw [updateAt_of_ne _ _ hi] at hp
        rw [List.getElem?_append_left (h.lt_of_party hp)] at herrand
        exact h.conduct i p errand hp herrand
    allowed := by
      intro before x after hsplit
      rcases h.allowed before x after hsplit with ⟨errand, herrand, hmay⟩
      refine ⟨errand, ?_, hmay⟩
      rw [List.getElem?_append_left (List.getElem?_eq_some_iff.1 herrand).1]
      exact herrand
    told := h.told }

-- A party that has a query, and does not have to wait, puts it and is told the answer.
theorem take_act_of_ask {i : Nat} {p : Party (Except Failure Report)} {query : Query}
    {next : query.Answer → Plan (Except Failure Report)} (hp : s.crowd.parties i = some p)
    (hplan : p.plan = .ask query next) (hfree : query.isBlocked s.crowd.site = false)
    {answer : query.Answer} {site' : Site} (hanswer : query.answer s.crowd.site = (answer, site')) :
    s.take (.act i) = ⟨⟨site', updateAt s.crowd.parties i
      (some ⟨next answer, query.rightAfter p.right answer⟩)⟩, s.errands,
      s.deeds ++ [⟨i, ⟨query, answer⟩⟩]⟩ := by
  have hfree : ¬ query.isBlocked s.crowd.site = true := by
    rw [hfree]
    exact Bool.false_ne_true
  have hact : p.act s.crowd.site = (⟨next (query.answer s.crowd.site).1,
      query.rightAfter p.right (query.answer s.crowd.site).1⟩, (query.answer s.crowd.site).2) := by
    rw [Party.act, hplan]
    exact if_neg hfree
  have hsaid : p.said? s.crowd.site = some ⟨query, (query.answer s.crowd.site).1⟩ := by
    rw [Party.said?, hplan]
    exact if_neg hfree
  rw [hanswer] at hact hsaid
  simp only [take, turn, Crowd.take, hp, noted, brought, List.append_nil, hact, Option.bind_some,
    hsaid, Option.map_some, Option.toList_some]

theorem sound_ask (h : s.Sound site) {i : Nat} {p : Party (Except Failure Report)} {query : Query}
    {next : query.Answer → Plan (Except Failure Report)} (hp : s.crowd.parties i = some p)
    (hplan : p.plan = .ask query next) (hfree : query.isBlocked s.crowd.site = false) :
    (s.take (.act i)).Sound site := by
  rcases hanswer : query.answer s.crowd.site with ⟨answer, site'⟩
  have htake := take_act_of_ask hp hplan hfree hanswer
  have hlt := h.lt_of_party hp
  -- What the party may ask, and that it goes on as it should.
  have hmay : ∀ errand, s.errands[i]? = some errand →
      errand.demand.May errand.client (own i s.deeds) query ∧
        (next answer).Abides (errand.demand.May errand.client) (errand.demand.Ends errand.client)
          (own i s.deeds ++ [⟨query, answer⟩]) := by
    intro errand herrand
    have habides := h.conduct i p errand hp herrand
    rw [hplan] at habides
    exact ⟨habides.1, habides.2 answer⟩
  rw [htake]
  exact {
    memo := by
      have hmemo := memo_answer s.crowd.site query
      rw [hanswer] at hmemo
      rw [Memo.replay_concat, ← h.memo]
      exact hmemo
    unborn := by
      intro j hj
      have hne : i ≠ j := by
        have hj : s.errands.length ≤ j := hj
        omega
      refine ⟨?_, ?_⟩
      · change updateAt s.crowd.parties i _ j = none
        rw [updateAt_of_ne _ _ (Ne.symm hne)]
        exact (h.unborn j hj).1
      · rw [own_append, own_of_ne hne, List.append_nil]
        exact (h.unborn j hj).2
    conduct := by
      intro j p' errand hp' herrand
      change updateAt s.crowd.parties i _ j = some p' at hp'
      by_cases hj : j = i
      · subst hj
        rw [updateAt_self] at hp'
        cases hp'
        rw [own_append, own_self]
        exact (hmay errand herrand).2
      · rw [updateAt_of_ne _ _ hj] at hp'
        rw [own_append, own_of_ne (Ne.symm hj), List.append_nil]
        exact h.conduct j p' errand hp' herrand
    allowed := by
      intro before x after hsplit
      rcases split_concat hsplit with ⟨rfl, rfl, -⟩ | ⟨rest, -, hrest⟩
      · have herrand := List.getElem?_eq_getElem hlt
        exact ⟨s.errands[i], herrand, (hmay _ herrand).1⟩
      · exact h.allowed before x rest hrest
    told := by
      intro before j cache path answer' after hsplit
      rcases split_concat hsplit with ⟨rfl, hx, -⟩ | ⟨rest, -, hrest⟩
      · cases hx
        rw [← h.memo]
        exact (congrArg Prod.fst hanswer).symm
      · exact h.told before j cache path answer' rest hrest }

theorem sound_act (h : s.Sound site) (i : Nat) : (s.take (.act i)).Sound site := by
  cases hp : s.crowd.parties i with
  | none =>
      have htake : s.take (.act i) = s := by
        simp only [take, turn, Crowd.take, hp, noted, brought, Option.bind_none, Option.map_none,
          Option.toList_none, List.append_nil]
      rw [htake]
      exact h
  | some p =>
      by_cases hquery : ∃ query next, p.plan = .ask query next ∧
          query.isBlocked s.crowd.site = false
      · rcases hquery with ⟨query, next, hplan, hfree⟩
        exact sound_ask h hp hplan hfree
      · -- A party that is done, or has to wait, stays as it is.
        have hidle : p.act s.crowd.site = (p, s.crowd.site) ∧ p.said? s.crowd.site = none := by
          rw [Party.act, Party.said?]
          cases hplan : p.plan with
          | done value => exact ⟨rfl, rfl⟩
          | ask query next =>
              have hblocked : query.isBlocked s.crowd.site = true := by
                cases hb : query.isBlocked s.crowd.site with
                | true => rfl
                | false => exact absurd ⟨query, next, hplan, hb⟩ hquery
              exact ⟨if_pos hblocked, if_pos hblocked⟩
        refine h.of_same ?_ ?_ (List.append_nil _) ?_
        · simp only [take, turn, Crowd.take, hp, hidle.1]
        · intro j p' hp'
          simp only [take, turn, Crowd.take, hp, hidle.1] at hp'
          by_cases hj : j = i
          · subst hj
            rw [updateAt_self] at hp'
            exact ⟨p', by rw [hp, hp'], rfl⟩
          · rw [updateAt_of_ne _ _ hj] at hp'
            exact ⟨p', hp', rfl⟩
        · simp only [take, noted, hp, Option.bind_some, hidle.2, Option.map_none,
            Option.toList_none, List.append_nil]

theorem sound_vanish (h : s.Sound site) (i : Nat) : (s.take (.vanish i)).Sound site := by
  refine h.of_same ?_ ?_ (List.append_nil _) (List.append_nil _)
  · simp only [take, turn, Crowd.take]
    cases s.crowd.parties i with
    | none => rfl
    | some p =>
        simp only [Party.leaveBehind]
        cases p.right <;> rfl
  · intro j p hp
    simp only [take, turn, Crowd.take] at hp
    cases hi : s.crowd.parties i with
    | none =>
        rw [hi] at hp
        exact ⟨p, hp, rfl⟩
    | some p' =>
        rw [hi] at hp
        have hp : updateAt s.crowd.parties i none j = some p := hp
        by_cases hj : j = i
        · rw [hj, updateAt_self] at hp
          cases hp
        · rw [updateAt_of_ne _ _ hj] at hp
          exact ⟨p, hp, rfl⟩

/-- The record stays sound whatever happens. -/
theorem sound_take (h : s.Sound site) (e : Event) : (s.take e).Sound site := by
  cases e with
  | arrive errand waiting => exact sound_arrive h errand waiting
  | act i => exact sound_act h i
  | vanish i => exact sound_vanish h i
  | setFlag flag =>
      exact h.of_same rfl (fun i p hp => ⟨p, hp, rfl⟩) (List.append_nil _) (List.append_nil _)
  | setVariable name value =>
      exact h.of_same rfl (fun i p hp => ⟨p, hp, rfl⟩) (List.append_nil _) (List.append_nil _)

/-- The record is sound after any history. -/
theorem sound_after (site : Site) (events : List Event) :
    ((ofSite site).after events).Sound site := by
  suffices hrun : ∀ s : Scene, s.Sound site → (s.after events).Sound site by
    exact hrun _ (sound_ofSite site)
  induction events with
  | nil => exact fun s h => h
  | cons e events ih => exact fun s h => ih (s.take e) (sound_take h e)

end Scene

end Imds
