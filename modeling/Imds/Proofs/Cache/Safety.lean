import Imds.Proofs.Cache.Scene

/-!
# What a Shared Cache Can Hold

Whatever tasks and threads do at the same time, a cache holds for a path what was stored for
it last, and what was stored was either kept there by hand or is a body that the service gave
to a read of this very path, made by the party that stored it, for a demand for this path. A
party that fetched gets its own body, no matter what others stored meanwhile, and one that
requested nothing gets what was held when it looked. A party that fails, is told that there
is no value, or vanishes before it is done, has not touched the cache.

All of this is read off a sound record. The origin of an entry is the last deed that
changed it, and the conduct of the demand behind this deed says where the value is from.

## Main definitions

* `Query.Spares`: A query that leaves an entry of a cache alone.
* `Scene.Vouched`: A store that has a reason.
* `Scene.OwnValue`, `Scene.HeldValue`: Where the value of a party is from.

## Theorems

* `replay_eq_some`: An entry has an origin.
* `forgotten`: An entry vanishes only when its cache is cleared.
* `own_of_gone`: Nothing is done by a party that is gone.
* `cache_is_safe`: What can be relied on in any history.
-/

namespace Imds

/-- A query leaves the entry of a path alone: it does not store anything for it and does
    not clear the cache. -/
def Query.Spares (cache : Nat) (path : String) (query : Query) : Prop :=
  (∀ value, query ≠ .store cache path value) ∧ query ≠ .clear cache

namespace Memo

variable {m : Memo} {cache : Nat} {path : String}

theorem hear_of_spares {x : Said} (h : x.query.Spares cache path) :
    m.hear x cache path = m cache path := by
  rcases x with ⟨query, answer⟩
  cases query with
  | store cache' path' value =>
      refine if_neg (fun hsame => h.1 value ?_)
      rw [hsame.1, hsame.2]
  | clear cache' =>
      refine if_neg (fun hsame => h.2 ?_)
      rw [hsame]
  | _ => rfl

theorem hear_of_stores {x : Said} {value : String} (h : x.query = .store cache path value) :
    m.hear x cache path = some value := by
  rcases x with ⟨query, answer⟩
  have h : query = .store cache path value := h
  subst h
  exact if_pos ⟨rfl, rfl⟩

theorem hear_of_clears {x : Said} (h : x.query = .clear cache) : m.hear x cache path = none := by
  rcases x with ⟨query, answer⟩
  have h : query = .clear cache := h
  subst h
  exact if_pos rfl

-- A query that does not leave an entry alone stores something for it, or clears the cache.
theorem not_spares {query : Query} (h : ¬ query.Spares cache path) :
    (∃ value, query = .store cache path value) ∨ query = .clear cache := by
  apply Classical.byContradiction
  intro hneither
  exact h ⟨fun value hstore => hneither (Or.inl ⟨value, hstore⟩),
    fun hclear => hneither (Or.inr hclear)⟩

/-- What is held for a path was held from the beginning, and nothing happened to it, or it
    was stored by some deed, and nothing happened to it since. -/
theorem replay_eq_some {deeds : List Deed} {value : String}
    (h : m.replay deeds cache path = some value) :
    (m cache path = some value ∧ ∀ y ∈ deeds, y.said.query.Spares cache path) ∨
      ∃ before x after, deeds = before ++ x :: after ∧
        x.said.query = .store cache path value ∧
        ∀ y ∈ after, y.said.query.Spares cache path := by
  induction deeds generalizing m with
  | nil => exact Or.inl ⟨h, fun _ hy => nomatch hy⟩
  | cons x deeds ih =>
      rcases ih (show (m.hear x.said).replay deeds cache path = some value from h) with
        ⟨hheld, hafter⟩ | ⟨before, y, after, hsplit, hstore, hafter⟩
      · by_cases hspares : x.said.query.Spares cache path
        · rw [hear_of_spares hspares] at hheld
          refine Or.inl ⟨hheld, fun y hy => ?_⟩
          rcases List.mem_cons.1 hy with rfl | hy
          · exact hspares
          · exact hafter y hy
        · -- What is held after this deed is what it stored.
          refine Or.inr ⟨[], x, deeds, rfl, ?_, hafter⟩
          rcases not_spares hspares with ⟨value', hstore⟩ | hclear
          · rw [hear_of_stores hstore] at hheld
            cases hheld
            exact hstore
          · rw [hear_of_clears hclear] at hheld
            cases hheld
      · exact Or.inr ⟨x :: before, y, after, by rw [hsplit, List.cons_append], hstore, hafter⟩

/-- What was held is forgotten only when the cache is cleared. -/
theorem forgotten {x : Said} (hbefore : m cache path ≠ none) (hafter : m.hear x cache path = none) :
    x.query = .clear cache := by
  by_cases hspares : x.query.Spares cache path
  · rw [hear_of_spares hspares] at hafter
    exact absurd hafter hbefore
  · rcases not_spares hspares with ⟨value, hstore⟩ | hclear
    · rw [hear_of_stores hstore] at hafter
      cases hafter
    · exact hclear

end Memo

namespace Scene

variable {site : Site} {s : Scene}

-- A party that is gone, or has not come, does nothing in an event, and does not come back.
theorem gone_take {i : Nat} (hi : i < s.errands.length) (h : s.crowd.parties i = none) (e : Event) :
    (s.take e).crowd.parties i = none ∧ own i (s.take e).deeds = own i s.deeds := by
  change (s.crowd.take (s.turn e)).parties i = none ∧ own i (s.deeds ++ s.noted e) = own i s.deeds
  rw [own_append]
  have hquiet : own i (s.noted e) = [] → own i s.deeds ++ own i (s.noted e) = own i s.deeds := by
    intro hnoted
    rw [hnoted, List.append_nil]
  cases e with
  | arrive errand waiting =>
      refine ⟨?_, hquiet rfl⟩
      simp only [turn, Crowd.take]
      cases s.crowd.parties s.errands.length with
      | some p => exact h
      | none => exact (updateAt_of_ne _ _ (Nat.ne_of_lt hi)).trans h
  | act j =>
      simp only [turn, Crowd.take, noted]
      by_cases hj : j = i
      · subst hj
        rw [h]
        exact ⟨h, List.append_nil _⟩
      · cases s.crowd.parties j with
        | none => exact ⟨h, List.append_nil _⟩
        | some p =>
            refine ⟨(updateAt_of_ne _ _ (Ne.symm hj)).trans h, ?_⟩
            cases hsaid : p.said? s.crowd.site with
            | none => simp [hsaid, own]
            | some x => simp [hsaid, own_of_ne hj]
  | vanish j =>
      refine ⟨?_, hquiet rfl⟩
      simp only [turn, Crowd.take]
      cases s.crowd.parties j with
      | none => exact h
      | some p =>
          by_cases hj : i = j
          · subst hj
            exact updateAt_self _ _ _
          · exact (updateAt_of_ne _ _ hj).trans h
  | setFlag flag => exact ⟨h, hquiet rfl⟩
  | setVariable name value => exact ⟨h, hquiet rfl⟩

/-- Nothing is done by a party that is gone. -/
theorem own_of_gone {i : Nat} (hi : i < s.errands.length) (h : s.crowd.parties i = none)
    (events : List Event) : own i (s.after events).deeds = own i s.deeds := by
  induction events generalizing s with
  | nil => rfl
  | cons e events ih =>
      rcases gone_take hi h e with ⟨hgone, hown⟩
      have hmore : i < (s.take e).errands.length := by
        change i < (s.errands ++ brought e).length
        rw [List.length_append]
        omega
      exact (ih hmore hgone).trans hown

/-- A deed of a scene that stored a value is vouched for: the value was kept by hand, or it
    is the body that the same party had just read from the same path, on an errand for the
    value of this path. -/
def Vouched (s : Scene) (before : List Deed) (x : Deed) (cache : Nat) (path value : String) :
    Prop :=
  ∃ errand, s.errands[x.errand]? = some errand ∧ cache = errand.client.settings.cache ∧
    (errand.demand = .keep path value ∨
      ∃ force attempts, errand.demand.single? errand.client = some ⟨path, force, attempts⟩ ∧
        JustRead errand.client path value (own x.errand before))

/-- The value of a path that a party came to by a request of its own is the body that it read
    itself, and stored then. -/
def OwnValue (s : Scene) (i : Nat) (c : Client) (path value : String) : Prop :=
  ∃ before, JustRead c path value before ∧
    own i s.deeds = before ++ [⟨.store c.settings.cache path value, ()⟩]

/-- The value of a path that a party came to without a request was held when it looked. -/
def HeldValue (site : Site) (s : Scene) (i : Nat) (c : Client) (path value : String) : Prop :=
  exchanges (own i s.deeds) = [] ∧ ∃ before after,
    s.deeds = before ++ ⟨i, ⟨.lookup c.settings.cache path, some value⟩⟩ :: after ∧
      site.memo.replay before c.settings.cache path = some value

-- The last thing that a party said is a deed, and what it said before comes before it.
theorem deed_of_own {i : Nat} {deeds : List Deed} {before : List Said} {x : Said}
    (h : own i deeds = before ++ [x]) :
    ∃ earlier later, deeds = earlier ++ ⟨i, x⟩ :: later := by
  rcases List.filterMap_eq_append_iff.1 h with ⟨first, second, rfl, -, hsecond⟩
  rcases List.filterMap_eq_cons_iff.1 hsecond with ⟨others, ⟨j, y⟩, later, rfl, -, hy, -⟩
  have hj : j = i ∧ y = x := by
    by_cases hj : j = i
    · simp only [hj, if_true, Option.some.injEq] at hy
      exact ⟨hj, hy⟩
    · simp only [hj, if_false] at hy
      cases hy
  rw [hj.1, hj.2]
  exact ⟨first ++ others, later, (List.append_assoc _ _ _).symm⟩

-- A party that has come to its result ends as its demand says.
theorem ends_of_sound (h : s.Sound site) {i : Nat} {p : Party (Except Failure Report)}
    {errand : Errand} {result : Except Failure Report} (hp : s.crowd.parties i = some p)
    (herrand : s.errands[i]? = some errand) (hresult : p.value? = some result) :
    errand.demand.Ends errand.client (own i s.deeds) result := by
  have habides := h.conduct i p errand hp herrand
  rw [Party.value?] at hresult
  cases hplan : p.plan with
  | ask query next =>
      rw [hplan] at hresult
      cases hresult
  | done value =>
      rw [hplan] at hresult habides
      cases hresult
      exact habides

-- The value of a path that a party has come to.
theorem value_of_sound (h : s.Sound site) {i : Nat} {p : Party (Except Failure Report)}
    {errand : Errand} {q : Single} {value : String} (hp : s.crowd.parties i = some p)
    (herrand : s.errands[i]? = some errand) (hq : errand.demand.single? errand.client = some q)
    (hvalue : p.value? = some (.ok (.text (some value)))) :
    s.OwnValue i errand.client q.path value ∨ s.HeldValue site i errand.client q.path value := by
  rcases (ends_of_sound h hp herrand hvalue).single q hq with ⟨result, hresult, hends⟩
  have hresult : result = .ok (some value) := by
    cases result with
    | error failure => cases hresult
    | ok found =>
        cases hresult
        rfl
  generalize hown : own i s.deeds = said at hends
  cases hends.found value hresult with
  | known before hquiet hbefore =>
      rcases deed_of_own hown with ⟨earlier, later, hsplit⟩
      refine Or.inr ⟨?_, earlier, later, hsplit, ?_⟩
      · rw [hown, exchanges_concat_of_silent rfl, hquiet]
      · exact (h.told earlier i _ _ _ later hsplit).symm
  | fetched before hread hbefore => exact Or.inl ⟨before, hread, hown⟩

-- A party that is not done, or that comes to nothing, has changed no cache.
theorem unwritten_of_sound (h : s.Sound site) {i : Nat} {p : Party (Except Failure Report)}
    (hp : s.crowd.parties i = some p) (hlost : ∀ result, p.value? = some result → Lost result) :
    Unwritten (own i s.deeds) := by
  have hlt := h.lt_of_party hp
  have herrand := List.getElem?_eq_getElem hlt
  have habides := h.conduct i p _ hp herrand
  cases hplan : p.plan with
  | ask query next =>
      rw [hplan] at habides
      exact habides.1.unwritten
  | done result =>
      have hvalue : p.value? = some result := by rw [Party.value?, hplan]
      exact unwritten_of_lost (ends_of_sound h hp herrand hvalue) (hlost result hvalue)

end Scene

/-- What can be relied on in any history, whoever comes, tasks and threads, with whatever
    demands to clients that may share caches, whatever the service answers, and whoever
    vanishes when.

    The caches are what stores and clears made of them, in the order in which they happened.
    What is held for a path was there from the beginning, or was stored last, and this deed
    is vouched for; nothing happened to it since. It vanishes only when somebody is asked to
    clear the cache.

    A party that comes to a value of a path has read it itself, or has requested nothing and
    was told what was held at that moment; one that comes to items of a path has read them
    itself. A party that is not done, has failed or was told that there is no value, has
    changed no cache, and if it vanishes now, it never will. -/
theorem cache_is_safe (site : Site) (events : List Event) :
    let s := (Scene.ofSite site).after events
    s.crowd.site.memo = site.memo.replay s.deeds ∧
      (∀ cache path value, s.crowd.site.memo cache path = some value →
        (site.memo cache path = some value ∧ ∀ y ∈ s.deeds, y.said.query.Spares cache path) ∨
          ∃ before x after, s.deeds = before ++ x :: after ∧
            x.said.query = .store cache path value ∧ s.Vouched before x cache path value ∧
            ∀ y ∈ after, y.said.query.Spares cache path) ∧
      (∀ before x after cache path, s.deeds = before ++ x :: after →
        site.memo.replay before cache path ≠ none →
        site.memo.replay (before ++ [x]) cache path = none →
        ∃ errand, s.errands[x.errand]? = some errand ∧ errand.demand = .clearCache ∧
          cache = errand.client.settings.cache) ∧
      (∀ i p errand, s.crowd.parties i = some p → s.errands[i]? = some errand →
        (∀ q value, errand.demand.single? errand.client = some q →
          p.value? = some (.ok (.text (some value))) →
          s.OwnValue i errand.client q.path value ∨
            s.HeldValue site i errand.client q.path value) ∧
        (∀ q values, errand.demand.reading? errand.client = some q →
          p.value? = some (.ok (.texts (some values))) →
          ∃ body, values = Client.items q.whole body ∧
            JustRead errand.client q.path body (own i s.deeds)) ∧
        ((∀ result, p.value? = some result → Lost result) →
          Unwritten (own i s.deeds) ∧
            ∀ more, own i ((s.take (.vanish i)).after more).deeds = own i s.deeds)) := by
  intro s
  have hsound : s.Sound site := Scene.sound_after site events
  refine ⟨hsound.memo, ?_, ?_, ?_⟩
  · intro cache path value hheld
    rw [hsound.memo] at hheld
    rcases Memo.replay_eq_some hheld with hfirst | ⟨before, x, after, hsplit, hstore, hafter⟩
    · exact Or.inl hfirst
    · rcases hsound.allowed before x after hsplit with ⟨errand, herrand, hmay⟩
      rcases hmay.store cache path value hstore with ⟨hcache, horigin⟩
      exact Or.inr ⟨before, x, after, hsplit, hstore, ⟨errand, herrand, hcache, horigin⟩, hafter⟩
  · intro before x after cache path hsplit hbefore hafter
    rw [Memo.replay_concat] at hafter
    rcases hsound.allowed before x after hsplit with ⟨errand, herrand, hmay⟩
    rcases hmay.clear cache (Memo.forgotten hbefore hafter) with ⟨hcache, hdemand⟩
    exact ⟨errand, herrand, hdemand, hcache⟩
  · intro i p errand hp herrand
    refine ⟨fun q value hq => Scene.value_of_sound hsound hp herrand hq, ?_, ?_⟩
    · intro q values hq hvalue
      rcases (Scene.ends_of_sound hsound hp herrand hvalue).reading q hq with
        ⟨result, hresult, hends⟩
      cases result with
      | error failure => cases hresult
      | ok body =>
          cases body with
          | none => cases hresult
          | some body =>
              cases hresult
              exact ⟨body, rfl, hends.read body rfl⟩
    · intro hlost
      refine ⟨Scene.unwritten_of_sound hsound hp hlost, fun more => ?_⟩
      have hlt := hsound.lt_of_party hp
      have hgone : (s.take (.vanish i)).crowd.parties i = none := by
        simp only [Scene.take, Scene.turn, Crowd.take, hp]
        exact updateAt_self _ _ _
      have hmore : i < (s.take (.vanish i)).errands.length := by
        change i < (s.errands ++ []).length
        rwa [List.append_nil]
      rw [Scene.own_of_gone hmore hgone more]
      change own i (s.deeds ++ []) = own i s.deeds
      rw [List.append_nil]

-- A task and a thread miss a path at the same time and read different bodies. The one that
-- stores last decides what is held, and what a third party gets that comes later; the other has
-- its own body all the same. A fourth vanishes with a body that it did not store.
example :
    let settings : Settings := ⟨.fixed "", .flag, .standard, 0, 0⟩
    let site := Site.fresh (fun history => match history with
      | x :: _ => .ok (if x.channel = 0 then "x" else "y")
      | [] => .error .timeout)
    let come := fun channel force =>
      Event.arrive ⟨⟨settings, channel⟩, .valueWith "/a" force 1⟩
    let events := [come 0 false .task, come 1 false .thread] ++ List.replicate 5 (.act 0) ++
      List.replicate 6 (.act 1) ++
      [.act 0, come 2 false .thread, .act 2, .act 2, come 3 true .task] ++
      List.replicate 4 (.act 3) ++ [.vanish 3]
    let s := (Scene.ofSite site).after events
    let value := fun i => ((s.crowd.parties i).bind Party.value?).bind (fun r => match r with
      | .ok (.text v) => v
      | _ => none)
    s.crowd.site.memo 0 "/a" = some "x" ∧ value 0 = some "x" ∧ value 1 = some "y" ∧
      value 2 = some "x" ∧ lastBody (own 3 s.deeds) = some "y" := by
  decide +kernel

end Imds
