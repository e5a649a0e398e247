import Imds.Proofs.Blocking.Agreement
import Imds.Proofs.Cache.Conduct
import Imds.Proofs.Fetch.Outcome

/-!
# The Cache Is a Memo

Seen from a program that does one thing after another, a cache is a memo of reads: for
each path it holds the body of the last read that succeeded, unless something else was
kept for the path by hand since, or the cache was cleared. `Memo.after` is that notion. It
knows nothing of switches, tokens, attempts or forced fetches; of an operation it takes
into account what was asked for, and the last request that was made for it.

That the caches of a site are such a memo is an induction on the operations. An operation
does to the caches what the changes in its dialogue do, and the conduct of demands says
which changes there can be: at most one, at the end.

The memo answers for the service. While it holds a value for a path, an unforced fetch
gives this value and nothing else happens, whatever the budget is, whether or not a base
address could be found, and even if the channel is closed. A fetch that does not find a
value, or does not look for one, is a fetch past the cache with a change of the cache
after it.

## Main definitions

* `Memo`, `Site.memo`: What is held for the paths of caches.
* `Memo.after`: A memo after one operation.
* `Desk.talk`: What is said in the course of an operation.
* `Desk.recount`: A memo after operations one after another.
* `Operation.Concerns`: The entries that an operation can change.
* `Lost`: Failures, and the answer that there is no such value.

## Theorems

* `memo_perform`, `memo_work`: The caches of a site are a memo.
* `perform_of_known`, `perform_of_unknown`: A value that is held, and one that is not.
* `caches_of_lost`: An operation that comes to nothing changes nothing.
* `cache_is_memo`: All of this after any operations, and for threads as well.
-/

namespace Imds

/-- What is held for the paths of caches. -/
abbrev Memo : Type := Nat → String → Option String

/-- What the caches of a site hold. -/
def Site.memo (s : Site) : Memo := fun cache path => (s.caches cache).get? path

namespace Memo

/-- Something else is held for a path. -/
def hold (m : Memo) (cache : Nat) (path value : String) : Memo :=
  fun k p => if k = cache ∧ p = path then some value else m k p

/-- Nothing is held in a cache any more. -/
def forget (m : Memo) (cache : Nat) : Memo := fun k p => if k = cache then none else m k p

/-- A memo after an operation, in the course of which this was said. A single value that
    was asked for is held if the last request was a read that brought it. -/
def after (m : Memo) (said : List Said) : Operation → Memo
  | .demand c (.keep path value) => m.hold c.settings.cache path value
  | .demand c .clearCache => m.forget c.settings.cache
  | .demand c D =>
    match D.single? c, lastBody said with
    | some q, some body => m.hold c.settings.cache q.path body
    | _, _ => m
  | _ => m

end Memo

/-- The entries that an operation can change: one path, or a whole cache. -/
def Operation.Concerns (cache : Nat) (path : String) : Operation → Prop
  | .demand c (.keep path' _) => cache = c.settings.cache ∧ path = path'
  | .demand c .clearCache => cache = c.settings.cache
  | .demand c D => ∃ q, D.single? c = some q ∧ cache = c.settings.cache ∧ path = q.path
  | _ => False

/-- An operation failed, or was told that there is no such value. -/
def Lost : Except Failure Report → Prop
  | .error _ => True
  | .ok (.text none) => True
  | .ok (.texts none) => True
  | .ok (.description none) => True
  | _ => False

namespace Desk

/-- What is said at a desk in the course of an operation. -/
def talk (d : Desk) : Operation → List Said
  | .demand c D => ((D.act c).among d.site.voice []).2
  | .interfaces c => (c.interfaces.among d.site.voice []).2
  | .interface c mac => ((Nic.ofMac c mac).among d.site.voice []).2
  | .question index q =>
    match d.nics[index]? with
    | some n => ((q.act n).among d.site.voice []).2
    | none => []
  | .setFlag _ => []
  | .setVariable _ _ => []

/-- A memo after operations one after another. -/
def recount (d : Desk) (m : Memo) : List Operation → Memo
  | [] => m
  | o :: os => (d.perform o).2.recount (m.after (d.talk o) o) os

end Desk

namespace Memo

variable {m : Memo} {said : List Said} {c : Client} {D : Demand}

theorem after_single {q : Single} (h : D.single? c = some q) :
    m.after said (.demand c D) = match lastBody said with
      | some body => m.hold c.settings.cache q.path body
      | none => m := by
  cases D <;> cases h <;> simp only [after, Demand.single?] <;> cases lastBody said <;> rfl

theorem after_no_demand {o : Operation} (h : ∀ c D, o ≠ .demand c D) : m.after said o = m := by
  cases o with
  | demand c D => exact absurd rfl (h c D)
  | _ => rfl

theorem after_plain (h : D.single? c = none) (hkeep : ∀ path value, D ≠ .keep path value)
    (hclear : D ≠ .clearCache) : m.after said (.demand c D) = m := by
  cases D with
  | keep path value => exact absurd rfl (hkeep path value)
  | clearCache => exact absurd rfl hclear
  | _ => first | rfl | cases h

end Memo

/-! ### Changes of caches -/

-- What is not a change of a cache leaves the caches as they are.
theorem caches_answer {s : Site} {query : Query} (h : ¬ query.IsWrite) :
    (query.answer s).2.caches = s.caches := by
  cases query with
  | store cache path value => exact absurd trivial h
  | clear cache => exact absurd trivial h
  | send channel request =>
      simp only [Query.answer, Site.exchange]
      split <;> rfl
  | pause length =>
      rcases Plan.answer_pause_eq length s with ⟨time, hpause⟩
      rw [hpause]
  | enter record =>
      simp only [Query.answer]
      split <;> rfl
  | _ => rfl

theorem caches_hear {s : Site} {d : List Said} (h : Unwritten d) :
    (s.hear d).caches = s.caches := by
  induction d generalizing s with
  | nil => rfl
  | cons x d ih =>
      have hx : ¬ x.query.IsWrite := h x List.mem_cons_self
      have hd : Unwritten d := fun y hy => h y (List.mem_cons_of_mem x hy)
      change ((x.query.answer s).2.hear d).caches = s.caches
      rw [ih hd, caches_answer hx]

theorem hear_concat (s : Site) (d : List Said) (x : Said) :
    s.hear (d ++ [x]) = (x.query.answer (s.hear d)).2 := by
  rw [Site.hear, List.foldl_append]
  rfl

theorem Act.SparesCaches.caches_drive {α : Type} {a : Act α} (h : a.SparesCaches) (s : Site) :
    (a.drive s).2.caches = s.caches := by
  rw [Act.drive, Plan.drive_eq_run]
  refine Plan.Abides.run_preserves (h []) (P := fun s' => s'.caches = s.caches) ?_ rfl
  intro s' query hquery hs
  rw [caches_answer hquery, hs]

theorem memo_of_caches {s s' : Site} (h : s'.caches = s.caches) : s'.memo = s.memo := by
  funext cache path
  rw [Site.memo, Site.memo, h]

theorem memo_setCache_insert (s : Site) (cache : Nat) (path value : String) :
    (s.setCache cache ((s.caches cache).insert path value)).memo =
      s.memo.hold cache path value := by
  funext k p
  change (updateAt s.caches cache _ k).get? p = _
  by_cases hk : k = cache
  · subst hk
    rw [updateAt_self, Table.get?_insert, Memo.hold]
    by_cases hp : path = p
    · rw [if_pos hp, if_pos ⟨rfl, hp.symm⟩]
    · rw [if_neg hp, if_neg (fun h => hp h.2.symm)]
      rfl
  · rw [updateAt_of_ne _ _ hk, Memo.hold, if_neg (fun h => hk h.1)]
    rfl

theorem memo_setCache_empty (s : Site) (cache : Nat) :
    (s.setCache cache Table.empty).memo = s.memo.forget cache := by
  funext k p
  change (updateAt s.caches cache _ k).get? p = _
  by_cases hk : k = cache
  · rw [hk, updateAt_self, Memo.forget, if_pos rfl]
    rfl
  · rw [updateAt_of_ne _ _ hk, Memo.forget, if_neg hk]
    rfl

-- A read that was the last thing said is the last request.
theorem lastBody_of_justRead {c : Client} {path body : String} {d : List Said}
    (h : JustRead c path body d) : lastBody d = some body := by
  rcases h with ⟨before, base, token, rfl⟩
  rw [lastBody_concat_send, if_pos (Request.method_forPath base path token)]
  rfl

-- What a fetch of a single value did to a site: it holds what the last request brought.
theorem memo_hear {s : Site} {c : Client} {path : String} {d : List Said}
    {r : Except Failure (Option String)} (h : ValueEnds c path d r) :
    (s.hear d).memo = match lastBody d with
      | some body => s.memo.hold c.settings.cache path body
      | none => s.memo := by
  have hunchanged : Unwritten d → lastBody d = none → (s.hear d).memo = match lastBody d with
      | some body => s.memo.hold c.settings.cache path body
      | none => s.memo := by
    intro hd hlast
    rw [hlast]
    exact memo_of_caches (caches_hear hd)
  by_cases hr : ∃ value, r = .ok (some value)
  · rcases hr with ⟨value, hr⟩
    cases h.found value hr with
    | known before hquiet hbefore =>
        refine hunchanged (hbefore.concat id) ?_
        rw [lastBody_congr (exchanges_concat_of_silent rfl), lastBody, hquiet]
        rfl
    | fetched before hread hbefore =>
        have hlast : lastBody (before ++ [⟨.store c.settings.cache path value, ()⟩]) = some value :=
          (lastBody_congr (exchanges_concat_of_silent rfl)).trans (lastBody_of_justRead hread)
        rw [hlast, hear_concat]
        have hcaches : (s.hear before).memo = s.memo := memo_of_caches (caches_hear hbefore)
        rw [← hcaches]
        exact memo_setCache_insert _ _ _ _
  · rcases h.lost (fun value hvalue => hr ⟨value, hvalue⟩) with ⟨hd, hlast⟩
    exact hunchanged hd hlast

/-! ### One operation -/

theorem perform_demand (d : Desk) (c : Client) (D : Demand) :
    d.perform (.demand c D) =
      (((D.act c).among d.site.voice []).1, ⟨d.site.hear (d.talk (.demand c D)), d.nics⟩) := by
  rw [Desk.perform, Desk.drive, Act.drive, Plan.drive_eq_among]
  rfl

-- The dialogue of a demand at a desk ends as the conduct of demands says.
theorem ends_demand (d : Desk) (c : Client) (D : Demand) :
    D.Ends c (d.talk (.demand c D)) (d.perform (.demand c D)).1 := by
  rw [perform_demand]
  exact Plan.abides_among d.site.voice (abides_demand c D)

-- Operations that are no demands leave all caches alone.
theorem caches_of_no_demand {d : Desk} {o : Operation} (h : ∀ c D, o ≠ .demand c D) :
    (d.perform o).2.site.caches = d.site.caches := by
  cases o with
  | demand c D => exact absurd rfl (h c D)
  | interfaces c =>
      have hspared : (d.drive c.interfaces).2.site.caches = d.site.caches :=
        (spares_interfaces c).caches_drive d.site
      rw [Desk.perform]
      rcases hdrive : d.drive c.interfaces with ⟨result, after⟩
      rw [hdrive] at hspared
      cases result <;> exact hspared
  | interface c mac =>
      change ((Nic.ofMac c mac).drive d.site).2.caches = d.site.caches
      rw [Plan.drive_eq_run]
      rfl
  | question index q =>
      rw [Desk.perform]
      cases d.nics[index]? with
      | none => rfl
      | some n => exact (spares_question n q).caches_drive d.site
  | setFlag flag => rfl
  | setVariable name value => rfl

/-- One operation does to the caches what it does to a memo. -/
theorem memo_perform (d : Desk) (o : Operation) :
    (d.perform o).2.site.memo = d.site.memo.after (d.talk o) o := by
  by_cases hdemand : ∃ c D, o = .demand c D
  · rcases hdemand with ⟨c, D, rfl⟩
    have hends := ends_demand d c D
    have hsite : (d.perform (.demand c D)).2.site = d.site.hear (d.talk (.demand c D)) := by
      rw [perform_demand]
    rw [hsite]
    cases hsingle : D.single? c with
    | some q =>
        rcases hends.single q hsingle with ⟨result, -, hvalue⟩
        rw [memo_hear hvalue, Memo.after_single hsingle]
    | none =>
        by_cases hkeep : ∃ path value, D = .keep path value
        · rcases hkeep with ⟨path, value, rfl⟩
          rw [(hends.keep path value rfl).2]
          exact memo_setCache_insert _ _ _ _
        · by_cases hclear : D = .clearCache
          · subst hclear
            rw [(hends.clear rfl).2]
            exact memo_setCache_empty _ _
          · have hkeep : ∀ path value, D ≠ .keep path value :=
              fun path value h => hkeep ⟨path, value, h⟩
            rw [Memo.after_plain hsingle hkeep hclear]
            exact memo_of_caches (caches_hear (hends.unwritten hsingle hkeep hclear))
  · have hother : ∀ c D, o ≠ .demand c D := fun c D h => hdemand ⟨c, D, h⟩
    rw [Memo.after_no_demand hother]
    exact memo_of_caches (caches_of_no_demand hother)

/-- So do operations one after another. -/
theorem memo_work (d : Desk) (os : List Operation) :
    (d.work os).2.site.memo = d.recount d.site.memo os := by
  induction os generalizing d with
  | nil => rfl
  | cons o os ih =>
      change ((d.perform o).2.work os).2.site.memo = (d.perform o).2.recount _ os
      rw [ih, memo_perform]

-- Only the entries that an operation concerns can change.
theorem after_of_not_concerns {m : Memo} {said : List Said} {o : Operation} {cache : Nat}
    {path : String} (h : ¬ o.Concerns cache path) : m.after said o cache path = m cache path := by
  cases o with
  | demand c D =>
      cases hsingle : D.single? c with
      | some q =>
          have hother : ¬ (cache = c.settings.cache ∧ path = q.path) := by
            intro hsame
            refine h ?_
            cases D <;> cases hsingle <;> exact ⟨_, rfl, hsame⟩
          rw [Memo.after_single hsingle]
          cases lastBody said with
          | none => rfl
          | some body => exact if_neg hother
      | none =>
          by_cases hkeep : ∃ path' value, D = .keep path' value
          · rcases hkeep with ⟨path', value, rfl⟩
            exact if_neg h
          · by_cases hclear : D = .clearCache
            · subst hclear
              exact if_neg h
            · rw [Memo.after_plain hsingle (fun path' value e => hkeep ⟨path', value, e⟩) hclear]
  | _ => rfl

-- The dialogue of a demand that comes to nothing changed no cache.
theorem unwritten_of_lost {c : Client} {D : Demand} {d : List Said} {r : Except Failure Report}
    (hends : D.Ends c d r) (h : Lost r) : Unwritten d := by
  cases hsingle : D.single? c with
  | some q =>
      rcases hends.single q hsingle with ⟨result, rfl, hvalue⟩
      refine (hvalue.lost (fun value hfound => ?_)).1
      rw [hfound] at h
      exact h
  | none =>
      refine hends.unwritten hsingle (fun path value hkeep => ?_) (fun hclear => ?_)
      · rw [(hends.keep path value hkeep).1] at h
        exact h
      · rw [(hends.clear hclear).1] at h
        exact h

/-- An operation that comes to nothing leaves all caches as they were. -/
theorem caches_of_lost (d : Desk) (o : Operation) (h : Lost (d.perform o).1) :
    (d.perform o).2.site.caches = d.site.caches := by
  by_cases hdemand : ∃ c D, o = .demand c D
  · rcases hdemand with ⟨c, D, rfl⟩
    have hsite : (d.perform (.demand c D)).2.site = d.site.hear (d.talk (.demand c D)) := by
      rw [perform_demand]
    rw [hsite]
    exact caches_hear (unwritten_of_lost (ends_demand d c D) h)
  · exact caches_of_no_demand (fun c D h => hdemand ⟨c, D, h⟩)

/-! ### Values that are held, and values that are not -/

theorem hear_append (s : Site) (d e : List Said) : s.hear (d ++ e) = (s.hear d).hear e :=
  List.foldl_append

-- What was said without changing a site makes no difference to what is said after it.
theorem among_after {α : Type} {s : Site} {d : List Said} (h : s.hear d = s) (p : Plan α)
    (e : List Said) : p.among s.voice (d ++ e) =
      ((p.among s.voice e).1, d ++ (p.among s.voice e).2) := by
  induction p generalizing e with
  | done value => rfl
  | ask query next ih =>
      have hvoice : s.voice (d ++ e) query = s.voice e query := by
        rw [Site.voice, Site.voice, hear_append, h]
      rw [Plan.among_ask, Plan.among_ask, hvoice, List.append_assoc, ih]

-- Looking at the switch changes nothing, and lets an operation pass if metadata is on.
theorem pass_at_site {g : Gate} {s : Site} (h : (g.isDisabled.run s).1 = .ok false) :
    ∃ e, g.pass.among s.voice [] = (.ok (), e) ∧ s.hear e = s ∧ exchanges e = [] := by
  rcases hlook : g.isDisabled.among s.voice [] with ⟨result, e⟩
  have hrun : g.isDisabled.run s = (result, s.hear e) := by
    have h := Plan.run_eq_among s g.isDisabled.outcome
    rwa [show Plan.among s.voice g.isDisabled.outcome [] = _ from hlook] at h
  have hsame : (g.isDisabled.run s).2 = s := by cases g <;> rfl
  have hsilent := silent_isDisabled g s.voice []
  rw [hrun] at h hsame
  rw [hlook] at hsilent
  have hresult : result = .ok false := h
  refine ⟨e, ?_, hsame, hsilent⟩
  rw [pass_among, hlook, hresult]

-- The fetch of a single value up to the point where the cache has answered, or was not asked.
theorem fetchValueWith_at_site {c : Client} {s : Site} (path : String) (force : Bool) (n : Nat)
    (h : (c.settings.gate.isDisabled.run s).1 = .ok false) :
    ∃ e, s.hear e = s ∧ exchanges e = [] ∧ (c.fetchValueWith path force n).among s.voice [] =
      match if force then none else s.memo c.settings.cache path with
      | some value => (.ok (some value), e)
      | none => (c.fetchAndStore path n).among s.voice e := by
  rcases pass_at_site h with ⟨e, hpass, hhear, hquiet⟩
  rw [Client.fetchValueWith_eq, Act.among_bind_ok hpass]
  cases force with
  | true => exact ⟨e, hhear, hquiet, rfl⟩
  | false =>
      have hanswer : s.voice e (.lookup c.settings.cache path) = s.memo c.settings.cache path := by
        rw [Site.voice, hhear]
        rfl
      have hlookup : (c.known path false).among s.voice e = (.ok (s.memo c.settings.cache path),
          e ++ [⟨.lookup c.settings.cache path, s.memo c.settings.cache path⟩]) := by
        rw [← hanswer]
        exact Act.among_lift s.voice (Plan.lookup c.settings.cache path) e
      refine ⟨e ++ [⟨.lookup c.settings.cache path, s.memo c.settings.cache path⟩], ?_, ?_, ?_⟩
      · rw [hear_concat, hhear]
        rfl
      · rw [exchanges_concat_of_silent rfl, hquiet]
      · rw [Act.among_bind_ok hlookup]
        simp only [Bool.false_eq_true, if_false]
        cases s.memo c.settings.cache path <;> rfl

/-- A site that keeps what a fetch of a path came to, if it came to a value. -/
def Site.keeping (s : Site) (cache : Nat) (path : String) : Except Failure (Option String) → Site
  | .ok (some value) => s.setCache cache ((s.caches cache).insert path value)
  | _ => s

-- Fetching and storing is fetching, and a change of the cache after it.
theorem fetchAndStore_at_site (c : Client) (path : String) (n : Nat) (s : Site) (d : List Said) :
    ((c.fetchAndStore path n).among s.voice d).1 = ((c.fetchBody path n).among s.voice d).1 ∧
      exchanges ((c.fetchAndStore path n).among s.voice d).2 =
        exchanges ((c.fetchBody path n).among s.voice d).2 ∧
      s.hear ((c.fetchAndStore path n).among s.voice d).2 =
        (s.hear ((c.fetchBody path n).among s.voice d).2).keeping c.settings.cache path
          ((c.fetchBody path n).among s.voice d).1 := by
  rcases Client.fetchAndStore_among c path n s.voice d with ⟨hresult, -, hexchanges⟩
  refine ⟨hresult, hexchanges, ?_⟩
  have hitems := Client.fetchItems_among c path n true s.voice d
  rcases hbody : (c.fetchBody path n).among s.voice d with ⟨result, e⟩
  rw [hbody] at hitems
  cases result with
  | error failure =>
      rw [Client.fetchAndStore, Act.among_bind_error hitems]
      rfl
  | ok body =>
      rw [Client.fetchAndStore, Act.among_bind_ok hitems, Client.head_items_true]
      cases body with
      | none => rfl
      | some value => exact hear_concat s e ⟨.store c.settings.cache path value, ()⟩

/-- A value that is held is the answer to a demand for it that does not pass the cache by.
    Nothing is requested for it, and nothing changes. -/
theorem perform_of_known {d : Desk} {c : Client} {D : Demand} {q : Single} {value : String}
    (hD : D.single? c = some q) (hforce : q.force = false)
    (hgate : (c.settings.gate.isDisabled.run d.site).1 = .ok false)
    (hknown : d.site.memo c.settings.cache q.path = some value) :
    d.perform (.demand c D) = (.ok (.text (some value)), d) ∧
      exchanges (d.talk (.demand c D)) = [] := by
  rcases fetchValueWith_at_site q.path q.force q.attempts hgate with ⟨e, hhear, hquiet, hvalue⟩
  rw [hforce, hknown] at hvalue
  have hact : (D.act c).among d.site.voice [] = (.ok (.text (some value)), e) := by
    rw [act_of_single hD, map_eq_pure_bind, Act.among_map, hforce, hvalue]
    rfl
  have htalk : d.talk (.demand c D) = e := congrArg Prod.snd hact
  rw [perform_demand, hact, htalk, hhear]
  exact ⟨rfl, hquiet⟩

/-- A value that is not held, or that is asked for past the cache, is fetched, and kept if
    there is one. -/
theorem perform_of_unknown {d : Desk} {c : Client} {D : Demand} {q : Single}
    (hD : D.single? c = some q)
    (hgate : (c.settings.gate.isDisabled.run d.site).1 = .ok false)
    (hunknown : q.force = true ∨ d.site.memo c.settings.cache q.path = none) :
    let fetched := (c.fetchBody q.path q.attempts).drive d.site
    d.perform (.demand c D) = (fetched.1.map Report.text,
        ⟨fetched.2.keeping c.settings.cache q.path fetched.1, d.nics⟩) ∧
      exchanges (d.talk (.demand c D)) =
        exchanges ((c.fetchBody q.path q.attempts).among d.site.voice []).2 := by
  intro fetched
  rcases fetchValueWith_at_site q.path q.force q.attempts hgate with ⟨e, hhear, hquiet, hvalue⟩
  have hmiss : (if q.force then none else d.site.memo c.settings.cache q.path) = none := by
    rcases hunknown with h | h
    · rw [if_pos h]
    · rw [h, ite_self]
  rw [hmiss] at hvalue
  -- Nothing that was said up to here has changed the site.
  have hafter := among_after hhear (c.fetchBody q.path q.attempts).outcome []
  have hbody : (c.fetchBody q.path q.attempts).among d.site.voice e =
      (((c.fetchBody q.path q.attempts).among d.site.voice []).1,
        e ++ ((c.fetchBody q.path q.attempts).among d.site.voice []).2) := by
    rwa [List.append_nil] at hafter
  rcases fetchAndStore_at_site c q.path q.attempts d.site e with ⟨hresult, hexchanges, hsite⟩
  rw [hbody] at hresult hexchanges hsite
  have hfetched : fetched = (((c.fetchBody q.path q.attempts).among d.site.voice []).1,
      d.site.hear ((c.fetchBody q.path q.attempts).among d.site.voice []).2) :=
    Plan.drive_eq_among d.site _
  have hact : (D.act c).among d.site.voice [] =
      (((c.fetchAndStore q.path q.attempts).among d.site.voice e).1.map Report.text,
        ((c.fetchAndStore q.path q.attempts).among d.site.voice e).2) := by
    rw [act_of_single hD, map_eq_pure_bind, Act.among_map, hvalue]
  have htalk : d.talk (.demand c D) =
      ((c.fetchAndStore q.path q.attempts).among d.site.voice e).2 := congrArg Prod.snd hact
  rw [perform_demand, hact, htalk, hfetched, hsite, hresult, hexchanges, hear_append, hhear,
    exchanges_append, hquiet]
  exact ⟨rfl, rfl⟩

/-- After any operations, of any clients with any caches, the caches hold what a memo of
    these operations holds. Whatever is done next changes only entries that it concerns, and
    none if it comes to a failure or to no value.

    A demand for a single value, metadata not being off, is answered by what is held, if
    something is and it is not passed by: nothing is requested then and nothing changes.
    Otherwise it comes to what a fetch past the cache comes to, with the same requests, and
    keeps the value if there is one.

    A thread that waits has the same caches, results and requests. -/
theorem cache_is_memo (d : Desk) (os : List Operation) :
    let here := (d.work os).2
    let held := d.recount d.site.memo os
    here.site.memo = held ∧
      (∀ o cache path, ¬ o.Concerns cache path →
        (here.perform o).2.site.memo cache path = held cache path) ∧
      (∀ o, Lost (here.perform o).1 → (here.perform o).2.site.caches = here.site.caches) ∧
      (∀ c D q, D.single? c = some q → (c.settings.gate.isDisabled.run here.site).1 = .ok false →
        (∀ value, q.force = false → held c.settings.cache q.path = some value →
          here.perform (.demand c D) = (.ok (.text (some value)), here) ∧
            exchanges (here.talk (.demand c D)) = []) ∧
        (q.force = true ∨ held c.settings.cache q.path = none →
          let fetched := (c.fetchBody q.path q.attempts).drive here.site
          here.perform (.demand c D) = (fetched.1.map Report.text,
              ⟨fetched.2.keeping c.settings.cache q.path fetched.1, here.nics⟩) ∧
            exchanges (here.talk (.demand c D)) =
              exchanges ((c.fetchBody q.path q.attempts).among here.site.voice []).2)) ∧
      ∀ b, d.Agrees b →
        let there := (b.work os).2
        there.world.caches = here.site.caches ∧
          ∀ o, (there.perform o).1 = (here.perform o).1 ∧
            (there.perform o).2.world.caches = (here.perform o).2.site.caches ∧
            (there.perform o).2.world.posted = (here.perform o).2.site.sent.map Sent.posted := by
  intro here held
  have hmemo : here.site.memo = held := memo_work d os
  refine ⟨hmemo, ?_, fun o => caches_of_lost here o, ?_, ?_⟩
  · intro o cache path h
    rw [memo_perform, after_of_not_concerns h, hmemo]
  · intro c D q hD hgate
    rw [← hmemo]
    exact ⟨fun value hforce => perform_of_known hD hforce hgate, perform_of_unknown hD hgate⟩
  · intro b hb there
    rcases agrees_work hb os with ⟨-, hagrees⟩
    refine ⟨hagrees.world.caches, fun o => ?_⟩
    rcases agrees_perform hagrees o with ⟨hresult, hafter⟩
    exact ⟨hresult, hafter.world.caches, hafter.world.posted⟩

-- Without attempts and through a closed channel, a value that was kept is still there. A
-- fetch past the cache fails and leaves it there, and a thread finds it as well.
theorem known_without_attempts :
    let c : Client := ⟨⟨.fixed "", .flag, .standard, 0, 0⟩, 0⟩
    let service : List Blocking.Posted → Except Fault String := fun _ => .error .timeout
    let d := Desk.initial service Table.empty false (fun _ => Table.empty)
    let b := Blocking.Desk.initial service Table.empty false (fun _ => Table.empty)
    let os : List Operation := [.demand c (.keep "/a" "x"), .demand c .close]
    let here := (d.work os).2
    let ask := fun force => Operation.demand c (.valueWith "/a" force 0)
    here.site.isShut 0 = true ∧
      here.perform (ask false) = (.ok (.text (some "x")), here) ∧
      exchanges (here.talk (ask false)) = [] ∧
      (here.perform (ask true)).1 = .error .unreachable ∧
      (here.perform (ask true)).2.site.caches = here.site.caches ∧
      ((b.work os).2.perform (ask false)).1 = .ok (.text (some "x")) := by
  intro c service d b os here ask
  have hsite : here.site =
      (Query.answer (.shut 0) (Query.answer (.store 0 "/a" "x") d.site).2).2 := by
    simp only [here, os, Desk.work, Desk.perform, Desk.drive, Act.drive, Plan.drive_eq_run]
    rfl
  have hgate : (c.settings.gate.isDisabled.run here.site).1 = .ok false := by
    rw [hsite]
    rfl
  rcases cache_is_memo d os with ⟨-, -, hlost, hvalue, hthread⟩
  rcases (hvalue c (.valueWith "/a" false 0) ⟨"/a", false, 0⟩ rfl hgate).1 "x" rfl rfl with
    ⟨hknown, hquiet⟩
  rcases (hvalue c (.valueWith "/a" true 0) ⟨"/a", true, 0⟩ rfl hgate).2 (Or.inl rfl) with
    ⟨hforced, -⟩
  have hfailed : (here.perform (ask true)).1 = .error .unreachable := by
    rw [hforced, Act.drive, Plan.drive_eq_run, hsite]
    rfl
  refine ⟨by rw [hsite]; rfl, hknown, hquiet, hfailed, hlost _ (by rw [hfailed]; trivial), ?_⟩
  have hthere := ((hthread b (agrees_initial service Table.empty false _)).2 (ask false)).1
  exact hthere.trans (congrArg Prod.fst hknown)

end Imds
