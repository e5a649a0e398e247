import Imds.Proofs.Blocking.Agreement
import Imds.Proofs.Cache.Conduct

/-!
# Raw Fetches Pass the Cache By

Only single values are cached. Every other operation goes past the cache: items, lines and
documents, what is read from them, the mapping of block devices, and all that handles on
interfaces do. To say that they go past is to speak of two runs. Let the caches hold what they
may, anything at all in one run and anything else in the other; then both runs send the same
requests and give the same results, and neither changes what it was given.

One equation says it. To replace the caches and then to work is to work and then to replace the
caches. It speaks of results and of all that is left behind, requests and handles included, and
that the caches are left as they were is the case in which they are replaced by themselves.

Raw operations never ask about a cache, and this can be read off their plans: the queries of a
fetch are known, and handles ask nothing else but what they remember themselves. What a client
asks for a thread is what it asks for a task. A handle of a thread carries its path with it,
which need not be the path of its address, so that its plans are gone through by themselves.

## Main definitions

* `Site.withCaches`, `Desk.withCaches`: The same with other caches, also for threads.
* `Demand.IsRaw`, `Operation.IsRaw`: What goes past the cache.

## Theorems

* `run_withCaches`, `Blocking.runIn_withCaches`: A plan that asks about no cache is indifferent to
  all of them.
* `passes_demand`: Raw demands ask about no cache.
* `work_withCaches`, `caches_work`: Raw operations one after another.
* `Blocking.passes_demand`, `Blocking.passes_question`, `Blocking.passes_interfaces`: What threads
  do.
* `raw_operations_pass_caches`: Both ways of waiting.
-/

namespace Imds

/-- The site with other caches. -/
def Site.withCaches (s : Site) (caches : Nat → Table String String) : Site :=
  { s with caches := caches }

/-- The desk with other caches. -/
def Desk.withCaches (d : Desk) (caches : Nat → Table String String) : Desk :=
  { d with site := d.site.withCaches caches }

/-- The world with other caches. -/
def Blocking.World.withCaches (w : Blocking.World) (caches : Nat → Table String String) :
    Blocking.World :=
  { w with caches := caches }

/-- The desk of a thread with other caches. -/
def Blocking.Desk.withCaches (d : Blocking.Desk) (caches : Nat → Table String String) :
    Blocking.Desk :=
  { d with world := d.world.withCaches caches }

/-- A demand that goes past the cache. The others are for single values, or for the cache
    itself. -/
def Demand.IsRaw : Demand → Prop
  | .value _ => False
  | .valueWith _ _ _ => False
  | .scalar _ => False
  | .keep _ _ => False
  | .clearCache => False
  | _ => True

/-- An operation that goes past the cache. -/
def Operation.IsRaw : Operation → Prop
  | .demand _ D => D.IsRaw
  | _ => True

/-! ### Tasks -/

section Tasks

variable {α : Type} (caches : Nat → Table String String)

-- A query about something else is answered alike, and leaves the caches that are there.
theorem answer_withCaches {query : Query} (h : ¬ query.OfCache) (s : Site) :
    query.answer (s.withCaches caches) =
      ((query.answer s).1, (query.answer s).2.withCaches caches) := by
  cases query with
  | lookup cache path => exact absurd trivial h
  | store cache path value => exact absurd trivial h
  | clear cache => exact absurd trivial h
  | send channel request =>
      change (s.withCaches caches).exchange channel request =
        ((s.exchange channel request).1, (s.exchange channel request).2.withCaches caches)
      rw [Site.exchange, Site.exchange]
      by_cases hshut : s.isShut channel
      · rw [if_pos hshut]
        exact if_pos hshut
      · rw [if_neg hshut]
        exact if_neg hshut
  | enter record =>
      simp only [Query.answer]
      by_cases hkeys : (s.records record).keys.isSome
      · rw [if_pos hkeys]
        exact congrArg (Prod.mk _) (if_pos hkeys)
      · rw [if_neg hkeys]
        exact congrArg (Prod.mk _) (if_neg hkeys)
  | _ => rfl

/-- A plan that asks about no cache is indifferent to all of them. -/
theorem run_withCaches {p : Plan α} {ends : List Said → α → Prop} {d : List Said}
    (h : p.Abides (fun _ query => ¬ query.OfCache) ends d) (s : Site) :
    p.run (s.withCaches caches) = ((p.run s).1, (p.run s).2.withCaches caches) := by
  induction p generalizing d s with
  | done value => rfl
  | ask query next ih =>
      rw [Plan.run_ask, Plan.run_ask, answer_withCaches caches h.1]
      exact ih _ (h.2 _) _

theorem Act.PassesCaches.drive_withCaches {a : Act α} (h : a.PassesCaches) (s : Site) :
    a.drive (s.withCaches caches) = ((a.drive s).1, (a.drive s).2.withCaches caches) := by
  rw [Act.drive, Act.drive, Plan.drive_eq_run, Plan.drive_eq_run]
  exact run_withCaches caches (h []) s

-- Among any surroundings, nothing that is said concerns a cache.
theorem Act.PassesCaches.among {a : Act α} (h : a.PassesCaches) (w : Surroundings) :
    ∀ x ∈ (a.among w []).2, ¬ x.query.OfCache := by
  have hsince := Plan.abides_among w (Plan.Abides.since (.refl _ []) (h []))
  rcases hsince.1 with ⟨said, hsaid, hall⟩
  intro x hx
  rw [Act.among, hsaid] at hx
  exact hall x hx

theorem passes_fetchItems (c : Client) (path : String) (attempts : Nat) (whole : Bool) :
    (c.fetchItems path attempts whole).PassesCaches :=
  passes_of_fetches (fun _ => (Client.abides_fetchItems path attempts whole).mono
    (fun _ _ hq => hq) (fun _ _ _ => trivial))

theorem passes_fetchDocument (c : Client) (path : String) :
    (c.fetchDocument path).PassesCaches :=
  passes_of_fetches (fun _ => abides_fetchDocument path)

/-- Raw demands ask about no cache. -/
theorem passes_demand (c : Client) {D : Demand} (h : D.IsRaw) : (D.act c).PassesCaches := by
  cases D with
  | value path => exact absurd h id
  | valueWith path force attempts => exact absurd h id
  | scalar v => exact absurd h id
  | keep path value => exact absurd h id
  | clearCache => exact absurd h id
  | items path attempts whole => exact passes_map _ (passes_fetchItems c path attempts whole)
  | lines path => exact passes_map _ (passes_fetchItems c path c.attempts false)
  | linesWith path attempts => exact passes_map _ (passes_fetchItems c path attempts false)
  | document path => exact passes_map _ (passes_fetchDocument c path)
  | listing l => exact passes_map _ (passes_of_fetches (fun _ => abides_listing l))
  | identityDocument => exact passes_map _ (passes_fetchDocument c identityPath)
  | region => exact passes_map _ (passes_map _ (passes_fetchDocument c identityPath))
  | description => exact passes_map _ (passes_map _ (passes_fetchDocument c identityPath))
  | userData => exact passes_map _ (passes_fetchDocument c userDataPath)
  | blockDevices => exact passes_map _ (passes_of_fetches (fun _ => abides_blockDevices))
  | close => exact passes_map _ (passes_ask id)

theorem drive_withCaches {a : Act α} (h : a.PassesCaches) (d : Desk) :
    (d.withCaches caches).drive a = ((d.drive a).1, (d.drive a).2.withCaches caches) := by
  have hdrive := h.drive_withCaches caches d.site
  rw [Desk.drive, show (d.withCaches caches).site = d.site.withCaches caches from rfl, hdrive]
  rfl

/-- A raw operation is indifferent to the caches. -/
theorem perform_withCaches (d : Desk) {o : Operation} (h : o.IsRaw) :
    (d.withCaches caches).perform o =
      ((d.perform o).1, (d.perform o).2.withCaches caches) := by
  cases o with
  | demand c D => exact drive_withCaches caches (passes_demand c h) d
  | interfaces c =>
      rw [Desk.perform, Desk.perform, drive_withCaches caches (passes_interfaces c)]
      rcases d.drive c.interfaces with ⟨result, after⟩
      cases result <;> rfl
  | interface c mac =>
      simp only [Desk.perform, Plan.drive_eq_run]
      rfl
  | question index question =>
      rw [Desk.perform, Desk.perform, show (d.withCaches caches).nics = d.nics from rfl]
      cases d.nics[index]? with
      | none => rfl
      | some n => exact drive_withCaches caches (passes_question n question) d
  | setFlag flag => rfl
  | setVariable name value => rfl

/-- Raw operations one after another are. -/
theorem work_withCaches {os : List Operation} (h : ∀ o ∈ os, o.IsRaw) (d : Desk) :
    (d.withCaches caches).work os = ((d.work os).1, (d.work os).2.withCaches caches) := by
  induction os generalizing d with
  | nil => rfl
  | cons o os ih =>
      have hfirst := perform_withCaches caches d (h o List.mem_cons_self)
      simp only [Desk.work, hfirst, ih (fun o ho => h o (List.mem_cons_of_mem _ ho))]

-- To replace the caches by themselves changes nothing.
theorem caches_work {os : List Operation} (h : ∀ o ∈ os, o.IsRaw) (d : Desk) :
    (d.work os).2.site.caches = d.site.caches :=
  congrArg (fun x => x.2.site.caches) (work_withCaches d.site.caches h d)

end Tasks

/-! ### Threads -/

namespace Blocking

section Threads

variable {α : Type}

-- What is done under a lock, the lock included, is about no cache if the rest is not.
theorem passes_whileLocked {a : Direct (List String)} (ha : a.PassesCaches) (handle : Nat) :
    (whileLocked handle a).PassesCaches := by
  intro d
  refine Plan.abides_bind ((ha d).mono (fun _ _ hq => hq) ?_)
  exact fun e r _ => ⟨id, fun _ => trivial⟩

theorem passes_fetchLines (c : Client) (path : String) : (fetchLines c path).PassesCaches := by
  rw [fetchLines_eq]
  exact Imds.passes_fetchItems c path c.attempts false

theorem passes_fetchDocument (c : Client) (path : String) :
    (fetchDocument c path).PassesCaches := by
  rw [fetchDocument_eq]
  exact Imds.passes_fetchDocument c path

/-- Raw demands on a thread. -/
theorem passes_demand (c : Client) {D : Demand} (h : D.IsRaw) : (demand c D).PassesCaches := by
  rw [demand_eq]
  exact Imds.passes_demand c h

theorem passes_availableKeys (n : Nic) : n.availableKeys.PassesCaches := by
  refine passes_bind (passes_ask id) (fun known => ?_)
  cases known with
  | some keys => exact passes_pure keys
  | none => exact passes_whileLocked (passes_map _ (passes_fetchLines n.client n.path)) n.handle

theorem passes_hasKey (n : Nic) (key : String) : (n.hasKey key).PassesCaches :=
  passes_map _ (passes_availableKeys n)

theorem passes_value (n : Nic) (key : String) : (n.value key).PassesCaches := by
  refine passes_bind (passes_ask id) (fun known => ?_)
  cases known with
  | some value => exact passes_pure value
  | none =>
      refine passes_bind (passes_hasKey n key) (fun listed => ?_)
      cases listed with
      | false => exact passes_pure none
      | true =>
          refine passes_bind (passes_fetchDocument n.client _) (fun value => ?_)
          exact passes_bind (passes_ask id) (fun _ => passes_pure value)

theorem passes_lines (n : Nic) (key : String) : (n.lines key).PassesCaches := by
  refine passes_bind (passes_hasKey n key) (fun listed => ?_)
  cases listed with
  | false => exact passes_pure []
  | true => exact passes_map _ (passes_fetchLines n.client _)

/-- Handles on a thread. -/
theorem passes_question (n : Nic) (q : Question) : (question n q).PassesCaches := by
  cases q with
  | mac => exact passes_pure _
  | keys => exact passes_map _ (passes_availableKeys n)
  | value key => exact passes_map _ (passes_value n key)
  | lines key => exact passes_map _ (passes_lines n key)
  | scalar v => cases v <;> exact passes_map _ (passes_value n _)
  | listing l => cases l <;> exact passes_map _ (passes_lines n _)
  | associations address => exact passes_map _ (passes_map _ (passes_fetchLines n.client _))

theorem passes_interfaces (c : Client) : (interfaces c).PassesCaches := by
  rw [interfaces_eq]
  exact passes_map _ (Imds.passes_interfaces c)

variable (caches : Nat → Table String String)

-- A thread finds the same answer to a query about something else, and leaves the caches.
theorem answer_withCaches {query : Query} (h : ¬ query.OfCache) (w : World) :
    World.answer query (w.withCaches caches) =
      ((World.answer query w).1, (World.answer query w).2.withCaches caches) := by
  cases query with
  | lookup cache path => exact absurd trivial h
  | store cache path value => exact absurd trivial h
  | clear cache => exact absurd trivial h
  | send channel request =>
      change World.post channel request (w.withCaches caches) =
        ((World.post channel request w).1, (World.post channel request w).2.withCaches caches)
      rw [World.post, World.post]
      by_cases hshut : w.isShut channel
      · rw [if_pos hshut]
        exact if_pos hshut
      · rw [if_neg hshut]
        exact if_neg hshut
  | leave handle keys => cases keys <;> rfl
  | _ => rfl

/-- A thread that asks about no cache is indifferent to all of them. -/
theorem runIn_withCaches {p : Plan α} {ends : List Said → α → Prop} {d : List Said}
    (h : p.Abides (fun _ query => ¬ query.OfCache) ends d) (w : World) :
    p.runIn (w.withCaches caches) = ((p.runIn w).1, (p.runIn w).2.withCaches caches) := by
  induction p generalizing d w with
  | done value => rfl
  | ask query next ih =>
      rw [Plan.runIn_ask, Plan.runIn_ask, answer_withCaches caches h.1]
      exact ih _ (h.2 _) _

theorem run_withCaches {a : Direct α} (h : a.PassesCaches) (w : World) :
    a.run (w.withCaches caches) = ((a.run w).1, (a.run w).2.withCaches caches) :=
  runIn_withCaches caches (h []) w

/-! #### Operations one after another -/

theorem call_withCaches {a : Direct α} (h : a.PassesCaches) (d : Desk) :
    (d.withCaches caches).call a = ((d.call a).1, (d.call a).2.withCaches caches) := by
  rw [Desk.call, show (d.withCaches caches).world = d.world.withCaches caches from rfl,
    run_withCaches caches h d.world]
  rfl

theorem perform_withCaches (d : Desk) {o : Operation} (h : o.IsRaw) :
    (d.withCaches caches).perform o =
      ((d.perform o).1, (d.perform o).2.withCaches caches) := by
  cases o with
  | demand c D => exact call_withCaches caches (passes_demand c h) d
  | interfaces c =>
      rw [Desk.perform, Desk.perform, call_withCaches caches (passes_interfaces c)]
      rcases d.call (interfaces c) with ⟨result, after⟩
      cases result <;> rfl
  | interface c mac => rfl
  | question index q =>
      rw [Desk.perform, Desk.perform, show (d.withCaches caches).nics = d.nics from rfl]
      cases d.nics[index]? with
      | none => rfl
      | some n => exact call_withCaches caches (passes_question n q) d
  | setFlag flag => rfl
  | setVariable name value => rfl

theorem work_withCaches {os : List Operation} (h : ∀ o ∈ os, o.IsRaw) (d : Desk) :
    (d.withCaches caches).work os = ((d.work os).1, (d.work os).2.withCaches caches) := by
  induction os generalizing d with
  | nil => rfl
  | cons o os ih =>
      have hfirst := perform_withCaches caches d (h o List.mem_cons_self)
      simp only [Desk.work, hfirst, ih (fun o ho => h o (List.mem_cons_of_mem _ ho))]

theorem caches_work {os : List Operation} (h : ∀ o ∈ os, o.IsRaw) (d : Desk) :
    (d.work os).2.world.caches = d.world.caches :=
  congrArg (fun x => x.2.world.caches) (work_withCaches d.world.caches h d)

end Threads

end Blocking

/-- Raw operations pass the cache by, one after another and in any order, whatever is in the
    caches, be it the very paths that are fetched. At two desks that differ in their caches only,
    they give the same results, send the same requests and leave the same behind, with the caches
    of each desk as they were found; so it is in tasks and on threads. And whoever else is at
    work meanwhile, nothing that a raw demand or a handle asks concerns a cache. -/
theorem raw_operations_pass_caches (os : List Operation) (hraw : ∀ o ∈ os, o.IsRaw)
    (caches : Nat → Table String String) :
    (∀ d : Desk, ((d.withCaches caches).work os).1 = (d.work os).1 ∧
      ((d.withCaches caches).work os).2.site.sent = (d.work os).2.site.sent ∧
      ((d.withCaches caches).work os).2 = (d.work os).2.withCaches caches ∧
      (d.work os).2.site.caches = d.site.caches ∧
      ((d.withCaches caches).work os).2.site.caches = caches) ∧
    (∀ d : Blocking.Desk, ((d.withCaches caches).work os).1 = (d.work os).1 ∧
      ((d.withCaches caches).work os).2.world.posted = (d.work os).2.world.posted ∧
      ((d.withCaches caches).work os).2 = (d.work os).2.withCaches caches ∧
      (d.work os).2.world.caches = d.world.caches ∧
      ((d.withCaches caches).work os).2.world.caches = caches) ∧
    (∀ (c : Client) (D : Demand), .demand c D ∈ os →
      ∀ w : Surroundings, ∀ x ∈ ((D.act c).among w []).2, ¬ x.query.OfCache) ∧
    (∀ (n : Nic) (q : Question) (w : Surroundings), ∀ x ∈ ((q.act n).among w []).2,
      ¬ x.query.OfCache) ∧
    ∀ (c : Client) (w : Surroundings), ∀ x ∈ (c.interfaces.among w []).2, ¬ x.query.OfCache := by
  refine ⟨fun d => ?_, fun d => ?_, fun c D hD w => (passes_demand c (hraw _ hD)).among w,
    fun n q w => (passes_question n q).among w, fun c w => (passes_interfaces c).among w⟩
  · rw [work_withCaches caches hraw d]
    exact ⟨rfl, rfl, rfl, caches_work hraw d, rfl⟩
  · rw [Blocking.work_withCaches caches hraw d]
    exact ⟨rfl, rfl, rfl, Blocking.caches_work hraw d, rfl⟩

-- A value is kept for a path. A demand for it gets what was kept, and a demand for the document
-- gets what the service has now.
theorem document_is_not_what_was_kept :
    let c : Client := ⟨⟨.fixed "http://host", .flag, ⟨1, .zero⟩, 60, 0⟩, 0⟩
    let d : Blocking.Desk := ⟨.fresh (fun _ => .ok "new"), []⟩
    let kept : Nat → Table String String := fun _ => Table.empty.insert "/path" "old"
    let os : List Operation := [.demand c (.document "/path"), .demand c .region]
    (∀ o ∈ os, o.IsRaw) ∧
      ((d.withCaches kept).work [.demand c (.value "/path")]).1 = [.ok (.text (some "old"))] ∧
      ((d.withCaches kept).work os).1 = [.ok (.text (some "new")), .ok (.text none)] ∧
      ((d.withCaches kept).work os).2.world.caches = kept := by
  intro c d kept os
  have hraw : ∀ o ∈ os, o.IsRaw := by
    intro o ho
    rcases List.mem_cons.1 ho with rfl | ho
    · trivial
    · rw [List.mem_singleton.1 ho]
      trivial
  have hpass := (raw_operations_pass_caches os hraw kept).2.1 d
  have hnew : (d.work os).1 = [.ok (.text (some "new")), .ok (.text none)] := by
    simp only [os, d, c]
    rfl
  exact ⟨hraw, rfl, hpass.1.trans hnew, hpass.2.2.2.2⟩

end Imds
