import Imds.Proofs.Blocking.Likeness
import Imds.Proofs.Conduct

/-!
# Two Ways of Waiting Agree

Clients come twice, for an executor that drives their plans and for threads that carry
them out. They were written down separately, so that nothing but a proof keeps them in step.

`Agrees` relates a site to a world. They have the same environment, flag and caches, the
same channels are closed, the same requests went out in the same order, and each handle
knows the same of its interface. What only one of them has is left out: the clock of a
site and the right to fetch a listing, the pauses that a thread slept through. The two
services answer alike if times are disregarded.

`Matches` relates a plan to a computation of a thread: wherever they start from agreement
they give the same result and end in agreement. Every query is answered alike on both
sides, so that a plan matches itself as a thread carries it out, and what a thread does
is the plan of a task already.

## Main definitions

* `Sent.posted`, `Record.memory`: The counterparts in a world.
* `Agrees`: A site and a world agree.
* `Plan.Matches`, `Act.Matches`: A plan or an act does what a thread does.
* `Desk.Agrees`: Two desks agree, handles included.

## Theorems

* `agrees_answer`: A query is answered alike.
* `matches_runIn`: A plan on the spot and the same plan on a thread.
* `matches_demand`, `matches_question`: Everything that is asked of a client or a handle.
* `agrees_perform`, `agrees_work`: One operation, and operations one after another.
* `waiting_makes_no_difference`: Programs that start alike cannot tell the two apart.
* `exists_agrees`: What holds at sites can be taken over to worlds.
-/

namespace Imds

open Blocking (Posted Memory World Direct)

/-- A request as a service without a clock sees it. -/
def Sent.posted (x : Sent) : Posted := ⟨x.channel, x.request⟩

/-- What a handle keeps of an interface of which a record is there. -/
def Record.memory (r : Record) : Memory := ⟨r.keys, r.remembered⟩

/-- A site and a world agree. -/
structure Agrees (s : Site) (w : World) : Prop where
  settings : w.settings = s.settings
  flag : w.flag = s.flag
  caches : w.caches = s.caches
  memories : ∀ i, w.memories i = (s.records i).memory
  handles : w.handles = s.attached
  isShut : w.isShut = s.isShut
  posted : w.posted = s.sent.map Sent.posted
  service : ∀ history, s.service history = w.service (history.map Sent.posted)

/-- For each world there is a site that agrees with it. -/
theorem exists_agrees (w : World) : ∃ s : Site, Agrees s w := by
  have hsent : (w.posted.map (fun p => (⟨p.channel, p.request, 0⟩ : Sent))).map Sent.posted =
      w.posted := by
    rw [List.map_map]
    exact List.map_id w.posted
  exact ⟨{
    settings := w.settings
    flag := w.flag
    caches := w.caches
    records := fun i => ⟨(w.memories i).keys, false, (w.memories i).values⟩
    attached := w.handles
    isShut := w.isShut
    now := 0
    sent := w.posted.map (fun p => ⟨p.channel, p.request, 0⟩)
    service := fun history => w.service (history.map Sent.posted) }, {
    settings := rfl
    flag := rfl
    caches := rfl
    memories := fun _ => rfl
    handles := rfl
    isShut := rfl
    posted := hsent.symm
    service := fun _ => rfl }⟩

/-- From agreement, a plan gives what a computation of a thread gives, and ends in
    agreement. -/
def Plan.Matches {α : Type} (p : Plan α) (m : StateM World α) : Prop :=
  ∀ s w, Agrees s w → (m w).1 = (p.run s).1 ∧ Agrees (p.run s).2 (m w).2

/-- The same for operations that can fail. -/
def Act.Matches {α : Type} (a : Act α) (m : Direct α) : Prop := Plan.Matches a.outcome m.run

/-! ### Queries -/

section Queries

variable {s : Site} {w : World}

theorem agrees_exchange (h : Agrees s w) (channel : Nat) (request : Request) :
    (World.post channel request w).1 = (s.exchange channel request).1 ∧
      Agrees (s.exchange channel request).2 (World.post channel request w).2 := by
  have hsame : w.isShut channel = s.isShut channel := congrFun h.isShut channel
  rw [World.post, Site.exchange]
  by_cases hshut : s.isShut channel = true
  · rw [if_pos hshut, if_pos (hsame.trans hshut)]
    exact ⟨rfl, h⟩
  · rw [if_neg hshut, if_neg (fun hw => hshut (hsame.symm.trans hw))]
    have hposted : ⟨channel, request⟩ :: w.posted =
        List.map Sent.posted (⟨channel, request, s.now⟩ :: s.sent) := by
      rw [h.posted]
      rfl
    exact ⟨by simp only [h.service, hposted], { h with posted := hposted }⟩

-- Two families of records that correspond still do after one change on each side.
theorem memories_updateAt (h : Agrees s w) {r : Record} {m : Memory}
    (hr : m = r.memory) (j i : Nat) :
    updateAt w.memories j m i = (updateAt s.records j r i).memory := by
  by_cases hi : i = j
  · rw [hi, updateAt_self, updateAt_self, hr]
  · rw [updateAt_of_ne _ _ hi, updateAt_of_ne _ _ hi, h.memories]

theorem Agrees.setMemory (h : Agrees s w) {r : Record} {m : Memory} (hr : m = r.memory)
    (i : Nat) : Agrees (s.setRecord i r) (w.setMemory i m) :=
  { h with memories := memories_updateAt h hr i }

theorem Agrees.setCache (h : Agrees s w) (cache : Nat) (t : Table String String) :
    Agrees (s.setCache cache t) (w.setCache cache t) :=
  { h with caches := congrArg (fun caches => updateAt caches cache t) h.caches }

-- Who has the right to fetch a listing is nothing that a handle keeps.
theorem Agrees.setRecord (h : Agrees s w) {i : Nat} {r : Record}
    (hr : r.memory = (s.records i).memory) : Agrees (s.setRecord i r) w := by
  have hset := h.setMemory hr.symm i
  rw [← h.memories, World.setMemory, updateAt_eq_self rfl] at hset
  exact hset

/-- A site and a world that agree answer a query alike, and agree afterwards. -/
theorem agrees_answer (h : Agrees s w) (query : Query) :
    (World.answer query w).1 = (query.answer s).1 ∧
      Agrees (query.answer s).2 (World.answer query w).2 := by
  cases query with
  | setting name =>
      refine ⟨?_, h⟩
      change (w.settings.get? name).bind Variable.text? = _
      rw [h.settings]
      rfl
  | flag => exact ⟨h.flag, h⟩
  | lookup cache path =>
      refine ⟨?_, h⟩
      change (w.caches cache).get? path = _
      rw [h.caches]
      rfl
  | store cache path value =>
      have hafter := h.setCache cache ((s.caches cache).insert path value)
      rw [← h.caches] at hafter
      refine ⟨rfl, ?_⟩
      change Agrees (s.setCache cache ((s.caches cache).insert path value)) _
      rw [← h.caches]
      exact hafter
  | clear cache => exact ⟨rfl, h.setCache cache Table.empty⟩
  | send channel request => exact agrees_exchange h channel request
  | shut channel =>
      exact ⟨rfl, { h with isShut := congrArg (fun f => updateAt f channel true) h.isShut }⟩
  | pause length =>
      rcases Plan.answer_pause_eq length s with ⟨time, hpause⟩
      rw [hpause]
      exact ⟨rfl, { h with }⟩
  | attach =>
      refine ⟨h.handles, { h with
        memories := fun i => ?_
        handles := congrArg (· + 1) h.handles }⟩
      change updateAt w.memories w.handles Memory.fresh i =
        (updateAt s.records s.attached Record.fresh i).memory
      rw [h.handles]
      exact memories_updateAt (r := Record.fresh) h rfl s.attached i
  | enter record =>
      refine ⟨congrArg Memory.keys (h.memories record), ?_⟩
      change Agrees (if (s.records record).keys.isSome then s else _) w
      split
      · exact h
      · exact h.setRecord rfl
  | leave record keys =>
      cases keys with
      | none => exact ⟨rfl, h.setRecord rfl⟩
      | some keys =>
          refine ⟨rfl, h.setMemory ?_ record⟩
          rw [h.memories]
          rfl
  | recollect record key =>
      exact ⟨congrArg (fun m => m.values.get? key) (h.memories record), h⟩
  | remember record key value =>
      refine ⟨rfl, h.setMemory ?_ record⟩
      rw [h.memories]
      rfl

end Queries

/-! ### Plans -/

section Plans

variable {α : Type}

/-- A plan that is carried out on the spot and by a thread gives the same. -/
theorem matches_runIn (p : Plan α) : p.Matches p.runIn := by
  intro s w h
  induction p generalizing s w with
  | done value => exact ⟨rfl, h⟩
  | ask query next ih =>
      rcases agrees_answer h query with ⟨hanswer, hafter⟩
      rw [Plan.runIn_ask, Plan.run_ask, hanswer]
      exact ih _ _ _ hafter

/-- What a thread does matches what a task does if it is the same. -/
theorem matches_of_eq {a : Act α} {m : Direct α} (h : m = a) : a.Matches m := by
  rw [h]
  exact matches_runIn a.outcome

end Plans

/-- Everything that is asked of a client. -/
theorem matches_demand (c : Client) (D : Demand) : (D.act c).Matches (Blocking.demand c D) :=
  matches_of_eq (Blocking.demand_eq c D)

/-- Everything that is asked of a handle. -/
theorem matches_question (n : Nic) (q : Question) :
    (q.act n).Matches (Blocking.question n.blocking q) :=
  matches_of_eq (Blocking.question_eq n q)

theorem matches_interfaces (c : Client) :
    Act.Matches (List.map Nic.blocking <$> c.interfaces) (Blocking.interfaces c) :=
  matches_of_eq (Blocking.interfaces_eq c)

theorem matches_ofMac (c : Client) (mac : String) :
    Plan.Matches (Nic.blocking <$> Nic.ofMac c mac) (Blocking.Nic.ofMac c mac).runIn :=
  matches_runIn _

/-! ### Handles on interfaces -/

theorem availableKeys_of_known {n : Nic} {s : Site} {keys : List String}
    (h : (s.records n.record).keys = some keys) : n.availableKeys.run s = (.ok keys, s) := by
  have henter : (Query.enter n.record).answer s = (some keys, s) := by
    simp only [Query.answer, h, Option.isSome_some, if_true]
  change Plan.run (Plan.ask (.enter n.record) _) s = _
  rw [Plan.run_ask, henter]
  rfl

theorem availableKeys_of_unknown {n : Nic} {s s' : Site}
    {result : Except Failure (Option (List String))}
    (h : (s.records n.record).keys = none)
    (hfetch : (n.client.fetchLines n.path).run
      (s.setRecord n.record { s.records n.record with busy := true }) = (result, s')) :
    n.availableKeys.run s = (result.map (fun lines => lines.getD []),
      ((Query.leave n.record (result.toOption.map (fun lines => lines.getD []))).answer s').2) := by
  have henter : (Query.enter n.record).answer s =
      (none, s.setRecord n.record { s.records n.record with busy := true }) := by
    exact Prod.ext h (if_neg (by rw [h]; exact Bool.false_ne_true))
  change Plan.run (Plan.ask (.enter n.record) _) s = _
  rw [Plan.run_ask, henter]
  change Plan.run (((n.client.fetchLines n.path).outcome >>= fun r => Plan.done (Except.ok r)) >>=
    ExceptT.bindCont _) _ = _
  rw [Plan.run_bind, Plan.run_bind]
  simp only [Plan.run_done]
  rw [show Plan.run (n.client.fetchLines n.path).outcome _ = (result, s') from hfetch]
  cases result with
  | ok lines => rfl
  | error failure => rfl

-- A thread goes on with what a plan gave, in the world that it left.
theorem run_lift_bind {α β : Type} (p : Plan α) (f : α → Direct β) (w : World) :
    Direct.run (liftM p >>= f) w = (f (p.runIn w).1).run (p.runIn w).2 := by
  change Plan.runIn ((p >>= fun a => Plan.done (Except.ok a)) >>= ExceptT.bindCont f) w = _
  rw [Plan.runIn_bind, Plan.runIn_bind]
  rfl

theorem run_direct_bind {α β : Type} (a : Direct α) (f : α → Direct β) (w : World) :
    Direct.run (a >>= f) w = Plan.runIn (ExceptT.bindCont f (a.run w).1) (a.run w).2 :=
  Plan.runIn_bind a.outcome (ExceptT.bindCont f) w

theorem blocking_run_map {α β : Type} {w : World} (m : Direct α) (k : α → β) :
    Direct.run (k <$> m) w = ((m.run w).1.map k, (m.run w).2) := by
  rw [map_eq_pure_bind, run_direct_bind]
  rcases m.run w with ⟨result, after⟩
  cases result <;> rfl

theorem blocking_availableKeys_of_known {n : Blocking.Nic} {w : World} {keys : List String}
    (h : (w.memories n.handle).keys = some keys) : n.availableKeys.run w = (.ok keys, w) := by
  have henter : (Plan.enter n.handle).runIn w = (some keys, w) := Prod.ext h rfl
  rw [Blocking.Nic.availableKeys, run_lift_bind, henter]
  rfl

theorem run_whileLocked (handle : Nat) (a : Direct (List String)) (w : World) :
    (Blocking.whileLocked handle a).run w = ((a.run w).1,
      (World.answer (.leave handle (a.run w).1.toOption) (a.run w).2).2) :=
  Plan.runIn_bind a.outcome _ w

theorem blocking_availableKeys_of_unknown {n : Blocking.Nic} {w : World}
    (h : (w.memories n.handle).keys = none) :
    n.availableKeys.run w = match (Blocking.fetchLines n.client n.path).run w with
      | (.ok lines, after) =>
        (.ok (lines.getD []), (World.setKeys n.handle (lines.getD []) after).2)
      | (.error failure, after) => (.error failure, after) := by
  have henter : (Plan.enter n.handle).runIn w = (none, w) := Prod.ext h rfl
  rw [Blocking.Nic.availableKeys, run_lift_bind, henter]
  change (Blocking.whileLocked n.handle _).run w = _
  rw [run_whileLocked, run_direct_bind]
  rcases (Blocking.fetchLines n.client n.path).run w with ⟨result, after⟩
  cases result with
  | ok lines => rfl
  | error failure => rfl

/-! ### Operations -/

/-- Two desks agree: where they are, and on their handles. -/
structure Desk.Agrees (d : Desk) (b : Blocking.Desk) : Prop where
  world : Imds.Agrees d.site b.world
  nics : b.nics = d.nics.map Nic.blocking

/-- At a desk an act does what it does where it is carried out on the spot. -/
theorem Desk.drive_eq_run {α : Type} (d : Desk) (a : Act α) :
    d.drive a = ((a.run d.site).1, { d with site := (a.run d.site).2 }) := by
  rw [Desk.drive, Act.drive, Plan.drive_eq_run]
  rfl

theorem perform_question {d : Desk} {index : Nat} {n : Nic} (hn : d.nics[index]? = some n)
    (q : Question) : d.perform (.question index q) =
      (((q.act n).run d.site).1, { d with site := ((q.act n).run d.site).2 }) := by
  rw [Desk.perform, hn]
  exact d.drive_eq_run (q.act n)

-- An act is driven at a desk as it is carried out by a thread at another.
theorem agrees_drive {α : Type} {d : Desk} {b : Blocking.Desk} (h : d.Agrees b) {a : Act α}
    {m : Direct α} (hm : a.Matches m) :
    (b.call m).1 = (d.drive a).1 ∧ (d.drive a).2.Agrees (b.call m).2 := by
  rcases hm d.site b.world h.world with ⟨hresult, hafter⟩
  rw [Desk.drive_eq_run]
  exact ⟨hresult, hafter, h.nics⟩

theorem drive_map {α β : Type} (d : Desk) (f : α → β) (a : Act α) :
    d.drive (f <$> a) = ((d.drive a).1.map f, (d.drive a).2) := by
  have hmap : (f <$> a).outcome = Except.map f <$> a.outcome := ExceptT.run_map f a
  simp only [Desk.drive, Act.drive, Plan.drive_eq_run]
  rw [hmap, map_eq_pure_bind, Plan.run_bind]
  rfl

theorem agrees_add {d : Desk} {b : Blocking.Desk} (h : d.Agrees b) (nics : List Nic) :
    (d.add nics).Agrees (b.add (nics.map Nic.blocking)) := by
  refine ⟨h.world, ?_⟩
  change b.nics ++ nics.map Nic.blocking = (d.nics ++ nics).map Nic.blocking
  rw [h.nics, List.map_append]

/-- One operation gives the same on both sides and leaves agreement. -/
theorem agrees_perform {d : Desk} {b : Blocking.Desk} (h : d.Agrees b) (o : Operation) :
    (b.perform o).1 = (d.perform o).1 ∧ (d.perform o).2.Agrees (b.perform o).2 := by
  cases o with
  | demand c demand => exact agrees_drive h (matches_demand c demand)
  | interfaces c =>
      have hmade := agrees_drive h (matches_interfaces c)
      rw [drive_map] at hmade
      rw [Desk.perform, Blocking.Desk.perform]
      rcases hdrive : d.drive c.interfaces with ⟨result, after⟩
      rcases hcall : b.call (Blocking.interfaces c) with ⟨result', after'⟩
      rw [hdrive, hcall] at hmade
      rcases hmade with ⟨hresult, hafter⟩
      have hresult : result' = result.map (List.map Nic.blocking) := hresult
      subst hresult
      cases result with
      | error failure => exact ⟨rfl, hafter⟩
      | ok nics =>
          refine ⟨?_, agrees_add hafter nics⟩
          change Except.ok (Report.list ((nics.map Nic.blocking).map Blocking.Nic.mac)) = _
          rw [List.map_map]
          rfl
  | interface c mac =>
      rcases matches_ofMac c mac d.site b.world h.world with ⟨hmade, hafter⟩
      rw [map_eq_pure_bind, Plan.run_bind] at hmade hafter
      rw [Desk.perform, Blocking.Desk.perform, hmade, Plan.drive_eq_run]
      have hdesk : Desk.Agrees ⟨((Nic.ofMac c mac).run d.site).2, d.nics⟩
          ⟨((Blocking.Nic.ofMac c mac).runIn b.world).2, b.nics⟩ := ⟨hafter, h.nics⟩
      exact ⟨rfl, agrees_add hdesk [((Nic.ofMac c mac).run d.site).1]⟩
  | question index q =>
      rw [Desk.perform, Blocking.Desk.perform, h.nics, List.getElem?_map]
      cases d.nics[index]? with
      | none => exact ⟨rfl, h⟩
      | some n => exact agrees_drive h (matches_question n q)
  | setFlag flag => exact ⟨rfl, { h.world with flag := rfl }, h.nics⟩
  | setVariable name value =>
      refine ⟨rfl, { h.world with settings := ?_ }, h.nics⟩
      cases value with
      | some v => exact congrArg (fun settings => settings.insert name v) h.world.settings
      | none => exact congrArg (fun settings => settings.erase name) h.world.settings

/-- So do operations one after another. -/
theorem agrees_work {d : Desk} {b : Blocking.Desk} (h : d.Agrees b) (os : List Operation) :
    (b.work os).1 = (d.work os).1 ∧ (d.work os).2.Agrees (b.work os).2 := by
  induction os generalizing d b with
  | nil => exact ⟨rfl, h⟩
  | cons o os ih =>
      rcases agrees_perform h o with ⟨hresult, hafter⟩
      rcases ih hafter with ⟨hresults, hlast⟩
      refine ⟨?_, hlast⟩
      simp only [Desk.work, Blocking.Desk.work, hresult, hresults]

section Programs

variable (service : List Posted → Except Fault String) (settings : Table String Variable)
variable (flag : Bool) (caches : Nat → Table String String)

/-- A desk where nothing was done yet. The service has no clock to go by. -/
def Desk.initial : Desk where
  site := { Site.fresh (fun history => service (history.map Sent.posted)) with
    settings := settings, flag := flag, caches := caches }
  nics := []

/-- The desk of a thread that has not done anything yet. -/
def Blocking.Desk.initial : Blocking.Desk where
  world := { World.fresh service with settings := settings, flag := flag, caches := caches }
  nics := []

theorem agrees_initial : (Desk.initial service settings flag caches).Agrees
    (Blocking.Desk.initial service settings flag caches) where
  world := {
    settings := rfl
    flag := rfl
    caches := rfl
    memories := fun _ => rfl
    handles := rfl
    isShut := rfl
    posted := rfl
    service := fun _ => rfl }
  nics := rfl

/-- A program that has an executor wait and one that waits on its own thread start with the
    same environment, flag and caches, and the same service. Whatever they do, they get the
    same results, send the same requests in the same order, keep the same values in the
    caches, and have handles that know the same of their interfaces. Operations that were
    done form a row of operations as well, so this holds after each of them. -/
theorem waiting_makes_no_difference (os : List Operation) :
    let suspended := (Desk.initial service settings flag caches).work os
    let waiting := (Blocking.Desk.initial service settings flag caches).work os
    waiting.1 = suspended.1 ∧
      waiting.2.world.posted = suspended.2.site.sent.map Sent.posted ∧
      waiting.2.world.caches = suspended.2.site.caches ∧
      waiting.2.nics = suspended.2.nics.map Nic.blocking ∧
      ∀ n ∈ suspended.2.nics, waiting.2.world.memories n.blocking.handle =
        (suspended.2.site.records n.record).memory := by
  intro suspended waiting
  rcases agrees_work (agrees_initial service settings flag caches) os with ⟨hresults, hlast⟩
  exact ⟨hresults, hlast.world.posted, hlast.world.caches, hlast.nics,
    fun n _ => hlast.world.memories n.record⟩

end Programs

end Imds
