import Imds.Proofs.Switch.Client

/-!
# The Switch and Handles on Interfaces

A handle looks at nothing but what it keeps before it has its client fetch, and the switch
is looked at by the fetch. So the switch is heard of only where something has to be fetched.
What a handle keeps it gives away with the switch on: the keys once they are listed, the
attributes that it remembers, and that an attribute which is not listed has no value.

What is needed of the fetch is only that it is refused and changes nothing, `Refuses`, so
that the same is known for whatever else refuses every fetch. `holds` is then all there is
to say: it is read off what the handle keeps, without a word about how that came to be
there, and it decides between an answer and the failure.

## Main definitions

* `Memory.value?`, `Memory.lines?`, `Memory.holds`: What a handle answers by itself.
* `Client.Refuses`, `Blocking.Refuses`: No fetch of a client comes to anything.
* `Memory.lists`: Whether a question has the keys listed first.
* `Site.claim`: A site where a listing is being fetched, or is not.
* `Site.released`: A site after a question that nothing was fetched for.

## Theorems

* `question_of_refused`, `blocking_question_of_refused`: Held answers, or the failure.
* `refuses_of_stops`: A switch that is on refuses every fetch.
* `handle_answers_what_it_holds`: Handles at a switch that is on.
* `kept_attribute_passes_the_switch`: A handle that answers there.
-/

namespace Imds

open Blocking (World Direct Memory)

/-! ### What a handle keeps -/

namespace Blocking.Memory

/-- What stands for a key that is not among those that are listed. -/
def unlisted {α : Type} (m : Memory) (key : String) (missing : α) : Option α :=
  match m.keys with
  | some keys => if key ∈ keys then none else some missing
  | none => none

/-- The value of a key, if it is known without a fetch: it is remembered, or the key is not
    listed. -/
def value? (m : Memory) (key : String) : Option (Option String) :=
  match m.values.get? key with
  | some value => some value
  | none => m.unlisted key none

theorem value?_eq_some {m : Memory} {key : String} {value : Option String} :
    m.value? key = some value ↔ m.values.get? key = some value ∨
      (m.values.get? key = none ∧ value = none ∧ ∃ keys, m.keys = some keys ∧ key ∉ keys) := by
  rw [value?]
  cases m.values.get? key with
  | some known => simp
  | none =>
      cases hkeys : m.keys with
      | none => simp [unlisted, hkeys]
      | some keys =>
          by_cases hkey : key ∈ keys
          · simp [unlisted, hkeys, hkey]
          · simp [unlisted, hkeys, hkey, eq_comm]

theorem value?_ne_none {m : Memory} {key : String} : m.value? key ≠ none ↔
    m.values.get? key ≠ none ∨ ∃ keys, m.keys = some keys ∧ key ∉ keys := by
  rw [value?]
  cases m.values.get? key with
  | some value => simp
  | none =>
      cases hkeys : m.keys with
      | none => simp [unlisted, hkeys]
      | some keys =>
          by_cases hkey : key ∈ keys
          · simp [unlisted, hkeys, hkey]
          · simp [unlisted, hkeys, hkey]

/-- The lines of a key, if they are known without a fetch. Lines are not remembered. -/
def lines? (m : Memory) (key : String) : Option (List String) := m.unlisted key []

/-- What a handle on the interface of a hardware address answers by itself. -/
def holds (m : Memory) (mac : String) : Question → Option Report
  | .mac => some (.text (some mac))
  | .keys => m.keys.map .list
  | .value key => (m.value? key).map .text
  | .lines key => (m.lines? key).map .list
  | .scalar v => (m.value? v.key).map .text
  | .listing l => (m.lines? l.key).map .list
  | .associations _ => none

/-- Whether a question to a handle that keeps this much has the keys listed first. -/
def lists (m : Memory) : Question → Bool
  | .mac => false
  | .keys => m.keys.isNone
  | .value key => (m.values.get? key).isNone && m.keys.isNone
  | .lines _ => m.keys.isNone
  | .scalar v => (m.values.get? v.key).isNone && m.keys.isNone
  | .listing _ => m.keys.isNone
  | .associations _ => false

/-- A handle that was not asked for anything yet has only its hardware address. -/
theorem holds_fresh {q : Question} (mac : String) (h : q ≠ .mac) : fresh.holds mac q = none := by
  cases q with
  | mac => exact absurd rfl h
  | _ => rfl

end Blocking.Memory

/-- What is held if something is, and a failure otherwise. -/
def heldOr {α : Type} (f : Failure) : Option α → Except Failure α
  | some value => .ok value
  | none => .error f

theorem heldOr_map {α β : Type} (f : Failure) (k : α → β) (held : Option α) :
    (heldOr f held).map k = heldOr f (held.map k) := by
  cases held <;> rfl

/-- Somebody is fetching the listing of a record, or nobody is. -/
def Site.claim (s : Site) (record : Nat) (busy : Bool) : Site :=
  s.setRecord record { s.records record with busy := busy }

/-- A site after a question that nothing was fetched for: a listing that was to be fetched is not
    being fetched any more. -/
def Site.released (s : Site) (record : Nat) (q : Question) : Site :=
  if (s.records record).memory.lists q then s.claim record false else s

/-! ### Where nothing can be fetched -/

/-- At a site every fetch of a client comes to the same failure, and changes nothing. -/
def Client.Refuses (c : Client) (f : Failure) (s : Site) : Prop :=
  ∀ path whole, (c.fetchItems path c.attempts whole).run s = (.error f, s)

/-- The same in a world. -/
def Blocking.Refuses (c : Client) (f : Failure) (w : World) : Prop :=
  ∀ path whole,
    (Blocking.fetchItems c path c.settings.backoff.attempts whole).run w = (.error f, w)

section Refusal

variable {α β : Type} {f : Failure}

theorem run_bind_error {a : Act α} {k : α → Act β} {s s' : Site} (h : a.run s = (.error f, s')) :
    (a >>= k).run s = (.error f, s') := by
  change Plan.run (a.outcome >>= ExceptT.bindCont k) s = _
  rw [Plan.run_bind, show Plan.run a.outcome s = _ from h]
  rfl

theorem run_bind_ok {a : Act α} {k : α → Act β} {s s' : Site} {value : α}
    (h : a.run s = (.ok value, s')) : (a >>= k).run s = (k value).run s' := by
  change Plan.run (a.outcome >>= ExceptT.bindCont k) s = _
  rw [Plan.run_bind, show Plan.run a.outcome s = _ from h]
  rfl

theorem run_map (a : Act α) (k : α → β) (s : Site) :
    (k <$> a).run s = ((a.run s).1.map k, (a.run s).2) := by
  rw [map_eq_pure_bind]
  rcases h : a.run s with ⟨result, s'⟩
  cases result with
  | ok value => exact run_bind_ok h
  | error failure => exact run_bind_error h

variable {n : Nic} {s : Site}

/-- Nothing is fetched for a handle: at the site, nor where it has the right to the listing. -/
def Nic.IsRefused (n : Nic) (f : Failure) (s : Site) : Prop :=
  n.client.Refuses f s ∧ n.client.Refuses f (s.claim n.record true)

-- What was to be listed stays unlisted, and the right to fetch it goes back.
theorem availableKeys_of_refused (h : n.IsRefused f s) :
    n.availableKeys.run s = (heldOr f (s.records n.record).keys, s.released n.record .keys) := by
  cases hkeys : (s.records n.record).keys with
  | some keys =>
      have hlists : (s.records n.record).memory.lists .keys = false :=
        congrArg Option.isNone hkeys
      rw [availableKeys_of_known hkeys, Site.released, hlists]
      rfl
  | none =>
      have hlists : (s.records n.record).memory.lists .keys = true := congrArg Option.isNone hkeys
      rw [availableKeys_of_unknown hkeys (h.2 n.path false), Site.released, hlists]
      change (_, (s.claim n.record true).setRecord n.record _) = _
      simp only [Site.claim, Site.setRecord, updateAt_self, updateAt_idem, Except.toOption,
        Option.map_none]
      rfl

-- A key that is not listed is answered for, and one that is listed has to be fetched.
theorem gated_of_refused (h : n.IsRefused f s) (key : String) {a : Act α} {missing : α}
    (ha : a.run s = (.error f, s)) :
    (n.availableKeys >>= fun keys => if key ∈ keys then a else pure missing).run s =
      (heldOr f ((s.records n.record).memory.unlisted key missing), s.released n.record .keys) := by
  have hrun := availableKeys_of_refused h
  rw [Memory.unlisted, Record.memory]
  cases hkeys : (s.records n.record).keys with
  | none =>
      rw [hkeys] at hrun
      exact run_bind_error hrun
  | some keys =>
      have hsame : s.released n.record .keys = s :=
        if_neg (by rw [Memory.lists, Record.memory, hkeys]; exact Bool.false_ne_true)
      rw [hkeys, hsame] at hrun
      rw [run_bind_ok hrun, hsame]
      by_cases hlisted : key ∈ keys
      · simp only [if_pos hlisted]
        exact ha
      · simp only [if_neg hlisted]
        rfl

theorem value_of_refused (h : n.IsRefused f s) (key : String) : (n.value key).run s =
    (heldOr f ((s.records n.record).memory.value? key), s.released n.record (.value key)) := by
  have hrecollect : (liftM (Plan.recollect n.record key) : Act (Option (Option String))).run s =
      (.ok ((s.records n.record).memory.values.get? key), s) := rfl
  rw [Nic.value, run_bind_ok hrecollect, Memory.value?, Site.released, Memory.lists]
  cases (s.records n.record).memory.values.get? key with
  | some value => rfl
  | none =>
      exact gated_of_refused h key (run_bind_error (run_bind_error (h.1 (n.path ++ key) true)))

theorem lines_of_refused (h : n.IsRefused f s) (key : String) : (n.lines key).run s =
    (heldOr f ((s.records n.record).memory.lines? key), s.released n.record .keys) :=
  gated_of_refused h key (run_bind_error (h.1 (n.path ++ key) false))

/-- Where nothing can be fetched, a handle answers what it holds, and comes to the failure
    of the fetch for everything else. It keeps what it kept. -/
theorem question_of_refused (h : n.IsRefused f s) (q : Question) : (q.act n).run s =
    (heldOr f ((s.records n.record).memory.holds n.mac q), s.released n.record q) := by
  have hmap : ∀ {α : Type} {a : Act α} {held : Option α} {s' : Site} (k : α → Report),
      a.run s = (heldOr f held, s') → (k <$> a).run s = (heldOr f (held.map k), s') := by
    intro α a held s' k hrun
    rw [run_map, hrun, heldOr_map]
  cases q with
  | mac => rfl
  | keys => exact hmap .list (availableKeys_of_refused h)
  | value key => exact hmap .text (value_of_refused h key)
  | lines key => exact hmap .list (lines_of_refused h key)
  | scalar v => exact hmap .text (value_of_refused h v.key)
  | listing l => exact hmap .list (lines_of_refused h l.key)
  | associations address =>
      have hrun : (n.associations address).run s = (heldOr f none, s) :=
        run_bind_error (h.1 (n.associationPath address) false)
      exact hmap .list hrun

end Refusal

/-! ### The same on the calling thread -/

section BlockingRefusal

variable {α β : Type} {f : Failure} {n : Blocking.Nic} {w : World}

theorem blocking_run_bind_error {m : Direct α} {k : α → Direct β} (h : m.run w = (.error f, w)) :
    (m >>= k).run w = (.error f, w) := by
  rw [run_direct_bind, h]
  rfl

theorem blocking_availableKeys_of_refused (h : Blocking.Refuses n.client f w) :
    n.availableKeys.run w = (heldOr f (w.memories n.handle).keys, w) := by
  cases hkeys : (w.memories n.handle).keys with
  | some keys => exact blocking_availableKeys_of_known hkeys
  | none =>
      rw [blocking_availableKeys_of_unknown hkeys, Blocking.fetchLines, h]
      rfl

theorem blocking_gated_of_refused (h : Blocking.Refuses n.client f w) (key : String)
    {m : Direct α} {missing : α} (hm : m.run w = (.error f, w)) :
    (n.hasKey key >>= fun listed => if (!listed) = true then pure missing else m).run w =
      (heldOr f ((w.memories n.handle).unlisted key missing), w) := by
  rw [Blocking.Nic.hasKey, bind_assoc, run_direct_bind, blocking_availableKeys_of_refused h,
    Memory.unlisted]
  cases hkeys : (w.memories n.handle).keys with
  | none => rfl
  | some keys =>
      change ((pure (keys.any (fun k => k == key)) : Direct Bool) >>= _).run w = _
      rw [pure_bind, List.any_beq', List.contains_eq_mem]
      by_cases hlisted : key ∈ keys
      · simp only [hlisted, decide_true, Bool.not_true, Bool.false_eq_true, if_false, if_true]
        exact hm
      · simp only [hlisted, decide_false, Bool.not_false, if_true, if_false]
        rfl

theorem blocking_value_of_refused (h : Blocking.Refuses n.client f w) (key : String) :
    (n.value key).run w = (heldOr f ((w.memories n.handle).value? key), w) := by
  have hrecollect : (Plan.recollect n.handle key).runIn w =
      ((w.memories n.handle).values.get? key, w) := rfl
  rw [Blocking.Nic.value, run_lift_bind, hrecollect, Memory.value?]
  cases (w.memories n.handle).values.get? key with
  | some value => rfl
  | none =>
      exact blocking_gated_of_refused h key
        (blocking_run_bind_error (blocking_run_bind_error (h (n.path ++ key) true)))

theorem blocking_lines_of_refused (h : Blocking.Refuses n.client f w) (key : String) :
    (n.lines key).run w = (heldOr f ((w.memories n.handle).lines? key), w) :=
  blocking_gated_of_refused h key (blocking_run_bind_error (h (n.path ++ key) false))

/-- So does a handle of a thread, and the world is what it was. -/
theorem blocking_question_of_refused (h : Blocking.Refuses n.client f w) (q : Question) :
    (Blocking.question n q).run w =
      (heldOr f ((w.memories n.handle).holds n.mac q), w) := by
  have hmap : ∀ {α : Type} {m : Direct α} {held : Option α} (k : α → Report),
      m.run w = (heldOr f held, w) → (k <$> m).run w = (heldOr f (held.map k), w) := by
    intro α m held k hrun
    rw [blocking_run_map, hrun, heldOr_map]
  cases q with
  | mac => rfl
  | keys => exact hmap .list (blocking_availableKeys_of_refused h)
  | value key => exact hmap .text (blocking_value_of_refused h key)
  | lines key => exact hmap .list (blocking_lines_of_refused h key)
  | scalar v => cases v <;> exact hmap .text (blocking_value_of_refused h _)
  | listing l => cases l <;> exact hmap .list (blocking_lines_of_refused h _)
  | associations address =>
      have hrun : (n.associations address).run w = (heldOr f none, w) :=
        blocking_run_bind_error (h _ false)
      exact hmap .list hrun

end BlockingRefusal

/-! ### Handles at a switch -/

theorem refuses_of_stops {c : Client} {f : Failure} {s : Site}
    (h : c.settings.gate.Stops (c.settings.gate.seen s.settings s.flag) f) : c.Refuses f s :=
  fun path whole => (gated_fetchItems path c.attempts whole).run_of_stops h

-- The switch does not ask who is fetching a listing.
theorem isRefused_of_stops {n : Nic} {f : Failure} {s : Site}
    (h : n.client.settings.gate.Stops (n.client.settings.gate.seen s.settings s.flag) f) :
    n.IsRefused f s :=
  ⟨refuses_of_stops h, refuses_of_stops (s := s.claim n.record true) h⟩

theorem blocking_refuses_of_stops {c : Client} {f : Failure} {w : World}
    (h : c.settings.gate.Stops (c.settings.gate.seen w.settings w.flag) f) :
    Blocking.Refuses c f w :=
  fun path whole => (blocking_gated_fetchItems path _ whole).run_of_stops h

/-- With the switch on, whatever a handle was asked before: a question that it holds an answer
    to is answered, and every other question comes to the failure of the switch, which it does
    for no other reason. Nothing is requested, and everything that is kept stays as it was; only
    the right to a listing that was to be fetched is given back. A handle that has not been
    asked for anything holds no answer but its hardware address. -/
theorem handle_answers_what_it_holds (q : Question) (f : Failure) :
    (∀ (n : Nic) (s : Site),
      n.client.settings.gate.Stops (n.client.settings.gate.seen s.settings s.flag) f →
        (q.act n).drive s =
          (heldOr f ((s.records n.record).memory.holds n.mac q), s.released n.record q)) ∧
    (∀ (n : Blocking.Nic) (w : World),
      n.client.settings.gate.Stops (n.client.settings.gate.seen w.settings w.flag) f →
        (Blocking.question n q).run w =
          (heldOr f ((w.memories n.handle).holds n.mac q), w)) ∧
    (∀ held : Option Report, heldOr f held = .error f ↔ held = none) ∧
    ∀ mac, q ≠ .mac → Memory.fresh.holds mac q = none := by
  refine ⟨?_, ?_, fun held => ?_, fun mac h => Memory.holds_fresh mac h⟩
  · intro n s hstops
    rw [Act.drive, Plan.drive_eq_run]
    exact question_of_refused (isRefused_of_stops hstops) q
  · intro n w hstops
    exact blocking_question_of_refused (blocking_refuses_of_stops hstops) q
  · cases held with
    | some report => exact ⟨(fun h => by cases h), (fun h => by cases h)⟩
    | none => exact ⟨fun _ => rfl, fun _ => rfl⟩

-- The flag is thrown after an attribute was read. The client has nothing to say any more,
-- and the handle gives the attribute away, and the keys, and that another key has no value.
theorem kept_attribute_passes_the_switch :
    let c : Client := ⟨⟨.fixed "http://host", .flag, ⟨1, Duration.zero⟩, 21600, 0⟩, 0⟩
    let service : List Blocking.Posted → Except Fault String := fun posted =>
      match posted.head?.map (fun p => p.request.url) with
      | some "http://host/latest/meta-data/network/interfaces/macs/m/" => .ok "k"
      | _ => .ok "v"
    let d := Desk.initial service Table.empty false (fun _ => Table.empty)
    let used := (d.work [.interface c "m", .question 0 (.value "k"), .setFlag true]).2
    used.site.flag = true ∧
      (used.perform (.demand c (.value "/latest/meta-data/ami-id"))).1 = .error .disabled ∧
      (used.perform (.question 0 (.value "k"))).1 = .ok (.text (some "v")) ∧
      (used.perform (.question 0 .keys)).1 = .ok (.list ["k"]) ∧
      (used.perform (.question 0 (.value "other"))).1 = .ok (.text none) ∧
      (used.perform (.question 0 (.lines "other"))).1 = .ok (.list []) := by
  intro c service d used
  let n : Nic := ⟨c, "m", 0⟩
  have hnics : used.nics = [n] := by
    simp only [used, Desk.work, Desk.perform, Desk.drive, Act.drive, Plan.drive_eq_run]
    rfl
  have hsite : used.site.flag = true ∧ (used.site.records 0).keys = some ["k"] ∧
      (used.site.records 0).remembered.get? "k" = some (some "v") ∧
      (used.site.records 0).remembered.get? "other" = none := by
    simp only [used, Desk.work, Desk.perform, Desk.drive, Act.drive, Plan.drive_eq_run]
    decide +kernel
  rcases hsite with ⟨hflag, hkeys, hkept, hother⟩
  have hstops : c.settings.gate.Stops
      (c.settings.gate.seen used.site.settings used.site.flag) .disabled := by
    rw [hflag]
    exact .thrown
  have hquestion : ∀ q, (used.perform (.question 0 q)).1 =
      heldOr .disabled ((used.site.records 0).memory.holds "m" q) := by
    intro q
    rw [perform_question (n := n) (by rw [hnics]; rfl)]
    exact congrArg Prod.fst (question_of_refused (n := n) (isRefused_of_stops hstops) q)
  have hheld : ∀ {q : Question} {report : Report},
      (used.site.records 0).memory.holds "m" q = some report →
        (used.perform (.question 0 q)).1 = .ok report := by
    intro q report hreport
    rw [hquestion, hreport]
    rfl
  have hlisted : (used.site.records 0).memory.keys = some ["k"] := hkeys
  refine ⟨hflag, ?_, hheld ?_, hheld ?_, hheld ?_, hheld ?_⟩
  · rw [perform_of_stops hstops (.demand c (.value _) rfl trivial)]
  · rw [Memory.holds, Memory.value?, show (used.site.records 0).memory.values.get? _ = _ from hkept]
    rfl
  · rw [Memory.holds, hlisted]
    rfl
  · rw [Memory.holds, Memory.value?,
      show (used.site.records 0).memory.values.get? _ = _ from hother, Memory.unlisted, hlisted]
    rfl
  · rw [Memory.holds, Memory.lines?, Memory.unlisted, hlisted]
    rfl

end Imds
