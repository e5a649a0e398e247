import Imds.Plan
import Imds.Table
import Imds.Update
import Imds.Variable

/-!
# Sites

A site is where plans are carried out: the variables of the process, the caches
that clients share, the records of network interfaces, the channels and whether
they are open, a clock, and a service that answers.

The service is any function of the history of requests. That covers a service
that answers from a script, one that counts, and one that lies; a proof that
holds for every site holds for all of them. A closed channel answers by itself
and adds nothing to the history.

`run` carries a plan out on the spot, query after query. Time passes only where
a plan pauses, and a pause lasts whole milliseconds.

## Main definitions

* `Site`: The surroundings of plans.
* `Sent`: One request that went out.
* `Record`: What is known of a network interface.
* `Query.answer`: The answer to a query, and the site after it.
* `Plan.run`: A plan carried out on the spot.

## Theorems

* `run_bind`: Running one plan after another.
-/

namespace Imds

/-- One request that went out. -/
structure Sent where
  /-- The channel it was sent through. -/
  channel : Nat
  /-- The request. -/
  request : Request
  /-- When it was sent, in milliseconds. -/
  time : Nat

/-- What is known of a network interface. -/
structure Record where
  /-- The keys that it lists, once they were fetched. -/
  keys : Option (List String)
  /-- Whether somebody is fetching the keys. -/
  busy : Bool
  /-- Attributes that were fetched; `none` is an attribute without a value. -/
  remembered : Table String (Option String)

/-- The record of an interface that was not asked for anything yet. -/
def Record.fresh : Record := ⟨none, false, Table.empty⟩

/-- The surroundings of plans. -/
structure Site where
  /-- The variables of the environment. -/
  settings : Table String Variable
  /-- Whether the process has switched metadata off. -/
  flag : Bool
  /-- The caches, by number. -/
  caches : Nat → Table String String
  /-- The records of interfaces, by number. -/
  records : Nat → Record
  /-- How many records were handed out. -/
  attached : Nat
  /-- Which channels are closed. -/
  isShut : Nat → Bool
  /-- The time, in milliseconds. -/
  now : Nat
  /-- The requests that went out, newest first. -/
  sent : List Sent
  /-- How the service answers the newest request of a history. -/
  service : List Sent → Except Fault String

namespace Site

/-- The text of a variable of the environment, if it is set and holds one. -/
def setting (s : Site) (name : String) : Option String :=
  (s.settings.get? name).bind Variable.text?

/-- A site where nothing happened yet. -/
def fresh (service : List Sent → Except Fault String) : Site where
  settings := Table.empty
  flag := false
  caches := fun _ => Table.empty
  records := fun _ => Record.fresh
  attached := 0
  isShut := fun _ => false
  now := 0
  sent := []
  service := service

/-- One exchange: a closed channel answers by itself. -/
def exchange (s : Site) (channel : Nat) (request : Request) : Except Fault String × Site :=
  if s.isShut channel then (.error .closed, s)
  else
    let history := ⟨channel, request, s.now⟩ :: s.sent
    (s.service history, { s with sent := history })

/-- Lets time pass. -/
def elapse (s : Site) (length : Duration) : Site := { s with now := s.now + length.toTicks }

/-- Throws the flag that turns metadata off, or throws it back. -/
def setFlag (s : Site) (flag : Bool) : Site := { s with flag := flag }

/-- Sets a variable of the environment, or removes it. -/
def setVariable (s : Site) (name : String) (value : Option Variable) : Site :=
  { s with settings := match value with
    | some v => s.settings.insert name v
    | none => s.settings.erase name }

/-- Replaces a record. -/
def setRecord (s : Site) (record : Nat) (r : Record) : Site :=
  { s with records := updateAt s.records record r }

/-- Replaces a cache. -/
def setCache (s : Site) (cache : Nat) (t : Table String String) : Site :=
  { s with caches := updateAt s.caches cache t }

end Site

/-- The answer to a query, and the site after it. -/
def Query.answer (q : Query) (s : Site) : q.Answer × Site :=
  match q with
  | .setting name => (s.setting name, s)
  | .flag => (s.flag, s)
  | .lookup cache path => ((s.caches cache).get? path, s)
  | .store cache path value => ((), s.setCache cache ((s.caches cache).insert path value))
  | .clear cache => ((), s.setCache cache Table.empty)
  | .send channel request => s.exchange channel request
  | .shut channel => ((), { s with isShut := updateAt s.isShut channel true })
  | .pause length => ((), s.elapse length)
  | .attach => (s.attached, { s.setRecord s.attached Record.fresh with
      attached := s.attached + 1 })
  | .enter record =>
    let r := s.records record
    (r.keys, if r.keys.isSome then s else s.setRecord record { r with busy := true })
  | .leave record keys =>
    let r := s.records record
    ((), s.setRecord record { r with busy := false, keys := keys.or r.keys })
  | .recollect record key => ((s.records record).remembered.get? key, s)
  | .remember record key value =>
    let r := s.records record
    ((), s.setRecord record { r with remembered := r.remembered.insert key value })

namespace Plan

variable {α β : Type}

/-- A plan carried out on the spot. -/
def run : Plan α → Site → α × Site
  | done value, s => (value, s)
  | ask query next, s => (next (query.answer s).1).run (query.answer s).2

@[simp] theorem run_done (value : α) (s : Site) : (done value).run s = (value, s) := rfl

@[simp] theorem run_pure (value : α) (s : Site) : (pure value : Plan α).run s = (value, s) := rfl

theorem run_ask (query : Query) (next : query.Answer → Plan α) (s : Site) :
    (ask query next).run s = (next (query.answer s).1).run (query.answer s).2 := rfl

theorem answer_pause (length : Duration) (s : Site) :
    (Query.pause length).answer s = ((), s.elapse length) := rfl

theorem run_bind (p : Plan α) (f : α → Plan β) (s : Site) :
    (p >>= f).run s = (f (p.run s).1).run (p.run s).2 := by
  show (p.bind f).run s = _
  induction p generalizing s with
  | done value => rfl
  | ask query next ih => simp only [bind, run, ih]

end Plan

/-- An act carried out on the spot. -/
def Act.run {α : Type} (a : Act α) (s : Site) : Except Failure α × Site :=
  Plan.run (a.outcome) s

end Imds
