import Imds.Plan
import Imds.Table
import Imds.Update
import Imds.Variable

/-!
# On the Calling Thread

A program without an executor calls and waits. What its operations do in order is a plan
like any other, so that others can step in between two queries; a thread only has its own
way of carrying it out. Nothing is suspended: the thread puts one query after the other
and waits for each answer where it stands.

The world in which it does so is poorer than a `Site`. Pauses are slept through and no
clock is read, so that the history of requests has no times in it, and a service is any
function of the requests alone. A handle on an interface keeps its listing and its
attributes behind two locks. The lock of the listing is held while the listing is fetched.
A thread that has a world for itself finds no lock taken, so a world has no sign of who
holds one; whoever shares handles with others is in a crowd, where the lock is the right to
fetch a listing.

## Main definitions

* `Posted`: One request as the service sees it.
* `Memory`: What a handle on an interface keeps.
* `World`: What a thread finds and leaves.
* `World.post`, `World.sleep`: One exchange, and one pause.
* `World.answer`: What a thread does for a query.
* `Plan.runIn`: A plan carried out by a thread.
* `Direct`, `Direct.run`: An operation of a thread that can fail, carried out.

## Theorems

* `runIn_bind`: Carrying out one plan after another.
-/

namespace Imds

namespace Blocking

/-- One request as the service sees it. -/
structure Posted where
  /-- The channel it was sent through. -/
  channel : Nat
  /-- The request. -/
  request : Request
  deriving DecidableEq

/-- What a handle on an interface keeps. -/
structure Memory where
  /-- The keys that it lists, once they were fetched. -/
  keys : Option (List String)
  /-- Attributes that were fetched; `none` is an attribute without a value. -/
  values : Table String (Option String)

/-- What a new handle keeps. -/
def Memory.fresh : Memory := ⟨none, Table.empty⟩

/-- What a thread finds and leaves. -/
structure World where
  /-- The variables of the environment. -/
  settings : Table String Variable
  /-- Whether the process has switched metadata off. -/
  flag : Bool
  /-- The caches, by number. -/
  caches : Nat → Table String String
  /-- What handles keep, by number. -/
  memories : Nat → Memory
  /-- How many handles were made. -/
  handles : Nat
  /-- Which channels are closed. -/
  isShut : Nat → Bool
  /-- The pauses that were slept through, newest first. -/
  slept : List Duration
  /-- The requests that went out, newest first. -/
  posted : List Posted
  /-- How the service answers the newest request of a history. -/
  service : List Posted → Except Fault String

/-- A world where nothing happened yet. -/
def World.fresh (service : List Posted → Except Fault String) : World where
  settings := Table.empty
  flag := false
  caches := fun _ => Table.empty
  memories := fun _ => Memory.fresh
  handles := 0
  isShut := fun _ => false
  slept := []
  posted := []
  service := service

namespace World

/-- The text of a variable of the environment, if it is set and holds one. -/
def setting (name : String) : StateM World (Option String) :=
  fun w => ((w.settings.get? name).bind Variable.text?, w)

/-- Whether the process has switched metadata off. -/
def isOff : StateM World Bool := fun w => (w.flag, w)

/-- The cached value of a path. -/
def cached (cache : Nat) (path : String) : StateM World (Option String) :=
  fun w => ((w.caches cache).get? path, w)

/-- Replaces a cache. -/
def setCache (w : World) (cache : Nat) (t : Table String String) : World :=
  { w with caches := updateAt w.caches cache t }

/-- Keeps a value for a path. -/
def keep (cache : Nat) (path value : String) : StateM World Unit :=
  fun w => ((), w.setCache cache ((w.caches cache).insert path value))

/-- Forgets every cached value. -/
def forgetAll (cache : Nat) : StateM World Unit := fun w => ((), w.setCache cache Table.empty)

/-- One exchange with the service: a closed channel answers by itself. -/
def post (channel : Nat) (request : Request) : StateM World (Except Fault String) :=
  fun w =>
    if w.isShut channel then (.error .closed, w)
    else
      let history := ⟨channel, request⟩ :: w.posted
      (w.service history, { w with posted := history })

/-- Sleeps for a while. -/
def sleep (length : Duration) : StateM World Unit :=
  fun w => ((), { w with slept := length :: w.slept })

/-- Closes a channel. -/
def shut (channel : Nat) : StateM World Unit :=
  fun w => ((), { w with isShut := updateAt w.isShut channel true })

/-- Replaces what a handle keeps. -/
def setMemory (w : World) (handle : Nat) (m : Memory) : World :=
  { w with memories := updateAt w.memories handle m }

/-- The number of a new handle. -/
def newHandle : StateM World Nat :=
  fun w => (w.handles, { w.setMemory w.handles Memory.fresh with handles := w.handles + 1 })

/-- The listing that a handle keeps, behind its lock. -/
def keysOf (handle : Nat) : StateM World (Option (List String)) :=
  fun w => ((w.memories handle).keys, w)

/-- Lets a handle keep a listing. -/
def setKeys (handle : Nat) (keys : List String) : StateM World Unit :=
  fun w => ((), w.setMemory handle { w.memories handle with keys := some keys })

/-- What a handle keeps of an attribute. -/
def valueOf (handle : Nat) (key : String) : StateM World (Option (Option String)) :=
  fun w => ((w.memories handle).values.get? key, w)

/-- Lets a handle keep an attribute. -/
def setValue (handle : Nat) (key : String) (value : Option String) : StateM World Unit :=
  fun w => ((), w.setMemory handle
    { w.memories handle with values := (w.memories handle).values.insert key value })

/-- What a thread does for a query. The lock of a listing is free, and to give it back is
    nothing but to keep the listing that was fetched under it. -/
def answer : (query : Query) → StateM World query.Answer
  | .setting name => setting name
  | .flag => isOff
  | .lookup cache path => cached cache path
  | .store cache path value => keep cache path value
  | .clear cache => forgetAll cache
  | .send channel request => post channel request
  | .shut channel => shut channel
  | .pause length => sleep length
  | .attach => newHandle
  | .enter handle => keysOf handle
  | .leave handle (some keys) => setKeys handle keys
  | .leave _ none => pure ()
  | .recollect handle key => valueOf handle key
  | .remember handle key value => setValue handle key value

/-- Throws the flag that turns metadata off, or throws it back. -/
def setFlag (w : World) (flag : Bool) : World := { w with flag := flag }

/-- Sets a variable of the environment, or removes it. -/
def setVariable (w : World) (name : String) (value : Option Variable) : World :=
  { w with settings := match value with
    | some v => w.settings.insert name v
    | none => w.settings.erase name }

end World

end Blocking

namespace Plan

open Blocking (World)

variable {α β : Type}

/-- A plan carried out by a thread. -/
def runIn : Plan α → StateM World α
  | done value => pure value
  | ask query next => do
    let a ← World.answer query
    (next a).runIn

theorem runIn_ask (query : Query) (next : query.Answer → Plan α) (w : World) :
    (ask query next).runIn w = (next (World.answer query w).1).runIn (World.answer query w).2 :=
  rfl

theorem runIn_bind (p : Plan α) (f : α → Plan β) (w : World) :
    (p >>= f).runIn w = (f (p.runIn w).1).runIn (p.runIn w).2 := by
  change (p.bind f).runIn w = _
  induction p generalizing w with
  | done value => rfl
  | ask query next ih => simp only [bind, runIn_ask, ih]

end Plan

namespace Blocking

/-- An operation of a thread that can fail. -/
abbrev Direct := Act

/-- An operation of a thread, carried out. -/
def Direct.run {α : Type} (m : Direct α) : StateM World (Except Failure α) := m.outcome.runIn

end Blocking

end Imds
