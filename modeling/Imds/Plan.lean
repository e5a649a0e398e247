import Imds.Duration
import Imds.Failure
import Imds.Request

/-!
# Plans

What an operation does is written down before anything is done. A `Plan` is a
tree: it is finished, or it puts a `Query` to its surroundings and goes on
according to the answer. Reading a setting, looking into a cache, sending a
request and pausing are all queries, so a plan fixes the order of everything
that another party could see or change, and nothing else.

What a plan does not fix is how it is carried out. An executor can poll it and
suspend it while a request is under way, or a thread can go through it and wait;
its surroundings may answer from a script, or change between two queries because
somebody else is at work. Clients for tasks and clients for threads have
operations of their own, and both are plans, so that either can stand wherever
parties take turns.

Queries name caches, channels and interface records by number. Who shares a
cache with whom is then visible as equality of numbers.

## Main definitions

* `Query`: What a plan asks its surroundings.
* `Query.Answer`: The type of the answer to a query.
* `Plan`: A tree of queries.
* `Plan.bind`: One plan after another.
* `Act`: A plan that ends in a result or a `Failure`.
* `Act.outcome`, `Plan.act`, `Act.ofExcept`: Between plans, acts and results.

## Theorems

* `bind_done`, `bind_assoc`: Plans compose like programs.
-/

namespace Imds

/-- What a plan asks its surroundings. -/
inductive Query where
  /-- The text of a variable of the environment, if it is set and holds one. -/
  | setting (name : String)
  /-- Whether the process has switched metadata off. -/
  | flag
  /-- The cached value of a path. -/
  | lookup (cache : Nat) (path : String)
  /-- Keep a value for a path. -/
  | store (cache : Nat) (path value : String)
  /-- Forget every cached value. -/
  | clear (cache : Nat)
  /-- One exchange with the service. -/
  | send (channel : Nat) (request : Request)
  /-- Close a channel. -/
  | shut (channel : Nat)
  /-- Let time pass. -/
  | pause (length : Duration)
  /-- A fresh record for an interface. -/
  | attach
  /-- The listing of an interface if it is known; the right to fetch it
      otherwise. -/
  | enter (record : Nat)
  /-- Give that right back, with the listing if the fetch succeeded. -/
  | leave (record : Nat) (keys : Option (List String))
  /-- What an interface remembers of an attribute. -/
  | recollect (record : Nat) (key : String)
  /-- Remember an attribute. -/
  | remember (record : Nat) (key : String) (value : Option String)

namespace Query

/-- The type of the answer to a query. -/
@[reducible] def Answer : Query → Type
  | setting _ => Option String
  | flag => Bool
  | lookup _ _ => Option String
  | store _ _ _ => Unit
  | clear _ => Unit
  | send _ _ => Except Fault String
  | shut _ => Unit
  | pause _ => Unit
  | attach => Nat
  | enter _ => Option (List String)
  | leave _ _ => Unit
  | recollect _ _ => Option (Option String)
  | remember _ _ _ => Unit

end Query

/-- A tree of queries that ends in values. -/
inductive Plan (α : Type) where
  /-- Nothing is left to do. -/
  | done (value : α)
  /-- Ask, and go on according to the answer. -/
  | ask (query : Query) (next : query.Answer → Plan α)

namespace Plan

variable {α β γ : Type}

/-- One plan after another. -/
def bind : Plan α → (α → Plan β) → Plan β
  | done value, f => f value
  | ask query next, f => ask query (fun a => (next a).bind f)

instance : Monad Plan where
  pure := done
  bind := bind

theorem bind_done (p : Plan α) : p.bind done = p := by
  induction p with
  | done value => rfl
  | ask query next ih => simp only [bind, ih]

theorem bind_assoc (p : Plan α) (f : α → Plan β) (g : β → Plan γ) :
    (p.bind f).bind g = p.bind (fun a => (f a).bind g) := by
  induction p with
  | done value => rfl
  | ask query next ih => simp only [bind, ih]

instance : LawfulMonad Plan := LawfulMonad.mk'
  Plan
  (fun p => bind_done p)
  (fun _ _ => rfl)
  (fun p f g => bind_assoc p f g)
  (fun _ _ => rfl)
  (fun _ _ => rfl)
  (fun _ _ => rfl)
  (fun _ _ => rfl)

/-- The text of a variable of the environment, if it is set and holds one. -/
def setting (name : String) : Plan (Option String) := ask (.setting name) done

/-- Whether the process has switched metadata off. -/
def flag : Plan Bool := ask .flag done

/-- The cached value of a path. -/
def lookup (cache : Nat) (path : String) : Plan (Option String) := ask (.lookup cache path) done

/-- Keeps a value for a path. -/
def store (cache : Nat) (path value : String) : Plan Unit := ask (.store cache path value) done

/-- Forgets every cached value. -/
def clear (cache : Nat) : Plan Unit := ask (.clear cache) done

/-- One exchange with the service. -/
def send (channel : Nat) (request : Request) : Plan (Except Fault String) :=
  ask (.send channel request) done

/-- Closes a channel. -/
def shut (channel : Nat) : Plan Unit := ask (.shut channel) done

/-- Lets time pass. -/
def pause (length : Duration) : Plan Unit := ask (.pause length) done

/-- A fresh record for an interface. -/
def attach : Plan Nat := ask .attach done

/-- The listing of an interface if it is known; the right to fetch it
    otherwise. -/
def enter (record : Nat) : Plan (Option (List String)) := ask (.enter record) done

/-- Gives the right to fetch a listing back. -/
def leave (record : Nat) (keys : Option (List String)) : Plan Unit :=
  ask (.leave record keys) done

/-- What an interface remembers of an attribute. -/
def recollect (record : Nat) (key : String) : Plan (Option (Option String)) :=
  ask (.recollect record key) done

/-- Remembers an attribute. -/
def remember (record : Nat) (key : String) (value : Option String) : Plan Unit :=
  ask (.remember record key value) done

end Plan

/-- A plan that ends in a result or a failure; a failure ends the plan. -/
abbrev Act := ExceptT Failure Plan

/-- The outcome of an act, a failure included. It cannot fail itself. -/
def Act.outcome {α : Type} (a : Act α) : Plan (Except Failure α) := ExceptT.run a

/-- A plan as an act that does not fail. -/
def Plan.act {α : Type} (p : Plan α) : Act α := ExceptT.lift p

/-- A result or a failure that is known already. -/
def Act.ofExcept {α : Type} (r : Except Failure α) : Act α := ExceptT.mk (.done r)

end Imds
