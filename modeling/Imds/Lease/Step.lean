import Imds.Lease.Commons

/-!
# Single Steps of Sharing

Several parties share a `Commons` without a lock around it, except that a source
lets in one party at a time. What each of them does falls into the steps below;
no other party sees the inside of a step, and between two steps of one party any
number of steps of others may come.

Closing a lease is four steps. The first marks it closed, and whoever does that
goes on; a second closing finds the mark and does nothing. Then the reference is
released, and only the release that finds a single reference goes on to tear
down and to signal.

Asking a source is four steps as well. A party enters; it looks for the current
resource, which it finds if the resource is alive; it attaches, unless the last
reference was released meanwhile; and if there is nothing to attach to it orders
a new resource. A factory that fails leaves every resource and every lease as it
was.

A step that does not apply changes nothing. So a step is a function, and a
history is a list of steps.

## Main definitions

* `Commons.create`, `Commons.lend`: New leases without a source.
* `Commons.mark`, `Commons.release`, `Commons.tearDown`, `Commons.signal`:
  Closing a lease.
* `Commons.forget`: The end of a lease that was dropped.
* `Commons.enter`, `Commons.upgrade`, `Commons.retain`, `Commons.order`: Asking a
  source.
* `Move`, `Commons.step`, `Commons.after`: One step, and a history of steps.

## Theorems

* `after_append`: Histories come one after the other.
-/

namespace Imds

namespace Commons

variable {ρ : Type}

/-- Changes a resource. -/
def changeResource (s : Commons ρ) (r : Nat) (f : Resource ρ → Resource ρ) : Commons ρ :=
  { s with resources := s.resources.modify r f }

/-- Stores a lease. -/
def setLease (s : Commons ρ) (slot : Nat) (l : Lease) : Commons ρ :=
  { s with leases := s.leases.insert slot l }

/-- Records how far a visit has come. -/
def setVisit (s : Commons ρ) (source : Nat) (v : Visit) : Commons ρ :=
  { s with visits := s.visits.insert source v }

/-- Lets a party out of a source. -/
def endVisit (s : Commons ρ) (source : Nat) : Commons ρ :=
  { s with visits := s.visits.erase source }

/-- Puts a new resource at the end, with its maker's lease. -/
def addResource (s : Commons ρ) (payload : ρ) (slot : Nat) : Commons ρ :=
  { s with
    resources := s.resources ++ [⟨payload, 1, 0, false⟩]
    leases := s.leases.insert slot (.own s.resources.length) }

/-- Makes a resource without a source. Its maker is the only owner. -/
def create (s : Commons ρ) (payload : ρ) (slot : Nat) : Commons ρ :=
  if s.leases.contains slot then s else s.addResource payload slot

/-- Lends the resource of a lease, open or closed. -/
def lend (s : Commons ρ) (slot newSlot : Nat) : Commons ρ :=
  match s.leases.get? slot with
  | some l =>
    if s.leases.contains newSlot then s else s.setLease newSlot (.borrow l.resource)
  | none => s

/-- Marks a lease closed. Whoever finds it open goes on to release. -/
def mark (s : Commons ρ) (slot : Nat) : Commons ρ :=
  match s.leases.get? slot with
  | some l =>
    if l.closed then s
    else s.setLease slot { l with
      closed := true
      stage := if l.ownership = .owned then .releasing else .quiet }
  | none => s

/-- Releases the reference of a lease. Whoever releases the last one goes on to
    tear down. -/
def release (s : Commons ρ) (slot : Nat) : Commons ρ :=
  match s.leases.get? slot with
  | some l =>
    if l.stage = .releasing then
      (s.changeResource l.resource
        (fun r => { r with references := r.references - 1 })).setLease slot
          { l with stage := if s.references l.resource = 1 then .tearing else .quiet }
    else s
  | none => s

/-- Tears the resource of a lease down. -/
def tearDown (s : Commons ρ) (slot : Nat) : Commons ρ :=
  match s.leases.get? slot with
  | some l =>
    if l.stage = .tearing then
      (s.changeResource l.resource
        (fun r => { r with teardowns := r.teardowns + 1 })).setLease slot
          { l with stage := .signalling }
    else s
  | none => s

/-- Signals that the resource of a lease is torn down. -/
def signal (s : Commons ρ) (slot : Nat) : Commons ρ :=
  match s.leases.get? slot with
  | some l =>
    if l.stage = .signalling then
      (s.changeResource l.resource (fun r => { r with signalled := true })).setLease slot
        { l with stage := .quiet }
    else s
  | none => s

/-- Ends a lease that was dropped. A lease is closed before it ends. -/
def forget (s : Commons ρ) (slot : Nat) : Commons ρ :=
  match s.leases.get? slot with
  | some l =>
    if l.closed ∧ l.stage = .quiet then { s with leases := s.leases.erase slot } else s
  | none => s

/-- Enters a source, if nobody is inside. -/
def enter (s : Commons ρ) (source : Nat) : Commons ρ :=
  if s.visits.contains source then s else s.setVisit source .entered

/-- Looks for the current resource of a source. -/
def upgrade (s : Commons ρ) (source : Nat) : Commons ρ :=
  match s.visits.get? source with
  | some .entered =>
    match (s.sources source).current with
    | some r => s.setVisit source (if s.isAlive r then .holding r else .ordering)
    | none => s.setVisit source .ordering
  | _ => s

/-- Attaches to the resource that was found, if it still has an owner. -/
def retain (s : Commons ρ) (source slot : Nat) : Commons ρ :=
  match s.visits.get? source with
  | some (.holding r) =>
    if s.leases.contains slot then s
    else if s.references r = 0 then s.setVisit source .ordering
    else
      ((s.changeResource r (fun r => { r with references := r.references + 1 })).setLease slot
        (.own r)).endVisit source
  | _ => s

/-- What the factory of a source comes to next. -/
def nextOrder (s : Commons ρ) (source : Nat) : Except Failure ρ :=
  (s.sources source).factory (s.sources source).orders

/-- Changes a source. -/
def changeSource (s : Commons ρ) (source : Nat) (f : Source ρ → Source ρ) : Commons ρ :=
  { s with sources := updateAt s.sources source (f (s.sources source)) }

/-- Orders a new resource from the factory of a source. -/
def order (s : Commons ρ) (source slot : Nat) : Commons ρ :=
  match s.visits.get? source with
  | some .ordering =>
    if s.leases.contains slot then s
    else match s.nextOrder source with
      | .ok payload =>
        ((s.addResource payload slot).changeSource source
          (fun m => { m with orders := m.orders + 1, current := some s.resources.length })).endVisit
            source
      | .error _ =>
        (s.changeSource source (fun m => { m with orders := m.orders + 1 })).endVisit source
  | _ => s

end Commons

/-- One step of one party. -/
inductive Move (ρ : Type) where
  | create (payload : ρ) (slot : Nat)
  | lend (slot newSlot : Nat)
  | mark (slot : Nat)
  | release (slot : Nat)
  | tearDown (slot : Nat)
  | signal (slot : Nat)
  | forget (slot : Nat)
  | enter (source : Nat)
  | upgrade (source : Nat)
  | retain (source slot : Nat)
  | order (source slot : Nat)

namespace Commons

variable {ρ : Type}

/-- What a step does. -/
def step (s : Commons ρ) : Move ρ → Commons ρ
  | .create payload slot => s.create payload slot
  | .lend slot newSlot => s.lend slot newSlot
  | .mark slot => s.mark slot
  | .release slot => s.release slot
  | .tearDown slot => s.tearDown slot
  | .signal slot => s.signal slot
  | .forget slot => s.forget slot
  | .enter source => s.enter source
  | .upgrade source => s.upgrade source
  | .retain source slot => s.retain source slot
  | .order source slot => s.order source slot

/-- What a history does. -/
def after (s : Commons ρ) (moves : List (Move ρ)) : Commons ρ := moves.foldl step s

theorem after_append (s : Commons ρ) (first second : List (Move ρ)) :
    s.after (first ++ second) = (s.after first).after second :=
  List.foldl_append

end Commons

end Imds
