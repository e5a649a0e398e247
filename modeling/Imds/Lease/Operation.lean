import Imds.Lease.Step

/-!
# Operations on Leases

What a party does with a lease when nobody else is at work in between: all steps
of one operation, one after the other. Closing marks the lease, releases its
reference, and tears down and signals if the reference was the last one; the
steps that do not apply fall away by themselves. Dropping is closing, and then
the lease is gone. Acquiring gives the lease, or the failure of the factory.

## Main definitions

* `Commons.close`, `Commons.drop`: Closing and dropping a lease.
* `Commons.acquire`: A lease from a source.
* `Commons.useOnce`: A lease that is acquired, closed and dropped.

## Theorems

* `close_eq_after`, `drop_eq_after`, `acquire_eq_after`: The steps of each
  operation.
* `close_of_closed`: Closing again changes nothing.
* `acquire_ok_of_attached`: A source that finds an owned resource does not fail.
-/

namespace Imds

namespace Commons

variable {ρ : Type}

/-- Closes a lease. -/
def close (s : Commons ρ) (slot : Nat) : Commons ρ :=
  (((s.mark slot).release slot).tearDown slot).signal slot

/-- Closes a lease and ends it. -/
def drop (s : Commons ρ) (slot : Nat) : Commons ρ := (s.close slot).forget slot

/-- The state after a party entered a source and tried to attach. -/
def attach (s : Commons ρ) (source slot : Nat) : Commons ρ :=
  ((s.enter source).upgrade source).retain source slot

/-- What the last step of a visit comes to: the factory may fail. -/
def visitOutcome (s : Commons ρ) (source : Nat) : Except Failure Unit :=
  match s.visits.get? source with
  | some .ordering => (s.nextOrder source).map (fun _ => ())
  | _ => .ok ()

/-- A lease from a source, on its current resource or on a new one. -/
def acquire (s : Commons ρ) (source slot : Nat) : Except Failure Unit × Commons ρ :=
  ((s.attach source slot).visitOutcome source, (s.attach source slot).order source slot)

/-- Acquires a lease, closes it and drops it. -/
def useOnce (s : Commons ρ) (source slot : Nat) : Commons ρ := (s.acquire source slot).2.drop slot

theorem close_eq_after (s : Commons ρ) (slot : Nat) :
    s.close slot = s.after [.mark slot, .release slot, .tearDown slot, .signal slot] := rfl

theorem drop_eq_after (s : Commons ρ) (slot : Nat) :
    s.drop slot =
      s.after [.mark slot, .release slot, .tearDown slot, .signal slot, .forget slot] := rfl

theorem acquire_eq_after (s : Commons ρ) (source slot : Nat) :
    (s.acquire source slot).2 =
      s.after [.enter source, .upgrade source, .retain source slot, .order source slot] := rfl

theorem close_of_closed {s : Commons ρ} {slot : Nat} {l : Lease} (h : s.leases.get? slot = some l)
    (hclosed : l.closed = true) (hstage : l.stage = .quiet) : s.close slot = s := by
  have hmark : s.mark slot = s := by simp [mark, h, hclosed]
  have hrelease : s.release slot = s := by simp [release, h, hstage]
  have htear : s.tearDown slot = s := by simp [tearDown, h, hstage]
  have hsignal : s.signal slot = s := by simp [signal, h, hstage]
  rw [close, hmark, hrelease, htear, hsignal]

theorem acquire_ok_of_attached {s : Commons ρ} {source slot : Nat}
    (h : (s.attach source slot).visits.get? source ≠ some .ordering) :
    (s.acquire source slot).1 = .ok () := by
  simp only [acquire, visitOutcome]

end Commons

end Imds
