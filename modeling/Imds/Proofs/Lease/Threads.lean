import Imds.Lease.Operation
import Imds.Proofs.Lease.Stage

/-!
# Threads That Share

A history of steps says what happened and not who did it. Here every step belongs to a
thread that is somewhere inside a call: it acquires, lends, closes or drops, and the
other threads come in between as they like. A thread does the steps of its call in
order, and what it does next depends only on what it saw itself. Whoever finds a lease
marked leaves again; whoever finds more than one reference does not tear down.

A turn lets one thread begin a call or take its next step. A run is any list of turns,
so there is no bound on threads, handles or calls and nothing is fair. Several threads
may close one lease at a time. A lease that is being dropped may even be closed by
others, which a program could not do; nothing is lost by allowing it.

The steps are those of the commons, and a thread that is left alone with its call does
exactly what the operation of that name does.

## Main definitions

* `Call`, `Place`, `Threads`: What threads do, where they are, and the state.
* `Threads.Turn`, `Threads.turn`, `Threads.run`: One turn, and a run.
* `Threads.goAlone`: A thread that nobody disturbs.

## Theorems

* `close_alone`, `drop_alone`, `acquire_alone`: A thread that nobody disturbs does
  what the operations do.
-/

namespace Imds

/-- What a thread can call. -/
inductive Call (ρ : Type) where
  /-- Make a resource. -/
  | create (payload : ρ) (slot : Nat)
  /-- Ask a source for a lease. -/
  | acquire (source slot : Nat)
  /-- Lend the resource of a lease. -/
  | lend (slot newSlot : Nat)
  /-- Close a lease. -/
  | close (slot : Nat)
  /-- Close a lease and end it. -/
  | drop (slot : Nat)

/-- Where a thread is inside a call, between two of its steps. -/
inductive Place where
  /-- It is inside a source. -/
  | asking (source slot : Nat)
  /-- It marked a lease, and has come to a stage of the closing. -/
  | closing (slot : Nat) (stage : Stage) (dropping : Bool)
  /-- It closed a lease to drop it. -/
  | ending (slot : Nat)

/-- Where a thread is after a closing that has come to a stage. -/
def Place.next (slot : Nat) (stage : Stage) (dropping : Bool) : Option Place :=
  if stage = .quiet then if dropping then some (.ending slot) else none
  else some (.closing slot stage dropping)

/-- What is shared, and where each thread is. -/
structure Threads (ρ : Type) where
  /-- What is shared. -/
  commons : Commons ρ
  /-- Where each thread is, if it is inside a call. -/
  place : Nat → Option Place

/-- What can happen next. -/
inductive Threads.Turn (ρ : Type) where
  /-- A thread begins a call. -/
  | call (thread : Nat) (call : Call ρ)
  /-- A thread takes the next step of its call. -/
  | go (thread : Nat)

variable {ρ : Type}

namespace Commons

/-- The step that a visit of a source takes next. -/
def visitMove (s : Commons ρ) (source slot : Nat) : Move ρ :=
  match s.visits.get? source with
  | some (.holding _) => .retain source slot
  | some .ordering => .order source slot
  | _ => .upgrade source

theorem isPlain_visitMove (s : Commons ρ) (source slot : Nat) :
    (s.visitMove source slot).IsPlain := by
  unfold visitMove
  cases s.visits.get? source with
  | none => trivial
  | some visit =>
      cases visit with
      | entered => trivial
      | holding r => trivial
      | ordering => trivial

end Commons

namespace Threads

/-- No thread is inside a call, and nothing was made. -/
def start (factories : Nat → Nat → Except Failure ρ) : Threads ρ :=
  ⟨Commons.ofFactories factories, fun _ => none⟩

/-- A thread takes a step and is then at a place. -/
def move (s : Threads ρ) (t : Nat) (m : Move ρ) (p : Option Place) : Threads ρ :=
  ⟨s.commons.step m, updateAt s.place t p⟩

/-- A thread begins a call. It does not get into a source while another is inside. -/
def call (s : Threads ρ) (t : Nat) : Call ρ → Threads ρ
  | .create payload slot => s.move t (.create payload slot) none
  | .acquire source slot =>
    if s.commons.visits.contains source then s
    else s.move t (.enter source) (some (.asking source slot))
  | .lend slot newSlot => s.move t (.lend slot newSlot) none
  | .close slot => s.move t (.mark slot) (Place.next slot (s.commons.stageOnMark slot) false)
  | .drop slot => s.move t (.mark slot) (Place.next slot (s.commons.stageOnMark slot) true)

/-- A thread takes the next step from its place. -/
def go (s : Threads ρ) (t : Nat) : Place → Threads ρ
  | .asking source slot =>
    let m := s.commons.visitMove source slot
    s.move t m
      (if (s.commons.step m).visits.contains source then some (.asking source slot) else none)
  | .closing slot .releasing dropping =>
    s.move t (.release slot)
      (Place.next slot (if s.commons.refCount slot = 1 then .tearing else .quiet) dropping)
  | .closing slot .tearing dropping =>
    s.move t (.tearDown slot) (Place.next slot .signalling dropping)
  | .closing slot .signalling dropping => s.move t (.signal slot) (Place.next slot .quiet dropping)
  | .closing _ .quiet _ => s
  | .ending slot => s.move t (.forget slot) none

/-- What a turn does. A thread that is inside a call begins no other, and a thread that
    is inside none has no next step. -/
def turn (s : Threads ρ) : Threads.Turn ρ → Threads ρ
  | .call t c =>
    match s.place t with
    | none => s.call t c
    | some _ => s
  | .go t =>
    match s.place t with
    | some p => s.go t p
    | none => s

/-- What a run does. -/
def run (s : Threads ρ) (turns : List (Threads.Turn ρ)) : Threads ρ := turns.foldl turn s

theorem run_append (s : Threads ρ) (first second : List (Threads.Turn ρ)) :
    s.run (first ++ second) = (s.run first).run second :=
  List.foldl_append

end Threads

/-! ### A thread alone -/

namespace Commons

/-- What is left of closing a lease once it is marked, and of dropping it. -/
def finishClosing (s : Commons ρ) (slot : Nat) (dropping : Bool) : Commons ρ :=
  if dropping then (((s.release slot).tearDown slot).signal slot).forget slot
  else ((s.release slot).tearDown slot).signal slot

end Commons

namespace Threads

variable {s : Threads ρ} {t slot : Nat} {d : Bool}

/-- A thread takes a number of steps, and no other thread takes any. -/
def goAlone (s : Threads ρ) (t n : Nat) : Threads ρ := s.run (List.replicate n (.go t))

theorem goAlone_of_idle (h : s.place t = none) (n : Nat) : s.goAlone t n = s := by
  induction n with
  | zero => rfl
  | succ n ih =>
      have hturn : s.turn (.go t) = s := by simp only [turn, h]
      change (s.turn (.go t)).goAlone t n = s
      rw [hturn]
      exact ih

theorem goAlone_succ {p : Place} (h : s.place t = some p) (n : Nat) :
    s.goAlone t (n + 1) = (s.go t p).goAlone t n := by
  change (s.turn (.go t)).goAlone t n = _
  simp only [turn, h]

theorem place_move (s : Threads ρ) (t : Nat) (m : Move ρ) (p : Option Place) :
    (s.move t m p).place t = p :=
  updateAt_self s.place t p

theorem place_move_of_ne (s : Threads ρ) {t t' : Nat} (m : Move ρ) (p : Option Place)
    (hne : t' ≠ t) : (s.move t m p).place t' = s.place t' :=
  updateAt_of_ne s.place p hne

theorem finish_of_quiet (h : s.place t = Place.next slot .quiet d)
    (hat : s.commons.stageOf slot = .quiet) (n : Nat) :
    (s.goAlone t (n + 1)).commons = s.commons.finishClosing slot d := by
  have hrelease := Commons.release_eq_self (s := s.commons) slot
    (by rw [hat]; exact Stage.noConfusion)
  have htear := Commons.tearDown_eq_self (s := s.commons) slot
    (by rw [hat]; exact Stage.noConfusion)
  have hsignal := Commons.signal_eq_self (s := s.commons) slot
    (by rw [hat]; exact Stage.noConfusion)
  -- The three steps of a closing find nothing to do; a drop has one more to take.
  cases d with
  | false =>
      rw [goAlone_of_idle h]
      simp only [Commons.finishClosing, hrelease, htear, hsignal, Bool.false_eq_true, if_false]
  | true =>
      rw [goAlone_succ (p := .ending slot) h, go, goAlone_of_idle (place_move s t _ none)]
      simp only [Commons.finishClosing, hrelease, htear, hsignal, if_true]
      rfl

theorem finish_of_signalling (h : s.place t = Place.next slot .signalling d)
    (hat : s.commons.stageOf slot = .signalling) (n : Nat) :
    (s.goAlone t (n + 2)).commons = s.commons.finishClosing slot d := by
  have hnext : (s.commons.signal slot).stageOf slot = .quiet := by
    rw [Commons.stageOf_signal hat, if_pos rfl]
  have hrest := finish_of_quiet (s := s.move t (.signal slot) (Place.next slot .quiet d))
    (place_move s t _ _) hnext n
  rw [goAlone_succ (p := .closing slot .signalling d) h, go, hrest]
  change (s.commons.signal slot).finishClosing slot d = _
  -- The steps before the signal were taken, and the signal is not given twice.
  simp only [Commons.finishClosing, Commons.release_eq_self, Commons.tearDown_eq_self,
    Commons.signal_eq_self, hat, hnext, ne_eq, reduceCtorEq, not_false_eq_true]

theorem finish_of_tearing (h : s.place t = Place.next slot .tearing d)
    (hat : s.commons.stageOf slot = .tearing) (n : Nat) :
    (s.goAlone t (n + 3)).commons = s.commons.finishClosing slot d := by
  have hnext : (s.commons.tearDown slot).stageOf slot = .signalling := by
    rw [Commons.stageOf_tearDown hat, if_pos rfl]
  have hrest := finish_of_signalling
    (s := s.move t (.tearDown slot) (Place.next slot .signalling d)) (place_move s t _ _) hnext n
  rw [goAlone_succ (p := .closing slot .tearing d) h, go, hrest]
  change (s.commons.tearDown slot).finishClosing slot d = _
  simp only [Commons.finishClosing, Commons.release_eq_self, Commons.tearDown_eq_self, hat, hnext,
    ne_eq, reduceCtorEq, not_false_eq_true]

theorem finish_of_releasing (h : s.place t = Place.next slot .releasing d)
    (hat : s.commons.stageOf slot = .releasing) (n : Nat) :
    (s.goAlone t (n + 4)).commons = s.commons.finishClosing slot d := by
  have hnext := Commons.stageOf_release hat slot
  rw [if_pos rfl] at hnext
  rw [goAlone_succ (p := .closing slot .releasing d) h, go]
  -- The thread looks at the count once, and the step that follows decides what is left to do.
  by_cases hlast : s.commons.refCount slot = 1
  · rw [if_pos hlast] at hnext ⊢
    have hrest := finish_of_tearing (s := s.move t (.release slot) (Place.next slot .tearing d))
      (place_move s t _ _) hnext n
    rw [hrest]
    change (s.commons.release slot).finishClosing slot d = _
    simp only [Commons.finishClosing, Commons.release_eq_self, hnext, ne_eq, reduceCtorEq,
      not_false_eq_true]
  · rw [if_neg hlast] at hnext ⊢
    have hrest := finish_of_quiet (s := s.move t (.release slot) (Place.next slot .quiet d))
      (place_move s t _ _) hnext (n + 2)
    rw [hrest]
    change (s.commons.release slot).finishClosing slot d = _
    simp only [Commons.finishClosing, Commons.release_eq_self, hnext, ne_eq, reduceCtorEq,
      not_false_eq_true]

-- A thread that marks a lease and is left alone finishes the closing.
theorem finish_alone (hb : Balanced s.commons) (hquiet : s.commons.stageOf slot = .quiet)
    (n : Nat) :
    ((s.move t (.mark slot) (Place.next slot (s.commons.stageOnMark slot) d)).goAlone t
      (n + 4)).commons = (s.commons.mark slot).finishClosing slot d := by
  -- By what the mark leaves to do: nothing, or the whole of the closing.
  have hat := Commons.stageOf_mark hb slot slot
  by_cases hnothing : s.commons.stageOnMark slot = .quiet
  · rw [if_neg (fun h => h.2 hnothing), hquiet] at hat
    rw [hnothing]
    exact finish_of_quiet (s := s.move t (.mark slot) (Place.next slot .quiet d))
      (place_move s t _ _) hat (n + 3)
  · have hreleasing : s.commons.stageOnMark slot = .releasing := by
      unfold Commons.stageOnMark at hnothing ⊢
      split at hnothing
      · split at hnothing
        · next hl _ hopen => simp only [hopen, and_self, if_true]
        · exact absurd rfl hnothing
      · exact absurd rfl hnothing
    rw [if_pos ⟨rfl, hnothing⟩, hreleasing] at hat
    rw [hreleasing]
    exact finish_of_releasing (s := s.move t (.mark slot) (Place.next slot .releasing d))
      (place_move s t _ _) hat n

/-- A thread that closes a lease and is left alone closes it as the operation does. -/
theorem close_alone (hb : Balanced s.commons) (hidle : s.place t = none)
    (hquiet : s.commons.stageOf slot = .quiet) :
    ((s.turn (.call t (.close slot))).goAlone t 4).commons = s.commons.close slot := by
  simp only [turn, hidle]
  exact finish_alone hb hquiet 0

theorem drop_alone (hb : Balanced s.commons) (hidle : s.place t = none)
    (hquiet : s.commons.stageOf slot = .quiet) :
    ((s.turn (.call t (.drop slot))).goAlone t 4).commons = s.commons.drop slot := by
  simp only [turn, hidle]
  exact finish_alone hb hquiet 0

end Threads

namespace Commons

variable {s : Commons ρ} {source slot : Nat}

/-- A visit that goes on for a number of steps. -/
def visitFor (s : Commons ρ) (source slot : Nat) : Nat → Commons ρ
  | 0 => s
  | n + 1 => (s.step (s.visitMove source slot)).visitFor source slot n

theorem visitFor_of_none (h : s.visits.get? source = none) (n : Nat) :
    s.visitFor source slot n = s := by
  induction n with
  | zero => rfl
  | succ n ih =>
      have hstep : s.step (s.visitMove source slot) = s := by
        simp only [visitMove, h, step, upgrade]
      rw [visitFor, hstep, ih]

theorem visit_of_upgrade (h : s.visits.get? source = some .entered) :
    (s.upgrade source).visits.get? source = some .ordering ∨
      ∃ r, (s.upgrade source).visits.get? source = some (.holding r) := by
  unfold upgrade
  simp only [h]
  split
  · next r _ =>
    change (s.visits.insert source _).get? source = _ ∨
      ∃ r, (s.visits.insert source _).get? source = _
    rw [Table.get?_insert_self]
    split
    · exact Or.inr ⟨r, rfl⟩
    · exact Or.inl rfl
  · exact Or.inl (Table.get?_insert_self _ _ _)

-- An order ends its visit, or its lease cannot be stored and it changes nothing.
theorem order_of_ordering (slot : Nat) (h : s.visits.get? source = some .ordering) :
    (s.order source slot).visits.get? source = none ∨ s.order source slot = s := by
  unfold order
  simp only [h]
  split
  · exact Or.inr rfl
  · split
    · exact Or.inl (Table.get?_erase_self _ _)
    · exact Or.inl (Table.get?_erase_self _ _)

-- To attach ends the visit, or leaves an order to make, or its lease cannot be stored and it
-- changes nothing.
theorem retain_of_holding (slot : Nat) {r : Nat}
    (h : s.visits.get? source = some (.holding r)) :
    (s.retain source slot).visits.get? source = none ∨
      (s.retain source slot).visits.get? source = some .ordering ∨
        s.retain source slot = s := by
  unfold retain
  simp only [h]
  split
  · exact Or.inr (Or.inr rfl)
  · split
    · exact Or.inr (Or.inl (Table.get?_insert_self _ _ _))
    · exact Or.inl (Table.get?_erase_self _ _)

-- Two more steps finish a visit that has looked for the current resource.
theorem visitFor_two (h : s.visits.get? source = some .ordering ∨
    ∃ r, s.visits.get? source = some (.holding r)) :
    s.visitFor source slot 2 = (s.retain source slot).order source slot := by
  rcases h with hordering | ⟨r, hholding⟩
  · have hretain : s.retain source slot = s := by simp only [retain, hordering]
    have hmove : s.visitMove source slot = .order source slot := by
      simp only [visitMove, hordering]
    rw [hretain, visitFor, hmove]
    change (s.order source slot).visitFor source slot 1 = _
    rcases order_of_ordering slot hordering with hnone | hsame
    · exact visitFor_of_none hnone 1
    · rw [hsame, visitFor, hmove]
      exact hsame
  · have hmove : s.visitMove source slot = .retain source slot := by
      simp only [visitMove, hholding]
    rw [visitFor, hmove]
    change (s.retain source slot).visitFor source slot 1 = _
    rcases retain_of_holding slot hholding with hnone | hordering | hsame
    · rw [visitFor_of_none hnone]
      simp only [order, hnone]
    · simp only [visitFor, visitMove, hordering, step]
    · rw [hsame, visitFor, hmove]
      change (s.retain source slot) = _
      rw [hsame]
      simp only [order, hholding]

end Commons

namespace Threads

variable {s : Threads ρ} {t source slot : Nat}

-- The steps of a thread inside a source that is left alone are the steps of its visit.
theorem goAlone_of_asking (h : s.place t =
    if s.commons.visits.contains source then some (.asking source slot) else none) (n : Nat) :
    (s.goAlone t n).commons = s.commons.visitFor source slot n := by
  induction n generalizing s with
  | zero => rfl
  | succ n ih =>
      by_cases hinside : s.commons.visits.contains source = true
      · rw [if_pos hinside] at h
        rw [goAlone_succ h, go]
        exact ih (place_move s t _ _)
      · rw [if_neg hinside] at h
        have hnone : s.commons.visits.get? source = none := Option.not_isSome_iff_eq_none.1 hinside
        rw [goAlone_of_idle h, Commons.visitFor_of_none hnone]

/-- A thread that asks a source nobody is in and is left alone asks as the operation does. -/
theorem acquire_alone (hidle : s.place t = none) (hfree : s.commons.visits.get? source = none) :
    ((s.turn (.call t (.acquire source slot))).goAlone t 3).commons =
      (s.commons.acquire source slot).2 := by
  have hout : ¬ s.commons.visits.contains source = true := by
    rw [Table.contains_iff]
    intro h
    rcases h with ⟨v, hv⟩
    rw [hfree] at hv
    cases hv
  have henter : (s.commons.enter source).visits.get? source = some .entered := by
    rw [Commons.enter, if_neg hout]
    exact Table.get?_insert_self _ _ _
  have hinside : (s.commons.enter source).visits.contains source = true :=
    Table.contains_iff.2 ⟨_, henter⟩
  have hturn : s.turn (.call t (.acquire source slot)) =
      s.move t (.enter source) (some (.asking source slot)) := by
    simp only [turn, hidle, call, if_neg hout]
  have hgo := goAlone_of_asking (s := s.move t (.enter source) (some (.asking source slot)))
    (t := t) (by rw [place_move]; exact (if_pos hinside).symm) 3
  rw [hturn, hgo]
  change (s.commons.enter source).visitFor source slot 3 = _
  have hmove : (s.commons.enter source).visitMove source slot = .upgrade source := by
    simp only [Commons.visitMove, henter]
  rw [Commons.visitFor, hmove]
  exact Commons.visitFor_two (Commons.visit_of_upgrade henter)

end Threads

end Imds
