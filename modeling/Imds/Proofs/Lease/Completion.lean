import Imds.Proofs.Lease.Signal

/-!
# Completions Are Exact

Whoever wants to know when a resource is torn down holds a completion of it. It is obtained from
any lease, owned or borrowed, open or closed; it can be cloned, and it outlives them all. It shows
whether the end of the teardown was signalled, and it can be given up to a wait, which is polled
and is over when that is so, or when nobody is left who could signal.

An audience is threads that share together with the completions that were obtained. Its turns are
theirs and those of whoever holds a completion. The latter only look, so what is shared is in every
run what the turns of the threads make of it. Of the completions themselves there is one thing to
keep: a wait that is over is one for a resource that is complete. It is kept because nothing makes a
complete resource incomplete, and because the second reason for a wait to be over does not arise.

## Main definitions

* `Completion`, `Audience`: What shows the end of a resource, and the state.
* `Audience.Turn`, `Audience.turn`, `Audience.run`: One turn, and a run.
* `Audience.Sound`: What holds at every moment.

## Theorems

* `Sound.turn`, `Sound.run`: The invariant, in all runs.
* `announces_next`: Whoever tore a resource down signals by its next turn.
* `isComplete_iff_closed`: A resource is complete once its owners are closed.
* `poll_of_waiting`, `poll_of_obtained`: When a wait is over.
* `completions_are_exact`: What every completion shows, at every moment of every run.
-/

namespace Imds

variable {ρ : Type}

/-! ### Completions and those who hold them -/

/-- How far waiting with a completion has come. -/
inductive Waiting where
  /-- Nobody waits with it. -/
  | idle
  /-- It was given up to a wait, which is not over. -/
  | waiting
  /-- The wait is over. -/
  | resolved
  deriving DecidableEq

/-- What shows the end of a resource. -/
structure Completion where
  /-- The number of the resource. -/
  resource : Nat
  /-- How far waiting with it has come. -/
  waiting : Waiting
  deriving DecidableEq

/-- A completion shows whether the end of the teardown was signalled. -/
def Completion.isComplete (c : Completion) (s : Commons ρ) : Bool := s.isComplete c.resource

/-- A wait that is polled is over if the signal was given, or if nobody is left who could. -/
def Completion.poll (c : Completion) (s : Commons ρ) : Completion :=
  if c.waiting = .waiting ∧ s.isReady c.resource = true then { c with waiting := .resolved } else c

/-- Threads that share, and the completions that were obtained, by number. -/
structure Audience (ρ : Type) where
  /-- The threads, and what they share. -/
  threads : Threads ρ
  /-- The completions that were not discarded. -/
  completions : Table Nat Completion

/-- What can happen next. -/
inductive Audience.Turn (ρ : Type) where
  /-- A thread takes a turn. -/
  | act (turn : Threads.Turn ρ)
  /-- A completion is obtained from a lease, open or closed. -/
  | obtain (slot name : Nat)
  /-- A completion is cloned. -/
  | clone (name newName : Nat)
  /-- A completion is given up to a wait. -/
  | wait (name : Nat)
  /-- A wait is polled. -/
  | poll (name : Nat)
  /-- A completion, or the wait that it was given up to, is discarded. -/
  | discard (name : Nat)

namespace Audience

/-- What the threads share. -/
def commons (s : Audience ρ) : Commons ρ := s.threads.commons

/-- No thread is inside a call, and nothing was made or obtained. -/
def start (factories : Nat → Nat → Except Failure ρ) : Audience ρ :=
  ⟨Threads.start factories, Table.empty⟩

/-- Puts a new completion under a number that is free. -/
def add (s : Audience ρ) (name resource : Nat) : Audience ρ :=
  if s.completions.contains name then s
  else { s with completions := s.completions.insert name ⟨resource, .idle⟩ }

/-- Changes a completion. -/
def change (s : Audience ρ) (name : Nat) (f : Completion → Completion) : Audience ρ :=
  match s.completions.get? name with
  | some c => { s with completions := s.completions.insert name (f c) }
  | none => s

/-- Obtains a completion from a lease, owned or borrowed, open or closed. -/
def subscribe (s : Audience ρ) (slot name : Nat) : Audience ρ :=
  match s.commons.leases.get? slot with
  | some l => s.add name l.resource
  | none => s

/-- Clones a completion. One that was given up to a wait is not there to be cloned. -/
def duplicate (s : Audience ρ) (name newName : Nat) : Audience ρ :=
  match s.completions.get? name with
  | some c => if c.waiting = .idle then s.add newName c.resource else s
  | none => s

/-- What a turn does. -/
def turn (s : Audience ρ) : Audience.Turn ρ → Audience ρ
  | .act x => { s with threads := s.threads.turn x }
  | .obtain slot name => s.subscribe slot name
  | .clone name newName => s.duplicate name newName
  | .wait name =>
    s.change name (fun c => if c.waiting = .idle then { c with waiting := .waiting } else c)
  | .poll name => s.change name (fun c => c.poll s.commons)
  | .discard name => { s with completions := s.completions.erase name }

/-- What a run does. -/
def run (s : Audience ρ) (turns : List (Audience.Turn ρ)) : Audience ρ := turns.foldl turn s

variable {s : Audience ρ}

theorem threads_add (s : Audience ρ) (name resource : Nat) :
    (s.add name resource).threads = s.threads := by
  unfold add
  split
  · rfl
  · rfl

theorem threads_change (s : Audience ρ) (name : Nat) (f : Completion → Completion) :
    (s.change name f).threads = s.threads := by
  unfold change
  split
  · rfl
  · rfl

theorem threads_subscribe (s : Audience ρ) (slot name : Nat) :
    (s.subscribe slot name).threads = s.threads := by
  unfold subscribe
  split
  · exact threads_add _ _ _
  · rfl

theorem threads_duplicate (s : Audience ρ) (name newName : Nat) :
    (s.duplicate name newName).threads = s.threads := by
  unfold duplicate
  split
  · split
    · exact threads_add _ _ _
    · rfl
  · rfl

-- Whoever holds a completion only looks.
theorem threads_turn (x : Audience.Turn ρ) :
    (s.turn x).threads = s.threads ∨ ∃ y, x = .act y ∧ (s.turn x).threads = s.threads.turn y := by
  cases x with
  | act y => exact Or.inr ⟨y, rfl, rfl⟩
  | obtain slot name => exact Or.inl (threads_subscribe _ _ _)
  | clone name newName => exact Or.inl (threads_duplicate _ _ _)
  | wait name => exact Or.inl (threads_change _ _ _)
  | poll name => exact Or.inl (threads_change _ _ _)
  | discard name => exact Or.inl rfl

/-- What holds at every moment: the invariants of the threads, and every completion is one of a
    resource that was made and, if a wait with it is over, of one that is complete. -/
structure Sound (s : Audience ρ) : Prop where
  balanced : Balanced s.commons
  manned : Manned s.threads
  made : ∀ name c, s.completions.get? name = some c → c.resource < s.commons.resources.length
  resolved : ∀ name c, s.completions.get? name = some c → c.waiting = .resolved →
    s.commons.isComplete c.resource = true

namespace Sound

theorem start (factories : Nat → Nat → Except Failure ρ) : Sound (Audience.start factories) where
  balanced := Balanced.ofFactories factories
  manned := Manned.start factories
  made := nofun
  resolved := nofun

-- A completion that is stored keeps the rest as it is.
theorem insert (h : Sound s) (name : Nat) {c : Completion}
    (hmade : c.resource < s.commons.resources.length)
    (hresolved : c.waiting = .resolved → s.commons.isComplete c.resource = true) :
    Sound { s with completions := s.completions.insert name c } := by
  -- Every completion is this one, or was there.
  have hcases : ∀ name' c', (s.completions.insert name c).get? name' = some c' →
      c' = c ∨ s.completions.get? name' = some c' := by
    intro name' c' hc'
    rw [Table.get?_insert] at hc'
    split at hc'
    · cases hc'
      exact Or.inl rfl
    · exact Or.inr hc'
  refine ⟨h.balanced, h.manned, ?_, ?_⟩
  · intro name' c' hc'
    rcases hcases name' c' hc' with rfl | hold
    · exact hmade
    · exact h.made name' c' hold
  · intro name' c' hc'
    rcases hcases name' c' hc' with rfl | hold
    · exact hresolved
    · exact h.resolved name' c' hold

theorem add (h : Sound s) (name : Nat) {resource : Nat}
    (hmade : resource < s.commons.resources.length) : Sound (s.add name resource) := by
  unfold Audience.add
  split
  · exact h
  · exact h.insert name hmade (fun hwaiting => by cases hwaiting)

theorem change (h : Sound s) (name : Nat) {f : Completion → Completion}
    (hresource : ∀ c, (f c).resource = c.resource)
    (hresolved : ∀ c, s.completions.get? name = some c → (f c).waiting = .resolved →
      s.commons.isComplete c.resource = true) : Sound (s.change name f) := by
  unfold Audience.change
  split
  · next c hc =>
    refine h.insert name ?_ ?_
    · rw [hresource]
      exact h.made name c hc
    · rw [hresource]
      exact hresolved c hc
  · exact h

theorem subscribe (h : Sound s) (slot name : Nat) : Sound (s.subscribe slot name) := by
  unfold Audience.subscribe
  split
  · next l hl => exact h.add name (h.balanced.made slot l hl)
  · exact h

theorem duplicate (h : Sound s) (name newName : Nat) : Sound (s.duplicate name newName) := by
  unfold Audience.duplicate
  split
  · next c hc =>
    split
    · exact h.add newName (h.made name c hc)
    · exact h
  · exact h

-- A thread makes no resource disappear, and completes some.
theorem act (h : Sound s) (x : Threads.Turn ρ) : Sound (s.turn (.act x)) := by
  refine ⟨balanced_turn h.balanced x, h.manned.turn h.balanced x, ?_, ?_⟩
  · intro name c hc
    have hmade := h.made name c hc
    change c.resource < (s.threads.turn x).commons.resources.length
    rcases Threads.turn_commons (s := s.threads) x with heq | ⟨m, heq, -⟩
    · rw [heq]
      exact hmade
    · rw [heq]
      exact Nat.lt_of_lt_of_le hmade (Commons.length_step m)
  · intro name c hc hdone
    have hbefore := h.resolved name c hc hdone
    exact (Threads.isComplete_turn_iff h.manned h.balanced x).2 (Or.inl hbefore)

theorem poll (h : Sound s) (name : Nat) : Sound (s.turn (.poll name)) := by
  refine h.change name (fun c => ?_) ?_
  · unfold Completion.poll
    split
    · rfl
    · rfl
  · intro c hc hdone
    unfold Completion.poll at hdone
    split at hdone
    · next hready => rw [← h.balanced.isReady_eq (h.made name c hc), hready.2]
    · exact h.resolved name c hc hdone

theorem turn (h : Sound s) (x : Audience.Turn ρ) : Sound (s.turn x) := by
  cases x with
  | act y => exact h.act y
  | obtain slot name => exact h.subscribe slot name
  | clone name newName => exact h.duplicate name newName
  | wait name =>
      refine h.change name (fun c => ?_) (fun c hc hdone => ?_)
      · split
        · rfl
        · rfl
      · split at hdone
        · cases hdone
        · exact h.resolved name c hc hdone
  | poll name => exact h.poll name
  | discard name =>
      have hold : ∀ name' c, (s.completions.erase name).get? name' = some c →
          s.completions.get? name' = some c := by
        intro name' c hc
        by_cases he : name = name'
        · subst he
          rw [Table.get?_erase_self] at hc
          cases hc
        · rwa [Table.get?_erase_of_ne _ he] at hc
      exact ⟨h.balanced, h.manned, fun name' c hc => h.made name' c (hold name' c hc),
        fun name' c hc => h.resolved name' c (hold name' c hc)⟩

theorem run (h : Sound s) (turns : List (Audience.Turn ρ)) : Sound (s.run turns) := by
  induction turns generalizing s with
  | nil => exact h
  | cons x turns ih => exact ih (h.turn x)

end Sound

/-! ### What completions show -/

variable {r : Nat}

theorem isComplete_turn (h : Sound s) (x : Audience.Turn ρ) :
    (s.turn x).commons.isComplete r = true ↔
      s.commons.isComplete r = true ∨ ∃ t y, x = .act y ∧ s.threads.Announces y t r := by
  rcases threads_turn (s := s) x with hsame | ⟨y, rfl, -⟩
  · rw [commons, hsame]
    refine ⟨Or.inl, fun hdone => hdone.elim id ?_⟩
    rintro ⟨t, y, rfl, hannounces⟩
    have hafter := Threads.completed_of_announces h.manned h.balanced hannounces
    change s.threads.turn y = s.threads at hsame
    rwa [hsame] at hafter
  · refine (Threads.isComplete_turn_iff h.manned h.balanced y).trans (or_congr_right ?_)
    constructor
    · exact fun ⟨t, hannounces⟩ => ⟨t, y, rfl, hannounces⟩
    · rintro ⟨t, y', he, hannounces⟩
      cases he
      exact ⟨t, hannounces⟩

/-- What is complete stays complete. -/
theorem isComplete_run (h : Sound s) (turns : List (Audience.Turn ρ))
    (hdone : s.commons.isComplete r = true) : (s.run turns).commons.isComplete r = true := by
  induction turns generalizing s with
  | nil => exact hdone
  | cons x turns ih => exact ih (h.turn x) ((isComplete_turn h x).2 (Or.inl hdone))

/-- The thread that tore a resource down signals that by its next turn, whatever the others do
    until then; and it is not complete before. -/
theorem announces_next (h : Sound s) {t : Nat} (hteardown : s.threads.TearsDown (.go t) t r)
    {more : List (Audience.Turn ρ)} (hmore : .act (.go t) ∉ more) :
    let after := (s.turn (.act (.go t))).run more
    after.commons.teardowns r = 1 ∧ after.commons.isComplete r = false ∧
      (after.turn (.act (.go t))).commons.isComplete r = true := by
  intro after
  have hstart := Threads.aboutToAnnounce_of_tearsDown h.manned h.balanced hteardown
  -- On the turns of the others: the thread is about to signal at every moment.
  have hpending : ∀ (turns : List (Audience.Turn ρ)) {s : Audience ρ}, Sound s →
      s.threads.AboutToAnnounce t r → .act (.go t) ∉ turns →
      Sound (s.run turns) ∧ (s.run turns).threads.AboutToAnnounce t r := by
    intro turns
    induction turns with
    | nil => exact fun hs habout _ => ⟨hs, habout⟩
    | cons x turns ih =>
        intro s hs habout hnot
        rw [List.mem_cons, not_or] at hnot
        refine ih (hs.turn x) ?_ hnot.2
        rcases threads_turn (s := s) x with hsame | ⟨y, rfl, hturn⟩
        · rw [hsame]
          exact habout
        · rw [hturn]
          refine habout.turn hs.manned hs.balanced ?_
          rintro rfl
          exact hnot.1 rfl
  rcases hpending more (h.act (.go t)) hstart.1 hmore with ⟨hsound, habout⟩
  have hdone := (isComplete_turn hsound (.act (.go t))).2 (Or.inr ⟨t, _, rfl, habout⟩)
  rcases habout with ⟨slot, l, -, hc, hl, hr, -⟩
  rcases Threads.lease_of_closes hsound.manned hc with ⟨l', hl', hstage⟩
  rw [hl] at hl'
  cases hl'
  have hnot := hsound.balanced.not_isComplete_of_signalling hl hstage
  rw [hr] at hnot
  refine ⟨?_, hnot, hdone⟩
  have hteardowns := (hsound.act (.go t)).balanced.teardowns_of_isComplete hdone
  -- To signal is no teardown, so the one that it signals came before.
  rcases Threads.teardowns_turn (s := after.threads) (.go t) r with hsame | ⟨t', hagain⟩
  · exact hsame.symm.trans hteardowns
  · rcases hagain with ⟨slot', l', hx, ⟨d, hp⟩, -⟩
    cases hx
    rcases hc with ⟨d', hp'⟩
    rw [hp'] at hp
    cases hp

/-- While no closing is half done, a resource is complete exactly if its owners are closed or
    gone. -/
theorem isComplete_iff_closed (h : Sound s) (hmade : r < s.commons.resources.length)
    (hwhole : ∀ t slot stage, ¬ s.threads.Closes t slot stage) :
    s.commons.isComplete r = true ↔ ∀ slot l, s.commons.leases.get? slot = some l →
      l.resource = r → l.ownership = .owned → l.closed = true := by
  have hquiet : ∀ slot, s.commons.stageOf slot = .quiet := by
    intro slot
    apply Decidable.byContradiction
    intro hstage
    rcases h.manned.someone slot hstage with ⟨t, stage, hc⟩
    exact hwhole t slot stage hc
  exact (h.balanced.isComplete_iff_of_quiet hquiet hmade).trans
    (Threads.teardowns_eq_one_iff h.balanced hquiet hmade)

theorem poll_of_waiting (h : Sound s) {name : Nat} {c : Completion}
    (hc : s.completions.get? name = some c) (hwaiting : c.waiting = .waiting) :
    (s.turn (.poll name)).completions.get? name =
      some { c with waiting := if c.isComplete s.commons then .resolved else .waiting } := by
  have hready : s.commons.isReady c.resource = c.isComplete s.commons :=
    h.balanced.isReady_eq (h.made name c hc)
  simp only [turn, change, hc, Table.get?_insert_self, Completion.poll, hwaiting, true_and, hready]
  by_cases hdone : c.isComplete s.commons = true
  · rw [if_pos hdone, if_pos hdone]
  · rw [if_neg hdone, if_neg hdone, ← hwaiting]

/-- A completion that is obtained from a lease on a complete resource, whatever became of the
    lease, is over at its first poll. -/
theorem poll_of_obtained (h : Sound s) {slot name : Nat} {l : Lease}
    (hl : s.commons.leases.get? slot = some l) (hfree : s.completions.get? name = none)
    (hdone : s.commons.isComplete l.resource = true) :
    (s.run [.obtain slot name, .wait name, .poll name]).completions.get? name =
      some ⟨l.resource, .resolved⟩ := by
  have hout : s.completions.contains name = false := by
    rw [Table.contains, hfree]
    rfl
  have hobtain : s.subscribe slot name =
      { s with completions := s.completions.insert name ⟨l.resource, .idle⟩ } := by
    simp only [subscribe, hl, add, hout, Bool.false_eq_true, if_false]
  have hwait : (s.run [.obtain slot name, .wait name]).completions.get? name =
      some ⟨l.resource, .waiting⟩ := by
    simp only [run, List.foldl_cons, List.foldl_nil, turn, hobtain, change,
      Table.get?_insert_self, if_true]
  have hsound := h.run [.obtain slot name, .wait name]
  refine (poll_of_waiting hsound hwait rfl).trans ?_
  have hsame : (s.run [.obtain slot name, .wait name]).commons = s.commons := by
    simp only [run, List.foldl_cons, List.foldl_nil, turn, hobtain, commons, threads_change]
  rw [Completion.isComplete, hsame, hdone]
  rfl

end Audience

/-- Completions are exact. At every moment of every run, a completion that was obtained at any
    time shows nothing as long as its resource was not torn down. Only the signal of a thread
    that closes an owned lease on the resource turns it, it is the next step of the thread that
    tore the resource down, and nothing turns it back. A wait is over only once the resource was
    torn down: when nobody is left who could signal, the signal was given. A wait that is polled is
    over if the signal was given, and so is the first poll with a completion that is obtained
    later. While no closing is half done, a resource is complete exactly if its owners are closed
    or gone, and nobody is ever inside the closing of a borrowed lease. -/
theorem completions_are_exact (factories : Nat → Nat → Except Failure ρ)
    (turns : List (Audience.Turn ρ)) (name : Nat) (c : Completion)
    (hc : ((Audience.start factories).run turns).completions.get? name = some c) :
    let s := (Audience.start factories).run turns
    (s.commons.teardowns c.resource = 0 → c.isComplete s.commons = false) ∧
    (∀ x, c.isComplete (s.turn x).commons = true ↔
      c.isComplete s.commons = true ∨ ∃ t y, x = .act y ∧ s.threads.Announces y t c.resource) ∧
    (∀ t more, s.threads.TearsDown (.go t) t c.resource → .act (.go t) ∉ more →
      let after := (s.turn (.act (.go t))).run more
      after.commons.teardowns c.resource = 1 ∧ c.isComplete after.commons = false ∧
        c.isComplete (after.turn (.act (.go t))).commons = true) ∧
    (c.isComplete s.commons = true → ∀ more, c.isComplete (s.run more).commons = true) ∧
    (c.waiting = .resolved → s.commons.teardowns c.resource = 1 ∧ c.isComplete s.commons = true) ∧
    (s.commons.isAlive c.resource = false →
      s.commons.teardowns c.resource = 1 ∧ c.isComplete s.commons = true) ∧
    (c.waiting = .waiting → (s.turn (.poll name)).completions.get? name =
      some { c with waiting := if c.isComplete s.commons then .resolved else .waiting }) ∧
    (c.isComplete s.commons = true → ∀ more slot l later,
      (s.run more).commons.leases.get? slot = some l → l.resource = c.resource →
      (s.run more).completions.get? later = none →
      ((s.run more).run [.obtain slot later, .wait later, .poll later]).completions.get? later =
        some ⟨c.resource, .resolved⟩) ∧
    ((∀ t slot stage, ¬ s.threads.Closes t slot stage) →
      (c.isComplete s.commons = true ↔ ∀ slot l, s.commons.leases.get? slot = some l →
        l.resource = c.resource → l.ownership = .owned → l.closed = true)) ∧
    (∀ t slot stage l, s.commons.leases.get? slot = some l → l.ownership = .borrowed →
      ¬ s.threads.Closes t slot stage) := by
  intro s
  have hs : Audience.Sound s := (Audience.Sound.start factories).run turns
  have hmade := hs.made name c hc
  refine ⟨?_, fun x => Audience.isComplete_turn hs x,
    fun t more hteardown hmore => Audience.announces_next hs hteardown hmore,
    fun hdone more => Audience.isComplete_run hs more hdone, ?_,
    fun hdead => hs.balanced.complete_of_not_isAlive hmade hdead,
    fun hwaiting => Audience.poll_of_waiting hs hc hwaiting, ?_,
    fun hwhole => Audience.isComplete_iff_closed hs hmade hwhole, ?_⟩
  · intro hnever
    cases hdone : c.isComplete s.commons with
    | false => rfl
    | true =>
        rw [hs.balanced.teardowns_of_isComplete hdone] at hnever
        cases hnever
  · intro hresolved
    have hdone := hs.resolved name c hc hresolved
    exact ⟨hs.balanced.teardowns_of_isComplete hdone, hdone⟩
  · intro hdone more slot l later hl hr hfree
    have hthen := Audience.isComplete_run hs more hdone
    rw [← hr]
    rw [← hr] at hthen
    exact Audience.poll_of_obtained (hs.run more) hl hfree hthen
  · intro t slot stage l hl hborrowed hcloses
    have howned := Threads.owned_of_closes hs.manned hs.balanced hcloses hl
    rw [hborrowed] at howned
    cases howned

/-- A wait that began before the only owner closed is over once the closing has signalled, with
    the lease dropped and the resource out of reach. -/
theorem wait_outlives_owner :
    let turns : List (Audience.Turn Unit) := [.act (.call 0 (.create () 0)), .obtain 0 0, .wait 0,
      .poll 0, .act (.call 0 (.drop 0)), .act (.go 0), .act (.go 0), .act (.go 0), .act (.go 0),
      .poll 0]
    let s := (Audience.start (fun _ _ => .error .resourceClosed)).run turns
    s.completions.get? 0 = some ⟨0, .resolved⟩ ∧ s.commons.isAlive 0 = false ∧
      s.commons.teardowns 0 = 1 :=
  ⟨rfl, rfl, ((completions_are_exact _ _ 0 ⟨0, .resolved⟩ rfl).2.2.2.2.1 rfl).1⟩

end Imds
