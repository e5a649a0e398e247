import Imds.Proofs.Lease.Threads

/-!
# References Are Counted

The count of a resource is right while several threads acquire, lend, close and drop,
whatever the order of their steps. The balance of the commons says most of it, and it
knows nothing of threads. What is added here is who stands where.

A closing that is half done has exactly one thread that does it, and the thread and the
lease agree on how far it is. So when no thread is inside a call, no closing is half
done, and the balance speaks about open leases alone. And a thread that is about to
tear down is found, on the way back through the run, at its own release of the last
reference.

## Main definitions

* `Threads.Does`: All that a turn can do.
* `Threads.Closes`, `Threads.Releases`, `Threads.TearsDown`: Who does what.
* `Manned`: Every closing that is under way has its thread.
* `Threads.ClosesAgain`, `Threads.Unmoved`: To close again, and what stays.

## Theorems

* `balanced_run`, `Manned.run`: The invariants of all runs.
* `released_of_tearing`: Who is about to tear down has released the last reference.
* `references_are_counted`: What holds at every moment of every run.
-/

namespace Imds

variable {ρ : Type}

namespace Threads

/-- All that a turn can do. -/
inductive Does (s : Threads ρ) (x : Threads.Turn ρ) (s' : Threads ρ) : Prop
  /-- Nothing: the thread has to wait, or there is no such turn. -/
  | nothing (hs : s' = s)
  /-- A step that closes nothing, of a thread that closes nothing. -/
  | passes (t : Nat) (m : Move ρ) (p : Option Place) (hm : m.IsPlain)
      (hbefore : ∀ slot stage d, s.place t ≠ some (.closing slot stage d))
      (hafter : ∀ slot stage d, p ≠ some (.closing slot stage d)) (hs : s' = s.move t m p)
  /-- A thread begins to close a lease. -/
  | marks (t slot : Nat) (d : Bool) (h : s.place t = none)
      (hs : s' = s.move t (.mark slot) (Place.next slot (s.commons.stageOnMark slot) d))
  /-- A thread releases the reference of the lease that it closes. -/
  | releases (t slot : Nat) (d : Bool) (hx : x = .go t)
      (h : s.place t = some (.closing slot .releasing d))
      (hs : s' = s.move t (.release slot)
        (Place.next slot (if s.commons.refCount slot = 1 then .tearing else .quiet) d))
  /-- A thread tears the resource of the lease down. -/
  | tearsDown (t slot : Nat) (d : Bool) (hx : x = .go t)
      (h : s.place t = some (.closing slot .tearing d))
      (hs : s' = s.move t (.tearDown slot) (Place.next slot .signalling d))
  /-- A thread signals that. -/
  | signals (t slot : Nat) (d : Bool) (hx : x = .go t)
      (h : s.place t = some (.closing slot .signalling d))
      (hs : s' = s.move t (.signal slot) (Place.next slot .quiet d))

theorem does_call (s : Threads ρ) (t : Nat) (c : Call ρ) (x : Threads.Turn ρ)
    (h : s.place t = none) : Does s x (s.call t c) := by
  have hbefore : ∀ slot stage d, s.place t ≠ some (.closing slot stage d) := by
    intro slot stage d hp
    rw [h] at hp
    cases hp
  cases c with
  | create payload slot =>
      exact .passes t (.create payload slot) none trivial hbefore (fun _ _ _ hp => nomatch hp) rfl
  | acquire source slot =>
      change Does s x (if s.commons.visits.contains source then s else _)
      by_cases hinside : s.commons.visits.contains source = true
      · rw [if_pos hinside]
        exact .nothing rfl
      · rw [if_neg hinside]
        exact .passes t (.enter source) (some (.asking source slot)) trivial hbefore
          (fun _ _ _ hp => nomatch hp) rfl
  | lend slot newSlot =>
      exact .passes t (.lend slot newSlot) none trivial hbefore (fun _ _ _ hp => nomatch hp) rfl
  | close slot => exact .marks t slot false h rfl
  | drop slot => exact .marks t slot true h rfl

theorem does_go (s : Threads ρ) (t : Nat) (p : Place) (h : s.place t = some p) :
    Does s (.go t) (s.go t p) := by
  cases p with
  | asking source slot =>
      refine .passes t _ _ (s.commons.isPlain_visitMove source slot) ?_ ?_ rfl
      · intro slot' stage d hp
        rw [h] at hp
        cases hp
      · intro slot' stage d
        -- The visit goes on, or it is at its end.
        by_cases hinside : (s.commons.step
            (s.commons.visitMove source slot)).visits.contains source = true
        · rw [if_pos hinside]
          exact fun hp => nomatch hp
        · rw [if_neg hinside]
          exact fun hp => nomatch hp
  | closing slot stage d =>
      cases stage with
      | quiet => exact .nothing rfl
      | releasing => exact .releases t slot d rfl h rfl
      | tearing => exact .tearsDown t slot d rfl h rfl
      | signalling => exact .signals t slot d rfl h rfl
  | ending slot =>
      refine .passes t (.forget slot) none trivial ?_ (fun _ _ _ hp => nomatch hp) rfl
      intro slot' stage d hp
      rw [h] at hp
      cases hp

theorem does_turn (s : Threads ρ) (x : Threads.Turn ρ) : Does s x (s.turn x) := by
  cases x with
  | call t c =>
      cases h : s.place t with
      | some p =>
          simp only [turn, h]
          exact .nothing rfl
      | none =>
          simp only [turn, h]
          exact does_call s t c _ h
  | go t =>
      cases h : s.place t with
      | none =>
          simp only [turn, h]
          exact .nothing rfl
      | some p =>
          simp only [turn, h]
          exact does_go s t p h

end Threads

/-! ### What a turn does to what is shared -/

namespace Threads

/-- A thread closes a lease, and has come to a stage. -/
def Closes (s : Threads ρ) (t slot : Nat) (stage : Stage) : Prop :=
  ∃ d, s.place t = some (.closing slot stage d)

/-- The turn is the release of a thread, on a lease on the resource. -/
def Releases (s : Threads ρ) (x : Threads.Turn ρ) (r : Nat) : Prop :=
  ∃ t slot l, x = .go t ∧ s.Closes t slot .releasing ∧
    s.commons.leases.get? slot = some l ∧ l.resource = r

/-- The turn is a teardown by a thread, on a lease on the resource. -/
def TearsDown (s : Threads ρ) (x : Threads.Turn ρ) (t r : Nat) : Prop :=
  ∃ slot l, x = .go t ∧ s.Closes t slot .tearing ∧
    s.commons.leases.get? slot = some l ∧ l.resource = r

variable {s : Threads ρ}

-- What is shared changes by single steps, and no step releases or tears down without a thread
-- that does.
theorem turn_commons (x : Threads.Turn ρ) :
    (s.turn x).commons = s.commons ∨ ∃ m, (s.turn x).commons = s.commons.step m ∧
      (∀ r, s.commons.Frees m r → s.Releases x r) ∧
      ∀ r, s.commons.Tears m r → ∃ t, s.TearsDown x t r := by
  -- Steps of other kinds neither release nor tear down, whoever takes them.
  have hnone : ∀ {m : Move ρ}, (∀ slot, m ≠ .release slot) → (∀ slot, m ≠ .tearDown slot) →
      (∀ r, s.commons.Frees m r → s.Releases x r) ∧
        ∀ r, s.commons.Tears m r → ∃ t, s.TearsDown x t r :=
    fun hf ht => ⟨fun r h => absurd h (Commons.not_frees hf r),
      fun r h => absurd h (Commons.not_tears ht r)⟩
  cases s.does_turn x with
  | nothing hs => exact Or.inl (by rw [hs])
  | passes t m p hplain _ _ hs =>
      refine Or.inr ⟨m, by rw [hs, move], hnone ?_ ?_⟩
      · rintro slot rfl
        exact hplain.elim
      · rintro slot rfl
        exact hplain.elim
  | marks t slot d _ hs =>
      exact Or.inr ⟨.mark slot, by rw [hs, move],
        hnone (m := .mark slot) (fun _ h => nomatch h) (fun _ h => nomatch h)⟩
  | releases t slot d hx hp hs =>
      refine Or.inr ⟨.release slot, by rw [hs, move], ?_,
        fun r h => absurd h (Commons.not_tears (m := .release slot) (fun _ he => nomatch he) r)⟩
      intro r ht
      rcases ht with ⟨slot', l, hslot, hl, -, hr⟩
      cases hslot
      exact ⟨t, slot, l, hx, ⟨d, hp⟩, hl, hr⟩
  | tearsDown t slot d hx hp hs =>
      refine Or.inr ⟨.tearDown slot, by rw [hs, move],
        fun r h => absurd h (Commons.not_frees (m := .tearDown slot) (fun _ he => nomatch he) r),
        ?_⟩
      intro r ht
      rcases ht with ⟨slot', l, hslot, hl, -, hr⟩
      cases hslot
      exact ⟨t, slot, l, hx, ⟨d, hp⟩, hl, hr⟩
  | signals t slot d _ _ hs =>
      exact Or.inr ⟨.signal slot, by rw [hs, move],
        hnone (m := .signal slot) (fun _ h => nomatch h) (fun _ h => nomatch h)⟩

end Threads

theorem balanced_turn {s : Threads ρ} (h : Balanced s.commons) (x : Threads.Turn ρ) :
    Balanced (s.turn x).commons := by
  rcases Threads.turn_commons (s := s) x with heq | ⟨m, heq, -⟩
  · rw [heq]
    exact h
  · rw [heq]
    exact h.step m

theorem balanced_run {s : Threads ρ} (h : Balanced s.commons) (turns : List (Threads.Turn ρ)) :
    Balanced (s.run turns).commons := by
  induction turns generalizing s with
  | nil => exact h
  | cons x turns ih => exact ih (balanced_turn h x)

/-! ### Every closing has its thread -/

/-- The threads and the leases agree on the closings that are under way, and each of them
    is done by one thread. -/
structure Manned (s : Threads ρ) : Prop where
  agrees : ∀ t slot stage, s.Closes t slot stage → stage ≠ .quiet ∧ s.commons.stageOf slot = stage
  alone : ∀ t t' slot stage stage', s.Closes t slot stage → s.Closes t' slot stage' → t = t'
  someone : ∀ slot, s.commons.stageOf slot ≠ .quiet → ∃ t stage, s.Closes t slot stage

namespace Manned

variable {s : Threads ρ}

theorem start (factories : Nat → Nat → Except Failure ρ) : Manned (Threads.start factories) where
  agrees := fun _ _ _ ⟨_, h⟩ => nomatch h
  alone := fun _ _ _ _ _ ⟨_, h⟩ => nomatch h
  someone := fun _ h => absurd rfl h

-- A place after a closing is one of closing as long as there is something to do.
theorem next_eq_closing_iff {slot slot' : Nat} {stage stage' : Stage} {d : Bool} :
    (∃ d', Place.next slot stage d = some (.closing slot' stage' d')) ↔
      slot = slot' ∧ stage = stage' ∧ stage ≠ .quiet := by
  unfold Place.next
  by_cases hstage : stage = .quiet
  · rw [if_pos hstage]
    constructor
    · intro h
      rcases h with ⟨d', h⟩
      cases d with
      | true => cases h
      | false => cases h
    · exact fun h => absurd hstage h.2.2
  · rw [if_neg hstage]
    constructor
    · intro h
      rcases h with ⟨d', h⟩
      cases h
      exact ⟨rfl, rfl, hstage⟩
    · intro h
      rcases h with ⟨rfl, rfl, -⟩
      exact ⟨d, rfl⟩

theorem closes_move_self {t : Nat} {m : Move ρ} {p : Option Place} {slot : Nat} {stage : Stage} :
    (s.move t m p).Closes t slot stage ↔ ∃ d, p = some (.closing slot stage d) := by
  simp only [Threads.Closes, Threads.move, updateAt_self]

theorem closes_move_of_ne {t t' : Nat} {m : Move ρ} {p : Option Place} {slot : Nat}
    {stage : Stage} (hne : t' ≠ t) :
    (s.move t m p).Closes t' slot stage ↔ s.Closes t' slot stage := by
  simp only [Threads.Closes, Threads.move, updateAt_of_ne _ _ hne]

-- A step that touches no stage, of a thread that closes nothing.
theorem keep (h : Manned s) {t : Nat} {m : Move ρ} {p : Option Place}
    (hstages : ∀ slot, (s.commons.step m).stageOf slot = s.commons.stageOf slot)
    (hbefore : ∀ slot stage, ¬ s.Closes t slot stage)
    (hafter : ∀ slot stage d, p ≠ some (.closing slot stage d)) : Manned (s.move t m p) := by
  -- So who closes what is as it was before, for this thread and for all others.
  have hcloses : ∀ t' slot stage, (s.move t m p).Closes t' slot stage ↔
      s.Closes t' slot stage := by
    intro t' slot stage
    by_cases ht : t' = t
    · subst ht
      rw [closes_move_self]
      constructor
      · intro h
        rcases h with ⟨d, hp⟩
        exact absurd hp (hafter slot stage d)
      · exact fun hp => absurd hp (hbefore slot stage)
    · exact closes_move_of_ne ht
  refine ⟨?_, ?_, ?_⟩
  · intro t' slot stage hc
    rw [hcloses] at hc
    change stage ≠ .quiet ∧ (s.commons.step m).stageOf slot = stage
    rw [hstages]
    exact h.agrees t' slot stage hc
  · intro t' t'' slot stage stage' hc hc'
    rw [hcloses] at hc hc'
    exact h.alone t' t'' slot stage stage' hc hc'
  · intro slot hslot
    change (s.commons.step m).stageOf slot ≠ .quiet at hslot
    rw [hstages] at hslot
    rcases h.someone slot hslot with ⟨t', stage, hc⟩
    exact ⟨t', stage, (hcloses t' slot stage).2 hc⟩

-- A step that brings one lease to a stage, of the one thread that closes it.
theorem advance (h : Manned s) {t slot : Nat} {m : Move ρ} {stage : Stage} {d : Bool}
    (hstages : ∀ slot', (s.commons.step m).stageOf slot' =
      if slot = slot' then stage else s.commons.stageOf slot')
    (hbefore : ∀ slot' stage', s.Closes t slot' stage' → slot' = slot)
    (hothers : ∀ t' stage', s.Closes t' slot stage' → t' = t) :
    Manned (s.move t m (Place.next slot stage d)) := by
  refine ⟨?_, ?_, ?_⟩
  · intro t' slot' stage' hc
    change stage' ≠ .quiet ∧ (s.commons.step m).stageOf slot' = stage'
    rw [hstages]
    by_cases ht : t' = t
    · subst ht
      rcases next_eq_closing_iff.1 (closes_move_self.1 hc) with ⟨rfl, rfl, hstage⟩
      rw [if_pos rfl]
      exact ⟨hstage, rfl⟩
    · rw [closes_move_of_ne ht] at hc
      have hne : slot ≠ slot' := fun he => ht (hothers t' stage' (he ▸ hc))
      rw [if_neg hne]
      exact h.agrees t' slot' stage' hc
  · -- Two threads at one lease: neither is the one that moved, or both are.
    have hmoved : ∀ t' slot' stage' stage'', t' ≠ t →
        (s.move t m (Place.next slot stage d)).Closes t slot' stage' →
        ¬ (s.move t m (Place.next slot stage d)).Closes t' slot' stage'' := by
      intro t' slot' stage' stage'' ht hc hc'
      rcases next_eq_closing_iff.1 (closes_move_self.1 hc) with ⟨rfl, -, -⟩
      rw [closes_move_of_ne ht] at hc'
      exact ht (hothers t' stage'' hc')
    intro t' t'' slot' stage' stage'' hc hc'
    by_cases ht : t' = t
    · by_cases ht' : t'' = t
      · rw [ht, ht']
      · exact absurd hc' (hmoved t'' slot' stage' stage'' ht' (ht ▸ hc))
    · by_cases ht' : t'' = t
      · exact absurd hc (hmoved t' slot' stage'' stage' ht (ht' ▸ hc'))
      · rw [closes_move_of_ne ht] at hc
        rw [closes_move_of_ne ht'] at hc'
        exact h.alone t' t'' slot' stage' stage'' hc hc'
  · intro slot' hslot
    change (s.commons.step m).stageOf slot' ≠ .quiet at hslot
    rw [hstages] at hslot
    by_cases he : slot = slot'
    · rw [if_pos he] at hslot
      exact ⟨t, stage, closes_move_self.2 (next_eq_closing_iff.2 ⟨he, rfl, hslot⟩)⟩
    · rw [if_neg he] at hslot
      rcases h.someone slot' hslot with ⟨t', stage', hc⟩
      have ht : t' ≠ t := by
        rintro rfl
        exact he (hbefore slot' stage' hc).symm
      exact ⟨t', stage', (closes_move_of_ne ht).2 hc⟩

-- A thread that goes on with its closing closes one lease, and nobody else does.
theorem only (h : Manned s) {t slot : Nat} {stage : Stage} (hc : s.Closes t slot stage) :
    (∀ slot' stage', s.Closes t slot' stage' → slot' = slot) ∧
      ∀ t' stage', s.Closes t' slot stage' → t' = t := by
  refine ⟨?_, fun t' stage' hc' => h.alone t' t slot stage' stage hc' hc⟩
  intro slot' stage' h
  rcases h with ⟨d', hp'⟩
  rcases hc with ⟨d, hp⟩
  rw [hp] at hp'
  cases hp'
  rfl

theorem turn (h : Manned s) (hb : Balanced s.commons) (x : Threads.Turn ρ) : Manned (s.turn x) := by
  cases s.does_turn x with
  | nothing hs =>
      rw [hs]
      exact h
  | passes t m p hm hbefore hafter hs =>
      rw [hs]
      refine h.keep (fun slot => Commons.stageOf_step_of_isPlain hm slot) ?_ hafter
      intro slot stage h
      rcases h with ⟨d, hp⟩
      exact hbefore slot stage d hp
  | marks t slot d hidle hs =>
      rw [hs]
      have hnot : ∀ slot' stage', ¬ s.Closes t slot' stage' := by
        intro slot' stage' h'
        rcases h' with ⟨d', hp⟩
        rw [hidle] at hp
        cases hp
      by_cases hquiet : s.commons.stageOnMark slot = .quiet
      · -- Nothing is left to do, so the thread has not begun to close anything.
        refine h.keep ?_ hnot ?_
        · intro slot'
          rw [Commons.step, Commons.stageOf_mark hb, if_neg (fun hand => hand.2 hquiet)]
        · intro slot' stage' d' hp
          exact (next_eq_closing_iff.1 ⟨d', hp⟩).2.2 hquiet
      · refine h.advance ?_ (fun slot' stage' hc => absurd hc (hnot slot' stage')) ?_
        · intro slot'
          rw [Commons.step, Commons.stageOf_mark hb]
          simp only [hquiet, ne_eq, not_false_eq_true, and_true]
        · -- A lease that is open has no thread that closes it.
          intro t' stage' hc
          exfalso
          rcases h.agrees t' slot stage' hc with ⟨hstage, hat⟩
          rcases Commons.exists_of_stageOf hat hstage with ⟨l, hl, hlstage⟩
          have hclosed := (hb.sound slot l hl (by rw [hlstage]; exact hstage)).2
          exact hquiet (by simp [Commons.stageOnMark, hl, hclosed])
  | releases t slot d _ hp hs =>
      rw [hs]
      have hc : s.Closes t slot .releasing := ⟨d, hp⟩
      exact h.advance (Commons.stageOf_release (h.agrees _ _ _ hc).2) (h.only hc).1 (h.only hc).2
  | tearsDown t slot d _ hp hs =>
      rw [hs]
      have hc : s.Closes t slot .tearing := ⟨d, hp⟩
      exact h.advance (Commons.stageOf_tearDown (h.agrees _ _ _ hc).2) (h.only hc).1 (h.only hc).2
  | signals t slot d _ hp hs =>
      rw [hs]
      have hc : s.Closes t slot .signalling := ⟨d, hp⟩
      exact h.advance (Commons.stageOf_signal (h.agrees _ _ _ hc).2) (h.only hc).1 (h.only hc).2

theorem run (h : Manned s) (hb : Balanced s.commons) (turns : List (Threads.Turn ρ)) :
    Manned (s.run turns) := by
  induction turns generalizing s with
  | nil => exact h
  | cons x turns ih => exact ih (h.turn hb x) (balanced_turn hb x)

-- While no thread is inside a call, no closing is half done.
theorem quiet_of_idle (h : Manned s) (hidle : ∀ t, s.place t = none) (slot : Nat) :
    s.commons.stageOf slot = .quiet := by
  by_cases hstage : s.commons.stageOf slot = .quiet
  · exact hstage
  · -- Whoever was to finish it would be inside a call.
    rcases h.someone slot hstage with ⟨t, stage, d, hp⟩
    rw [hidle t] at hp
    cases hp

end Manned

/-! ### Who tears down -/

namespace Threads

variable {s : Threads ρ}

theorem turn_of_releasing {t slot : Nat} (h : s.Closes t slot .releasing) :
    (s.turn (.go t)).commons = s.commons.step (.release slot) := by
  rcases h with ⟨d, hp⟩
  simp only [turn, hp]
  rfl

theorem stageOnMark_ne_tearing (s : Commons ρ) (slot : Nat) : s.stageOnMark slot ≠ .tearing := by
  unfold Commons.stageOnMark
  split
  · split
    · exact Stage.noConfusion
    · exact Stage.noConfusion
  · exact Stage.noConfusion

-- A thread comes to a teardown by its release of the last reference only.
theorem tearing_of_turn {x : Threads.Turn ρ} {t slot : Nat}
    (h : (s.turn x).Closes t slot .tearing) :
    s.Closes t slot .tearing ∨
      x = .go t ∧ s.Closes t slot .releasing ∧ s.commons.refCount slot = 1 := by
  -- A turn of another thread leaves this one where it was.
  have hmoved : ∀ {t' : Nat} {m : Move ρ} {p : Option Place}, s.turn x = s.move t' m p →
      s.Closes t slot .tearing ∨ t = t' ∧ ∃ d, p = some (.closing slot .tearing d) := by
    intro t' m p hs
    rw [hs] at h
    by_cases ht : t = t'
    · subst ht
      exact Or.inr ⟨rfl, Manned.closes_move_self.1 h⟩
    · exact Or.inl ((Manned.closes_move_of_ne ht).1 h)
  cases s.does_turn x with
  | nothing hs =>
      rw [hs] at h
      exact Or.inl h
  | passes t' m p _ _ hafter hs =>
      rcases hmoved hs with hc | ⟨-, d, hp⟩
      · exact Or.inl hc
      · exact absurd hp (hafter slot .tearing d)
  | marks t' slot' d' _ hs =>
      rcases hmoved hs with hc | ⟨-, hp⟩
      · exact Or.inl hc
      · exact absurd (Manned.next_eq_closing_iff.1 hp).2.1 (stageOnMark_ne_tearing _ _)
  | releases t' slot' d' hx hplace hs =>
      rcases hmoved hs with hc | ⟨rfl, hp⟩
      · exact Or.inl hc
      · rcases Manned.next_eq_closing_iff.1 hp with ⟨rfl, hstage, -⟩
        -- The same look at the count decides what the thread does and what the lease becomes.
        by_cases hlast : s.commons.refCount slot' = 1
        · exact Or.inr ⟨hx, ⟨d', hplace⟩, hlast⟩
        · rw [if_neg hlast] at hstage
          cases hstage
  | tearsDown t' slot' d' _ _ hs =>
      rcases hmoved hs with hc | ⟨-, hp⟩
      · exact Or.inl hc
      · exact nomatch (Manned.next_eq_closing_iff.1 hp).2.1
  | signals t' slot' d' _ _ hs =>
      rcases hmoved hs with hc | ⟨-, hp⟩
      · exact Or.inl hc
      · exact nomatch (Manned.next_eq_closing_iff.1 hp).2.1

-- In a state that is manned, who closes a lease has it.
theorem lease_of_closes (h : Manned s) {t slot : Nat} {stage : Stage}
    (hc : s.Closes t slot stage) :
    ∃ l, s.commons.leases.get? slot = some l ∧ l.stage = stage := by
  rcases h.agrees t slot stage hc with ⟨hstage, hat⟩
  exact Commons.exists_of_stageOf hat hstage

-- Handles that are granted and references that are released are counted one by one, and nothing
-- else moves the count.
theorem references_turn (hm : Manned s) (hb : Balanced s.commons) (x : Threads.Turn ρ) (r : Nat) :
    (s.commons.Grants (s.turn x).commons r →
        (s.turn x).commons.references r = s.commons.references r + 1) ∧
      (s.Releases x r → (s.turn x).commons.references r + 1 = s.commons.references r) ∧
      (¬ s.commons.Grants (s.turn x).commons r → ¬ s.Releases x r →
        (s.turn x).commons.references r = s.commons.references r) := by
  have hreleases : s.Releases x r →
      (s.turn x).commons.references r + 1 = s.commons.references r := by
    intro h
    rcases h with ⟨t, slot, l, rfl, hc, hl, rfl⟩
    have hstage := (Commons.stageOf_eq hl).symm.trans (hm.agrees t slot _ hc).2
    rw [turn_of_releasing hc]
    exact (hb.references_step _ _).2.1 ⟨slot, l, rfl, hl, hstage, rfl⟩
  -- A release of the step is one of the turn, so what the step says of the count carries over.
  rcases turn_commons (s := s) x with heq | ⟨m, heq, hfrees, -⟩
  · rw [heq]
    rw [heq] at hreleases
    exact ⟨fun hg => absurd hg (Commons.not_grants_self r), hreleases, fun _ _ => rfl⟩
  · refine ⟨?_, hreleases, ?_⟩
    · rw [heq]
      exact (hb.references_step m r).1
    · intro hg hr
      rw [heq] at hg ⊢
      exact (hb.references_step m r).2.2 hg (fun hf => hr (hfrees r hf))

-- Only a thread that has come to it tears a resource down.
theorem teardowns_turn (x : Threads.Turn ρ) (r : Nat) :
    (s.turn x).commons.teardowns r = s.commons.teardowns r ∨ ∃ t, s.TearsDown x t r := by
  rcases turn_commons (s := s) x with heq | ⟨m, heq, -, htears⟩
  · exact Or.inl (by rw [heq])
  · rcases Commons.teardowns_step (s := s.commons) m r with ⟨ht, -⟩ | hsame
    · exact Or.inr (htears r ht)
    · rw [heq]
      exact Or.inl hsame

-- Once the count is zero it stays zero.
theorem references_run_eq_zero (turns : List (Threads.Turn ρ)) {r : Nat}
    (hmade : r < s.commons.resources.length) (hzero : s.commons.references r = 0) :
    (s.run turns).commons.references r = 0 := by
  induction turns generalizing s with
  | nil => exact hzero
  | cons x turns ih =>
      rcases turn_commons (s := s) x with heq | ⟨m, heq, -⟩
      · exact ih (heq ▸ hmade) (heq ▸ hzero)
      · refine ih ?_ ?_
        · rw [heq]
          exact Nat.lt_of_lt_of_le hmade (Commons.length_step m)
        · rw [heq]
          exact Commons.references_step_eq_zero m hmade hzero

-- Who closes a lease before and after a turn closes the same handle.
theorem resource_turn (x : Threads.Turn ρ) {slot : Nat} {l l' : Lease}
    (hl : s.commons.leases.get? slot = some l)
    (hl' : (s.turn x).commons.leases.get? slot = some l') : l'.resource = l.resource := by
  rcases turn_commons (s := s) x with heq | ⟨m, heq, -⟩
  · rw [heq, hl] at hl'
    cases hl'
    rfl
  · rw [heq] at hl'
    exact (Commons.lease_step m hl hl').1

/-- Who is about to tear a resource down has released its last reference in the course
    of the run, or was about to when it began. -/
theorem released_of_tearing (hm : Manned s) (hb : Balanced s.commons)
    (turns : List (Threads.Turn ρ)) {t slot : Nat} {l : Lease}
    (hc : (s.run turns).Closes t slot .tearing)
    (hl : (s.run turns).commons.leases.get? slot = some l) :
    (∃ l₀, s.Closes t slot .tearing ∧ s.commons.leases.get? slot = some l₀ ∧
        l.resource = l₀.resource) ∨
      ∃ earlier later, turns = earlier ++ .go t :: later ∧
        (s.run earlier).Closes t slot .releasing ∧
        (s.run earlier).commons.references l.resource = 1 ∧
        (s.run (earlier ++ [.go t])).commons.references l.resource = 0 := by
  -- On the turns: the first one brought the thread here, or one of the others did.
  induction turns generalizing s with
  | nil => exact Or.inl ⟨l, hc, hl, rfl⟩
  | cons x turns ih =>
      rcases ih (hm.turn hb x) (balanced_turn hb x) hc hl with
        ⟨l₁, hc₁, hl₁, hresource⟩ | ⟨earlier, later, rfl, hreleasing, hone, hzero⟩
      · -- The rest of the run found the thread at its teardown, so look at the first turn.
        rcases tearing_of_turn hc₁ with hbefore | ⟨rfl, hbefore, hlast⟩
        · rcases lease_of_closes hm hbefore with ⟨l₀, hl₀, -⟩
          exact Or.inl ⟨l₀, hbefore, hl₀, hresource.trans (resource_turn x hl₀ hl₁)⟩
        · rcases lease_of_closes hm hbefore with ⟨l₀, hl₀, -⟩
          have hsame : l.resource = l₀.resource := hresource.trans (resource_turn _ hl₀ hl₁)
          have hone : s.commons.references l₀.resource = 1 := by
            rw [← hlast, Commons.refCount, hl₀]
          have hcount := (references_turn hm hb (.go t) l₀.resource).2.1
            ⟨t, slot, l₀, rfl, hbefore, hl₀, rfl⟩
          rw [hsame]
          refine Or.inr ⟨[], turns, rfl, hbefore, hone, ?_⟩
          change (s.turn (.go t)).commons.references l₀.resource = 0
          omega
      · exact Or.inr ⟨x :: earlier, later, rfl, hreleasing, hone, hzero⟩

end Threads

/-! ### What holds at every moment -/

namespace Threads

variable {s : Threads ρ}

-- While no closing is half done, a resource was torn down exactly if all its owners are closed.
theorem teardowns_eq_one_iff (hb : Balanced s.commons)
    (hquiet : ∀ slot, s.commons.stageOf slot = .quiet) {r : Nat}
    (hmade : r < s.commons.resources.length) :
    s.commons.teardowns r = 1 ↔ ∀ slot l, s.commons.leases.get? slot = some l →
      l.resource = r → l.ownership = .owned → l.closed = true := by
  have hstage : ∀ slot l, s.commons.leases.get? slot = some l → l.stage = .quiet :=
    fun slot l hl => (Commons.stageOf_eq hl).symm.trans (hquiet slot)
  -- Nobody is about to tear down, so what was not torn down has an owner.
  have htearing : s.commons.tally (Lease.isAt .tearing) r = 0 := by
    refine (Table.count_eq_zero_iff _ _).2 (fun slot l hl => ?_)
    simp [Lease.isAt, hstage slot l hl]
  have hcount := hb.teardowns_eq hmade
  rw [htearing, hb.references_eq r] at hcount
  have hzero : s.commons.teardowns r = 1 ↔ s.commons.tally Lease.holds r = 0 := by
    by_cases h : s.commons.tally Lease.holds r = 0
    · rw [if_pos h] at hcount
      exact ⟨fun _ => h, fun _ => by omega⟩
    · rw [if_neg h] at hcount
      exact ⟨fun hone => by omega, fun h' => absurd h' h⟩
  -- While all is quiet, an owned lease holds its reference exactly as long as it is open.
  rw [hzero, Commons.tally, Table.count_eq_zero_iff]
  constructor
  · intro h slot l hl hr howned
    have hholds := h slot l hl
    have hpoints : l.pointsAt r = true := beq_iff_eq.2 hr
    rw [hpoints, Bool.true_and] at hholds
    simpa [Lease.holds, howned, hstage slot l hl] using hholds
  · intro h slot l hl
    by_cases hr : l.resource = r
    · by_cases howned : l.ownership = .owned
      · simp [Lease.holds, h slot l hl hr howned, hstage slot l hl]
      · simp [Lease.holds, howned]
    · have hpoints : l.pointsAt r = false := beq_eq_false_iff_ne.2 hr
      rw [hpoints, Bool.false_and]

/-- The turn lets a thread that was idle close or drop a lease, or go on with that. -/
def ClosesAgain (s : Threads ρ) (slot : Nat) : Threads.Turn ρ → Prop
  | .call t (.close slot') => s.place t = none ∧ slot' = slot
  | .call t (.drop slot') => s.place t = none ∧ slot' = slot
  | .call _ _ => False
  | .go t => s.place t = none

/-- What closing a closed lease again can come to: the lease may be gone. -/
structure Unmoved (s s' : Threads ρ) (slot : Nat) : Prop where
  resources : s'.commons.resources = s.commons.resources
  leases : ∀ slot', slot' ≠ slot → s'.commons.leases.get? slot' = s.commons.leases.get? slot'
  closed : ∀ l, s'.commons.leases.get? slot = some l → l.closed = true
  places : ∀ t, s.place t = none → s'.place t = none ∨ s'.place t = some (.ending slot)

namespace Unmoved

variable {s' : Threads ρ} {slot : Nat}

-- A step of a thread that closes again.
theorem move (h : Unmoved s s' slot) {t : Nat} {m : Move ρ} {p : Option Place}
    (hresources : (s'.commons.step m).resources = s'.commons.resources)
    (hleases : ∀ slot', slot' ≠ slot →
      (s'.commons.step m).leases.get? slot' = s'.commons.leases.get? slot')
    (hclosed : ∀ l, (s'.commons.step m).leases.get? slot = some l → l.closed = true)
    (hp : p = none ∨ p = some (.ending slot)) : Unmoved s (s'.move t m p) slot := by
  refine ⟨hresources.trans h.resources, fun slot' hne => (hleases slot' hne).trans (h.leases _ hne),
    hclosed, ?_⟩
  intro t' ht'
  by_cases he : t' = t
  · rw [he, place_move]
    exact hp
  · rw [place_move_of_ne _ _ _ he]
    exact h.places t' ht'

theorem mark (h : Unmoved s s' slot) (t : Nat) (d : Bool) :
    Unmoved s (s'.move t (.mark slot) (Place.next slot (s'.commons.stageOnMark slot) d)) slot := by
  have hmark : s'.commons.step (.mark slot) = s'.commons := (Commons.mark_of_closed h.closed).1
  rw [(Commons.mark_of_closed h.closed).2]
  refine h.move (by rw [hmark]) (fun _ _ => by rw [hmark]) (by rw [hmark]; exact h.closed) ?_
  cases d with
  | false => exact Or.inl rfl
  | true => exact Or.inr rfl

theorem forget (h : Unmoved s s' slot) (t : Nat) :
    Unmoved s (s'.move t (.forget slot) none) slot := by
  have hcases : s'.commons.forget slot = s'.commons ∨
      s'.commons.forget slot = { s'.commons with leases := s'.commons.leases.erase slot } := by
    unfold Commons.forget
    split
    · split
      · exact Or.inr rfl
      · exact Or.inl rfl
    · exact Or.inl rfl
  have hstep : s'.commons.step (.forget slot) = s'.commons.forget slot := rfl
  rcases hcases with hsame | herased
  · refine h.move ?_ ?_ ?_ (Or.inl rfl)
    · rw [hstep, hsame]
    · intro slot' _
      rw [hstep, hsame]
    · rw [hstep, hsame]
      exact h.closed
  · refine h.move ?_ ?_ ?_ (Or.inl rfl)
    · rw [hstep, herased]
    · intro slot' hne
      rw [hstep, herased]
      exact Table.get?_erase_of_ne _ (Ne.symm hne)
    · intro l hl
      rw [hstep, herased] at hl
      rw [Table.get?_erase_self] at hl
      cases hl

theorem turn (h : Unmoved s s' slot) {x : Threads.Turn ρ} (hx : s.ClosesAgain slot x) :
    Unmoved s (s'.turn x) slot := by
  -- A thread that is still inside a call begins no other.
  have hbusy : ∀ {t : Nat} {c : Call ρ}, s'.place t ≠ none → s'.turn (.call t c) = s' := by
    intro t c hp
    cases hplace : s'.place t with
    | none => exact absurd hplace hp
    | some p => simp only [Threads.turn, hplace]
  cases x with
  | go t =>
      rcases h.places t hx with hnone | hending
      · simp only [Threads.turn, hnone]
        exact h
      · simp only [Threads.turn, hending]
        exact h.forget t
  | call t c =>
      by_cases hp : s'.place t = none
      · simp only [Threads.turn, hp]
        cases c with
        | close slot' =>
            rcases hx with ⟨-, rfl⟩
            exact h.mark t false
        | drop slot' =>
            rcases hx with ⟨-, rfl⟩
            exact h.mark t true
        | create payload slot' => exact hx.elim
        | acquire source slot' => exact hx.elim
        | lend slot' newSlot => exact hx.elim
      · rw [hbusy hp]
        exact h

theorem run (h : Unmoved s s' slot) {turns : List (Threads.Turn ρ)}
    (hturns : ∀ x ∈ turns, s.ClosesAgain slot x) : Unmoved s (s'.run turns) slot := by
  induction turns generalizing s' with
  | nil => exact h
  | cons x turns ih =>
      exact ih (h.turn (hturns x List.mem_cons_self))
        (fun y hy => hturns y (List.mem_cons_of_mem _ hy))

end Unmoved

end Threads

/-- References are counted, whatever threads do and in whatever order. At every moment of
    every run the count of a resource is the number of owned leases on it that have not
    released theirs; a lease that is granted adds one to it, a release takes one off, and
    nothing else moves it. A count of zero is final. There is one teardown at most, by a
    thread that released the last reference before. When no thread is inside a call, a
    resource was torn down exactly if all its owners are closed or gone. And closing or
    dropping a closed lease again, as often and by as many threads as may be, moves no
    resource and no other lease. -/
theorem references_are_counted (factories : Nat → Nat → Except Failure ρ)
    (turns : List (Threads.Turn ρ)) (r : Nat) :
    let s := (Threads.start factories).run turns
    s.commons.references r = s.commons.tally Lease.holds r ∧
    (∀ x,
      (s.commons.Grants (s.turn x).commons r →
        (s.turn x).commons.references r = s.commons.references r + 1) ∧
      (s.Releases x r → (s.turn x).commons.references r + 1 = s.commons.references r) ∧
      (¬ s.commons.Grants (s.turn x).commons r → ¬ s.Releases x r →
        (s.turn x).commons.references r = s.commons.references r)) ∧
    (r < s.commons.resources.length → s.commons.references r = 0 →
      ∀ more, (s.run more).commons.references r = 0) ∧
    s.commons.teardowns r ≤ 1 ∧
    (∀ x, (s.turn x).commons.teardowns r ≠ s.commons.teardowns r →
      ∃ t earlier later slot, s.TearsDown x t r ∧ turns = earlier ++ .go t :: later ∧
        ((Threads.start factories).run earlier).Closes t slot .releasing ∧
        ((Threads.start factories).run earlier).commons.references r = 1 ∧
        ((Threads.start factories).run (earlier ++ [.go t])).commons.references r = 0) ∧
    ((∀ t, s.place t = none) → r < s.commons.resources.length →
      (s.commons.teardowns r = 1 ↔ ∀ slot l, s.commons.leases.get? slot = some l →
        l.resource = r → l.ownership = .owned → l.closed = true)) ∧
    (∀ slot more, (∀ l, s.commons.leases.get? slot = some l → l.closed = true) →
      (∀ x ∈ more, s.ClosesAgain slot x) → s.Unmoved (s.run more) slot) := by
  intro s
  have hbstart : Balanced (Threads.start factories).commons := Balanced.ofFactories factories
  have hmstart : Manned (Threads.start factories) := Manned.start factories
  have hb : Balanced s.commons := balanced_run hbstart turns
  have hm : Manned s := hmstart.run hbstart turns
  refine ⟨hb.references_eq r, fun x => Threads.references_turn hm hb x r,
    fun hmade hzero more => Threads.references_run_eq_zero more hmade hzero,
    hb.teardowns_le_one r, ?_,
    fun hidle hmade => Threads.teardowns_eq_one_iff hb (hm.quiet_of_idle hidle) hmade, ?_⟩
  · intro x hx
    rcases Threads.teardowns_turn (s := s) x r with hsame | ⟨t, hteardown⟩
    · exact absurd hsame hx
    · rcases hteardown with ⟨slot, l, hgo, hc, hl, rfl⟩
      -- Nobody was about to tear down at the start, so the run has a release of the thread.
      rcases Threads.released_of_tearing hmstart hbstart turns hc hl with
        ⟨_, ⟨_, hnone⟩, -⟩ | ⟨earlier, later, hturns, hreleasing, hone, hzero⟩
      · cases hnone
      · exact ⟨t, earlier, later, slot, ⟨slot, l, hgo, hc, hl, rfl⟩, hturns, hreleasing, hone,
          hzero⟩
  · intro slot more hclosed hmore
    have hself : s.Unmoved s slot := ⟨rfl, fun _ _ => rfl, hclosed, fun _ ht => Or.inl ht⟩
    exact hself.run hmore

end Imds
