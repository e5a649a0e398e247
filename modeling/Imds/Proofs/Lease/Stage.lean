import Imds.Proofs.Lease.Balance

/-!
# Leases and the Stages of Their Closings

To the leases a step does four things: nothing, or one comes, or one goes, or the
closing of one goes on. `Touch` lists them as `Effect` lists what happens to resources.
Two facts are read off. A number that is taken is not given away, so that a lease found
under it before and after a step is the same handle. And a lease that comes or goes is
quiet, so that only the steps of a closing move a stage.

A number without a lease counts as quiet. Then `stageOf` is a function of the number
alone, and each of the steps of a closing changes it at one place.

## Main definitions

* `Move.IsPlain`: Steps that neither begin a closing nor continue one.
* `Commons.Touch`: All that a step can do to leases.
* `Commons.stageOf`, `Commons.stageOnMark`: How far a closing has come, and to what it
  comes by marking.

## Theorems

* `touch_step`, `lease_step`: What a step does to leases, and to one that stays.
* `lease_stays`: A lease that is not ended is still there.
* `stageOf_step_of_isPlain`: Other steps move no stage.
* `stageOf_mark`, `stageOf_release`, `stageOf_tearDown`, `stageOf_signal`: The steps of
  a closing move one.
* `mark_of_closed`: To close a closed lease is no step at all.
-/

namespace Imds

variable {ρ : Type}

/-- A step that neither begins a closing nor continues one. -/
def Move.IsPlain : Move ρ → Prop
  | .mark _ | .release _ | .tearDown _ | .signal _ => False
  | _ => True

/-! ### What a step does to the leases -/

namespace Commons

/-- All that a step can do to leases. -/
inductive Touch (s : Commons ρ) (m : Move ρ) (s' : Commons ρ) : Prop
  /-- Nothing. -/
  | none (hleases : s'.leases = s.leases)
  /-- A new one comes under a number that was free. -/
  | comes (slot : Nat) (l : Lease) (hfree : s.leases.get? slot = Option.none)
      (hquiet : l.stage = .quiet) (hleases : s'.leases = s.leases.insert slot l)
  /-- The closing of one goes on. -/
  | closes (slot : Nat) (l l' : Lease) (hm : ¬ m.IsPlain) (hl : s.leases.get? slot = some l)
      (hresource : l'.resource = l.resource) (hclosed : l.closed = true → l'.closed = true)
      (hleases : s'.leases = s.leases.insert slot l')
  /-- One that is closed goes. -/
  | goes (slot : Nat) (l : Lease) (hm : m = .forget slot) (hl : s.leases.get? slot = some l)
      (hquiet : l.stage = .quiet) (hleases : s'.leases = s.leases.erase slot)

variable {s : Commons ρ}

theorem touch_mark (slot : Nat) : s.Touch (.mark slot) (s.mark slot) := by
  unfold mark
  split
  · next l hl =>
    split
    · exact .none rfl
    · exact .closes slot l
        { l with closed := true, stage := if l.ownership = .owned then .releasing else .quiet }
        (fun hm => hm) hl rfl (fun _ => rfl) rfl
  · exact .none rfl

theorem touch_release (slot : Nat) : s.Touch (.release slot) (s.release slot) := by
  unfold release
  split
  · next l hl =>
    split
    · exact .closes slot l
        { l with stage := if s.references l.resource = 1 then .tearing else .quiet }
        (fun hm => hm) hl rfl id rfl
    · exact .none rfl
  · exact .none rfl

theorem touch_tearDown (slot : Nat) : s.Touch (.tearDown slot) (s.tearDown slot) := by
  unfold tearDown
  split
  · next l hl =>
    split
    · exact .closes slot l { l with stage := .signalling } (fun hm => hm) hl rfl id rfl
    · exact .none rfl
  · exact .none rfl

theorem touch_signal (slot : Nat) : s.Touch (.signal slot) (s.signal slot) := by
  unfold signal
  split
  · next l hl =>
    split
    · exact .closes slot l { l with stage := .quiet } (fun hm => hm) hl rfl id rfl
    · exact .none rfl
  · exact .none rfl

theorem touch_create (payload : ρ) (slot : Nat) :
    s.Touch (.create payload slot) (s.create payload slot) := by
  unfold create
  split
  · exact .none rfl
  · next hfree => exact .comes slot _ (Option.not_isSome_iff_eq_none.1 hfree) rfl rfl

theorem touch_lend (slot newSlot : Nat) : s.Touch (.lend slot newSlot) (s.lend slot newSlot) := by
  unfold lend
  split
  · split
    · exact .none rfl
    · next hfree => exact .comes newSlot _ (Option.not_isSome_iff_eq_none.1 hfree) rfl rfl
  · exact .none rfl

theorem touch_forget (slot : Nat) : s.Touch (.forget slot) (s.forget slot) := by
  unfold forget
  split
  · next l hl =>
    split
    · next hover => exact .goes slot l rfl hl hover.2 rfl
    · exact .none rfl
  · exact .none rfl

theorem touch_retain (source slot : Nat) :
    s.Touch (.retain source slot) (s.retain source slot) := by
  unfold retain
  split
  · split
    · exact .none rfl
    · next hfree =>
      split
      · exact .none rfl
      · exact .comes slot _ (Option.not_isSome_iff_eq_none.1 hfree) rfl rfl
  · exact .none rfl

theorem touch_order (source slot : Nat) : s.Touch (.order source slot) (s.order source slot) := by
  unfold order
  split
  · split
    · exact .none rfl
    · next hfree =>
      split
      · exact .comes slot _ (Option.not_isSome_iff_eq_none.1 hfree) rfl rfl
      · exact .none rfl
  · exact .none rfl

theorem touch_enter (source : Nat) : s.Touch (.enter source) (s.enter source) := by
  unfold enter
  split
  · exact .none rfl
  · exact .none rfl

theorem touch_upgrade (source : Nat) : s.Touch (.upgrade source) (s.upgrade source) := by
  unfold upgrade
  split
  · split
    · exact .none rfl
    · exact .none rfl
  · exact .none rfl

theorem touch_step (m : Move ρ) : s.Touch m (s.step m) := by
  cases m with
  | create payload slot => exact touch_create payload slot
  | lend slot newSlot => exact touch_lend slot newSlot
  | mark slot => exact touch_mark slot
  | release slot => exact touch_release slot
  | tearDown slot => exact touch_tearDown slot
  | signal slot => exact touch_signal slot
  | forget slot => exact touch_forget slot
  | enter source => exact touch_enter source
  | upgrade source => exact touch_upgrade source
  | retain source slot => exact touch_retain source slot
  | order source slot => exact touch_order source slot

/-- A lease that is there before and after a step is the same handle: it points where it
    pointed, and once closed it stays closed. -/
theorem lease_step (m : Move ρ) {slot : Nat} {l l' : Lease}
    (hl : s.leases.get? slot = some l) (hl' : (s.step m).leases.get? slot = some l') :
    l'.resource = l.resource ∧ (l.closed = true → l'.closed = true) := by
  have hsame : s.leases.get? slot = some l' →
      l'.resource = l.resource ∧ (l.closed = true → l'.closed = true) := by
    intro h
    rw [hl] at h
    cases h
    exact ⟨rfl, id⟩
  cases touch_step (s := s) m with
  | none hleases =>
      rw [hleases] at hl'
      exact hsame hl'
  | comes slot' new hfree _ hleases =>
      -- A number that is taken is not given to a new lease.
      have hne : slot' ≠ slot := by
        rintro rfl
        rw [hl] at hfree
        cases hfree
      rw [hleases, Table.get?_insert_of_ne _ _ hne] at hl'
      exact hsame hl'
  | closes slot' old new _ hold hresource hclosed hleases =>
      by_cases hne : slot' = slot
      · subst hne
        rw [hleases, Table.get?_insert_self] at hl'
        rw [hl] at hold
        cases hold
        cases hl'
        exact ⟨hresource, hclosed⟩
      · rw [hleases, Table.get?_insert_of_ne _ _ hne] at hl'
        exact hsame hl'
  | goes slot' old _ _ _ hleases =>
      by_cases hne : slot' = slot
      · subst hne
        rw [hleases, Table.get?_erase_self] at hl'
        cases hl'
      · rw [hleases, Table.get?_erase_of_ne _ hne] at hl'
        exact hsame hl'

/-- A lease that is not ended is still there. -/
theorem lease_stays {m : Move ρ} {slot : Nat} {l : Lease} (hm : m ≠ .forget slot)
    (hl : s.leases.get? slot = some l) :
    ∃ l', (s.step m).leases.get? slot = some l' ∧ l'.resource = l.resource := by
  cases touch_step (s := s) m with
  | none hleases => exact ⟨l, by rw [hleases, hl], rfl⟩
  | comes slot' new hfree _ hleases =>
      have hne : slot' ≠ slot := by
        rintro rfl
        rw [hl] at hfree
        cases hfree
      exact ⟨l, by rw [hleases, Table.get?_insert_of_ne _ _ hne, hl], rfl⟩
  | closes slot' old new _ hold hresource _ hleases =>
      by_cases hne : slot' = slot
      · subst hne
        rw [hl] at hold
        cases hold
        exact ⟨new, by rw [hleases, Table.get?_insert_self], hresource⟩
      · exact ⟨l, by rw [hleases, Table.get?_insert_of_ne _ _ hne, hl], rfl⟩
  | goes slot' old hforget _ _ hleases =>
      -- Only a lease that is ended goes, and this one is not.
      have hne : slot' ≠ slot := by
        rintro rfl
        exact hm hforget
      exact ⟨l, by rw [hleases, Table.get?_erase_of_ne _ hne, hl], rfl⟩

/-- The stage of the closing of a lease. -/
def stageOf (s : Commons ρ) (slot : Nat) : Stage := (s.leases.get? slot).elim .quiet Lease.stage

theorem exists_of_stageOf {slot : Nat} {stage : Stage} (h : s.stageOf slot = stage)
    (hstage : stage ≠ .quiet) : ∃ l, s.leases.get? slot = some l ∧ l.stage = stage := by
  unfold stageOf at h
  cases hl : s.leases.get? slot with
  | none =>
      -- Where there is no lease the stage is the quiet one.
      rw [hl] at h
      exact absurd h.symm hstage
  | some l =>
      rw [hl] at h
      exact ⟨l, rfl, h⟩

theorem stageOf_eq {slot : Nat} {l : Lease} (h : s.leases.get? slot = some l) :
    s.stageOf slot = l.stage := by
  rw [stageOf, h]
  rfl

-- A lease that is stored brings its stage, and leaves the others theirs.
theorem stageOf_setLease (s : Commons ρ) (slot : Nat) (l : Lease) (slot' : Nat) :
    (s.setLease slot l).stageOf slot' = if slot = slot' then l.stage else s.stageOf slot' := by
  change ((s.leases.insert slot l).get? slot').elim _ _ = _
  rw [Table.get?_insert]
  split
  · rfl
  · rfl

/-- A new lease is quiet, as is a number that stands for none; and only a quiet lease
    goes. So the stages are those of the closings. -/
theorem stageOf_step_of_isPlain {m : Move ρ} (hm : m.IsPlain) (slot : Nat) :
    (s.step m).stageOf slot = s.stageOf slot := by
  cases touch_step (s := s) m with
  | none hleases => rw [stageOf, hleases, stageOf]
  | comes slot' l hfree hquiet hleases =>
      rw [stageOf, hleases, Table.get?_insert]
      split
      · next he =>
        rw [← he, stageOf, hfree]
        exact hquiet
      · rfl
  | closes slot' l l' hplain => exact absurd hm hplain
  | goes slot' l _ hl hquiet hleases =>
      rw [stageOf, hleases]
      by_cases he : slot' = slot
      · subst he
        rw [Table.get?_erase_self, stageOf_eq hl, hquiet]
        rfl
      · rw [Table.get?_erase_of_ne _ he, stageOf]

/-- The stage to which a closing comes by marking a lease: a lease that is marked
    already leaves nothing to do. -/
def stageOnMark (s : Commons ρ) (slot : Nat) : Stage :=
  match s.leases.get? slot with
  | some l => if l.closed = false ∧ l.ownership = .owned then .releasing else .quiet
  | none => .quiet

/-- Marking brings a lease to the stage that it leaves to do, and no other lease to any. -/
theorem stageOf_mark (h : Balanced s) (slot slot' : Nat) :
    (s.mark slot).stageOf slot' =
      if slot = slot' ∧ s.stageOnMark slot ≠ .quiet then s.stageOnMark slot
      else s.stageOf slot' := by
  cases hl : s.leases.get? slot with
  | none =>
      have hmark : s.mark slot = s := by simp only [mark, hl]
      have hnothing : s.stageOnMark slot = .quiet := by simp only [stageOnMark, hl]
      rw [hmark, if_neg (fun hand => hand.2 hnothing)]
  | some l =>
      by_cases hclosed : l.closed = true
      · have hmark : s.mark slot = s := by simp only [mark, hl, hclosed, if_true]
        have hnothing : s.stageOnMark slot = .quiet := by
          simp only [stageOnMark, hl, hclosed, Bool.true_eq_false, false_and, if_false]
        rw [hmark, if_neg (fun hand => hand.2 hnothing)]
      · have hopen : l.closed = false := Bool.eq_false_iff.2 hclosed
        simp only [mark, hl, if_neg hclosed]
        rw [stageOf_setLease]
        by_cases howned : l.ownership = .owned
        · have hleft : s.stageOnMark slot = .releasing := by
            simp only [stageOnMark, hl, hopen, howned, and_self, if_true]
          simp only [hleft, howned, if_true, ne_eq, reduceCtorEq, not_false_eq_true, and_true]
        · have hnothing : s.stageOnMark slot = .quiet := by
            simp only [stageOnMark, hl, howned, and_false, if_false]
          -- A borrowed lease that is open was quiet before, and is quiet again.
          have hquiet : l.stage = .quiet := by
            by_cases hstage : l.stage = .quiet
            · exact hstage
            · exact absurd (h.sound slot l hl hstage).1 howned
          simp only [hnothing, howned, if_false, ne_eq, not_true_eq_false, and_false]
          by_cases he : slot = slot'
          · rw [if_pos he, ← he, stageOf_eq hl, hquiet]
          · rw [if_neg he]

/-- What a lease that is at a stage of its closing comes to by a step to the next. -/
theorem stageOf_release {slot : Nat} (h : s.stageOf slot = .releasing) (slot' : Nat) :
    (s.release slot).stageOf slot' =
      if slot = slot' then (if s.refCount slot = 1 then .tearing else .quiet)
      else s.stageOf slot' := by
  rcases exists_of_stageOf h Stage.noConfusion with ⟨l, hl, hstage⟩
  have hcount : s.refCount slot = s.references l.resource := by simp only [refCount, hl]
  rw [hcount]
  unfold release
  simp only [hl, hstage, if_true]
  exact stageOf_setLease _ slot _ slot'

theorem stageOf_tearDown {slot : Nat} (h : s.stageOf slot = .tearing) (slot' : Nat) :
    (s.tearDown slot).stageOf slot' = if slot = slot' then .signalling else s.stageOf slot' := by
  rcases exists_of_stageOf h Stage.noConfusion with ⟨l, hl, hstage⟩
  unfold tearDown
  simp only [hl, hstage, if_true]
  exact stageOf_setLease _ slot _ slot'

theorem stageOf_signal {slot : Nat} (h : s.stageOf slot = .signalling) (slot' : Nat) :
    (s.signal slot).stageOf slot' = if slot = slot' then .quiet else s.stageOf slot' := by
  rcases exists_of_stageOf h Stage.noConfusion with ⟨l, hl, hstage⟩
  unfold signal
  simp only [hl, hstage, if_true]
  exact stageOf_setLease _ slot _ slot'

/-! ### Steps that have nothing to do -/

theorem release_eq_self (slot : Nat) (h : s.stageOf slot ≠ .releasing) : s.release slot = s := by
  unfold release
  split
  · next l hl =>
    rw [stageOf_eq hl] at h
    rw [if_neg h]
  · rfl

theorem tearDown_eq_self (slot : Nat) (h : s.stageOf slot ≠ .tearing) : s.tearDown slot = s := by
  unfold tearDown
  split
  · next l hl =>
    rw [stageOf_eq hl] at h
    rw [if_neg h]
  · rfl

theorem signal_eq_self (slot : Nat) (h : s.stageOf slot ≠ .signalling) : s.signal slot = s := by
  unfold signal
  split
  · next l hl =>
    rw [stageOf_eq hl] at h
    rw [if_neg h]
  · rfl

/-- To close a closed lease, or a number that stands for none, is no step at all. -/
theorem mark_of_closed {slot : Nat}
    (h : ∀ l, s.leases.get? slot = some l → l.closed = true) :
    s.mark slot = s ∧ s.stageOnMark slot = .quiet := by
  unfold mark stageOnMark
  cases hl : s.leases.get? slot with
  | none => exact ⟨rfl, rfl⟩
  | some l =>
      simp only [h l hl, if_true, Bool.true_eq_false, false_and, if_false]
      exact ⟨trivial, trivial⟩

end Commons

end Imds
