import Imds.Proofs.Lease.Source

/-!
# The Signal of a Teardown

A resource that was torn down is complete once that was signalled. Whoever waits for it is told
when the signal is given, and also when nobody is left who could give it. The second case is the
doubtful one: a sender that is gone says nothing of the resource. It does not arise. As long as a
resource has an owner, or a lease that is about to tear it down or to signal, that lease is there
and keeps it alive; and one that has neither was torn down and signalled. So what nobody can reach
is complete, and a wait is over exactly when the signal was given.

A signal is read off the stages of leases. While a lease is about to signal, its resource is not
complete, since there is one teardown and one signal for it. So the step that completes a resource
takes its lease out of that stage, and only the signal of the thread that closes it does this. That
thread is the one that tore the resource down: it stays where it is until it takes its next turn.

## Main definitions

* `Threads.Announces`: A thread signals the teardown of a resource.
* `Threads.AboutToAnnounce`: It will do so by its next turn.

## Theorems

* `complete_of_not_isAlive`, `isReady_eq`: Nobody waits for a sender that is gone.
* `isComplete_iff_of_quiet`: What was torn down is complete while nobody closes anything.
* `not_isComplete_of_signalling`, `signalling_of_completed`: A signal, from the stages of leases.
* `Threads.isComplete_turn_iff`: Only the signal of its closing thread completes a resource.
* `aboutToAnnounce_of_tearsDown`, `AboutToAnnounce.turn`: Whoever tore down is about to signal, and
  remains so while others take turns.
-/

namespace Imds

variable {ρ : Type}

/-! ### What nobody can reach -/

namespace Commons

variable {s : Commons ρ} {stage : Stage}

-- A lease that is at a stage is counted there.
theorem tally_isAt_ne_zero {slot : Nat} {l : Lease} (hl : s.leases.get? slot = some l)
    (hstage : l.stage = stage) : s.tally (Lease.isAt stage) l.resource ≠ 0 := by
  intro hzero
  have hnot := (Table.count_eq_zero_iff _ _).1 hzero slot l hl
  simp [Lease.pointsAt, Lease.isAt, hstage] at hnot

-- While nobody closes anything, no lease is counted at a stage of closing.
theorem tally_isAt_of_quiet (hquiet : ∀ slot, s.stageOf slot = .quiet) (hstage : stage ≠ .quiet)
    (r : Nat) : s.tally (Lease.isAt stage) r = 0 := by
  refine (Table.count_eq_zero_iff _ _).2 (fun slot l hl => ?_)
  simp [Lease.isAt, (stageOf_eq hl).symm.trans (hquiet slot), hstage.symm]

end Commons

namespace Balanced

variable {s : Commons ρ} {r : Nat}

-- A resource that nobody can reach has no leases, of whatever kind.
theorem tally_of_not_isAlive (p : Lease → Bool) (hdead : s.isAlive r = false) :
    s.tally p r = 0 := by
  have hcount : s.leases.count (Lease.pointsAt r) = 0 := by
    rw [Commons.isAlive, Bool.or_eq_false_iff] at hdead
    exact bne_eq_false_iff_eq.1 hdead.1
  rw [Commons.tally, Table.count_eq_zero_iff]
  intro slot l hl
  rw [(Table.count_eq_zero_iff _ _).1 hcount slot l hl, Bool.false_and]

/-- What was made and cannot be reached any more was torn down, and that was signalled. -/
theorem complete_of_not_isAlive (h : Balanced s) (hmade : r < s.resources.length)
    (hdead : s.isAlive r = false) : s.teardowns r = 1 ∧ s.isComplete r = true := by
  have hteardowns := h.teardowns_eq hmade
  have hsignalled := h.signalled_eq hmade
  -- Nobody has it, nobody is to tear it down, and nobody is to signal.
  rw [h.references_eq r, tally_of_not_isAlive _ hdead, tally_of_not_isAlive _ hdead, if_pos rfl]
    at hteardowns
  rw [tally_of_not_isAlive _ hdead] at hsignalled
  have hdone : s.teardowns r = 1 := by omega
  refine ⟨hdone, ?_⟩
  cases hcomplete : s.isComplete r with
  | true => rfl
  | false =>
      rw [hcomplete, hdone] at hsignalled
      cases hsignalled

/-- A wait is over exactly when the signal was given. -/
theorem isReady_eq (h : Balanced s) (hmade : r < s.resources.length) :
    s.isReady r = s.isComplete r := by
  rw [Commons.isReady]
  cases halive : s.isAlive r with
  | true => rw [Bool.not_true, Bool.or_false]
  | false => rw [(h.complete_of_not_isAlive hmade halive).2, Bool.true_or]

/-- What is complete was torn down. -/
theorem teardowns_of_isComplete (h : Balanced s) (hdone : s.isComplete r = true) :
    s.teardowns r = 1 := by
  have hmade : r < s.resources.length := by
    by_cases hlt : r < s.resources.length
    · exact hlt
    · rw [Commons.isComplete, List.getElem?_eq_none (Nat.le_of_not_lt hlt)] at hdone
      cases hdone
  have hsignalled := h.signalled_eq hmade
  have hle := h.teardowns_le_one r
  rw [if_pos hdone] at hsignalled
  omega

/-- While nobody closes anything, what was torn down is complete. -/
theorem isComplete_iff_of_quiet (h : Balanced s) (hquiet : ∀ slot, s.stageOf slot = .quiet)
    (hmade : r < s.resources.length) : s.isComplete r = true ↔ s.teardowns r = 1 := by
  refine ⟨h.teardowns_of_isComplete, fun hdone => ?_⟩
  have hsignalled := h.signalled_eq hmade
  rw [Commons.tally_isAt_of_quiet hquiet Stage.noConfusion, hdone] at hsignalled
  cases hcomplete : s.isComplete r with
  | true => rfl
  | false =>
      rw [hcomplete] at hsignalled
      cases hsignalled

end Balanced

/-! ### The step that completes a resource -/

namespace Balanced

variable {s : Commons ρ} {r : Nat}

/-- A resource is not complete while a lease is about to signal. -/
theorem not_isComplete_of_signalling (h : Balanced s) {slot : Nat} {l : Lease}
    (hl : s.leases.get? slot = some l) (hstage : l.stage = .signalling) :
    s.isComplete l.resource = false := by
  have hsignalled := h.signalled_eq (h.made slot l hl)
  have hle := h.teardowns_le_one l.resource
  have hcount := Commons.tally_isAt_ne_zero hl hstage
  cases hdone : s.isComplete l.resource with
  | false => rfl
  | true =>
      rw [if_pos hdone] at hsignalled
      omega

/-- A step that completes a resource takes a lease on it out of its last stage. -/
theorem signalling_of_completed (h : Balanced s) (m : Move ρ) (hbefore : s.isComplete r = false)
    (hafter : (s.step m).isComplete r = true) :
    ∃ slot l, s.leases.get? slot = some l ∧ l.resource = r ∧ l.stage = .signalling ∧
      (s.step m).stageOf slot ≠ .signalling := by
  have hsame : (s.step m).isComplete r = s.isComplete r → False := by
    intro he
    rw [hafter, hbefore] at he
    cases he
  cases Commons.effect_step (s := s) m with
  | still hresources =>
      refine (hsame ?_).elim
      rw [Commons.isComplete, hresources]
      rfl
  | made payload slot _ hresources =>
      -- A new resource is not complete, and the others are what they were.
      rw [Commons.isComplete, hresources, field_concat] at hafter
      by_cases hr : r = s.resources.length
      · rw [if_pos hr] at hafter
        cases hafter
      · rw [if_neg hr] at hafter
        exact (Bool.false_ne_true (hbefore.symm.trans hafter)).elim
  | attached r' slot _ _ hresources =>
      exact (hsame (field_of_modify _ _ r hresources (fun _ => rfl))).elim
  | released slot l _ _ _ hresources =>
      exact (hsame (field_of_modify _ _ r hresources (fun _ => rfl))).elim
  | tornDown slot l _ _ _ hresources =>
      exact (hsame (field_of_modify _ _ r hresources (fun _ => rfl))).elim
  | signalled slot l hl hstage hresources =>
      by_cases hr : l.resource = r
      · refine ⟨slot, l, hl, hr, hstage, ?_⟩
        intro hstill
        rcases Commons.exists_of_stageOf hstill Stage.noConfusion with ⟨l', hl', hstage'⟩
        have hpending := (h.step m).not_isComplete_of_signalling hl' hstage'
        rw [(Commons.lease_step m hl hl').1, hr, hafter] at hpending
        cases hpending
      · refine (hsame ?_).elim
        rw [Commons.isComplete, hresources, field_modify, if_neg hr]
        rfl

end Balanced

namespace Threads

/-- The turn is the signal of a thread that closes an owned lease on the resource. -/
def Announces (s : Threads ρ) (x : Threads.Turn ρ) (t r : Nat) : Prop :=
  ∃ slot l, x = .go t ∧ s.Closes t slot .signalling ∧
    s.commons.leases.get? slot = some l ∧ l.resource = r ∧ l.ownership = .owned

variable {s : Threads ρ} {r : Nat}

-- Nobody closes a lease that is borrowed: its closing is over when it is marked.
theorem owned_of_closes (hm : Manned s) (hb : Balanced s.commons) {t slot : Nat} {stage : Stage}
    {l : Lease} (hc : s.Closes t slot stage) (hl : s.commons.leases.get? slot = some l) :
    l.ownership = .owned := by
  rcases hm.agrees t slot stage hc with ⟨hstage, hat⟩
  rw [Commons.stageOf_eq hl] at hat
  exact (hb.sound slot l hl (hat ▸ hstage)).1

/-- The turn that completes a resource is the signal of a thread. -/
theorem announces_of_completed (hm : Manned s) (hb : Balanced s.commons) {x : Threads.Turn ρ}
    (hbefore : s.commons.isComplete r = false) (hafter : (s.turn x).commons.isComplete r = true) :
    ∃ t, s.Announces x t r := by
  -- The lease that was to signal is not to signal any more, so the step was one on it.
  have hmoved : ∀ {t : Nat} {m : Move ρ} {p : Option Place}, s.turn x = s.move t m p →
      ∃ slot l, s.commons.leases.get? slot = some l ∧ l.resource = r ∧ l.stage = .signalling ∧
        (s.commons.step m).stageOf slot ≠ s.commons.stageOf slot := by
    intro t m p hs
    rw [hs] at hafter
    rcases hb.signalling_of_completed m hbefore hafter with ⟨slot, l, hl, hr, hstage, hleft⟩
    refine ⟨slot, l, hl, hr, hstage, ?_⟩
    rw [Commons.stageOf_eq hl, hstage]
    exact hleft
  cases s.does_turn x with
  | nothing hs =>
      rw [hs, hbefore] at hafter
      cases hafter
  | passes t m p hplain _ _ hs =>
      rcases hmoved hs with ⟨slot, l, -, -, -, hleft⟩
      exact absurd (Commons.stageOf_step_of_isPlain hplain slot) hleft
  | marks t slot' d _ hs =>
      rcases hmoved hs with ⟨slot, l, hl, -, hstage, hleft⟩
      refine absurd ((Commons.stageOf_mark hb slot' slot).trans (if_neg ?_)) hleft
      rintro ⟨rfl, hbegins⟩
      -- What is about to signal is closed, so marking it begins nothing.
      have hclosed := (hb.sound slot' l hl (by rw [hstage]; exact Stage.noConfusion)).2
      refine hbegins (Commons.mark_of_closed (fun l' hl' => ?_)).2
      rw [hl] at hl'
      cases hl'
      exact hclosed
  | releases t slot' d _ hp hs =>
      rcases hmoved hs with ⟨slot, l, hl, -, hstage, hleft⟩
      have hat := (hm.agrees t slot' _ ⟨d, hp⟩).2
      refine absurd ((Commons.stageOf_release hat slot).trans (if_neg ?_)) hleft
      rintro rfl
      rw [Commons.stageOf_eq hl, hstage] at hat
      cases hat
  | tearsDown t slot' d _ hp hs =>
      rcases hmoved hs with ⟨slot, l, hl, -, hstage, hleft⟩
      have hat := (hm.agrees t slot' _ ⟨d, hp⟩).2
      refine absurd ((Commons.stageOf_tearDown hat slot).trans (if_neg ?_)) hleft
      rintro rfl
      rw [Commons.stageOf_eq hl, hstage] at hat
      cases hat
  | signals t slot' d hx hp hs =>
      rcases hmoved hs with ⟨slot, l, hl, hr, hstage, hleft⟩
      have hc : s.Closes t slot' .signalling := ⟨d, hp⟩
      by_cases he : slot' = slot
      · subst he
        exact ⟨t, slot', l, hx, hc, hl, hr, owned_of_closes hm hb hc hl⟩
      · have hat := (hm.agrees t slot' _ hc).2
        exact absurd ((Commons.stageOf_signal hat slot).trans (if_neg he)) hleft

theorem completed_of_announces (hm : Manned s) (hb : Balanced s.commons) {x : Threads.Turn ρ}
    {t : Nat} (h : s.Announces x t r) : (s.turn x).commons.isComplete r = true := by
  rcases h with ⟨slot, l, rfl, ⟨d, hp⟩, hl, rfl, -⟩
  have hstage : l.stage = .signalling :=
    (Commons.stageOf_eq hl).symm.trans (hm.agrees t slot _ ⟨d, hp⟩).2
  have hturn : (s.turn (.go t)).commons.resources =
      s.commons.resources.modify l.resource (fun res => { res with signalled := true }) := by
    simp only [turn, hp, go, move, Commons.step, Commons.signal, hl, hstage, if_true]
    rfl
  rcases Commons.exists_resource (hb.made slot l hl) with ⟨res, hres, -⟩
  rw [Commons.isComplete, hturn, field_modify, if_pos rfl, hres]
  rfl

/-- A turn leaves a resource complete exactly if it was, or if it is the signal of a thread. -/
theorem isComplete_turn_iff (hm : Manned s) (hb : Balanced s.commons) (x : Threads.Turn ρ) :
    (s.turn x).commons.isComplete r = true ↔
      s.commons.isComplete r = true ∨ ∃ t, s.Announces x t r := by
  constructor
  · intro hafter
    cases hbefore : s.commons.isComplete r with
    | true => exact Or.inl rfl
    | false => exact Or.inr (announces_of_completed hm hb hbefore hafter)
  · intro h
    rcases h with hdone | ⟨t, hannounces⟩
    · rcases turn_commons (s := s) x with heq | ⟨m, heq, -⟩
      · rw [heq]
        exact hdone
      · rw [heq]
        exact Commons.isComplete_step m hdone
    · exact completed_of_announces hm hb hannounces

end Threads

/-! ### The thread that tore down -/

namespace Threads

variable {s : Threads ρ} {t slot r : Nat}

/-- A thread stays where it is until it takes a turn. -/
theorem place_of_turn {p : Place} (h : s.place t = some p) {x : Threads.Turn ρ}
    (hx : x ≠ .go t) : (s.turn x).place t = some p := by
  cases x with
  | call t' c =>
      cases hp : s.place t' with
      | some p' =>
          simp only [turn, hp]
          exact h
      | none =>
          have hne : t ≠ t' := by
            rintro rfl
            rw [h] at hp
            cases hp
          simp only [turn, hp]
          cases c with
          | create payload slot => exact (place_move_of_ne _ _ _ hne).trans h
          | lend slot newSlot => exact (place_move_of_ne _ _ _ hne).trans h
          | close slot => exact (place_move_of_ne _ _ _ hne).trans h
          | drop slot => exact (place_move_of_ne _ _ _ hne).trans h
          | acquire source slot =>
              simp only [call]
              split
              · exact h
              · exact (place_move_of_ne _ _ _ hne).trans h
  | go t' =>
      have hne : t ≠ t' := by
        rintro rfl
        exact hx rfl
      cases hp : s.place t' with
      | none =>
          simp only [turn, hp]
          exact h
      | some p' =>
          simp only [turn, hp]
          cases p' with
          | asking source slot => exact (place_move_of_ne _ _ _ hne).trans h
          | ending slot => exact (place_move_of_ne _ _ _ hne).trans h
          | closing slot stage d =>
              cases stage with
              | quiet => exact h
              | releasing => exact (place_move_of_ne _ _ _ hne).trans h
              | tearing => exact (place_move_of_ne _ _ _ hne).trans h
              | signalling => exact (place_move_of_ne _ _ _ hne).trans h

/-- A thread is about to signal the teardown of a resource. -/
def AboutToAnnounce (s : Threads ρ) (t r : Nat) : Prop := s.Announces (.go t) t r

-- Only the thread itself gives up its place, and the lease that it closes stays the same handle.
theorem AboutToAnnounce.turn (hm : Manned s) (hb : Balanced s.commons)
    (h : s.AboutToAnnounce t r) {x : Threads.Turn ρ} (hx : x ≠ .go t) :
    (s.turn x).AboutToAnnounce t r := by
  rcases h with ⟨slot, l, -, ⟨d, hp⟩, hl, hr, -⟩
  have hc : (s.turn x).Closes t slot .signalling := ⟨d, place_of_turn hp hx⟩
  have hm' := hm.turn hb x
  rcases lease_of_closes hm' hc with ⟨l', hl', -⟩
  exact ⟨slot, l', rfl, hc, hl', (resource_turn x hl hl').trans hr,
    owned_of_closes hm' (balanced_turn hb x) hc hl'⟩

theorem aboutToAnnounce_of_tearsDown (hm : Manned s) (hb : Balanced s.commons)
    (h : s.TearsDown (.go t) t r) :
    (s.turn (.go t)).AboutToAnnounce t r ∧ (s.turn (.go t)).commons.teardowns r = 1 := by
  rcases h with ⟨slot, l, -, ⟨d, hp⟩, hl, hr⟩
  have hturn : s.turn (.go t) = s.move t (.tearDown slot) (Place.next slot .signalling d) := by
    simp only [turn, hp, go]
  have hc : (s.turn (.go t)).Closes t slot .signalling := by
    rw [hturn]
    exact Manned.closes_move_self.2 ⟨d, rfl⟩
  have hm' := hm.turn hb (.go t)
  have hb' := balanced_turn hb (.go t)
  rcases lease_of_closes hm' hc with ⟨l', hl', hstage'⟩
  have hr' : l'.resource = r := (resource_turn _ hl hl').trans hr
  refine ⟨⟨slot, l', rfl, hc, hl', hr', owned_of_closes hm' hb' hc hl'⟩, ?_⟩
  -- A lease that has to signal stands for a teardown.
  have hsignalled := hb'.signalled_eq (hb'.made slot l' hl')
  rw [hb'.not_isComplete_of_signalling hl' hstage'] at hsignalled
  have hcount := Commons.tally_isAt_ne_zero hl' hstage'
  have hle := hb'.teardowns_le_one l'.resource
  rw [hr'] at hsignalled hcount hle
  simp only [Bool.false_eq_true, if_false] at hsignalled
  omega

end Threads

end Imds
