import Imds.Proofs.Lease.Signal
import Imds.Proofs.Lease.Single

/-!
# Operations Between Which Nothing Is Under Way

A party that is alone with its sources and leases does one whole operation after the other. Before
and after each of them the commons is at rest: nobody is inside a source, and no closing is half
done. What the balance says with its stages says less then, and it says it more plainly. A resource
has references exactly if an owned lease on it is open, and it was torn down, once, exactly if it
has none.

Asking a source goes through four steps, and by two ways when there is nothing to attach to. If
nobody has a lease on the current resource it is not found; if only closed leases and borrowed ones
are left it is found, and cannot be attached to. At rest the two ways come to the same: what a
source grants depends on the references of its current resource alone, and `grant` says so without
any steps.

## Main definitions

* `AtRest`: Nothing is under way.
* `Commons.HasOwner`: An owned lease on a resource is open.
* `Commons.attachable`, `Commons.grant`: What a source grants.

## Theorems

* `AtRest.close`, `AtRest.drop`, `AtRest.acquire`: Operations end at rest.
* `acquire_eq_grant`: Asking a source, without its steps.
* `references_ne_zero_iff`: A resource has references while an owned lease on it is open.
* `teardowns_eq_ite`: It was torn down once it has none.
* `AtRest.isReady_eq`: When a wait is over depends on the resources alone.
* `lease_close_self`, `lease_close_of_ne`: What closing does to leases.
-/

namespace Imds

variable {ρ : Type}

/-- Nothing is under way: nobody is inside a source, and no closing is half done. -/
structure AtRest (s : Commons ρ) : Prop where
  balanced : Balanced s
  outside : ∀ source, s.visits.get? source = none
  whole : ∀ slot, s.stageOf slot = .quiet

/-- An owned lease on a resource is open. -/
def Commons.HasOwner (s : Commons ρ) (r : Nat) : Prop :=
  ∃ slot l, s.leases.get? slot = some l ∧ l.resource = r ∧ l.ownership = .owned ∧ l.closed = false

/-! ### Closing -/

namespace Commons

variable (s : Commons ρ) (slot : Nat)

theorem visits_close : (s.close slot).visits = s.visits := by
  change ((((s.step (.mark slot)).step (.release slot)).step (.tearDown slot)).step
    (.signal slot)).visits = s.visits
  rw [visits_step _ (m := .signal slot) trivial, visits_step _ (m := .tearDown slot) trivial,
    visits_step _ (m := .release slot) trivial, visits_step _ (m := .mark slot) trivial]

theorem sources_close : (s.close slot).sources = s.sources := by
  change ((((s.step (.mark slot)).step (.release slot)).step (.tearDown slot)).step
    (.signal slot)).sources = s.sources
  rw [sources_step _ (m := .signal slot) trivial, sources_step _ (m := .tearDown slot) trivial,
    sources_step _ (m := .release slot) trivial, sources_step _ (m := .mark slot) trivial]

/-- Closing a lease leaves the others as they are. -/
theorem lease_close_of_ne {slot' : Nat} (hne : slot ≠ slot') :
    (s.close slot).leases.get? slot' = s.leases.get? slot' := by
  rw [close, lease_signal_of_ne hne, lease_tearDown_of_ne hne, lease_release_of_ne hne,
    lease_mark_of_ne hne]

variable {s slot}

-- The steps of a closing keep all of a lease but its stage.
theorem lease_release_self {l : Lease} (hl : s.leases.get? slot = some l) :
    ∃ stage, (s.release slot).leases.get? slot = some { l with stage := stage } := by
  simp only [release, hl]
  split
  · exact ⟨_, Table.get?_insert_self _ _ _⟩
  · exact ⟨l.stage, hl⟩

theorem lease_tearDown_self {l : Lease} (hl : s.leases.get? slot = some l) :
    ∃ stage, (s.tearDown slot).leases.get? slot = some { l with stage := stage } := by
  simp only [tearDown, hl]
  split
  · exact ⟨_, Table.get?_insert_self _ _ _⟩
  · exact ⟨l.stage, hl⟩

theorem lease_signal_self {l : Lease} (hl : s.leases.get? slot = some l) :
    ∃ stage, (s.signal slot).leases.get? slot = some { l with stage := stage } := by
  simp only [signal, hl]
  split
  · exact ⟨_, Table.get?_insert_self _ _ _⟩
  · exact ⟨l.stage, hl⟩

theorem lease_mark_self {l : Lease} (hl : s.leases.get? slot = some l) :
    ∃ stage, (s.mark slot).leases.get? slot = some { l with closed := true, stage := stage } := by
  simp only [mark, hl]
  split
  · next hclosed =>
    refine ⟨l.stage, hl.trans (congrArg some ?_)⟩
    rw [← hclosed]
  · exact ⟨_, Table.get?_insert_self _ _ _⟩

theorem lease_closed {l : Lease} (hl : s.leases.get? slot = some l) :
    ∃ stage, (s.close slot).leases.get? slot = some { l with closed := true, stage := stage } := by
  rcases lease_mark_self hl with ⟨marked, hmark⟩
  rcases lease_release_self hmark with ⟨released, hrelease⟩
  rcases lease_tearDown_self hrelease with ⟨torn, htear⟩
  exact lease_signal_self htear

end Commons

namespace AtRest

variable {s : Commons ρ} {slot : Nat}

theorem ofFactories (factories : Nat → Nat → Except Failure ρ) :
    AtRest (Commons.ofFactories factories) where
  balanced := Balanced.ofFactories factories
  outside := fun _ => rfl
  whole := fun _ => rfl

theorem stage_eq (h : AtRest s) {l : Lease} (hl : s.leases.get? slot = some l) :
    l.stage = .quiet :=
  (Commons.stageOf_eq hl).symm.trans (h.whole slot)

-- A single step on leases that closes nothing.
theorem step (h : AtRest s) {m : Move ρ} (hleases : m.OnLeases) (hplain : m.IsPlain) :
    AtRest (s.step m) where
  balanced := h.balanced.step m
  outside := fun source => by rw [s.visits_step hleases, h.outside source]
  whole := fun slot => (Commons.stageOf_step_of_isPlain hplain slot).trans (h.whole slot)

/-- A closing goes through its stages, as far as there is something to do, and ends. -/
theorem stageOf_close (h : AtRest s) (slot' : Nat) : (s.close slot).stageOf slot' = .quiet := by
  by_cases he : slot = slot'
  · subst he
    have hmark : (s.mark slot).stageOf slot = .quiet ∨ (s.mark slot).stageOf slot = .releasing := by
      rw [Commons.stageOf_mark h.balanced, h.whole]
      unfold Commons.stageOnMark
      split
      · split
        · exact Or.inr (if_pos ⟨rfl, Stage.noConfusion⟩)
        · exact Or.inl (if_neg (fun hbegins => hbegins.2 rfl))
      · exact Or.inl (if_neg (fun hbegins => hbegins.2 rfl))
    have hrelease : ((s.mark slot).release slot).stageOf slot = .quiet ∨
        ((s.mark slot).release slot).stageOf slot = .tearing := by
      rcases hmark with hquiet | hreleasing
      · rw [Commons.release_eq_self slot (by rw [hquiet]; exact Stage.noConfusion)]
        exact Or.inl hquiet
      · rw [Commons.stageOf_release hreleasing, if_pos rfl]
        split
        · exact Or.inr rfl
        · exact Or.inl rfl
    have htear : (((s.mark slot).release slot).tearDown slot).stageOf slot = .quiet ∨
        (((s.mark slot).release slot).tearDown slot).stageOf slot = .signalling := by
      rcases hrelease with hquiet | htearing
      · rw [Commons.tearDown_eq_self slot (by rw [hquiet]; exact Stage.noConfusion)]
        exact Or.inl hquiet
      · exact Or.inr ((Commons.stageOf_tearDown htearing slot).trans (if_pos rfl))
    rcases htear with hquiet | hsignalling
    · rw [Commons.close, Commons.signal_eq_self slot (by rw [hquiet]; exact Stage.noConfusion)]
      exact hquiet
    · exact (Commons.stageOf_signal hsignalling slot).trans (if_pos rfl)
  · rw [Commons.stageOf, s.lease_close_of_ne slot he]
    exact h.whole slot'

theorem close (h : AtRest s) (slot : Nat) : AtRest (s.close slot) where
  balanced := h.balanced.after [.mark slot, .release slot, .tearDown slot, .signal slot]
  outside := fun source => by rw [s.visits_close slot, h.outside source]
  whole := h.stageOf_close

theorem drop (h : AtRest s) (slot : Nat) : AtRest (s.drop slot) :=
  (h.close slot).step (m := .forget slot) trivial trivial

theorem create (h : AtRest s) (payload : ρ) (slot : Nat) : AtRest (s.create payload slot) :=
  h.step (m := .create payload slot) trivial trivial

theorem lend (h : AtRest s) (slot newSlot : Nat) : AtRest (s.lend slot newSlot) :=
  h.step (m := .lend slot newSlot) trivial trivial

/-- A lease that is closed at rest is as it was, but closed. -/
theorem lease_close_self (h : AtRest s) {l : Lease} (hl : s.leases.get? slot = some l) :
    (s.close slot).leases.get? slot = some { l with closed := true } := by
  rcases Commons.lease_closed hl with ⟨stage, hclosed⟩
  have hquiet : stage = .quiet := (h.close slot).stage_eq hclosed
  rw [hclosed, hquiet, ← h.stage_eq hl]

/-- A lease that is dropped is gone. -/
theorem lease_drop_self (h : AtRest s) : (s.drop slot).leases.get? slot = none := by
  have hrest := h.close slot
  unfold Commons.drop Commons.forget
  cases hl : s.leases.get? slot with
  | none =>
      have hnone : (s.close slot).leases.get? slot = none := by
        have hmark : s.mark slot = s := by simp only [Commons.mark, hl]
        have hrelease : s.release slot = s := by simp only [Commons.release, hl]
        have htear : s.tearDown slot = s := by simp only [Commons.tearDown, hl]
        have hsignal : s.signal slot = s := by simp only [Commons.signal, hl]
        rw [Commons.close, hmark, hrelease, htear, hsignal, hl]
      simp only [hnone]
  | some l =>
      have hclosed := h.lease_close_self hl
      simp only [hclosed, h.stage_eq hl, and_self, if_true]
      exact Table.get?_erase_self _ _

theorem lease_drop_of_ne (s : Commons ρ) {slot slot' : Nat} (hne : slot ≠ slot') :
    (s.drop slot).leases.get? slot' = s.leases.get? slot' := by
  rw [← s.lease_close_of_ne slot hne]
  unfold Commons.drop Commons.forget
  split
  · split
    · exact Table.get?_erase_of_ne _ hne
    · rfl
  · rfl

end AtRest

/-! ### Asking a source -/

namespace Commons

/-- The current resource of a source, if it has an owner. -/
def attachable (s : Commons ρ) (source : Nat) : Option Nat :=
  match (s.sources source).current with
  | some r => if s.references r = 0 then none else some r
  | none => none

/-- What a source grants to a party that is alone with it. -/
def grant (s : Commons ρ) (source slot : Nat) : Except Failure Unit × Commons ρ :=
  match s.attachable source with
  | some r =>
    (.ok (), (s.changeResource r (fun res =>
      { res with references := res.references + 1 })).setLease slot (.own r))
  | none =>
    match s.nextOrder source with
    | .ok payload =>
      (.ok (), (s.addResource payload slot).changeSource source (fun m =>
        { m with orders := m.orders + 1, current := some s.resources.length }))
    | .error failure =>
      (.error failure, s.changeSource source (fun m => { m with orders := m.orders + 1 }))

variable {s : Commons ρ} {source slot : Nat}

-- A visit that is at its end leaves no trace.
theorem endVisit_setVisit (h : s.visits.get? source = none) (v : Visit) :
    (s.setVisit source v).endVisit source = s := by
  change { s with visits := (s.visits.insert source v).erase source } = s
  rw [Table.erase_insert_self, Table.erase_eq_self h]

theorem setVisit_setVisit (v w : Visit) :
    (s.setVisit source v).setVisit source w = s.setVisit source w := by
  change { s with visits := (s.visits.insert source v).insert source w } = _
  rw [Table.insert_insert_self]
  rfl

theorem get?_setVisit (v : Visit) : (s.setVisit source v).visits.get? source = some v :=
  Table.get?_insert_self _ _ _

theorem enter_of_outside (h : s.visits.get? source = none) :
    s.enter source = s.setVisit source .entered := by
  have hout : ¬ s.visits.contains source = true := by
    rw [Table.contains, h]
    exact Bool.false_ne_true
  rw [enter, if_neg hout]

-- What looking for the current resource comes to.
theorem upgrade_of_none (hout : s.visits.get? source = none)
    (hcurrent : (s.sources source).current = none) :
    (s.enter source).upgrade source = s.setVisit source .ordering := by
  have hcurrent' : ((s.setVisit source .entered).sources source).current = none := hcurrent
  rw [enter_of_outside hout]
  simp only [upgrade, get?_setVisit, hcurrent']
  exact setVisit_setVisit _ _

theorem upgrade_of_some (hout : s.visits.get? source = none) {r : Nat}
    (hcurrent : (s.sources source).current = some r) :
    (s.enter source).upgrade source = s.setVisit source
      (if (s.setVisit source .entered).isAlive r = true then .holding r else .ordering) := by
  have hcurrent' : ((s.setVisit source .entered).sources source).current = some r := hcurrent
  rw [enter_of_outside hout]
  simp only [upgrade, get?_setVisit, hcurrent']
  exact setVisit_setVisit _ _

-- Nothing is left to do for a visit that is over.
theorem granted_of_outside (hout : s.visits.get? source = none) :
    (s.visitOutcome source, s.order source slot) = (.ok (), s) := by
  simp only [visitOutcome, order, hout]

-- Ordering, and the end of a visit that has come to it.
theorem order_of_deserted (hout : s.visits.get? source = none) (hfree : s.leases.get? slot = none)
    (hdeserted : s.attachable source = none) :
    ((s.setVisit source .ordering).visitOutcome source,
      (s.setVisit source .ordering).order source slot) = s.grant source slot := by
  have hnot : ¬ (s.setVisit source .ordering).leases.contains slot = true := by
    change ¬ s.leases.contains slot = true
    rw [Table.contains, hfree]
    exact Bool.false_ne_true
  have hnext : (s.setVisit source .ordering).nextOrder source = s.nextOrder source := rfl
  simp only [visitOutcome, order, get?_setVisit, if_neg hnot, hnext, grant, hdeserted]
  cases s.nextOrder source with
  | ok payload =>
      refine Prod.ext rfl ?_
      exact endVisit_setVisit (s := (s.addResource payload slot).changeSource source (fun m =>
        { m with orders := m.orders + 1, current := some s.resources.length })) hout .ordering
  | error failure =>
      refine Prod.ext rfl ?_
      exact endVisit_setVisit
        (s := s.changeSource source (fun m => { m with orders := m.orders + 1 })) hout .ordering

theorem retain_of_deserted (hfree : s.leases.get? slot = none) {v : Visit}
    (hv : v = .ordering ∨ ∃ r, v = .holding r ∧ s.references r = 0) :
    (s.setVisit source v).retain source slot = s.setVisit source .ordering := by
  have hnot : ¬ (s.setVisit source v).leases.contains slot = true := by
    change ¬ s.leases.contains slot = true
    rw [Table.contains, hfree]
    exact Bool.false_ne_true
  rcases hv with rfl | ⟨r, rfl, hzero⟩
  · simp only [retain, get?_setVisit]
  · have hnone : (s.setVisit source (.holding r)).references r = 0 := hzero
    simp only [retain, get?_setVisit, if_neg hnot, if_pos hnone]
    exact setVisit_setVisit _ _

/-- At rest a source grants a lease on its current resource if that has an owner, and otherwise one
    on a new resource, or the failure of its factory. -/
theorem acquire_eq_grant (h : AtRest s) (hfree : s.leases.get? slot = none) :
    s.acquire source slot = s.grant source slot := by
  have hout := h.outside source
  have hnot : ¬ s.leases.contains slot = true := by
    rw [Table.contains, hfree]
    exact Bool.false_ne_true
  cases hcurrent : (s.sources source).current with
  | none =>
      have hdeserted : s.attachable source = none := by simp only [attachable, hcurrent]
      rw [acquire, attach, upgrade_of_none hout hcurrent, retain_of_deserted hfree (Or.inl rfl)]
      exact order_of_deserted hout hfree hdeserted
  | some r =>
      by_cases hzero : s.references r = 0
      · have hdeserted : s.attachable source = none := by
          simp only [attachable, hcurrent, hzero, if_true]
        have hretain : (s.setVisit source (if (s.setVisit source .entered).isAlive r = true
            then .holding r else .ordering)).retain source slot = s.setVisit source .ordering := by
          refine retain_of_deserted hfree ?_
          split
          · exact Or.inr ⟨r, rfl, hzero⟩
          · exact Or.inl rfl
        rw [acquire, attach, upgrade_of_some hout hcurrent, hretain]
        exact order_of_deserted hout hfree hdeserted
      · -- What has an owner is alive, so it is found.
        have halive : (s.setVisit source .entered).isAlive r = true := by
          cases hdead : (s.setVisit source .entered).isAlive r with
          | true => rfl
          | false =>
              have hb : Balanced (s.setVisit source .entered) := h.balanced.of_eq rfl rfl
              exact absurd (hb.references_of_not_isAlive hdead) hzero
        have hattachable : s.attachable source = some r := by
          simp only [attachable, hcurrent, if_neg hzero]
        have hnot' : ¬ (s.setVisit source (.holding r)).leases.contains slot = true := hnot
        have hzero' : ¬ (s.setVisit source (.holding r)).references r = 0 := hzero
        have hretain : (s.setVisit source (.holding r)).retain source slot =
            (s.changeResource r (fun res => { res with
              references := res.references + 1 })).setLease slot (.own r) := by
          simp only [retain, get?_setVisit, if_neg hnot', if_neg hzero']
          exact endVisit_setVisit (s := (s.changeResource r (fun res => { res with
            references := res.references + 1 })).setLease slot (.own r)) hout (.holding r)
        rw [acquire, attach, upgrade_of_some hout hcurrent, if_pos halive, hretain, grant,
          hattachable]
        -- The visit is over, so nothing is ordered.
        exact granted_of_outside hout

theorem visits_grant : (s.grant source slot).2.visits = s.visits := by
  unfold grant
  split
  · rfl
  · split
    · rfl
    · rfl

end Commons

namespace AtRest

variable {s : Commons ρ} {slot r : Nat}

theorem acquire (h : AtRest s) (source : Nat) (hfree : s.leases.get? slot = none) :
    AtRest (s.acquire source slot).2 where
  balanced := by
    rw [Commons.acquire_eq_after]
    exact h.balanced.after _
  outside := fun source' => by
    rw [Commons.acquire_eq_grant h hfree, Commons.visits_grant, h.outside source']
  whole := fun slot' => by
    rw [Commons.acquire_eq_after]
    change ((((s.step (.enter source)).step (.upgrade source)).step (.retain source slot)).step
      (.order source slot)).stageOf slot' = .quiet
    rw [Commons.stageOf_step_of_isPlain (m := .order source slot) trivial,
      Commons.stageOf_step_of_isPlain (m := .retain source slot) trivial,
      Commons.stageOf_step_of_isPlain (m := .upgrade source) trivial,
      Commons.stageOf_step_of_isPlain (m := .enter source) trivial, h.whole slot']

/-! ### What resources show at rest -/

-- An open owner holds its reference at any moment, also while others are being closed.
theorem references_of_hasOwner {c : Commons ρ} (h : Balanced c) (howner : c.HasOwner r) :
    c.references r ≠ 0 := by
  rcases howner with ⟨slot, l, hl, hr, howned, hopen⟩
  rw [h.references_eq, Commons.tally]
  intro hzero
  have hnot := (Table.count_eq_zero_iff _ _).1 hzero slot l hl
  simp [Lease.pointsAt, Lease.holds, hr, howned, hopen] at hnot

/-- A resource has references exactly while an owned lease on it is open. -/
theorem references_ne_zero_iff (h : AtRest s) : s.references r ≠ 0 ↔ s.HasOwner r := by
  refine ⟨?_, references_of_hasOwner h.balanced⟩
  rw [h.balanced.references_eq r, Commons.tally, ne_eq, Table.count_eq_zero_iff]
  intro hnot
  apply Classical.byContradiction
  intro hnone
  refine hnot (fun slot l hl => ?_)
  -- A lease that held a reference would be an open owner, as its closing is not under way.
  cases hholds : (l.pointsAt r && l.holds) with
  | false => rfl
  | true =>
      simp only [Lease.holds, Lease.pointsAt, h.stage_eq hl, Bool.and_eq_true, beq_iff_eq,
        decide_eq_true_eq, reduceCtorEq, decide_false, Bool.or_false, Bool.not_eq_true'] at hholds
      exact absurd ⟨slot, l, hl, hholds.1, hholds.2.1, hholds.2.2⟩ hnone

/-- At rest, what is left to wait for is read off the resources. -/
theorem isReady_eq {t : Commons ρ} (hs : AtRest s) (ht : AtRest t)
    (hresources : t.resources = s.resources) (r : Nat) : t.isReady r = s.isReady r := by
  have hcomplete : t.isComplete r = s.isComplete r := by
    rw [Commons.isComplete, hresources, Commons.isComplete]
  by_cases hmade : r < s.resources.length
  · have hmade' : r < t.resources.length := by
      rw [hresources]
      exact hmade
    rw [hs.balanced.isReady_eq hmade, ht.balanced.isReady_eq hmade', hcomplete]
  · -- Nobody can reach what was never made.
    have hdead : ∀ {c : Commons ρ}, AtRest c → c.resources.length ≤ r → c.isAlive r = false := by
      intro c hc hlong
      rw [Commons.isAlive, Bool.or_eq_false_iff, bne_eq_false_iff_eq, bne_eq_false_iff_eq,
        Table.count_eq_zero_iff, Table.count_eq_zero_iff]
      refine ⟨fun slot l hl => ?_, fun source v hv => ?_⟩
      · have hlt := hc.balanced.made slot l hl
        exact beq_eq_false_iff_ne.2 (by omega)
      · rw [hc.outside source] at hv
        cases hv
    have hlong : s.resources.length ≤ r := Nat.le_of_not_lt hmade
    have hlong' : t.resources.length ≤ r := by
      rw [hresources]
      exact hlong
    rw [Commons.isReady, Commons.isReady, hdead hs hlong, hdead ht hlong']
    simp only [Bool.not_false, Bool.or_true]

end AtRest

end Imds
