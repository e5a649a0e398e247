import Imds.Proofs.Lease.Rest

/-!
# A Commons Without What Was Lent

To strike out what was lent leaves a commons with the same resources and sources, and with the
owned leases only. A dealing with an owned lease, or one that grants one, does the same in both,
step by step: each step looks at one lease, which is the same in both, and at the count of its
resource. A dealing with a borrowed lease changes neither resources nor sources, as there is
nothing to release when it is closed; so it leaves the second commons what it was to the first.

There is one dealing that could tell the difference. A borrowed lease keeps a resource alive that
has no owner any more, so a source that is asked finds it in one commons and does not find it in
the other. It cannot attach to it, and at rest the two ways come to the same.

## Main definitions

* `Commons.isLent`: A number stands for a borrowed lease.
* `Unlent`: A commons without its borrowed leases.
* `UnlentAt`: And a number does not stand for one of them.

## Theorems

* `UnlentAt.close`, `UnlentAt.drop`, `UnlentAt.create`, `UnlentAt.grant`: Dealings with owned leases
  do the same in both.
* `Unlent.lend`, `Unlent.close_lent`, `Unlent.drop_lent`: Dealings with borrowed ones are not
  noticed.
-/

namespace Imds

variable {ρ : Type}

/-- Whether a lease is owned. -/
def Lease.isOwned (l : Lease) : Bool := decide (l.ownership = .owned)

/-- Whether a number stands for a borrowed lease. -/
def Commons.isLent (s : Commons ρ) (slot : Nat) : Bool :=
  (s.leases.get? slot).any (fun l => !l.isOwned)

/-- The second commons is the first one without its borrowed leases. -/
structure Unlent (s t : Commons ρ) : Prop where
  resources : t.resources = s.resources
  sources : t.sources = s.sources
  leases : ∀ slot, t.leases.get? slot = (s.leases.get? slot).filter Lease.isOwned

/-- And a number does not stand for one of them. -/
structure UnlentAt (slot : Nat) (s t : Commons ρ) : Prop extends Unlent s t where
  same : t.leases.get? slot = s.leases.get? slot

namespace Unlent

variable {s t : Commons ρ} {slot : Nat}

theorem references_eq (h : Unlent s t) (r : Nat) : t.references r = s.references r := by
  rw [Commons.references, h.resources, Commons.references]

theorem isComplete_eq (h : Unlent s t) (r : Nat) : t.isComplete r = s.isComplete r := by
  rw [Commons.isComplete, h.resources, Commons.isComplete]

theorem at_of_not_isLent (h : Unlent s t) (hown : s.isLent slot = false) : UnlentAt slot s t := by
  refine ⟨h, ?_⟩
  rw [h.leases slot]
  unfold Commons.isLent at hown
  cases hl : s.leases.get? slot with
  | none => rfl
  | some l =>
      rw [hl] at hown
      have howned : l.isOwned = true := by simpa using hown
      exact Option.filter_some_pos howned

end Unlent

namespace UnlentAt

variable {s t : Commons ρ} {slot : Nat}

-- A lease that was not struck out is owned.
theorem owned (h : UnlentAt slot s t) {l : Lease} (hl : s.leases.get? slot = some l) :
    l.ownership = .owned := by
  have hsame := h.same
  rw [h.leases slot, hl] at hsame
  exact of_decide_eq_true (Option.filter_eq_some_iff.1 hsame).2

theorem contains_eq (h : UnlentAt slot s t) : t.leases.contains slot = s.leases.contains slot := by
  rw [Table.contains, h.same, Table.contains]

theorem setLease (h : UnlentAt slot s t) {l : Lease} (howned : l.ownership = .owned) :
    UnlentAt slot (s.setLease slot l) (t.setLease slot l) where
  resources := h.resources
  sources := h.sources
  leases := by
    intro slot'
    change (t.leases.insert slot l).get? slot' = ((s.leases.insert slot l).get? slot').filter _
    rw [Table.get?_insert, Table.get?_insert]
    split
    · exact (Option.filter_some_pos (p := Lease.isOwned) (decide_eq_true howned)).symm
    · exact h.leases slot'
  same := (Table.get?_insert_self _ _ _).trans (Table.get?_insert_self _ _ _).symm

theorem changeResource (h : UnlentAt slot s t) (r : Nat) (f : Resource ρ → Resource ρ) :
    UnlentAt slot (s.changeResource r f) (t.changeResource r f) where
  resources := congrArg (fun resources => resources.modify r f) h.resources
  sources := h.sources
  leases := h.leases
  same := h.same

theorem changeSource (h : UnlentAt slot s t) (source : Nat) (f : Source ρ → Source ρ) :
    UnlentAt slot (s.changeSource source f) (t.changeSource source f) where
  resources := h.resources
  sources := congrArg (fun sources => updateAt sources source (f (sources source))) h.sources
  leases := h.leases
  same := h.same

theorem addResource (h : UnlentAt slot s t) (payload : ρ) :
    UnlentAt slot (s.addResource payload slot) (t.addResource payload slot) := by
  have hset := h.setLease (l := .own s.resources.length) rfl
  refine ⟨⟨?_, h.sources, ?_⟩, ?_⟩
  · exact congrArg (fun resources => resources ++ [⟨payload, 1, 0, false⟩]) h.resources
  · intro slot'
    change (t.leases.insert slot (.own t.resources.length)).get? slot' = _
    rw [h.resources]
    exact hset.leases slot'
  · change (t.leases.insert slot (.own t.resources.length)).get? slot = _
    rw [h.resources]
    exact hset.same

/-! ### Dealings with owned leases -/

theorem mark (h : UnlentAt slot s t) : UnlentAt slot (s.mark slot) (t.mark slot) := by
  unfold Commons.mark
  rw [h.same]
  cases hl : s.leases.get? slot with
  | none => exact h
  | some l =>
      have howned := h.owned hl
      simp only []
      split
      · exact h
      · exact h.setLease howned

theorem release (h : UnlentAt slot s t) : UnlentAt slot (s.release slot) (t.release slot) := by
  unfold Commons.release
  rw [h.same]
  cases hl : s.leases.get? slot with
  | none => exact h
  | some l =>
      have howned := h.owned hl
      simp only [h.references_eq]
      split
      · exact (h.changeResource _ _).setLease howned
      · exact h

theorem tearDown (h : UnlentAt slot s t) : UnlentAt slot (s.tearDown slot) (t.tearDown slot) := by
  unfold Commons.tearDown
  rw [h.same]
  cases hl : s.leases.get? slot with
  | none => exact h
  | some l =>
      have howned := h.owned hl
      simp only []
      split
      · exact (h.changeResource _ _).setLease howned
      · exact h

theorem signal (h : UnlentAt slot s t) : UnlentAt slot (s.signal slot) (t.signal slot) := by
  unfold Commons.signal
  rw [h.same]
  cases hl : s.leases.get? slot with
  | none => exact h
  | some l =>
      have howned := h.owned hl
      simp only []
      split
      · exact (h.changeResource _ _).setLease howned
      · exact h

theorem forget (h : UnlentAt slot s t) : UnlentAt slot (s.forget slot) (t.forget slot) := by
  unfold Commons.forget
  rw [h.same]
  cases hl : s.leases.get? slot with
  | none => exact h
  | some l =>
      simp only []
      split
      · refine ⟨⟨h.resources, h.sources, ?_⟩, ?_⟩
        · intro slot'
          change (t.leases.erase slot).get? slot' = ((s.leases.erase slot).get? slot').filter _
          by_cases he : slot = slot'
          · subst he
            rw [Table.get?_erase_self, Table.get?_erase_self]
            rfl
          · rw [Table.get?_erase_of_ne _ he, Table.get?_erase_of_ne _ he]
            exact h.leases slot'
        · exact (Table.get?_erase_self _ _).trans (Table.get?_erase_self _ _).symm
      · exact h

theorem close (h : UnlentAt slot s t) : UnlentAt slot (s.close slot) (t.close slot) :=
  h.mark.release.tearDown.signal

theorem drop (h : UnlentAt slot s t) : UnlentAt slot (s.drop slot) (t.drop slot) := h.close.forget

theorem create (h : UnlentAt slot s t) (payload : ρ) :
    UnlentAt slot (s.create payload slot) (t.create payload slot) := by
  unfold Commons.create
  rw [h.contains_eq]
  split
  · exact h
  · exact h.addResource payload

/-- A source that is asked grants the same, although it may find a resource that is kept alive by
    what was lent. -/
theorem grant (h : UnlentAt slot s t) (source : Nat) :
    (t.grant source slot).1 = (s.grant source slot).1 ∧
      UnlentAt slot (s.grant source slot).2 (t.grant source slot).2 := by
  have hattachable : t.attachable source = s.attachable source := by
    simp only [Commons.attachable, h.sources, h.references_eq]
  have hnext : t.nextOrder source = s.nextOrder source := by
    simp only [Commons.nextOrder, h.sources]
  unfold Commons.grant
  rw [hattachable, hnext]
  cases s.attachable source with
  | some r => exact ⟨rfl, (h.changeResource r _).setLease rfl⟩
  | none =>
      cases s.nextOrder source with
      | error failure =>
          exact ⟨rfl, h.changeSource source (fun m => { m with orders := m.orders + 1 })⟩
      | ok payload =>
          refine ⟨rfl, ?_⟩
          simp only [h.resources]
          exact (h.addResource payload).changeSource source _

theorem isClosed_eq (h : UnlentAt slot s t) : t.isClosed slot = s.isClosed slot := by
  unfold Commons.isClosed
  simp only [h.same, h.references_eq]

theorem get_eq (h : UnlentAt slot s t) : t.get slot = s.get slot := by
  unfold Commons.get
  rw [h.isClosed_eq, h.same]

theorem refCount_eq (h : UnlentAt slot s t) : t.refCount slot = s.refCount slot := by
  unfold Commons.refCount
  simp only [h.same, h.references_eq]

end UnlentAt

/-! ### Dealings with what was lent -/

namespace Unlent

variable {s t : Commons ρ} {slot : Nat}

theorem isLent_iff : s.isLent slot = true ↔
    ∃ l, s.leases.get? slot = some l ∧ l.ownership = .borrowed := by
  unfold Commons.isLent
  cases hl : s.leases.get? slot with
  | none => simp
  | some l => cases ho : l.ownership <;> simp [Lease.isOwned, ho]

-- A borrowed lease comes, changes or goes, and nothing else does.
theorem of_lent (h : Unlent s t) {s' : Commons ρ} (hresources : s'.resources = s.resources)
    (hsources : s'.sources = s.sources)
    (hother : ∀ slot', slot ≠ slot' → s'.leases.get? slot' = s.leases.get? slot')
    (hbefore : ∀ l, s.leases.get? slot = some l → l.ownership = .borrowed)
    (hafter : ∀ l, s'.leases.get? slot = some l → l.ownership = .borrowed) : Unlent s' t := by
  refine ⟨h.resources.trans hresources.symm, h.sources.trans hsources.symm, ?_⟩
  have hnone : ∀ {l? : Option Lease}, (∀ l, l? = some l → l.ownership = .borrowed) →
      l?.filter Lease.isOwned = none := by
    intro l? hborrowed
    refine Option.filter_eq_none_iff.2 (fun l hl howned => ?_)
    have hnot := of_decide_eq_true howned
    rw [hborrowed l hl] at hnot
    cases hnot
  intro slot'
  by_cases he : slot = slot'
  · subst he
    rw [h.leases slot, hnone hbefore, hnone hafter]
  · rw [h.leases slot', hother slot' he]

theorem lend (h : Unlent s t) (slot newSlot : Nat) : Unlent (s.lend slot newSlot) t := by
  unfold Commons.lend
  split
  · next l _ =>
    split
    · exact h
    · next hfree =>
      have hnone : s.leases.get? newSlot = none := Option.not_isSome_iff_eq_none.1 hfree
      refine h.of_lent rfl rfl (fun slot' hne => Table.get?_insert_of_ne _ _ hne) ?_ ?_
      · intro l' hl'
        rw [hnone] at hl'
        cases hl'
      · intro l' hl'
        change (s.leases.insert newSlot (.borrow l.resource)).get? newSlot = some l' at hl'
        rw [Table.get?_insert_self] at hl'
        cases hl'
        rfl
  · exact h

-- A borrowed lease has nothing to release, so its closing is over when it is marked.
theorem resources_close_of_lent (hs : AtRest s) {l : Lease} (hl : s.leases.get? slot = some l)
    (hborrowed : l.ownership = .borrowed) : (s.close slot).resources = s.resources := by
  have hquiet : (s.mark slot).stageOf slot = .quiet := by
    rw [Commons.stageOf_mark hs.balanced, hs.whole]
    have hnothing : s.stageOnMark slot = .quiet := by
      simp only [Commons.stageOnMark, hl, hborrowed, reduceCtorEq, and_false, if_false]
    exact if_neg (fun hbegins => hbegins.2 hnothing)
  have hrelease := Commons.release_eq_self slot (by rw [hquiet]; exact Stage.noConfusion)
  have htear := Commons.tearDown_eq_self slot (by rw [hquiet]; exact Stage.noConfusion)
  have hsignal := Commons.signal_eq_self slot (by rw [hquiet]; exact Stage.noConfusion)
  rw [Commons.close, hrelease, htear, hsignal]
  unfold Commons.mark
  simp only [hl]
  split
  · rfl
  · rfl

theorem close_lent (h : Unlent s t) (hs : AtRest s) (hlent : s.isLent slot = true) :
    Unlent (s.close slot) t := by
  rcases isLent_iff.1 hlent with ⟨l, hl, hborrowed⟩
  refine h.of_lent (resources_close_of_lent hs hl hborrowed) (s.sources_close slot)
    (fun slot' hne => s.lease_close_of_ne slot hne) ?_ ?_
  · intro l' hl'
    rw [hl] at hl'
    cases hl'
    exact hborrowed
  · intro l' hl'
    rw [hs.lease_close_self hl] at hl'
    cases hl'
    exact hborrowed

theorem drop_lent (h : Unlent s t) (hs : AtRest s) (hlent : s.isLent slot = true) :
    Unlent (s.drop slot) t := by
  rcases isLent_iff.1 hlent with ⟨l, hl, hborrowed⟩
  have hforget : ((s.close slot).forget slot).resources = (s.close slot).resources := by
    unfold Commons.forget
    split
    · split
      · rfl
      · rfl
    · rfl
  refine h.of_lent (hforget.trans (resources_close_of_lent hs hl hborrowed)) ?_
    (fun slot' hne => AtRest.lease_drop_of_ne s hne) ?_ ?_
  · rw [← s.sources_close slot]
    exact (s.close slot).sources_step (m := .forget slot) trivial
  · intro l' hl'
    rw [hl] at hl'
    cases hl'
    exact hborrowed
  · intro l' hl'
    rw [hs.lease_drop_self] at hl'
    cases hl'

theorem contains_of_isLent (hlent : s.isLent slot = true) : s.leases.contains slot = true := by
  rcases isLent_iff.1 hlent with ⟨l, hl, -⟩
  exact Table.contains_iff.2 ⟨l, hl⟩

end Unlent

end Imds
