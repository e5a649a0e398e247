import Imds.Lease.Step

/-!
# What a Step Can Do to a Resource

There are eleven steps of sharing, and to a resource they do five things. One is made
with its maker's lease; a lease attaches to one that has an owner; a lease releases
its reference, tears down, or signals. `Effect` lists them, and each step is shown to
have an effect once. Whatever else is said about resources is read off the list and
never opens a step again.

`Grants`, `Frees` and `Tears` are the events that a count of references or teardowns
follows. The first is seen in the leases alone: an owned lease stands under a number
that was free. So the law of the references in `references_step` connects two things
that the steps keep apart, a number in the resource and the leases that exist.

## Main definitions

* `Commons.Grants`, `Commons.Frees`, `Commons.Tears`: The events on a resource.
* `Commons.Effect`: All that a step can do to resources.

## Theorems

* `effect_step`: Every step has an effect of the list.
* `references_step`: References follow the leases that are granted and released.
* `references_step_eq_zero`: A resource without references gets none.
* `teardowns_step`: A teardown is the step of a lease that has come to it.
* `isComplete_step`: What was signalled stays signalled.
-/

namespace Imds

variable {ρ : Type}

namespace Commons

/-- A step puts a new owned lease on a resource under a number that was free. -/
def Grants (s s' : Commons ρ) (r : Nat) : Prop :=
  ∃ slot, s.leases.get? slot = none ∧ s'.leases.get? slot = some (.own r)

/-- A step is the release of a lease on a resource that has come to it. -/
def Frees (s : Commons ρ) (m : Move ρ) (r : Nat) : Prop :=
  ∃ slot l, m = .release slot ∧ s.leases.get? slot = some l ∧ l.stage = .releasing ∧ l.resource = r

/-- A step is the teardown of a resource by a lease that has come to it. -/
def Tears (s : Commons ρ) (m : Move ρ) (r : Nat) : Prop :=
  ∃ slot l, m = .tearDown slot ∧ s.leases.get? slot = some l ∧ l.stage = .tearing ∧ l.resource = r

/-- All that a step can do to resources. -/
inductive Effect (s : Commons ρ) (m : Move ρ) (s' : Commons ρ) : Prop
  /-- Nothing, and nobody is granted a lease. -/
  | still (hresources : s'.resources = s.resources) (hgrants : ∀ r, ¬ s.Grants s' r)
      (hfrees : ∀ r, ¬ s.Frees m r) (htears : ∀ r, ¬ s.Tears m r)
  /-- A new one is made for a new lease. -/
  | made (payload : ρ) (slot : Nat) (hfree : s.leases.get? slot = none)
      (hresources : s'.resources = s.resources ++ [⟨payload, 1, 0, false⟩])
      (hleases : s'.leases = s.leases.insert slot (.own s.resources.length))
      (hfrees : ∀ r, ¬ s.Frees m r) (htears : ∀ r, ¬ s.Tears m r)
  /-- A new lease attaches to one that has an owner. -/
  | attached (r slot : Nat) (hfree : s.leases.get? slot = none) (howned : s.references r ≠ 0)
      (hresources : s'.resources =
        s.resources.modify r (fun res => { res with references := res.references + 1 }))
      (hleases : s'.leases = s.leases.insert slot (.own r))
      (hfrees : ∀ r, ¬ s.Frees m r) (htears : ∀ r, ¬ s.Tears m r)
  /-- A lease releases its reference. -/
  | released (slot : Nat) (l : Lease) (hm : m = .release slot)
      (hl : s.leases.get? slot = some l) (hstage : l.stage = .releasing)
      (hresources : s'.resources =
        s.resources.modify l.resource (fun res => { res with references := res.references - 1 }))
      (hgrants : ∀ r, ¬ s.Grants s' r)
  /-- A lease tears its resource down. -/
  | tornDown (slot : Nat) (l : Lease) (hm : m = .tearDown slot)
      (hl : s.leases.get? slot = some l) (hstage : l.stage = .tearing)
      (hresources : s'.resources =
        s.resources.modify l.resource (fun res => { res with teardowns := res.teardowns + 1 }))
      (hgrants : ∀ r, ¬ s.Grants s' r)
  /-- A lease signals the teardown of its resource. -/
  | signalled (slot : Nat) (l : Lease)
      (hl : s.leases.get? slot = some l) (hstage : l.stage = .signalling)
      (hresources : s'.resources =
        s.resources.modify l.resource (fun res => { res with signalled := true }))
      (hgrants : ∀ r, ¬ s.Grants s' r)
      (hfrees : ∀ r, ¬ s.Frees m r) (htears : ∀ r, ¬ s.Tears m r)

variable {s : Commons ρ}

theorem not_grants_self (r : Nat) : ¬ s.Grants s r := by
  intro hgrants
  rcases hgrants with ⟨slot, hnone, hsome⟩
  rw [hnone] at hsome
  cases hsome

-- To replace a lease by another grants nothing.
theorem not_grants_of_insert {s' : Commons ρ} {slot : Nat} {l old : Lease}
    (hold : s.leases.get? slot = some old) (hleases : s'.leases = s.leases.insert slot l)
    (r : Nat) : ¬ s.Grants s' r := by
  intro hgrants
  rcases hgrants with ⟨slot', hnone, hsome⟩
  by_cases he : slot = slot'
  · subst he
    rw [hold] at hnone
    cases hnone
  · rw [hleases, Table.get?_insert_of_ne _ _ he, hnone] at hsome
    cases hsome

theorem not_frees {m : Move ρ} (h : ∀ slot, m ≠ .release slot) (r : Nat) : ¬ s.Frees m r :=
  fun ⟨slot, _, hm, _⟩ => h slot hm

theorem not_tears {m : Move ρ} (h : ∀ slot, m ≠ .tearDown slot) (r : Nat) : ¬ s.Tears m r :=
  fun ⟨slot, _, hm, _⟩ => h slot hm

theorem effect_lend (slot newSlot : Nat) : s.Effect (.lend slot newSlot) (s.lend slot newSlot) := by
  have hfrees : ∀ r, ¬ s.Frees (.lend slot newSlot) r := not_frees (fun _ h => nomatch h)
  have htears : ∀ r, ¬ s.Tears (.lend slot newSlot) r := not_tears (fun _ h => nomatch h)
  unfold lend
  split
  · split
    · exact .still rfl not_grants_self hfrees htears
    · refine .still rfl ?_ hfrees htears
      intro r hgrants
      rcases hgrants with ⟨slot', hnone, hsome⟩
      change (s.leases.insert newSlot _).get? slot' = _ at hsome
      rw [Table.get?_insert] at hsome
      -- The new lease is a borrowed one.
      split at hsome
      · cases hsome
      · rw [hnone] at hsome
        cases hsome
  · exact .still rfl not_grants_self hfrees htears

theorem effect_mark (slot : Nat) : s.Effect (.mark slot) (s.mark slot) := by
  have hfrees : ∀ r, ¬ s.Frees (.mark slot) r := not_frees (fun _ h => nomatch h)
  have htears : ∀ r, ¬ s.Tears (.mark slot) r := not_tears (fun _ h => nomatch h)
  unfold mark
  split
  · next l hl =>
    split
    · exact .still rfl not_grants_self hfrees htears
    · exact .still rfl (not_grants_of_insert hl rfl) hfrees htears
  · exact .still rfl not_grants_self hfrees htears

theorem effect_release (slot : Nat) : s.Effect (.release slot) (s.release slot) := by
  have htears : ∀ r, ¬ s.Tears (.release slot) r := not_tears (fun _ h => nomatch h)
  unfold release
  split
  · next l hl =>
    by_cases hstage : l.stage = .releasing
    · rw [if_pos hstage]
      exact .released slot l rfl hl hstage rfl (not_grants_of_insert hl rfl)
    · rw [if_neg hstage]
      refine .still rfl not_grants_self ?_ htears
      intro r hfrees
      rcases hfrees with ⟨slot', l', hm, hl', hstage', -⟩
      cases hm
      rw [hl] at hl'
      cases hl'
      exact hstage hstage'
  · next hnone =>
    refine .still rfl not_grants_self ?_ htears
    intro r hfrees
    rcases hfrees with ⟨slot', l', hm, hl', -⟩
    cases hm
    rw [hnone] at hl'
    cases hl'

theorem effect_tearDown (slot : Nat) : s.Effect (.tearDown slot) (s.tearDown slot) := by
  have hfrees : ∀ r, ¬ s.Frees (.tearDown slot) r := not_frees (fun _ h => nomatch h)
  unfold tearDown
  split
  · next l hl =>
    by_cases hstage : l.stage = .tearing
    · rw [if_pos hstage]
      exact .tornDown slot l rfl hl hstage rfl (not_grants_of_insert hl rfl)
    · rw [if_neg hstage]
      refine .still rfl not_grants_self hfrees ?_
      intro r htears
      rcases htears with ⟨slot', l', hm, hl', hstage', -⟩
      cases hm
      rw [hl] at hl'
      cases hl'
      exact hstage hstage'
  · next hnone =>
    refine .still rfl not_grants_self hfrees ?_
    intro r htears
    rcases htears with ⟨slot', l', hm, hl', -⟩
    cases hm
    rw [hnone] at hl'
    cases hl'

theorem effect_signal (slot : Nat) : s.Effect (.signal slot) (s.signal slot) := by
  have hfrees : ∀ r, ¬ s.Frees (.signal slot) r := not_frees (fun _ h => nomatch h)
  have htears : ∀ r, ¬ s.Tears (.signal slot) r := not_tears (fun _ h => nomatch h)
  unfold signal
  split
  · next l hl =>
    by_cases hstage : l.stage = .signalling
    · rw [if_pos hstage]
      exact .signalled slot l hl hstage rfl (not_grants_of_insert hl rfl) hfrees htears
    · rw [if_neg hstage]
      exact .still rfl not_grants_self hfrees htears
  · exact .still rfl not_grants_self hfrees htears

theorem effect_create (payload : ρ) (slot : Nat) :
    s.Effect (.create payload slot) (s.create payload slot) := by
  have hfrees : ∀ r, ¬ s.Frees (.create payload slot) r := not_frees (fun _ h => nomatch h)
  have htears : ∀ r, ¬ s.Tears (.create payload slot) r := not_tears (fun _ h => nomatch h)
  unfold create
  split
  · exact .still rfl not_grants_self hfrees htears
  · next hfree =>
    exact .made payload slot (Option.not_isSome_iff_eq_none.1 hfree) rfl rfl hfrees htears

theorem effect_order (source slot : Nat) :
    s.Effect (.order source slot) (s.order source slot) := by
  have hfrees : ∀ r, ¬ s.Frees (.order source slot) r := not_frees (fun _ h => nomatch h)
  have htears : ∀ r, ¬ s.Tears (.order source slot) r := not_tears (fun _ h => nomatch h)
  unfold order
  split
  · split
    · exact .still rfl not_grants_self hfrees htears
    · next hfree =>
      split
      · next payload _ =>
        exact .made payload slot (Option.not_isSome_iff_eq_none.1 hfree) rfl rfl hfrees htears
      · exact .still rfl not_grants_self hfrees htears
  · exact .still rfl not_grants_self hfrees htears

theorem effect_retain (source slot : Nat) :
    s.Effect (.retain source slot) (s.retain source slot) := by
  have hfrees : ∀ r, ¬ s.Frees (.retain source slot) r := not_frees (fun _ h => nomatch h)
  have htears : ∀ r, ¬ s.Tears (.retain source slot) r := not_tears (fun _ h => nomatch h)
  unfold retain
  split
  · next r _ =>
    split
    · exact .still rfl not_grants_self hfrees htears
    · next hfree =>
      split
      · exact .still rfl not_grants_self hfrees htears
      · next howned =>
        exact .attached r slot (Option.not_isSome_iff_eq_none.1 hfree) howned rfl rfl hfrees htears
  · exact .still rfl not_grants_self hfrees htears

theorem effect_forget (slot : Nat) : s.Effect (.forget slot) (s.forget slot) := by
  have hfrees : ∀ r, ¬ s.Frees (.forget slot) r := not_frees (fun _ h => nomatch h)
  have htears : ∀ r, ¬ s.Tears (.forget slot) r := not_tears (fun _ h => nomatch h)
  unfold forget
  split
  · split
    · refine .still rfl ?_ hfrees htears
      intro r hgrants
      rcases hgrants with ⟨slot', hnone, hsome⟩
      change (s.leases.erase slot).get? slot' = _ at hsome
      by_cases he : slot = slot'
      · subst he
        rw [Table.get?_erase_self] at hsome
        cases hsome
      · rw [Table.get?_erase_of_ne _ he, hnone] at hsome
        cases hsome
    · exact .still rfl not_grants_self hfrees htears
  · exact .still rfl not_grants_self hfrees htears

theorem effect_enter (source : Nat) : s.Effect (.enter source) (s.enter source) := by
  have hfrees : ∀ r, ¬ s.Frees (.enter source) r := not_frees (fun _ h => nomatch h)
  have htears : ∀ r, ¬ s.Tears (.enter source) r := not_tears (fun _ h => nomatch h)
  unfold enter
  split
  · exact .still rfl not_grants_self hfrees htears
  · exact .still rfl not_grants_self hfrees htears

theorem effect_upgrade (source : Nat) : s.Effect (.upgrade source) (s.upgrade source) := by
  have hfrees : ∀ r, ¬ s.Frees (.upgrade source) r := not_frees (fun _ h => nomatch h)
  have htears : ∀ r, ¬ s.Tears (.upgrade source) r := not_tears (fun _ h => nomatch h)
  unfold upgrade
  split
  · split
    · exact .still rfl not_grants_self hfrees htears
    · exact .still rfl not_grants_self hfrees htears
  · exact .still rfl not_grants_self hfrees htears

theorem effect_step (m : Move ρ) : s.Effect m (s.step m) := by
  cases m with
  | create payload slot => exact effect_create payload slot
  | lend slot newSlot => exact effect_lend slot newSlot
  | mark slot => exact effect_mark slot
  | release slot => exact effect_release slot
  | tearDown slot => exact effect_tearDown slot
  | signal slot => exact effect_signal slot
  | forget slot => exact effect_forget slot
  | enter source => exact effect_enter source
  | upgrade source => exact effect_upgrade source
  | retain source slot => exact effect_retain source slot
  | order source slot => exact effect_order source slot

end Commons

/-! ### References, teardowns and signals under a step -/

section Fields

variable {β : Type} (field : Resource ρ → β) (fallback : β)

-- What a resource shows after another one changed, or it did.
theorem field_modify (f : Resource ρ → Resource ρ) (resources : List (Resource ρ)) (i r : Nat) :
    ((resources.modify i f)[r]?.map field).getD fallback =
      if i = r then (resources[r]?.map (fun res => field (f res))).getD fallback
      else (resources[r]?.map field).getD fallback := by
  rw [List.getElem?_modify]
  by_cases hi : i = r
  · rw [if_pos hi]
    cases resources[r]? with
    | none => rfl
    | some res => simp [hi]
  · rw [if_neg hi]
    cases resources[r]? with
    | none => rfl
    | some res => simp [hi]

-- A change that a field does not notice can be left out.
theorem field_of_modify {f : Resource ρ → Resource ρ} {resources resources' : List (Resource ρ)}
    {i : Nat} (r : Nat) (hresources : resources' = resources.modify i f)
    (hf : ∀ res, field (f res) = field res) :
    (resources'[r]?.map field).getD fallback = (resources[r]?.map field).getD fallback := by
  rw [hresources, field_modify]
  simp only [hf, ite_self]

-- What a resource shows after one was made.
theorem field_concat (resources : List (Resource ρ)) (new : Resource ρ) (r : Nat) :
    ((resources ++ [new])[r]?.map field).getD fallback =
      if r = resources.length then field new else (resources[r]?.map field).getD fallback := by
  by_cases hr : r = resources.length
  · rw [if_pos hr, hr, List.getElem?_concat_length]
    rfl
  · rw [if_neg hr]
    by_cases hlt : r < resources.length
    · rw [List.getElem?_append_left hlt]
    · have hlong : (resources ++ [new]).length ≤ r := by
        rw [List.length_append]
        change resources.length + 1 ≤ r
        omega
      rw [List.getElem?_eq_none hlong, List.getElem?_eq_none (Nat.le_of_not_lt hlt)]

end Fields

namespace Commons

variable {s : Commons ρ}

-- A resource that was not made counts no references.
theorem references_of_length_le {r : Nat} (h : s.resources.length ≤ r) : s.references r = 0 := by
  rw [references, List.getElem?_eq_none h]
  rfl

theorem lt_length_of_references_ne_zero {r : Nat} (h : s.references r ≠ 0) :
    r < s.resources.length := by
  by_cases hlt : r < s.resources.length
  · exact hlt
  · exact absurd (references_of_length_le (Nat.le_of_not_lt hlt)) h

theorem exists_resource {r : Nat} (h : r < s.resources.length) :
    ∃ res, s.resources[r]? = some res ∧ s.references r = res.references ∧
      s.teardowns r = res.teardowns ∧ s.isComplete r = res.signalled := by
  refine ⟨s.resources[r], List.getElem?_eq_getElem h, ?_⟩
  rw [references, teardowns, isComplete, List.getElem?_eq_getElem h]
  exact ⟨rfl, rfl, rfl⟩

theorem length_step (m : Move ρ) : s.resources.length ≤ (s.step m).resources.length := by
  cases effect_step (s := s) m with
  | still hresources => exact Nat.le_of_eq (by rw [hresources])
  | made payload slot _ hresources =>
      rw [hresources, List.length_append]
      exact Nat.le_add_right _ _
  | attached r slot _ _ hresources => exact Nat.le_of_eq (by rw [hresources, List.length_modify])
  | released slot l _ _ _ hresources =>
      exact Nat.le_of_eq (by rw [hresources, List.length_modify])
  | tornDown slot l _ _ _ hresources =>
      exact Nat.le_of_eq (by rw [hresources, List.length_modify])
  | signalled slot l _ _ hresources =>
      exact Nat.le_of_eq (by rw [hresources, List.length_modify])

-- A new owned lease is granted on the resource that it points at, and on no other.
theorem grants_iff_of_insert {s' : Commons ρ} {slot r r' : Nat}
    (hfree : s.leases.get? slot = none) (hleases : s'.leases = s.leases.insert slot (.own r')) :
    s.Grants s' r ↔ r' = r := by
  constructor
  · intro hgrants
    rcases hgrants with ⟨slot', hnone, hsome⟩
    rw [hleases, Table.get?_insert] at hsome
    split at hsome
    · cases hsome
      rfl
    · rw [hnone] at hsome
      cases hsome
  · rintro rfl
    exact ⟨slot, hfree, by rw [hleases, Table.get?_insert_self]⟩

/-- A step grants a lease and counts it, or releases one and counts that, or leaves the
    references of a resource as they are. -/
theorem references_step (m : Move ρ) (r : Nat) :
    (s.Grants (s.step m) r → (s.step m).references r = s.references r + 1) ∧
      (s.Frees m r → (s.step m).references r = s.references r - 1) ∧
      (¬ s.Grants (s.step m) r → ¬ s.Frees m r → (s.step m).references r = s.references r) := by
  cases effect_step (s := s) m with
  | still hresources hgrants hfrees =>
      refine ⟨fun hg => absurd hg (hgrants r), fun hf => absurd hf (hfrees r), fun _ _ => ?_⟩
      rw [references, hresources]
      rfl
  | made payload slot hfree hresources hleases hfrees =>
      have hrefs : (s.step m).references r =
          if r = s.resources.length then 1 else s.references r := by
        rw [references, hresources, field_concat]
        rfl
      rw [grants_iff_of_insert hfree hleases, hrefs]
      refine ⟨fun hr => ?_, fun hf => absurd hf (hfrees r), fun hr _ => if_neg (Ne.symm hr)⟩
      rw [if_pos hr.symm, references_of_length_le (Nat.le_of_eq hr)]
  | attached r' slot hfree howned hresources hleases hfrees =>
      -- What has an owner was made, so the count that is raised is there.
      have hmade : r' < s.resources.length := lt_length_of_references_ne_zero howned
      rw [grants_iff_of_insert hfree hleases, references, hresources, field_modify]
      refine ⟨fun hr => ?_, fun hf => absurd hf (hfrees r), fun hr _ => if_neg hr⟩
      subst hr
      rcases exists_resource hmade with ⟨res, hres, hrefs, -, -⟩
      rw [if_pos rfl, hres, hrefs]
      rfl
  | released slot l hm hl hstage hresources hgrants =>
      -- The move names the lease, so it frees one resource only.
      have hfrees : s.Frees m r ↔ l.resource = r := by
        constructor
        · intro hf
          rcases hf with ⟨slot', l', hm', hl', -, hr⟩
          rw [hm] at hm'
          cases hm'
          rw [hl] at hl'
          cases hl'
          exact hr
        · exact fun hr => ⟨slot, l, hm, hl, hstage, hr⟩
      rw [hfrees, references, hresources, field_modify]
      refine ⟨fun hg => absurd hg (hgrants r), fun hr => ?_, fun _ hr => if_neg hr⟩
      -- Also if the resource was never made: then both sides are zero.
      rw [if_pos hr]
      change _ = ((s.resources[r]?.map Resource.references).getD 0) - 1
      cases s.resources[r]? with
      | none => rfl
      | some res => rfl
  | tornDown slot l hm hl hstage hresources hgrants =>
      refine ⟨fun hg => absurd hg (hgrants r), ?_,
        fun _ _ => field_of_modify _ _ r hresources (fun _ => rfl)⟩
      intro hf
      rcases hf with ⟨slot', l', hm', -⟩
      rw [hm] at hm'
      cases hm'
  | signalled slot l hl hstage hresources hgrants hfrees =>
      exact ⟨fun hg => absurd hg (hgrants r), fun hf => absurd hf (hfrees r),
        fun _ _ => field_of_modify _ _ r hresources (fun _ => rfl)⟩

/-- A resource that was made and has no references gets none: nobody attaches to it. -/
theorem references_step_eq_zero (m : Move ρ) {r : Nat} (hmade : r < s.resources.length)
    (hzero : s.references r = 0) : (s.step m).references r = 0 := by
  cases effect_step (s := s) m with
  | still hresources =>
      rw [references, hresources]
      exact hzero
  | made payload slot _ hresources =>
      rw [references, hresources, field_concat, if_neg (Nat.ne_of_lt hmade)]
      exact hzero
  | attached r' slot _ howned hresources =>
      -- A lease attaches to what has an owner only, so to another resource.
      have hne : r' ≠ r := fun he => howned (he ▸ hzero)
      rw [references, hresources, field_modify, if_neg hne]
      exact hzero
  | released slot l _ _ _ hresources =>
      rw [references, hresources, field_modify]
      split
      · rcases exists_resource hmade with ⟨res, hres, hrefs, -, -⟩
        rw [hres]
        change res.references - 1 = 0
        omega
      · exact hzero
  | tornDown slot l _ _ _ hresources =>
      exact (field_of_modify _ _ r hresources (fun _ => rfl)).trans hzero
  | signalled slot l _ _ hresources =>
      exact (field_of_modify _ _ r hresources (fun _ => rfl)).trans hzero

/-- Only a lease that has come to it tears its resource down. -/
theorem teardowns_step (m : Move ρ) (r : Nat) :
    (s.Tears m r ∧ r < s.resources.length ∧ (s.step m).teardowns r = s.teardowns r + 1) ∨
      (s.step m).teardowns r = s.teardowns r := by
  cases effect_step (s := s) m with
  | still hresources =>
      right
      rw [teardowns, hresources]
      rfl
  | made payload slot _ hresources =>
      right
      rw [teardowns, hresources, field_concat]
      split
      · next hr =>
        rw [teardowns, List.getElem?_eq_none (Nat.le_of_eq hr.symm)]
        rfl
      · rfl
  | attached r' slot _ _ hresources =>
      exact Or.inr (field_of_modify _ _ r hresources (fun _ => rfl))
  | released slot l _ _ _ hresources =>
      exact Or.inr (field_of_modify _ _ r hresources (fun _ => rfl))
  | tornDown slot l hm hl hstage hresources =>
      -- A teardown of what was never made would not show.
      by_cases hr : l.resource = r ∧ r < s.resources.length
      · left
        rcases exists_resource hr.2 with ⟨res, hres, -, htears, -⟩
        refine ⟨⟨slot, l, hm, hl, hstage, hr.1⟩, hr.2, ?_⟩
        rw [teardowns, hresources, field_modify, if_pos hr.1, htears, hres]
        rfl
      · right
        rw [teardowns, hresources, field_modify]
        split
        · next he =>
          have hlong : s.resources.length ≤ r := Nat.le_of_not_lt (fun hlt => hr ⟨he, hlt⟩)
          rw [teardowns, List.getElem?_eq_none hlong]
          rfl
        · rfl
  | signalled slot l _ _ hresources =>
      exact Or.inr (field_of_modify _ _ r hresources (fun _ => rfl))

/-- What was signalled stays signalled. -/
theorem isComplete_step (m : Move ρ) {r : Nat} (hdone : s.isComplete r = true) :
    (s.step m).isComplete r = true := by
  have hmade : r < s.resources.length := by
    by_cases hlt : r < s.resources.length
    · exact hlt
    · rw [isComplete, List.getElem?_eq_none (Nat.le_of_not_lt hlt)] at hdone
      cases hdone
  cases effect_step (s := s) m with
  | still hresources =>
      rw [isComplete, hresources]
      exact hdone
  | made payload slot _ hresources =>
      rw [isComplete, hresources, field_concat, if_neg (Nat.ne_of_lt hmade)]
      exact hdone
  | attached r' slot _ _ hresources =>
      exact (field_of_modify _ _ r hresources (fun _ => rfl)).trans hdone
  | released slot l _ _ _ hresources =>
      exact (field_of_modify _ _ r hresources (fun _ => rfl)).trans hdone
  | tornDown slot l _ _ _ hresources =>
      exact (field_of_modify _ _ r hresources (fun _ => rfl)).trans hdone
  | signalled slot l _ _ hresources =>
      rw [isComplete, hresources, field_modify]
      split
      · rcases exists_resource hmade with ⟨res, hres, -⟩
        rw [hres]
        rfl
      · exact hdone

end Commons

end Imds
