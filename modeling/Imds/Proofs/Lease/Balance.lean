import Imds.Proofs.Lease.Effect

/-!
# The Balance of a Commons

What a resource counts has to agree with what its leases show, at every moment and
not only between operations. An `Account` says how: the references are the leases
that hold one, also those on the way to releasing it; a resource without references
was torn down or has exactly one lease that is about to do it; and a teardown was
signalled or has exactly one lease that is about to do that.

The last two are equations between numbers, so they bound every number in them. That
there is at most one teardown, that no release finds a count of zero, and that
nobody tears down what has an owner are read off and need no argument of their own.

Every step of sharing touches one lease and the resource that it points at. So a step
keeps the balance if it keeps one account, whatever the other leases contribute to it;
`Balanced.put` says that once for all steps that store a lease.

No assumption is made on who takes a step. The balance holds after every history.

## Main definitions

* `Commons.tally`: How many leases on a resource are of a kind.
* `Account`: A resource agrees with its leases.
* `Lease.Sound`: A closing is under way only on an owned lease that is closed.
* `Balanced`: Every resource agrees with its leases.

## Theorems

* `Balanced.put`: A step that stores one lease keeps the other accounts.
* `Balanced.step`, `Balanced.after`: Every step and every history keeps the balance.
* `Balanced.references_eq`, `Balanced.teardowns_eq`, `Balanced.signalled_eq`: The
  numbers of a resource, from its leases.
* `Balanced.references_step`: No reference is released twice.
-/

namespace Imds

namespace Lease

/-- Whether the closing of a lease has come to a stage. -/
def isAt (stage : Stage) (l : Lease) : Bool := decide (l.stage = stage)

/-- A closing is under way only on an owned lease that is closed. -/
def Sound (l : Lease) : Prop := l.stage ≠ .quiet → l.ownership = .owned ∧ l.closed = true

end Lease

variable {ρ : Type}

/-- How many leases on a resource are of a kind. -/
def Commons.tally (s : Commons ρ) (p : Lease → Bool) (r : Nat) : Nat :=
  s.leases.count (fun l => l.pointsAt r && p l)

/-- A resource agrees with the numbers of leases on it that hold a reference, have to
    tear it down, and have to signal that. -/
structure Account (res : Resource ρ) (holders tearing signalling : Nat) : Prop where
  references : res.references = holders
  teardowns : res.teardowns + tearing + (if res.references = 0 then 0 else 1) = 1
  signalled : (if res.signalled = true then 1 else 0) + signalling = res.teardowns

/-- Every lease points at a resource that was made, and every resource agrees with
    its leases. -/
structure Balanced (s : Commons ρ) : Prop where
  made : ∀ slot l, s.leases.get? slot = some l → l.resource < s.resources.length
  sound : ∀ slot l, s.leases.get? slot = some l → l.Sound
  account : ∀ r res, s.resources[r]? = some res →
    Account res (s.tally Lease.holds r) (s.tally (Lease.isAt .tearing) r)
      (s.tally (Lease.isAt .signalling) r)

/-! ### Counting one lease apart -/

namespace Commons

/-- How many leases on a resource are of a kind, one number left out. -/
def others (s : Commons ρ) (slot : Nat) (p : Lease → Bool) (r : Nat) : Nat :=
  (s.leases.erase slot).count (fun l => l.pointsAt r && p l)

theorem weight_of_resource {p : Lease → Bool} {l? : Option Lease} {r : Nat}
    (h : ∀ l, l? = some l → l.resource = r) :
    Table.weight (fun l => l.pointsAt r && p l) l? = Table.weight p l? := by
  cases l? with
  | none => rfl
  | some l =>
      have hpoints : l.pointsAt r = true := beq_iff_eq.2 (h l rfl)
      simp only [Table.weight, hpoints, Bool.true_and]

theorem weight_of_resource_ne {p : Lease → Bool} {l? : Option Lease} {r : Nat}
    (h : ∀ l, l? = some l → l.resource ≠ r) :
    Table.weight (fun l => l.pointsAt r && p l) l? = 0 := by
  cases l? with
  | none => rfl
  | some l =>
      have hpoints : l.pointsAt r = false := beq_eq_false_iff_ne.2 (h l rfl)
      simp only [Table.weight, hpoints, Bool.false_and, Bool.false_eq_true, if_false]

variable (s : Commons ρ) (slot : Nat) (p : Lease → Bool)

theorem tally_eq_others {r : Nat} (h : ∀ l, s.leases.get? slot = some l → l.resource = r) :
    s.tally p r = s.others slot p r + Table.weight p (s.leases.get? slot) := by
  rw [← weight_of_resource h]
  exact (Table.count_erase _ s.leases slot).symm

theorem tally_eq_others_of_ne {r : Nat}
    (h : ∀ l, s.leases.get? slot = some l → l.resource ≠ r) :
    s.tally p r = s.others slot p r := by
  have hcount := Table.count_erase (fun l => l.pointsAt r && p l) s.leases slot
  rw [weight_of_resource_ne h] at hcount
  exact hcount.symm

-- A lease that is stored counts beside the others.
theorem count_insert_eq_others (l : Lease) (r : Nat) :
    (s.leases.insert slot l).count (fun l => l.pointsAt r && p l) =
      s.others slot p r + Table.weight (fun l => l.pointsAt r && p l) (some l) := by
  -- Both sides fall short of the same count by what stood under the number before.
  have hinsert := Table.count_insert (fun l => l.pointsAt r && p l) s.leases slot l
  have herase := Table.count_erase (fun l => l.pointsAt r && p l) s.leases slot
  unfold others
  omega

end Commons

/-! ### What keeps the balance -/

namespace Balanced

variable {s : Commons ρ}

theorem ofFactories (factories : Nat → Nat → Except Failure ρ) :
    Balanced (Commons.ofFactories factories) where
  made := fun _ _ h => nomatch h
  sound := fun _ _ h => nomatch h
  account := fun _ _ h => nomatch h

-- The balance is one of resources and leases; visits and sources do not count.
theorem of_eq {s' : Commons ρ} (h : Balanced s) (hresources : s'.resources = s.resources)
    (hleases : s'.leases = s.leases) : Balanced s' := by
  refine ⟨?_, ?_, ?_⟩
  · rw [hresources, hleases]
    exact h.made
  · rw [hleases]
    exact h.sound
  · simp only [Commons.tally, hresources, hleases]
    exact h.account

/-- To store a lease and change its resource keeps the balance if it keeps the account
    of that resource, whatever the other leases on it are. -/
theorem put (h : Balanced s) {slot : Nat} {l : Lease} (f : Resource ρ → Resource ρ)
    (hmade : l.resource < s.resources.length) (hsound : l.Sound)
    (hold : ∀ old, s.leases.get? slot = some old → old.resource = l.resource)
    (haccount : ∀ res holders tearing signalling, s.resources[l.resource]? = some res →
      Account res (holders + Table.weight Lease.holds (s.leases.get? slot))
        (tearing + Table.weight (Lease.isAt .tearing) (s.leases.get? slot))
        (signalling + Table.weight (Lease.isAt .signalling) (s.leases.get? slot)) →
      Account (f res) (holders + Table.weight Lease.holds (some l))
        (tearing + Table.weight (Lease.isAt .tearing) (some l))
        (signalling + Table.weight (Lease.isAt .signalling) (some l))) :
    Balanced ((s.changeResource l.resource f).setLease slot l) := by
  refine ⟨?_, ?_, ?_⟩
  · intro slot' l' hl'
    change l'.resource < (s.resources.modify l.resource f).length
    rw [List.length_modify]
    change (s.leases.insert slot l).get? slot' = some l' at hl'
    rw [Table.get?_insert] at hl'
    split at hl'
    · cases hl'
      exact hmade
    · exact h.made slot' l' hl'
  · intro slot' l' hl'
    change (s.leases.insert slot l).get? slot' = some l' at hl'
    rw [Table.get?_insert] at hl'
    split at hl'
    · cases hl'
      exact hsound
    · exact h.sound slot' l' hl'
  · intro r res hres
    change (s.resources.modify l.resource f)[r]? = some res at hres
    rw [List.getElem?_modify] at hres
    -- The stored lease counts for its own resource and for no other.
    change Account res ((s.leases.insert slot l).count _) ((s.leases.insert slot l).count _)
      ((s.leases.insert slot l).count _)
    simp only [Commons.count_insert_eq_others]
    by_cases hr : l.resource = r
    · subst hr
      have hself : ∀ l', some l = some l' → l'.resource = l.resource :=
        fun l' hl' => congrArg Lease.resource (Option.some.inj hl').symm
      simp only [Commons.weight_of_resource hself]
      rcases Option.map_eq_some_iff.1 hres with ⟨old, hget, rfl⟩
      rw [if_pos rfl]
      refine haccount old _ _ _ hget ?_
      rw [← s.tally_eq_others slot _ hold, ← s.tally_eq_others slot _ hold,
        ← s.tally_eq_others slot _ hold]
      exact h.account l.resource old hget
    · have hne : ∀ l', some l = some l' → l'.resource ≠ r :=
        fun l' hl' => (Option.some.inj hl') ▸ hr
      simp only [Commons.weight_of_resource_ne hne, Nat.add_zero]
      have hother : ∀ old, s.leases.get? slot = some old → old.resource ≠ r :=
        fun old hget => (hold old hget) ▸ hr
      rw [← s.tally_eq_others_of_ne slot _ hother, ← s.tally_eq_others_of_ne slot _ hother,
        ← s.tally_eq_others_of_ne slot _ hother]
      simp only [if_neg hr, id_map'] at hres
      exact h.account r res hres

-- The same for a lease that is stored while its resource stays as it is.
theorem put_only (h : Balanced s) {slot : Nat} {l : Lease}
    (hmade : l.resource < s.resources.length) (hsound : l.Sound)
    (hold : ∀ old, s.leases.get? slot = some old → old.resource = l.resource)
    (hholds : Table.weight Lease.holds (s.leases.get? slot) = Table.weight Lease.holds (some l))
    (htearing : Table.weight (Lease.isAt .tearing) (s.leases.get? slot) =
      Table.weight (Lease.isAt .tearing) (some l))
    (hsignalling : Table.weight (Lease.isAt .signalling) (s.leases.get? slot) =
      Table.weight (Lease.isAt .signalling) (some l)) : Balanced (s.setLease slot l) := by
  have hput := h.put id hmade hsound hold (fun res holders tearing signalling _ hacc => by
    rwa [hholds, htearing, hsignalling] at hacc)
  have hid : s.changeResource l.resource id = s := by
    unfold Commons.changeResource
    rw [List.modify_id]
  rwa [hid] at hput

-- A new resource has its maker's lease and no other.
theorem add (h : Balanced s) {slot : Nat} (payload : ρ) (hfree : s.leases.get? slot = none) :
    Balanced (s.addResource payload slot) := by
  refine ⟨?_, ?_, ?_⟩
  · intro slot' l' hl'
    change l'.resource < (s.resources ++ [_]).length
    rw [List.length_append]
    change (s.leases.insert slot (.own s.resources.length)).get? slot' = some l' at hl'
    rw [Table.get?_insert] at hl'
    split at hl'
    · cases hl'
      exact Nat.lt_succ_self _
    · exact Nat.lt_succ_of_lt (h.made slot' l' hl')
  · intro slot' l' hl'
    change (s.leases.insert slot (.own s.resources.length)).get? slot' = some l' at hl'
    rw [Table.get?_insert] at hl'
    split at hl'
    · cases hl'
      exact fun hstage => absurd rfl hstage
    · exact h.sound slot' l' hl'
  · intro r res hres
    change (s.resources ++ [_])[r]? = some res at hres
    change Account res ((s.leases.insert slot _).count _) ((s.leases.insert slot _).count _)
      ((s.leases.insert slot _).count _)
    simp only [Commons.count_insert_eq_others]
    have hnone : ∀ p, s.others slot p r = s.tally p r := by
      intro p
      exact (s.tally_eq_others_of_ne slot p (fun l hl => by rw [hfree] at hl; cases hl)).symm
    simp only [hnone]
    by_cases hr : r = s.resources.length
    · subst hr
      rw [List.getElem?_concat_length] at hres
      cases hres
      -- Nothing pointed at the new resource before it was made.
      have hzero : ∀ p, s.tally p s.resources.length = 0 := by
        intro p
        refine (Table.count_eq_zero_iff _ _).2 (fun k l hl => ?_)
        have hlt := h.made k l hl
        have hpoints : l.pointsAt s.resources.length = false := beq_eq_false_iff_ne.2 (by omega)
        rw [hpoints, Bool.false_and]
      have hself : ∀ l', some (Lease.own s.resources.length) = some l' →
          l'.resource = s.resources.length :=
        fun l' hl' => congrArg Lease.resource (Option.some.inj hl').symm
      simp only [hzero, Commons.weight_of_resource hself]
      exact ⟨rfl, rfl, rfl⟩
    · have hne : ∀ l', some (Lease.own s.resources.length) = some l' → l'.resource ≠ r :=
        fun l' hl' => (Option.some.inj hl') ▸ Ne.symm hr
      simp only [Commons.weight_of_resource_ne hne, Nat.add_zero]
      have hlt : r < s.resources.length := by
        have hlen := (List.getElem?_eq_some_iff.1 hres).1
        rw [List.length_append] at hlen
        have : r < s.resources.length + 1 := hlen
        omega
      rw [List.getElem?_append_left hlt] at hres
      exact h.account r res hres

-- A lease that counts for nothing can go.
theorem erase (h : Balanced s) {slot : Nat} {l : Lease} (hl : s.leases.get? slot = some l)
    (hclosed : l.closed = true) (hquiet : l.stage = .quiet) :
    Balanced { s with leases := s.leases.erase slot } := by
  have hget : ∀ slot' l', (s.leases.erase slot).get? slot' = some l' →
      s.leases.get? slot' = some l' := by
    intro slot' l' hl'
    by_cases he : slot = slot'
    · subst he
      rw [Table.get?_erase_self] at hl'
      cases hl'
    · rwa [Table.get?_erase_of_ne _ he] at hl'
  refine ⟨fun slot' l' hl' => h.made slot' l' (hget slot' l' hl'),
    fun slot' l' hl' => h.sound slot' l' (hget slot' l' hl'), ?_⟩
  intro r res hres
  have hsame : ∀ p : Lease → Bool, p l = false →
      (s.leases.erase slot).count (fun l => l.pointsAt r && p l) = s.tally p r := by
    intro p hp
    have hcount := Table.count_erase (fun l => l.pointsAt r && p l) s.leases slot
    rw [hl, Table.weight, hp, Bool.and_false] at hcount
    exact hcount
  have hholds : l.holds = false := by simp [Lease.holds, hclosed, hquiet]
  change Account res ((s.leases.erase slot).count _) ((s.leases.erase slot).count _)
    ((s.leases.erase slot).count _)
  rw [hsame _ hholds, hsame _ (by simp [Lease.isAt, hquiet]),
    hsame _ (by simp [Lease.isAt, hquiet])]
  exact h.account r res hres

end Balanced

/-! ### Every step keeps the balance -/

namespace Balanced

variable {s : Commons ρ}

theorem create (h : Balanced s) (payload : ρ) (slot : Nat) : Balanced (s.create payload slot) := by
  unfold Commons.create
  split
  · exact h
  · next hfree => exact h.add payload (Option.not_isSome_iff_eq_none.1 hfree)

theorem lend (h : Balanced s) (slot newSlot : Nat) : Balanced (s.lend slot newSlot) := by
  unfold Commons.lend
  split
  · next l hl =>
    split
    · exact h
    · next hfree =>
      have hnone : s.leases.get? newSlot = none := Option.not_isSome_iff_eq_none.1 hfree
      -- A borrowed lease holds nothing, so it weighs as much as the number without it.
      refine h.put_only (h.made slot l hl) (fun hstage => absurd rfl hstage) ?_ ?_ ?_ ?_
      · intro old hold
        rw [hnone] at hold
        cases hold
      all_goals
        rw [hnone]
        rfl
  · exact h

theorem mark (h : Balanced s) (slot : Nat) : Balanced (s.mark slot) := by
  unfold Commons.mark
  split
  · next l hl =>
    by_cases hclosed : l.closed = true
    · rw [if_pos hclosed]
      exact h
    · rw [if_neg hclosed]
      -- An open lease is quiet, so only its hold on the resource is to be compared.
      have hquiet : l.stage = .quiet := by
        by_cases hstage : l.stage = .quiet
        · exact hstage
        · exact absurd (h.sound slot l hl hstage).2 hclosed
      have hopen : l.closed = false := Bool.eq_false_iff.2 hclosed
      refine h.put_only (h.made slot l hl) ?_ ?_ ?_ ?_ ?_
      · intro hstage
        by_cases howned : l.ownership = .owned
        · exact ⟨howned, rfl⟩
        · exact absurd (if_neg howned) hstage
      · intro old hold
        rw [hl] at hold
        cases hold
        rfl
      all_goals
        rw [hl]
        by_cases howned : l.ownership = .owned
        · simp [Table.weight, Lease.holds, Lease.isAt, howned, hopen, hquiet]
        · simp [Table.weight, Lease.holds, Lease.isAt, howned, hquiet]
  · exact h

-- A closing that goes on to its next stage keeps the balance if it keeps the account of its
-- resource. All that the lease contributes to it is its stage.
theorem advance (h : Balanced s) {slot : Nat} {l : Lease} (hl : s.leases.get? slot = some l)
    (hstage : l.stage ≠ .quiet) (stage : Stage) (f : Resource ρ → Resource ρ)
    (haccount : ∀ res holders tearing signalling, s.resources[l.resource]? = some res →
      Account res (holders + if l.stage = .releasing then 1 else 0)
        (tearing + if l.stage = .tearing then 1 else 0)
        (signalling + if l.stage = .signalling then 1 else 0) →
      Account (f res) (holders + if stage = .releasing then 1 else 0)
        (tearing + if stage = .tearing then 1 else 0)
        (signalling + if stage = .signalling then 1 else 0)) :
    Balanced ((s.changeResource l.resource f).setLease slot { l with stage := stage }) := by
  have hsound := h.sound slot l hl hstage
  refine h.put (l := { l with stage := stage }) f (h.made slot l hl) (fun _ => hsound) ?_ ?_
  · intro old hold
    rw [hl] at hold
    cases hold
    rfl
  · intro res holders tearing signalling hres hacc
    rw [hl] at hacc
    simp only [Table.weight, Lease.holds, Lease.isAt, hsound.1, hsound.2, decide_true,
      Bool.not_true, Bool.false_or, Bool.true_and, decide_eq_true_eq] at hacc ⊢
    exact haccount res holders tearing signalling hres hacc

theorem release (h : Balanced s) (slot : Nat) : Balanced (s.release slot) := by
  unfold Commons.release
  split
  · next l hl =>
    by_cases hstage : l.stage = .releasing
    · rw [if_pos hstage]
      refine h.advance hl (by rw [hstage]; exact Stage.noConfusion) _ _ ?_
      intro res holders tearing signalling hres hacc
      have hreferences : s.references l.resource = res.references := by
        rw [Commons.references, hres]
        rfl
      rw [hstage] at hacc
      rcases hacc with ⟨hrefs, htears, hsignals⟩
      rw [hreferences]
      -- Whoever gives up the last hold takes the teardown over.
      by_cases hlast : res.references = 1
      · rw [if_pos hlast]
        simp only [reduceCtorEq, if_true, if_false] at hrefs htears hsignals ⊢
        refine ⟨?_, ?_, hsignals⟩
        · change res.references - 1 = holders + 0
          omega
        · change res.teardowns + (tearing + 1) + (if res.references - 1 = 0 then 0 else 1) = 1
          rw [if_neg (by omega)] at htears
          rw [if_pos (by omega)]
          omega
      · rw [if_neg hlast]
        simp only [reduceCtorEq, if_true, if_false] at hrefs htears hsignals ⊢
        refine ⟨?_, ?_, hsignals⟩
        · change res.references - 1 = holders + 0
          omega
        · change res.teardowns + (tearing + 0) + (if res.references - 1 = 0 then 0 else 1) = 1
          rw [if_neg (by omega)] at htears ⊢
          exact htears
    · rw [if_neg hstage]
      exact h
  · exact h

theorem tearDown (h : Balanced s) (slot : Nat) : Balanced (s.tearDown slot) := by
  unfold Commons.tearDown
  split
  · next l hl =>
    by_cases hstage : l.stage = .tearing
    · rw [if_pos hstage]
      refine h.advance hl (by rw [hstage]; exact Stage.noConfusion) _ _ ?_
      intro res holders tearing signalling hres hacc
      rw [hstage] at hacc
      rcases hacc with ⟨hrefs, htears, hsignals⟩
      simp only [reduceCtorEq, if_true, if_false] at hrefs htears hsignals ⊢
      -- One lease less has to tear down, and one more to signal.
      refine ⟨hrefs, ?_, ?_⟩
      · change res.teardowns + 1 + (tearing + 0) + (if res.references = 0 then 0 else 1) = 1
        omega
      · change (if res.signalled = true then 1 else 0) + (signalling + 1) = res.teardowns + 1
        omega
    · rw [if_neg hstage]
      exact h
  · exact h

theorem signal (h : Balanced s) (slot : Nat) : Balanced (s.signal slot) := by
  unfold Commons.signal
  split
  · next l hl =>
    by_cases hstage : l.stage = .signalling
    · rw [if_pos hstage]
      refine h.advance hl (by rw [hstage]; exact Stage.noConfusion) _ _ ?_
      intro res holders tearing signalling hres hacc
      rw [hstage] at hacc
      rcases hacc with ⟨hrefs, htears, hsignals⟩
      simp only [reduceCtorEq, if_true, if_false] at hrefs htears hsignals ⊢
      refine ⟨hrefs, htears, ?_⟩
      -- There is one teardown at most, so it was not signalled before.
      change (if true = true then 1 else 0) + _ = res.teardowns
      rw [if_pos rfl]
      split at hsignals
      · omega
      · omega
    · rw [if_neg hstage]
      exact h
  · exact h

theorem forget (h : Balanced s) (slot : Nat) : Balanced (s.forget slot) := by
  unfold Commons.forget
  split
  · next l hl =>
    split
    · next hover => exact h.erase hl hover.1 hover.2
    · exact h
  · exact h

theorem retain (h : Balanced s) (source slot : Nat) : Balanced (s.retain source slot) := by
  unfold Commons.retain
  split
  · next r hvisit =>
    split
    · exact h
    · next hfree =>
      split
      · exact h.of_eq rfl rfl
      · next hreferences =>
        have hnone : s.leases.get? slot = none := Option.not_isSome_iff_eq_none.1 hfree
        have hmade := Commons.lt_length_of_references_ne_zero hreferences
        have hput : Balanced ((s.changeResource r (fun res =>
            { res with references := res.references + 1 })).setLease slot (.own r)) := by
          refine h.put (l := .own r) _ hmade (fun hstage => absurd rfl hstage) ?_ ?_
          · intro old hold
            rw [hnone] at hold
            cases hold
          · intro res holders tearing signalling hres hacc
            have hpos : res.references ≠ 0 := by
              rw [Commons.references, show s.resources[r]? = some res from hres] at hreferences
              exact hreferences
            rw [hnone] at hacc
            rcases hacc with ⟨hrefs, htears, hsignals⟩
            -- The resource has an owner before and after, so it still has no one to tear it down.
            refine ⟨?_, ?_, hsignals⟩
            · exact congrArg Nat.succ hrefs
            · rw [if_neg hpos] at htears
              rw [if_neg (Nat.succ_ne_zero _)]
              exact htears
        exact hput.of_eq rfl rfl
  · exact h

theorem order (h : Balanced s) (source slot : Nat) : Balanced (s.order source slot) := by
  unfold Commons.order
  split
  · split
    · exact h
    · next hfree =>
      split
      · next payload _ =>
        exact of_eq (h.add payload (Option.not_isSome_iff_eq_none.1 hfree)) rfl rfl
      · exact h.of_eq rfl rfl
  · exact h

theorem enter (h : Balanced s) (source : Nat) : Balanced (s.enter source) := by
  unfold Commons.enter
  split
  · exact h
  · exact h.of_eq rfl rfl

theorem upgrade (h : Balanced s) (source : Nat) : Balanced (s.upgrade source) := by
  unfold Commons.upgrade
  split
  · split
    · exact h.of_eq rfl rfl
    · exact h.of_eq rfl rfl
  · exact h

/-- Every step keeps the balance, whoever takes it. -/
theorem step (h : Balanced s) (m : Move ρ) : Balanced (s.step m) := by
  cases m with
  | create payload slot => exact h.create payload slot
  | lend slot newSlot => exact h.lend slot newSlot
  | mark slot => exact h.mark slot
  | release slot => exact h.release slot
  | tearDown slot => exact h.tearDown slot
  | signal slot => exact h.signal slot
  | forget slot => exact h.forget slot
  | enter source => exact h.enter source
  | upgrade source => exact h.upgrade source
  | retain source slot => exact h.retain source slot
  | order source slot => exact h.order source slot

theorem after (h : Balanced s) (moves : List (Move ρ)) : Balanced (s.after moves) := by
  induction moves generalizing s with
  | nil => exact h
  | cons m moves ih => exact ih (h.step m)

end Balanced

/-! ### What the balance says -/

namespace Balanced

variable {s : Commons ρ}

/-- The references are the leases that hold one. -/
theorem references_eq (h : Balanced s) (r : Nat) : s.references r = s.tally Lease.holds r := by
  by_cases hr : r < s.resources.length
  · rcases Commons.exists_resource hr with ⟨res, hres, hrefs, -, -⟩
    rw [hrefs]
    exact (h.account r res hres).references
  · rw [Commons.references_of_length_le (Nat.le_of_not_lt hr)]
    -- No lease points at what was not made.
    refine ((Table.count_eq_zero_iff _ _).2 (fun slot l hl => ?_)).symm
    have hlt := h.made slot l hl
    have hpoints : l.pointsAt r = false := beq_eq_false_iff_ne.2 (by omega)
    rw [hpoints, Bool.false_and]

theorem teardowns_eq (h : Balanced s) {r : Nat} (hmade : r < s.resources.length) :
    s.teardowns r + s.tally (Lease.isAt .tearing) r + (if s.references r = 0 then 0 else 1) =
      1 := by
  rcases Commons.exists_resource hmade with ⟨res, hres, hrefs, htears, -⟩
  rw [hrefs, htears]
  exact (h.account r res hres).teardowns

theorem teardowns_le_one (h : Balanced s) (r : Nat) : s.teardowns r ≤ 1 := by
  by_cases hr : r < s.resources.length
  · have heq := h.teardowns_eq hr
    omega
  · rw [Commons.teardowns, List.getElem?_eq_none (Nat.le_of_not_lt hr)]
    exact Nat.zero_le 1

/-- A teardown that was signalled happened, and one that was not has still a lease that
    is about to signal it. -/
theorem signalled_eq (h : Balanced s) {r : Nat} (hmade : r < s.resources.length) :
    (if s.isComplete r = true then 1 else 0) + s.tally (Lease.isAt .signalling) r =
      s.teardowns r := by
  rcases Commons.exists_resource hmade with ⟨res, hres, -, htears, hdone⟩
  rw [htears, hdone]
  exact (h.account r res hres).signalled

-- A lease that is about to release a reference is counted.
theorem references_ne_zero_of_releasing (h : Balanced s) {slot : Nat} {l : Lease}
    (hl : s.leases.get? slot = some l) (hstage : l.stage = .releasing) :
    s.references l.resource ≠ 0 := by
  rcases Commons.exists_resource (h.made slot l hl) with ⟨res, hres, hrefs, -, -⟩
  have hcount := (h.account _ _ hres).references
  have hown : ∀ l', s.leases.get? slot = some l' → l'.resource = l.resource := by
    intro l' hl'
    rw [hl] at hl'
    cases hl'
    rfl
  -- It is owned and on its way, so it holds its reference until the step.
  have hsound := h.sound slot l hl (by rw [hstage]; exact Stage.noConfusion)
  have hholds : l.holds = true := by simp [Lease.holds, hsound.1, hstage]
  rw [Commons.tally_eq_others s slot _ hown, hl, Table.weight, if_pos hholds] at hcount
  omega

/-- References are granted and released one by one, and none is released twice. -/
theorem references_step (h : Balanced s) (m : Move ρ) (r : Nat) :
    (s.Grants (s.step m) r → (s.step m).references r = s.references r + 1) ∧
      (s.Frees m r → (s.step m).references r + 1 = s.references r) ∧
      (¬ s.Grants (s.step m) r → ¬ s.Frees m r → (s.step m).references r = s.references r) := by
  rcases Commons.references_step (s := s) m r with ⟨hgrants, hfrees, hneither⟩
  refine ⟨hgrants, ?_, hneither⟩
  intro hf
  rcases hf with ⟨slot, l, hm, hl, hstage, rfl⟩
  have hpos := references_ne_zero_of_releasing h hl hstage
  rw [hfrees ⟨slot, l, hm, hl, hstage, rfl⟩]
  omega

end Balanced

end Imds
