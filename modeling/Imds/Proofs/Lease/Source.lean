import Imds.Proofs.Lease.Visit

/-!
# What a Source Has Made

A source remembers one resource, the one that it made last. So what is said about all its
resources has to be said along the run that made them. `Threads.Made` collects them turn by turn,
and `Lineage` is what the commons shows of them at any time: all but the current one are without
references, whoever is inside and holds a resource holds the current one, and whoever has come to
order a new one found them all deserted.

The last part is why two stages of looking are enough. A resource that nobody can reach has no
owner, and one without an owner gets none. So a thread that found nothing to attach to cannot be
overtaken: until it has ordered, no resource of the source has an owner.

All that the one thread inside a source can do next is in `Threads.Proceeds`. It does not depend on
what others do in between, since nobody else moves its visit.

## Main definitions

* `Threads.Makes`, `Threads.Made`: What a source makes in a turn, and in a run.
* `Threads.Proceeds`: All that the next step of a thread inside a source can come to.
* `Attended`: One thread at a time is inside a source.
* `Lineage`: What the commons shows of what sources have made.
* `Orderly`: All that, and the balance of the commons.

## Theorems

* `Lineage.deserted`: No resource of a source has an owner if the current one has none.
* `proceeds_turn`: The next step of a thread inside a source.
* `Lineage.keep`, `Lineage.attach`, `Lineage.build`: What keeps the lineage.
* `Orderly.turn`, `Orderly.run`: The invariants, in all runs.
* `visit_stays`: Nobody moves the visit of another thread.
-/

namespace Imds

variable {ρ : Type}

namespace Threads

/-- A turn of a thread inside a source makes a resource. -/
def Makes (s : Threads ρ) (x : Threads.Turn ρ) (source r : Nat) : Prop :=
  (∃ t slot, x = .go t ∧ s.Asks t source slot) ∧ s.commons.resources.length = r ∧
    (s.turn x).commons.resources.length = r + 1

/-- A source makes a resource in the course of a run. -/
def Made (s : Threads ρ) : List (Threads.Turn ρ) → Nat → Nat → Prop
  | [], _, _ => False
  | x :: turns, source, r => s.Makes x source r ∨ (s.turn x).Made turns source r

-- What a run has made and what one turn more makes.
theorem made_concat {s : Threads ρ} {turns : List (Threads.Turn ρ)} {x : Threads.Turn ρ}
    {source r : Nat} :
    s.Made (turns ++ [x]) source r ↔ s.Made turns source r ∨ (s.run turns).Makes x source r := by
  induction turns generalizing s with
  | nil =>
      change s.Makes x source r ∨ False ↔ False ∨ s.Makes x source r
      rw [or_false, false_or]
  | cons y turns ih => exact (or_congr_right ih).trans or_assoc.symm

/-- All that the next step of a thread inside a source can come to, given what the source has
    made. -/
inductive Proceeds (s : Threads ρ) (made : Nat → Prop) (t source slot : Nat) (s' : Threads ρ) :
    Prop
  /-- Nothing yet: the number for its lease is taken. -/
  | waits (htaken : s.commons.leases.get? slot ≠ none) (hs : s' = s)
  /-- It finds the current resource, with an owner or without one, and is to attach. -/
  | finds (r : Nat) (hvisit : s.commons.visits.get? source = some .entered) (hmade : made r)
      (hcurrent : (s.commons.sources source).current = some r)
      (hs : s' = ⟨s.commons.setVisit source (.holding r), s.place⟩)
  /-- Nothing of what the source made has an owner, and it is to order. -/
  | resorts (hvisit : s.commons.visits.get? source = some .entered ∨
        ∃ r, s.commons.visits.get? source = some (.holding r))
      (hdeserted : ∀ r, made r → s.commons.references r = 0)
      (hs : s' = ⟨s.commons.setVisit source .ordering, s.place⟩)
  /-- It attaches to a resource that has an owner, and leaves. -/
  | attaches (r : Nat) (hvisit : s.commons.visits.get? source = some (.holding r)) (hmade : made r)
      (howned : s.commons.references r ≠ 0) (hfree : s.commons.leases.get? slot = none)
      (hcurrent : (s.commons.sources source).current = some r)
      (hs : s' = ⟨((s.commons.changeResource r (fun res =>
          { res with references := res.references + 1 })).setLease slot (.own r)).endVisit source,
        updateAt s.place t none⟩)
  /-- The factory makes a new resource, and it leaves with the first lease on it. -/
  | builds (payload : ρ) (hvisit : s.commons.visits.get? source = some .ordering)
      (hdeserted : ∀ r, made r → s.commons.references r = 0)
      (hfree : s.commons.leases.get? slot = none) (hnext : s.commons.nextOrder source = .ok payload)
      (hs : s' = ⟨((s.commons.addResource payload slot).changeSource source (fun m =>
          { m with orders := m.orders + 1, current := some s.commons.resources.length })).endVisit
            source,
        updateAt s.place t none⟩)
  /-- The factory fails, and it leaves without a lease. -/
  | fails (failure : Failure) (hvisit : s.commons.visits.get? source = some .ordering)
      (hdeserted : ∀ r, made r → s.commons.references r = 0)
      (hfree : s.commons.leases.get? slot = none)
      (hnext : s.commons.nextOrder source = .error failure)
      (hs : s' = ⟨(s.commons.changeSource source (fun m =>
          { m with orders := m.orders + 1 })).endVisit source,
        updateAt s.place t none⟩)

end Threads

/-- One thread at a time is inside a source. -/
structure Attended (s : Threads ρ) : Prop where
  inside : ∀ t source slot, s.Asks t source slot → ∃ v, s.commons.visits.get? source = some v
  alone : ∀ t t' source slot slot', s.Asks t source slot → s.Asks t' source slot' → t = t'

/-- What the commons shows of what sources have made. -/
structure Lineage (s : Commons ρ) (made : Nat → Nat → Prop) : Prop where
  fresh : ∀ source r, made source r → r < s.resources.length
  apart : ∀ source source' r, made source r → made source' r → source = source'
  current : ∀ source r, (s.sources source).current = some r → made source r
  others : ∀ source r, made source r → (s.sources source).current ≠ some r → s.references r = 0
  holding : ∀ source r, s.visits.get? source = some (.holding r) →
    (s.sources source).current = some r
  ordering : ∀ source r, s.visits.get? source = some .ordering → made source r →
    s.references r = 0

/-- What holds at every moment of every run, with what was made in its course. -/
structure Orderly (s : Threads ρ) (made : Nat → Nat → Prop) : Prop where
  balanced : Balanced s.commons
  attended : Attended s
  lineage : Lineage s.commons made

/-! ### The next step of a thread inside a source -/

namespace Lineage

variable {s s' : Commons ρ} {made : Nat → Nat → Prop} {source : Nat}

theorem ofFactories (factories : Nat → Nat → Except Failure ρ) :
    Lineage (Commons.ofFactories factories) (fun _ _ => False) where
  fresh := nofun
  apart := nofun
  current := nofun
  others := nofun
  holding := nofun
  ordering := nofun

/-- What has an owner is the current resource of its source. -/
theorem current_of_owned (h : Lineage s made) {r : Nat} (hr : made source r)
    (howned : s.references r ≠ 0) : (s.sources source).current = some r := by
  by_cases hc : (s.sources source).current = some r
  · exact hc
  · exact absurd (h.others source r hr hc) howned

/-- No resource of a source has an owner if the current one has none. -/
theorem deserted (h : Lineage s made)
    (hcurrent : ∀ r, (s.sources source).current = some r → s.references r = 0) (r : Nat)
    (hr : made source r) : s.references r = 0 := by
  apply Decidable.byContradiction
  intro howned
  exact howned (hcurrent r (h.current_of_owned hr howned))

end Lineage

-- What nobody can reach has no owner.
theorem Balanced.references_of_not_isAlive {s : Commons ρ} (h : Balanced s) {r : Nat}
    (hdead : s.isAlive r = false) : s.references r = 0 := by
  have hcount : s.leases.count (Lease.pointsAt r) = 0 := by
    rw [Commons.isAlive, Bool.or_eq_false_iff] at hdead
    exact bne_eq_false_iff_eq.1 hdead.1
  rw [h.references_eq r, Commons.tally, Table.count_eq_zero_iff]
  intro slot l hl
  rw [(Table.count_eq_zero_iff _ _).1 hcount slot l hl, Bool.false_and]

namespace Threads

variable {s : Threads ρ} {made : Nat → Nat → Prop} {t source slot : Nat}

theorem proceeds_of_entered (hl : Lineage s.commons made) (hb : Balanced s.commons)
    (hasks : s.Asks t source slot) (hvisit : s.commons.visits.get? source = some .entered) :
    s.Proceeds (made source) t source slot (s.turn (.go t)) := by
  have hgo : ∀ v, s.commons.upgrade source = s.commons.setVisit source v →
      s.turn (.go t) = ⟨s.commons.setVisit source v, s.place⟩ := by
    intro v hstep
    refine turn_of_inside (v := v) hasks ?_ (Table.get?_insert_self _ _ _)
    simp only [Commons.visitMove, hvisit]
    exact hstep
  cases hcurrent : (s.commons.sources source).current with
  | none =>
      refine .resorts (Or.inl hvisit) (hl.deserted (fun r hr => ?_)) (hgo .ordering ?_)
      · rw [hcurrent] at hr
        cases hr
      · simp only [Commons.upgrade, hvisit, hcurrent]
  | some r =>
      cases halive : s.commons.isAlive r with
      | true =>
          refine .finds r hvisit (hl.current source r hcurrent) hcurrent (hgo (.holding r) ?_)
          simp only [Commons.upgrade, hvisit, hcurrent, halive, if_true]
      | false =>
          refine .resorts (Or.inl hvisit) (hl.deserted (fun r' hr' => ?_)) (hgo .ordering ?_)
          · rw [hcurrent] at hr'
            cases hr'
            exact hb.references_of_not_isAlive halive
          · simp only [Commons.upgrade, hvisit, hcurrent, halive, Bool.false_eq_true, if_false]

theorem proceeds_of_holding (hl : Lineage s.commons made) (hasks : s.Asks t source slot) {r : Nat}
    (hvisit : s.commons.visits.get? source = some (.holding r)) :
    s.Proceeds (made source) t source slot (s.turn (.go t)) := by
  have hcurrent := hl.holding source r hvisit
  have hmove : s.commons.visitMove source slot = .retain source slot := by
    simp only [Commons.visitMove, hvisit]
  by_cases htaken : s.commons.leases.contains slot = true
  · refine .waits ?_ (turn_of_inside hasks (c := s.commons) ?_ hvisit)
    · intro hnone
      rw [Table.contains, hnone] at htaken
      cases htaken
    · rw [hmove]
      simp only [Commons.step, Commons.retain, hvisit, htaken, if_true]
  · have hfree := Option.not_isSome_iff_eq_none.1 htaken
    by_cases howned : s.commons.references r = 0
    · refine .resorts (Or.inr ⟨r, hvisit⟩) (hl.deserted (fun r' hr' => ?_))
        (turn_of_inside (v := .ordering) hasks ?_ (Table.get?_insert_self _ _ _))
      · rw [hcurrent] at hr'
        cases hr'
        exact howned
      · rw [hmove]
        simp only [Commons.step, Commons.retain, hvisit, if_neg htaken, howned, if_true]
    · refine .attaches r hvisit (hl.current source r hcurrent) howned hfree hcurrent
        (turn_of_leaving hasks ?_ (Table.get?_erase_self _ _))
      rw [hmove]
      simp only [Commons.step, Commons.retain, hvisit, if_neg htaken, if_neg howned]

theorem proceeds_of_ordering (hl : Lineage s.commons made) (hasks : s.Asks t source slot)
    (hvisit : s.commons.visits.get? source = some .ordering) :
    s.Proceeds (made source) t source slot (s.turn (.go t)) := by
  have hdeserted := fun r => hl.ordering source r hvisit
  have hmove : s.commons.visitMove source slot = .order source slot := by
    simp only [Commons.visitMove, hvisit]
  by_cases htaken : s.commons.leases.contains slot = true
  · refine .waits ?_ (turn_of_inside hasks (c := s.commons) ?_ hvisit)
    · intro hnone
      rw [Table.contains, hnone] at htaken
      cases htaken
    · rw [hmove]
      simp only [Commons.step, Commons.order, hvisit, htaken, if_true]
  · have hfree := Option.not_isSome_iff_eq_none.1 htaken
    cases hnext : s.commons.nextOrder source with
    | ok payload =>
        refine .builds payload hvisit hdeserted hfree hnext
          (turn_of_leaving hasks ?_ (Table.get?_erase_self _ _))
        rw [hmove]
        simp only [Commons.step, Commons.order, hvisit, if_neg htaken, hnext]
    | error failure =>
        refine .fails failure hvisit hdeserted hfree hnext
          (turn_of_leaving hasks ?_ (Table.get?_erase_self _ _))
        rw [hmove]
        simp only [Commons.step, Commons.order, hvisit, if_neg htaken, hnext]

/-- The next step of a thread inside a source is one of those of its visit. -/
theorem proceeds_turn (h : Orderly s made) (hasks : s.Asks t source slot) :
    s.Proceeds (made source) t source slot (s.turn (.go t)) := by
  rcases h.attended.inside t source slot hasks with ⟨v, hvisit⟩
  cases v with
  | entered => exact proceeds_of_entered h.lineage h.balanced hasks hvisit
  | holding r => exact proceeds_of_holding h.lineage hasks hvisit
  | ordering => exact proceeds_of_ordering h.lineage hasks hvisit

end Threads

/-! ### One thread at a time -/

namespace Attended

variable {s : Threads ρ} {t source slot : Nat}

theorem start (factories : Nat → Nat → Except Failure ρ) : Attended (Threads.start factories) where
  inside := nofun
  alone := nofun

-- Nobody else is inside a source that a thread is in.
theorem source_ne (h : Attended s) (hasks : s.Asks t source slot) {t' source' slot' : Nat}
    (hasks' : s.Asks t' source' slot') (hne : t' ≠ t) : source ≠ source' := by
  rintro rfl
  exact hne (h.alone t' t source slot' slot hasks' hasks)

theorem setVisit (h : Attended s) (source : Nat) (v : Visit) :
    Attended ⟨s.commons.setVisit source v, s.place⟩ where
  inside := by
    intro t' source' slot' hasks
    rcases h.inside t' source' slot' hasks with ⟨v', hv'⟩
    by_cases he : source = source'
    · subst he
      exact ⟨v, Table.get?_insert_self _ _ _⟩
    · exact ⟨v', (Table.get?_insert_of_ne _ _ he).trans hv'⟩
  alone := h.alone

theorem enter (h : Attended s) (hfree : s.commons.visits.get? source = none) :
    Attended ⟨s.commons.setVisit source .entered,
      updateAt s.place t (some (.asking source slot))⟩ := by
  -- Whoever is inside a source now is this thread, or was inside another one before.
  have hcases : ∀ t' source' slot',
      Threads.Asks ⟨s.commons.setVisit source .entered,
        updateAt s.place t (some (.asking source slot))⟩ t' source' slot' →
      t' = t ∧ source' = source ∨ source ≠ source' ∧ s.Asks t' source' slot' := by
    intro t' source' slot' hasks
    by_cases ht : t' = t
    · subst ht
      cases Threads.asks_updateAt_self.1 hasks
      exact Or.inl ⟨rfl, rfl⟩
    · have hasks := (Threads.asks_updateAt_of_ne ht).1 hasks
      refine Or.inr ⟨?_, hasks⟩
      rintro rfl
      rcases h.inside t' source slot' hasks with ⟨v, hv⟩
      rw [hfree] at hv
      cases hv
  refine ⟨?_, ?_⟩
  · intro t' source' slot' hasks
    rcases hcases t' source' slot' hasks with ⟨-, rfl⟩ | ⟨hne, hbefore⟩
    · exact ⟨.entered, Table.get?_insert_self _ _ _⟩
    · rcases h.inside t' source' slot' hbefore with ⟨v, hv⟩
      exact ⟨v, (Table.get?_insert_of_ne _ _ hne).trans hv⟩
  · intro t' t'' source' slot' slot'' hasks' hasks''
    rcases hcases t' source' slot' hasks' with ⟨rfl, rfl⟩ | ⟨hne, hbefore⟩
    · rcases hcases t'' source' slot'' hasks'' with ⟨rfl, -⟩ | ⟨hne, -⟩
      · rfl
      · exact absurd rfl hne
    · rcases hcases t'' source' slot'' hasks'' with ⟨-, rfl⟩ | ⟨-, hbefore'⟩
      · exact absurd rfl hne
      · exact h.alone t' t'' source' slot' slot'' hbefore hbefore'

theorem leave (h : Attended s) (hasks : s.Asks t source slot) {c : Commons ρ}
    (hvisits : c.visits = s.commons.visits) :
    Attended ⟨c.endVisit source, updateAt s.place t none⟩ := by
  have hbefore : ∀ t' source' slot',
      Threads.Asks ⟨c.endVisit source, updateAt s.place t none⟩ t' source' slot' →
      t' ≠ t ∧ s.Asks t' source' slot' := by
    intro t' source' slot' hasks'
    by_cases ht : t' = t
    · subst ht
      cases Threads.asks_updateAt_self.1 hasks'
    · exact ⟨ht, (Threads.asks_updateAt_of_ne ht).1 hasks'⟩
  refine ⟨?_, ?_⟩
  · intro t' source' slot' hasks'
    rcases hbefore t' source' slot' hasks' with ⟨hne, hasks'⟩
    rcases h.inside t' source' slot' hasks' with ⟨v, hv⟩
    refine ⟨v, ?_⟩
    change (c.visits.erase source).get? source' = some v
    rw [Table.get?_erase_of_ne _ (h.source_ne hasks hasks' hne), hvisits, hv]
  · intro t' t'' source' slot' slot'' hasks' hasks''
    exact h.alone t' t'' source' slot' slot'' (hbefore _ _ _ hasks').2 (hbefore _ _ _ hasks'').2

end Attended

/-! ### Deserted resources stay deserted -/

namespace Lineage

variable {s s' : Commons ρ} {made : Nat → Nat → Prop} {source : Nat}

-- What makes no resource and changes no current one keeps the lineage, whatever it does to
-- references, if it revives nothing and a visit goes on only as it should.
theorem keep (h : Lineage s made) (hlength : s.resources.length ≤ s'.resources.length)
    (hzero : ∀ r, r < s.resources.length → s.references r = 0 → s'.references r = 0)
    (hcurrent : ∀ source, (s'.sources source).current = (s.sources source).current)
    (hvisits : ∀ source v, s'.visits.get? source = some v → s.visits.get? source = some v ∨
      v = .entered ∨ (∃ r, v = .holding r ∧ (s.sources source).current = some r) ∨
        v = .ordering ∧ ∀ r, made source r → s.references r = 0) : Lineage s' made where
  fresh := fun source r hr => Nat.lt_of_lt_of_le (h.fresh source r hr) hlength
  apart := h.apart
  current := by
    intro source r hr
    rw [hcurrent] at hr
    exact h.current source r hr
  others := by
    intro source r hr hne
    rw [hcurrent] at hne
    exact hzero r (h.fresh source r hr) (h.others source r hr hne)
  holding := by
    intro source r hr
    rw [hcurrent]
    rcases hvisits source _ hr with hbefore | hentered | ⟨r', hholding, hr'⟩ | ⟨hordering, -⟩
    · exact h.holding source r hbefore
    · cases hentered
    · cases hholding
      exact hr'
    · cases hordering
  ordering := by
    intro source r hvisit hr
    refine hzero r (h.fresh source r hr) ?_
    rcases hvisits source _ hvisit with hbefore | hentered | ⟨r', hholding, -⟩ | ⟨-, hdeserted⟩
    · exact h.ordering source r hbefore hr
    · cases hentered
    · cases hholding
    · exact hdeserted r hr

-- A visit that goes on.
theorem setVisit (h : Lineage s made) {v : Visit}
    (hv : v = .entered ∨ (∃ r, v = .holding r ∧ (s.sources source).current = some r) ∨
      v = .ordering ∧ ∀ r, made source r → s.references r = 0) :
    Lineage (s.setVisit source v) made := by
  refine h.keep (Nat.le_refl _) (fun _ _ hr => hr) (fun _ => rfl) ?_
  intro source' v' hv'
  change (s.visits.insert source v).get? source' = some v' at hv'
  by_cases he : source = source'
  · subst he
    rw [Table.get?_insert_self] at hv'
    cases hv'
    exact Or.inr hv
  · rw [Table.get?_insert_of_ne _ _ he] at hv'
    exact Or.inl hv'

-- A visit that is under way after another one ended was under way before.
theorem visit_of_erase {visits : Table Nat Visit} {source' : Nat} {v : Visit}
    (h : (visits.erase source).get? source' = some v) :
    source' ≠ source ∧ visits.get? source' = some v := by
  by_cases he : source = source'
  · subst he
    rw [Table.get?_erase_self] at h
    cases h
  · rw [Table.get?_erase_of_ne _ he] at h
    exact ⟨Ne.symm he, h⟩

theorem fail (h : Lineage s made) :
    Lineage ((s.changeSource source (fun m => { m with orders := m.orders + 1 })).endVisit source)
      made := by
  refine h.keep (Nat.le_refl _) (fun _ _ hr => hr) ?_
    (fun source' v hv => Or.inl (visit_of_erase hv).2)
  intro source'
  change (updateAt s.sources source _ source').current = _
  by_cases he : source' = source
  · rw [he, updateAt_self]
  · rw [updateAt_of_ne _ _ he]

theorem attach (h : Lineage s made) {r : Nat} (slot : Nat)
    (hcurrent : (s.sources source).current = some r) :
    Lineage (((s.changeResource r (fun res =>
      { res with references := res.references + 1 })).setLease slot (.own r)).endVisit source)
        made := by
  -- Only the references of the current resource of this source change.
  have hother : ∀ r', r' ≠ r → Commons.references (((s.changeResource r (fun res =>
      { res with references := res.references + 1 })).setLease slot (.own r)).endVisit source) r' =
        s.references r' := by
    intro r' hne
    exact (field_modify _ _ _ _ _ _).trans (if_neg (Ne.symm hne))
  refine ⟨?_, h.apart, h.current, ?_, ?_, ?_⟩
  · intro source' r' hr'
    change r' < (s.resources.modify r _).length
    rw [List.length_modify]
    exact h.fresh source' r' hr'
  · intro source' r' hr' hne
    have hr : r' ≠ r := by
      rintro rfl
      exact hne (h.apart source' source r' hr' (h.current source r' hcurrent) ▸ hcurrent)
    rw [hother r' hr]
    exact h.others source' r' hr' hne
  · intro source' r' hvisit
    exact h.holding source' r' (visit_of_erase hvisit).2
  · intro source' r' hvisit hr'
    rcases visit_of_erase hvisit with ⟨hne, hbefore⟩
    have hr : r' ≠ r := by
      rintro rfl
      exact hne (h.apart source' source r' hr' (h.current source r' hcurrent))
    rw [hother r' hr]
    exact h.ordering source' r' hbefore hr'

theorem build (h : Lineage s made) (payload : ρ) (slot : Nat)
    (hdeserted : ∀ r, made source r → s.references r = 0) :
    Lineage (((s.addResource payload slot).changeSource source (fun m =>
        { m with orders := m.orders + 1, current := some s.resources.length })).endVisit source)
      (fun source' r => made source' r ∨ source' = source ∧ r = s.resources.length) := by
  have hlength : (s.resources ++ [(⟨payload, 1, 0, false⟩ : Resource ρ)]).length =
      s.resources.length + 1 := List.length_append
  -- The references of earlier resources stay, and only this source has another current one.
  have hother : ∀ source' r, made source' r → Commons.references (((s.addResource payload
      slot).changeSource source (fun m => { m with
        orders := m.orders + 1, current := some s.resources.length })).endVisit source) r =
          s.references r := by
    intro source' r hr
    have hlt := h.fresh source' r hr
    exact (field_concat _ _ _ _ _).trans (if_neg (Nat.ne_of_lt hlt))
  refine ⟨?_, ?_, ?_, ?_, ?_, ?_⟩
  · intro source' r hr
    change r < (s.resources ++ [_]).length
    rw [hlength]
    rcases hr with hr | ⟨-, rfl⟩
    · exact Nat.lt_succ_of_lt (h.fresh source' r hr)
    · exact Nat.lt_succ_self _
  · intro source' source'' r hr hr'
    rcases hr with hr | ⟨rfl, rfl⟩
    · rcases hr' with hr' | ⟨rfl, rfl⟩
      · exact h.apart source' source'' r hr hr'
      · exact absurd (h.fresh source' _ hr) (Nat.lt_irrefl _)
    · rcases hr' with hr' | ⟨rfl, -⟩
      · exact absurd (h.fresh source'' _ hr') (Nat.lt_irrefl _)
      · rfl
  · intro source' r hr
    change (updateAt s.sources source _ source').current = some r at hr
    by_cases he : source' = source
    · subst he
      rw [updateAt_self] at hr
      cases hr
      exact Or.inr ⟨rfl, rfl⟩
    · rw [updateAt_of_ne _ _ he] at hr
      exact Or.inl (h.current source' r hr)
  · intro source' r hr hne
    change (updateAt s.sources source _ source').current ≠ some r at hne
    by_cases he : source' = source
    · subst he
      rw [updateAt_self] at hne
      rcases hr with hr | ⟨-, rfl⟩
      · rw [hother source' r hr]
        exact hdeserted r hr
      · exact absurd rfl hne
    · rw [updateAt_of_ne _ _ he] at hne
      rcases hr with hr | ⟨rfl, -⟩
      · rw [hother source' r hr]
        exact h.others source' r hr hne
      · exact absurd rfl he
  · intro source' r hvisit
    rcases visit_of_erase hvisit with ⟨hne, hbefore⟩
    change (updateAt s.sources source _ source').current = some r
    rw [updateAt_of_ne _ _ hne]
    exact h.holding source' r hbefore
  · intro source' r hvisit hr
    rcases visit_of_erase hvisit with ⟨hne, hbefore⟩
    rcases hr with hr | ⟨rfl, -⟩
    · rw [hother source' r hr]
      exact h.ordering source' r hbefore hr
    · exact absurd rfl hne

end Lineage

/-! ### Every turn is orderly -/

namespace Orderly

variable {s : Threads ρ} {made : Nat → Nat → Prop}

theorem start (factories : Nat → Nat → Except Failure ρ) :
    Orderly (Threads.start factories) (fun _ _ => False) where
  balanced := Balanced.ofFactories factories
  attended := Attended.start factories
  lineage := Lineage.ofFactories factories

theorem attended_turn (h : Orderly s made) (x : Threads.Turn ρ) : Attended (s.turn x) := by
  cases s.at_sources_turn x with
  | elsewhere _ hvisits _ hasks =>
      refine ⟨?_, ?_⟩
      · intro t source slot hafter
        rw [hvisits]
        exact h.attended.inside t source slot ((hasks t source slot).1 hafter)
      · intro t t' source slot slot' hafter hafter'
        exact h.attended.alone t t' source slot slot' ((hasks _ _ _).1 hafter)
          ((hasks _ _ _).1 hafter')
  | enters t source slot _ _ hfree hs =>
      rw [hs]
      exact h.attended.enter hfree
  | proceeds t source slot hx hasks =>
      subst hx
      cases Threads.proceeds_turn h hasks with
      | waits _ hs =>
          rw [hs]
          exact h.attended
      | finds r _ _ _ hs =>
          rw [hs]
          exact h.attended.setVisit source _
      | resorts _ _ hs =>
          rw [hs]
          exact h.attended.setVisit source _
      | attaches r _ _ _ _ _ hs =>
          rw [hs]
          exact h.attended.leave hasks rfl
      | builds payload _ _ _ _ hs =>
          rw [hs]
          exact h.attended.leave hasks rfl
      | fails failure _ _ _ _ hs =>
          rw [hs]
          exact h.attended.leave hasks rfl

-- Most turns make nothing.
theorem lineage_of_not_makes {x : Threads.Turn ρ} (h : Lineage (s.turn x).commons made)
    (hnot : ∀ source r, ¬ s.Makes x source r) :
    Lineage (s.turn x).commons (fun source r => made source r ∨ s.Makes x source r) := by
  have hsame : (fun source r => made source r ∨ s.Makes x source r) = made := by
    funext source r
    exact propext ⟨fun hr => hr.resolve_right (hnot source r), Or.inl⟩
  rw [hsame]
  exact h

theorem not_makes_of_length {x : Threads.Turn ρ}
    (hlength : (s.turn x).commons.resources.length = s.commons.resources.length) (source r : Nat) :
    ¬ s.Makes x source r := by
  rintro ⟨-, hbefore, hafter⟩
  omega

-- A thread that gets a new resource from the factory makes this one, for the source that it is
-- inside of.
theorem makes_iff_of_builds {t source slot : Nat} (hasks : s.Asks t source slot)
    (hlength : (s.turn (.go t)).commons.resources.length = s.commons.resources.length + 1)
    (source' r : Nat) :
    s.Makes (.go t) source' r ↔ source' = source ∧ r = s.commons.resources.length := by
  constructor
  · rintro ⟨⟨t', slot', hx, hasks'⟩, hr, -⟩
    cases hx
    rw [Threads.Asks, show s.place t = _ from hasks] at hasks'
    cases hasks'
    exact ⟨rfl, hr.symm⟩
  · rintro ⟨rfl, rfl⟩
    exact ⟨⟨t, slot, rfl, hasks⟩, rfl, hlength⟩

theorem lineage_turn (h : Orderly s made) (x : Threads.Turn ρ) :
    Lineage (s.turn x).commons (fun source r => made source r ∨ s.Makes x source r) := by
  have hl := h.lineage
  cases s.at_sources_turn x with
  | elsewhere hturn hvisits hsources _ =>
      refine lineage_of_not_makes ?_ (fun source r ⟨⟨t, slot, hx, hasks⟩, _⟩ =>
        hturn t source slot hx hasks)
      have hvisit : ∀ source v, (s.turn x).commons.visits.get? source = some v →
          s.commons.visits.get? source = some v := by
        intro source v hv
        rwa [hvisits] at hv
      rcases Threads.turn_commons (s := s) x with heq | ⟨m, heq, -⟩
      · rw [heq]
        exact hl
      · refine hl.keep ?_ ?_ (fun source => by rw [hsources])
          (fun source v hv => Or.inl (hvisit source v hv))
        · rw [heq]
          exact Commons.length_step m
        · intro r hr hzero
          rw [heq]
          exact Commons.references_step_eq_zero m hr hzero
  | enters t source slot _ _ hfree hs =>
      refine lineage_of_not_makes ?_ (not_makes_of_length (by rw [hs]; rfl))
      rw [hs]
      exact hl.setVisit (Or.inl rfl)
  | proceeds t source slot hx hasks =>
      subst hx
      cases Threads.proceeds_turn h hasks with
      | waits _ hs =>
          refine lineage_of_not_makes ?_ (not_makes_of_length (by rw [hs]))
          rw [hs]
          exact hl
      | finds r _ _ hcurrent hs =>
          refine lineage_of_not_makes ?_ (not_makes_of_length (by rw [hs]; rfl))
          rw [hs]
          exact hl.setVisit (Or.inr (Or.inl ⟨r, rfl, hcurrent⟩))
      | resorts _ hdeserted hs =>
          refine lineage_of_not_makes ?_ (not_makes_of_length (by rw [hs]; rfl))
          rw [hs]
          exact hl.setVisit (Or.inr (Or.inr ⟨rfl, hdeserted⟩))
      | attaches r _ _ _ _ hcurrent hs =>
          refine lineage_of_not_makes ?_ (not_makes_of_length ?_)
          · rw [hs]
            exact hl.attach slot hcurrent
          · rw [hs]
            exact List.length_modify _ _ _
      | fails failure _ _ _ _ hs =>
          refine lineage_of_not_makes ?_ (not_makes_of_length (by rw [hs]; rfl))
          rw [hs]
          exact hl.fail
      | builds payload _ hdeserted _ _ hs =>
          have hlength : (s.turn (.go t)).commons.resources.length =
              s.commons.resources.length + 1 := by
            rw [hs]
            exact List.length_append
          simp only [makes_iff_of_builds hasks hlength]
          rw [hs]
          exact hl.build payload slot hdeserted

theorem turn (h : Orderly s made) (x : Threads.Turn ρ) :
    Orderly (s.turn x) (fun source r => made source r ∨ s.Makes x source r) where
  balanced := balanced_turn h.balanced x
  attended := h.attended_turn x
  lineage := h.lineage_turn x

/-- What holds at every moment of every run. -/
theorem run (h : Orderly s made) (turns : List (Threads.Turn ρ)) :
    Orderly (s.run turns) (fun source r => made source r ∨ s.Made turns source r) := by
  induction turns generalizing s made with
  | nil =>
      have hsame : (fun source r => made source r ∨ s.Made [] source r) = made := by
        funext source r
        exact propext ⟨fun hr => hr.resolve_right id, Or.inl⟩
      rw [hsame]
      exact h
  | cons x turns ih =>
      have hsame : (fun source r => made source r ∨ s.Made (x :: turns) source r) =
          fun source r => (made source r ∨ s.Makes x source r) ∨
            (s.turn x).Made turns source r := by
        funext source r
        exact propext or_assoc.symm
      rw [hsame]
      exact ih (h.turn x)

theorem run_start (factories : Nat → Nat → Except Failure ρ) (turns : List (Threads.Turn ρ)) :
    Orderly ((Threads.start factories).run turns) ((Threads.start factories).Made turns) := by
  have hrun := (Orderly.start factories).run turns
  simp only [false_or] at hrun
  exact hrun

end Orderly

/-! ### Visits and the threads that pay them -/

namespace Threads

variable {s : Threads ρ} {made : Nat → Nat → Prop} {t source slot : Nat}

-- A step inside one source is not seen at another.
theorem Proceeds.elsewhere {made : Nat → Prop} {s' : Threads ρ}
    (h : s.Proceeds made t source slot s') {source' : Nat} (hne : source ≠ source') :
    s'.commons.visits.get? source' = s.commons.visits.get? source' ∧
      s'.commons.sources source' = s.commons.sources source' := by
  cases h with
  | waits _ hs =>
      rw [hs]
      exact ⟨rfl, rfl⟩
  | finds r _ _ _ hs =>
      rw [hs]
      exact ⟨Table.get?_insert_of_ne _ _ hne, rfl⟩
  | resorts _ _ hs =>
      rw [hs]
      exact ⟨Table.get?_insert_of_ne _ _ hne, rfl⟩
  | attaches r _ _ _ _ _ hs =>
      rw [hs]
      exact ⟨Table.get?_erase_of_ne _ hne, rfl⟩
  | builds payload _ _ _ _ hs =>
      rw [hs]
      exact ⟨Table.get?_erase_of_ne _ hne, updateAt_of_ne _ _ (Ne.symm hne)⟩
  | fails failure _ _ _ _ hs =>
      rw [hs]
      exact ⟨Table.get?_erase_of_ne _ hne, updateAt_of_ne _ _ (Ne.symm hne)⟩

/-- Nobody moves the visit of another thread. -/
theorem visit_stays (h : Orderly s made) (hasks : s.Asks t source slot) {x : Threads.Turn ρ}
    (hx : x ≠ .go t) :
    (s.turn x).Asks t source slot ∧
      (s.turn x).commons.visits.get? source = s.commons.visits.get? source := by
  cases s.at_sources_turn x with
  | elsewhere _ hvisits _ hsame =>
      exact ⟨(hsame t source slot).2 hasks, by rw [hvisits]⟩
  | enters t' source' slot' _ hidle hfree hs =>
      -- The thread is inside already, and so is not the one that enters; nor is it a source that
      -- can be entered.
      have ht : t ≠ t' := by
        rintro rfl
        rw [Asks, hidle] at hasks
        cases hasks
      have hne : source' ≠ source := by
        rintro rfl
        rcases h.attended.inside t source' slot hasks with ⟨v, hv⟩
        rw [hfree] at hv
        cases hv
      rw [hs]
      exact ⟨(asks_updateAt_of_ne ht).2 hasks, Table.get?_insert_of_ne _ _ hne⟩
  | proceeds t' source' slot' hx' hasks' =>
      have ht : t ≠ t' := by
        rintro rfl
        exact hx hx'
      subst hx'
      have hproceeds := proceeds_turn h hasks'
      have hp : s.place t' = some (.asking source' slot') := hasks'
      refine ⟨?_, (hproceeds.elsewhere (h.attended.source_ne hasks' hasks ht)).1⟩
      simp only [turn, hp, go, move]
      exact (asks_updateAt_of_ne ht).2 hasks

end Threads

end Imds
