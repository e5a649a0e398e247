import Imds.Proofs.Lease.Source

/-!
# A Visit That Comes to Nothing

When the factory fails, the thread that asked leaves without a lease. It has not changed a
resource, a lease or what is current, and only the factory knows that it was asked. This is made
precise in the strongest form: the run is the same, state by state, as one in which the thread
never came, once the answer that it was given is passed over.

`Threads.without` takes a thread out of a source. It keeps everything else, so it commutes with
every turn of another thread, and a turn of the thread itself is not seen by it as long as the
thread stays inside. Two things have to be looked at. A thread that finds the source taken does
not get in, and would have got in otherwise; so these calls are struck out with the visit. And a
visit that holds a resource keeps it alive, which another source might notice if it had made the
same resource. No two sources do.

## Main definitions

* `Commons.passOver`, `Threads.passOver`: The next answer of a factory is left out.
* `Commons.without`, `Threads.without`: A thread is taken out of a source.
* `Threads.Turn.belongs`: The turns that are struck out with a visit.

## Theorems

* `turn_without`: What other threads do does not depend on the visit.
* `run_without`: A run, with and without a visit that has not ended.
* `absence`: A visit whose factory fails might as well not have taken place.
-/

namespace Imds

variable {ρ : Type}

namespace Commons

/-- The next answer of the factory of a source is left out. -/
def passOver (s : Commons ρ) (source : Nat) : Commons ρ :=
  s.changeSource source (fun m => { m with orders := m.orders + 1 })

/-- Nobody is inside a source, and the next answer of its factory is left out. -/
def without (s : Commons ρ) (source : Nat) : Commons ρ := (s.passOver source).endVisit source

variable {s : Commons ρ} {source source' slot : Nat}

theorem step_without {m : Move ρ} (hm : m.OnLeases) :
    (s.without source).step m = (s.step m).without source := by
  have hstep := s.step_withSources hm (s.visits.erase source) (s.passOver source).sources
  change (s.without source).step m = _ at hstep
  rw [hstep]
  simp only [without, passOver, endVisit, changeSource, withSources, s.visits_step hm,
    s.sources_step hm]

/-! ### Steps at other sources -/

theorem get?_without (hne : source ≠ source') :
    (s.without source).visits.get? source' = s.visits.get? source' :=
  Table.get?_erase_of_ne _ hne

theorem sources_without (hne : source ≠ source') :
    (s.without source).sources source' = s.sources source' :=
  updateAt_of_ne _ _ (Ne.symm hne)

theorem setVisit_without (hne : source ≠ source') (v : Visit) :
    (s.without source).setVisit source' v = (s.setVisit source' v).without source := by
  simp only [without, passOver, changeSource, endVisit, setVisit,
    Table.erase_insert_of_ne _ (Ne.symm hne)]

theorem endVisit_without :
    (s.without source).endVisit source' = (s.endVisit source').without source := by
  simp only [without, passOver, changeSource, endVisit, Table.erase_comm _ source source']

theorem changeSource_without (hne : source ≠ source') (f : Source ρ → Source ρ) :
    (s.without source).changeSource source' f = (s.changeSource source' f).without source := by
  simp only [without, passOver, changeSource, endVisit, updateAt_of_ne _ _ hne,
    updateAt_of_ne _ _ (Ne.symm hne), updateAt_comm _ _ _ hne]

theorem enter_without (hne : source ≠ source') :
    (s.without source).enter source' = (s.enter source').without source := by
  have hinside : (s.without source).visits.contains source' = s.visits.contains source' := by
    rw [Table.contains, get?_without hne, Table.contains]
  unfold enter
  rw [hinside]
  split
  · rfl
  · exact setVisit_without hne _

-- A visit of another source keeps nothing alive that this one is interested in.
theorem isAlive_without {r : Nat} (h : s.visits.get? source ≠ some (.holding r)) :
    (s.without source).isAlive r = s.isAlive r := by
  have hcount := Table.count_erase (fun v => v == Visit.holding r) s.visits source
  have hweight : Table.weight (fun v => v == Visit.holding r) (s.visits.get? source) = 0 := by
    cases hvisit : s.visits.get? source with
    | none => rfl
    | some v =>
        have hv : (v == Visit.holding r) = false := by
          refine beq_eq_false_iff_ne.2 (fun he => h ?_)
          rw [hvisit, he]
        simp only [Table.weight, hv, Bool.false_eq_true, if_false]
  rw [hweight, Nat.add_zero] at hcount
  change (_ || (s.visits.erase source).count _ != 0) = _
  rw [hcount]
  rfl

theorem upgrade_without (hne : source ≠ source')
    (halive : ∀ r, (s.sources source').current = some r →
      s.visits.get? source ≠ some (.holding r)) :
    (s.without source).upgrade source' = (s.upgrade source').without source := by
  simp only [upgrade, get?_without hne, sources_without hne]
  split
  · split
    · next r hr =>
      rw [isAlive_without (halive r hr)]
      exact setVisit_without hne _
    · exact setVisit_without hne _
  · rfl

theorem retain_without (hne : source ≠ source') :
    (s.without source).retain source' slot = (s.retain source' slot).without source := by
  simp only [retain, get?_without hne]
  split
  · next r _ =>
    change (if s.leases.contains slot then s.without source
      else if s.references r = 0 then (s.without source).setVisit source' .ordering
      else (Commons.without ((s.changeResource r _).setLease slot _) source).endVisit source') = _
    by_cases htaken : s.leases.contains slot = true
    · rw [if_pos htaken, if_pos htaken]
    · rw [if_neg htaken, if_neg htaken]
      split
      · exact setVisit_without hne _
      · exact endVisit_without
  · rfl

theorem order_without (hne : source ≠ source') :
    (s.without source).order source' slot = (s.order source' slot).without source := by
  have hnext : (s.without source).nextOrder source' = s.nextOrder source' := by
    rw [nextOrder, sources_without hne, nextOrder]
  simp only [order, get?_without hne, hnext]
  split
  · change (if s.leases.contains slot then s.without source else _) = _
    by_cases htaken : s.leases.contains slot = true
    · rw [if_pos htaken, if_pos htaken]
    · rw [if_neg htaken, if_neg htaken]
      split
      · next payload _ =>
        change (((s.addResource payload slot).without source).changeSource source' _).endVisit
          source' = _
        rw [changeSource_without hne, endVisit_without]
        rfl
      · rw [changeSource_without hne, endVisit_without]
  · rfl

theorem visitMove_without (hne : source ≠ source') :
    (s.without source).visitMove source' slot = s.visitMove source' slot := by
  simp only [visitMove, get?_without hne]

theorem step_visitMove_without (hne : source ≠ source')
    (halive : ∀ r, (s.sources source').current = some r →
      s.visits.get? source ≠ some (.holding r)) :
    (s.without source).step (s.visitMove source' slot) =
      (s.step (s.visitMove source' slot)).without source := by
  unfold visitMove
  split
  · exact retain_without hne
  · exact order_without hne
  · exact upgrade_without hne halive

end Commons

namespace Threads

/-- The next answer of the factory of a source is left out. -/
def passOver (s : Threads ρ) (source : Nat) : Threads ρ := ⟨s.commons.passOver source, s.place⟩

/-- A thread is taken out of a source, as if it had not come, and the next answer of the factory
    is left out. -/
def without (s : Threads ρ) (t source : Nat) : Threads ρ :=
  ⟨s.commons.without source, updateAt s.place t none⟩

/-- A turn is one of a thread, or a call of another one to get into a source. While the thread is
    inside the source, these are the turns that depend on it. -/
def Turn.belongs (t source : Nat) : Threads.Turn ρ → Bool
  | .go t' => t' == t
  | .call t' (.acquire source' _) => t' == t || source' == source
  | .call t' _ => t' == t

variable {s : Threads ρ} {made : Nat → Nat → Prop} {t source slot : Nat}

/-! ### Turns of others -/

theorem place_without {t' : Nat} (hne : t' ≠ t) : (s.without t source).place t' = s.place t' :=
  updateAt_of_ne _ _ hne

theorem move_without {t' : Nat} (hne : t' ≠ t) {m : Move ρ} (p : Option Place)
    (hstep : (s.commons.without source).step m = (s.commons.step m).without source) :
    (s.move t' m p).without t source = (s.without t source).move t' m p := by
  simp only [without, move, hstep, updateAt_comm _ _ _ hne]

-- A step inside another source. Whether it ends the visit does not depend on this one.
theorem ask_without (h : Orderly s made) {t' source' slot' : Nat} (hne : source ≠ source')
    (ht : t' ≠ t) :
    (s.go t' (.asking source' slot')).without t source =
      (s.without t source).go t' (.asking source' slot') := by
  have halive : ∀ r, (s.commons.sources source').current = some r →
      s.commons.visits.get? source ≠ some (.holding r) := by
    intro r hcurrent hholding
    exact hne (h.lineage.apart source source' r
      (h.lineage.current source r (h.lineage.holding source r hholding))
      (h.lineage.current source' r hcurrent))
  have hmove : (s.commons.without source).visitMove source' slot' =
      s.commons.visitMove source' slot' := Commons.visitMove_without hne
  have hstep : (s.commons.without source).step (s.commons.visitMove source' slot') =
      (s.commons.step (s.commons.visitMove source' slot')).without source :=
    Commons.step_visitMove_without hne halive
  have hinside : ∀ c : Commons ρ,
      (c.without source).visits.contains source' = c.visits.contains source' := by
    intro c
    rw [Table.contains, Commons.get?_without hne, Table.contains]
  simp only [go]
  rw [move_without ht _ hstep]
  change _ = (s.without t source).move t' ((s.commons.without source).visitMove source' slot')
    (if ((s.commons.without source).step
      ((s.commons.without source).visitMove source' slot')).visits.contains source' then _ else _)
  rw [hmove, hstep, hinside]

theorem go_without (h : Orderly s made) (hasks : s.Asks t source slot) {t' : Nat} {p : Place}
    (hp : s.place t' = some p) (ht : t' ≠ t) :
    (s.go t' p).without t source = (s.without t source).go t' p := by
  cases p with
  | asking source' slot' => exact ask_without h (h.attended.source_ne hasks hp ht) ht
  | ending slot' => exact move_without (m := .forget slot') ht _ (Commons.step_without trivial)
  | closing slot' stage d =>
      cases stage with
      | quiet => rfl
      | releasing =>
          exact move_without (m := .release slot') ht _ (Commons.step_without trivial)
      | tearing => exact move_without (m := .tearDown slot') ht _ (Commons.step_without trivial)
      | signalling => exact move_without (m := .signal slot') ht _ (Commons.step_without trivial)

theorem call_without {t' : Nat} {c : Call ρ} (ht : t' ≠ t)
    (hc : ∀ slot', c ≠ .acquire source slot') :
    (s.call t' c).without t source = (s.without t source).call t' c := by
  cases c with
  | create payload slot' =>
      exact move_without (m := .create payload slot') ht _ (Commons.step_without trivial)
  | lend slot' newSlot =>
      exact move_without (m := .lend slot' newSlot) ht _ (Commons.step_without trivial)
  | close slot' => exact move_without (m := .mark slot') ht _ (Commons.step_without trivial)
  | drop slot' => exact move_without (m := .mark slot') ht _ (Commons.step_without trivial)
  | acquire source' slot' =>
      have hne : source ≠ source' := by
        rintro rfl
        exact hc slot' rfl
      have hinside : (s.without t source).commons.visits.contains source' =
          s.commons.visits.contains source' := by
        rw [Table.contains, Table.contains]
        exact congrArg Option.isSome (Commons.get?_without (s := s.commons) hne)
      simp only [call]
      rw [hinside]
      split
      · rfl
      · exact move_without (m := .enter source') ht _ (Commons.enter_without hne)

/-- What other threads do does not depend on the visit. -/
theorem turn_without (h : Orderly s made) (hasks : s.Asks t source slot) {x : Threads.Turn ρ}
    (hx : x.belongs t source = false) :
    (s.turn x).without t source = (s.without t source).turn x := by
  cases x with
  | go t' =>
      have ht : t' ≠ t := beq_eq_false_iff_ne.1 hx
      have hplace : (s.without t source).place t' = s.place t' := place_without ht
      cases hp : s.place t' with
      | none =>
          rw [hp] at hplace
          simp only [turn, hp, hplace]
      | some p =>
          rw [hp] at hplace
          simp only [turn, hp, hplace]
          exact go_without h hasks hp ht
  | call t' c =>
      have ht : t' ≠ t ∧ ∀ slot', c ≠ .acquire source slot' := by
        cases c with
        | acquire source' slot' =>
            rcases Bool.or_eq_false_iff.1 hx with ⟨ht, hsource⟩
            refine ⟨beq_eq_false_iff_ne.1 ht, fun slot'' hc => ?_⟩
            cases hc
            exact beq_eq_false_iff_ne.1 hsource rfl
        | create payload slot' => exact ⟨beq_eq_false_iff_ne.1 hx, by simp⟩
        | lend slot' newSlot => exact ⟨beq_eq_false_iff_ne.1 hx, by simp⟩
        | close slot' => exact ⟨beq_eq_false_iff_ne.1 hx, by simp⟩
        | drop slot' => exact ⟨beq_eq_false_iff_ne.1 hx, by simp⟩
      have hplace : (s.without t source).place t' = s.place t' := place_without ht.1
      cases hp : s.place t' with
      | some p =>
          rw [hp] at hplace
          simp only [turn, hp, hplace]
      | none =>
          rw [hp] at hplace
          simp only [turn, hp, hplace]
          exact call_without ht.1 ht.2

/-! ### Turns that are struck out -/

-- As long as a thread stays inside, its turns do not show once it is taken out, and nobody else
-- gets in.
theorem without_of_belongs (h : Orderly s made) (hasks : s.Asks t source slot)
    {x : Threads.Turn ρ} (hx : x.belongs t source = true) (hstill : (s.turn x).Asks t source slot) :
    (s.turn x).without t source = s.without t source := by
  have hp : s.place t = some (.asking source slot) := hasks
  have hset : ∀ v, Threads.without ⟨s.commons.setVisit source v, s.place⟩ t source =
      s.without t source := by
    intro v
    simp only [without, Commons.without, Commons.passOver, Commons.changeSource, Commons.endVisit,
      Commons.setVisit, Table.erase_insert_self]
  cases x with
  | go t' =>
      have ht : t' = t := beq_iff_eq.1 hx
      subst ht
      cases proceeds_turn h hasks with
      | waits _ hs => rw [hs]
      | finds r _ _ _ hs => rw [hs, hset]
      | resorts _ _ hs => rw [hs, hset]
      | attaches r _ _ _ _ _ hs =>
          rw [hs] at hstill
          cases asks_updateAt_self.1 hstill
      | builds payload _ _ _ _ hs =>
          rw [hs] at hstill
          cases asks_updateAt_self.1 hstill
      | fails failure _ _ _ _ hs =>
          rw [hs] at hstill
          cases asks_updateAt_self.1 hstill
  | call t' c =>
      have hnothing : s.turn (.call t' c) = s := by
        cases hp' : s.place t' with
        | some p => simp only [turn, hp']
        | none =>
            have ht : t' ≠ t := by
              rintro rfl
              rw [hp] at hp'
              cases hp'
            cases c with
            | acquire source' slot' =>
                rcases Bool.or_eq_true_iff.1 hx with hself | hsource
                · exact absurd (beq_iff_eq.1 hself) ht
                · have hsource := beq_iff_eq.1 hsource
                  subst hsource
                  have hinside : s.commons.visits.contains source' = true :=
                    Table.contains_iff.2 (h.attended.inside t source' slot hasks)
                  simp only [turn, hp', call, hinside, if_true]
            | create payload slot' => exact absurd (beq_iff_eq.1 hx) ht
            | lend slot' newSlot => exact absurd (beq_iff_eq.1 hx) ht
            | close slot' => exact absurd (beq_iff_eq.1 hx) ht
            | drop slot' => exact absurd (beq_iff_eq.1 hx) ht
      rw [hnothing]

/-- A run during which a thread stays inside a source, with the thread and without it. -/
theorem run_without (h : Orderly s made) {turns : List (Threads.Turn ρ)}
    (hinside : ∀ first rest, turns = first ++ rest → (s.run first).Asks t source slot) :
    (s.run turns).without t source =
      (s.without t source).run (turns.filter (fun x => !x.belongs t source)) := by
  induction turns generalizing s made with
  | nil => rfl
  | cons x turns ih =>
      have hasks : s.Asks t source slot := hinside [] (x :: turns) rfl
      have hstill : (s.turn x).Asks t source slot := hinside [x] turns rfl
      have hrest := ih (h.turn x) (fun first rest hsplit => hinside (x :: first) rest (by
        rw [hsplit, List.cons_append]))
      change ((s.turn x).run turns).without t source = _
      rw [hrest]
      cases hx : x.belongs t source with
      | true =>
          rw [without_of_belongs h hasks hx hstill]
          simp only [List.filter_cons, hx, Bool.not_true, Bool.false_eq_true, if_false]
      | false =>
          rw [turn_without h hasks hx]
          simp only [List.filter_cons, hx, Bool.not_false, if_true]
          rfl

/-! ### A visit from its beginning to its end -/

-- The beginning of a visit leaves nothing else behind than the visit.
theorem without_of_enters (hidle : s.place t = none)
    (hfree : s.commons.visits.get? source = none) :
    Threads.without ⟨s.commons.setVisit source .entered,
      updateAt s.place t (some (.asking source slot))⟩ t source = s.passOver source := by
  have hplace : updateAt (updateAt s.place t (some (.asking source slot))) t none = s.place := by
    rw [updateAt_idem]
    funext t'
    by_cases ht : t' = t
    · rw [ht, updateAt_self, hidle]
    · exact updateAt_of_ne _ _ ht
  simp only [without, passOver, hplace, Commons.without, Commons.passOver, Commons.changeSource,
    Commons.endVisit, Commons.setVisit, Table.erase_insert_self, Table.erase_eq_self hfree]

/-- A visit whose factory fails might as well not have taken place. The run in which it did has
    come to the same state as the run in which the thread did not call, nor did others get to wait
    for it, and the answer that the factory gave is passed over. -/
theorem absence (h : Orderly s made) {turns : List (Threads.Turn ρ)}
    (hstart : ∀ slot, ¬ s.Asks t source slot) (hasks : (s.run turns).Asks t source slot)
    (hfails : (s.run turns).turn (.go t) = (s.run turns).without t source) :
    ∃ earlier later, turns = earlier ++ .call t (.acquire source slot) :: later ∧
      (s.run turns).turn (.go t) =
        ((s.run earlier).passOver source).run (later.filter (fun x => !x.belongs t source)) := by
  rcases exists_rise (P := fun s => s.Asks t source slot) (hstart slot) hasks with
    ⟨earlier, x, later, rfl, hnot, hsince⟩
  have hafter : ((s.run earlier).turn x).Asks t source slot := hsince [] later rfl
  rcases asks_turn hafter with hbefore | ⟨rfl, hidle, hfree, henters⟩
  · exact absurd hbefore hnot
  · refine ⟨earlier, later, rfl, ?_⟩
    have hwithout := run_without ((h.run earlier).turn (.call t (.acquire source slot))) hsince
    rw [hfails, run_append]
    change (((s.run earlier).turn (.call t (.acquire source slot))).run later).without t source = _
    rw [hwithout, henters, without_of_enters hidle hfree]

end Threads

end Imds
