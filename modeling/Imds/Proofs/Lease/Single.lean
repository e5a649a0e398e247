import Imds.Proofs.Lease.Absence

/-!
# One Resource at a Time

Of all the resources that a source has made, at most one has an owner, and whoever asks the source
for a lease is given one on that resource as long as it has one. A lease that was given reaches
its resource until it is closed itself; no closing of another lease can take that away. And an
order that fails leaves no trace.

Most of this is the lineage of a source. What is added concerns a lease that nobody closes. It
stays in its place as it was given, so it is counted among the references of its resource, and a
resource with references was not torn down.

## Main definitions

* `Commons.Reaches`: What an open lease shows.
* `Threads.Turn.Closes`: The turns that begin to close a lease.
* `Threads.Orders`: A thread found nothing to attach to, and is to order.

## Theorems

* `lease_open_step`: A lease that is not closed stays as it is.
* `reaches_run`: It reaches its resource for as long.
* `orders_iff_deserted`, `orders_since`: Who is to order found everything deserted.
* `reaches_of_leaving`: Who leaves with a lease has one that can be used.
* `one_resource_at_a_time`: What holds of a source at every moment of every run.
-/

namespace Imds

variable {ρ : Type}

/-! ### A lease that nobody closes -/

namespace Commons

variable {s : Commons ρ} {slot : Nat}

-- What happens to another lease.
theorem get?_setLease_of_ne {slot' : Nat} (l : Lease) (hne : slot' ≠ slot) :
    (s.setLease slot' l).leases.get? slot = s.leases.get? slot :=
  Table.get?_insert_of_ne _ _ hne

theorem lease_mark_of_ne {slot' : Nat} (hne : slot' ≠ slot) :
    (s.mark slot').leases.get? slot = s.leases.get? slot := by
  unfold mark
  split
  · split
    · rfl
    · exact get?_setLease_of_ne _ hne
  · rfl

theorem lease_release_of_ne {slot' : Nat} (hne : slot' ≠ slot) :
    (s.release slot').leases.get? slot = s.leases.get? slot := by
  unfold release
  split
  · split
    · exact get?_setLease_of_ne _ hne
    · rfl
  · rfl

theorem lease_tearDown_of_ne {slot' : Nat} (hne : slot' ≠ slot) :
    (s.tearDown slot').leases.get? slot = s.leases.get? slot := by
  unfold tearDown
  split
  · split
    · exact get?_setLease_of_ne _ hne
    · rfl
  · rfl

theorem lease_signal_of_ne {slot' : Nat} (hne : slot' ≠ slot) :
    (s.signal slot').leases.get? slot = s.leases.get? slot := by
  unfold signal
  split
  · split
    · exact get?_setLease_of_ne _ hne
    · rfl
  · rfl

/-- A lease that is open and not closed by a step is as it was. -/
theorem lease_open_step {m : Move ρ} {l : Lease} (hm : m ≠ .mark slot)
    (hl : s.leases.get? slot = some l) (hopen : l.closed = false) (hquiet : l.stage = .quiet) :
    (s.step m).leases.get? slot = some l := by
  -- The steps of a closing, if they are of this lease, have nothing to do.
  have hstage : ∀ stage, stage ≠ .quiet → s.stageOf slot ≠ stage := by
    intro stage hne
    rw [stageOf_eq hl, hquiet]
    exact hne.symm
  have hplain : m.IsPlain → (s.step m).leases.get? slot = some l := by
    intro hplain
    cases touch_step (s := s) m with
    | none hleases => rw [hleases, hl]
    | comes slot' l' hfree _ hleases =>
        have hne : slot' ≠ slot := by
          rintro rfl
          rw [hl] at hfree
          cases hfree
        rw [hleases, Table.get?_insert_of_ne _ _ hne, hl]
    | closes slot' old new hnot => exact absurd hplain hnot
    | goes slot' old hforget _ _ hleases =>
        by_cases he : slot' = slot
        · subst he
          simp only [hforget, step, forget, hl, hopen, Bool.false_eq_true, false_and, if_false]
        · rw [hleases, Table.get?_erase_of_ne _ he, hl]
  cases m with
  | mark slot' =>
      have hne : slot' ≠ slot := by
        rintro rfl
        exact hm rfl
      exact (lease_mark_of_ne hne).trans hl
  | release slot' =>
      by_cases he : slot' = slot
      · subst he
        change (s.release slot').leases.get? slot' = some l
        rw [release_eq_self slot' (hstage _ Stage.noConfusion), hl]
      · exact (lease_release_of_ne he).trans hl
  | tearDown slot' =>
      by_cases he : slot' = slot
      · subst he
        change (s.tearDown slot').leases.get? slot' = some l
        rw [tearDown_eq_self slot' (hstage _ Stage.noConfusion), hl]
      · exact (lease_tearDown_of_ne he).trans hl
  | signal slot' =>
      by_cases he : slot' = slot
      · subst he
        change (s.signal slot').leases.get? slot' = some l
        rw [signal_eq_self slot' (hstage _ Stage.noConfusion), hl]
      · exact (lease_signal_of_ne he).trans hl
  | create payload slot' => exact hplain trivial
  | lend slot' newSlot => exact hplain trivial
  | forget slot' => exact hplain trivial
  | enter source => exact hplain trivial
  | upgrade source => exact hplain trivial
  | retain source slot' => exact hplain trivial
  | order source slot' => exact hplain trivial

-- What is shared is never exchanged.
theorem payload_modify {f : Resource ρ → Resource ρ} {resources : List (Resource ρ)} (i r : Nat)
    (hf : ∀ res, (f res).payload = res.payload) :
    (resources.modify i f)[r]?.map Resource.payload = resources[r]?.map Resource.payload := by
  rw [List.getElem?_modify]
  cases resources[r]? with
  | none => rfl
  | some res =>
      by_cases hi : i = r
      · simp [hi, hf]
      · simp [hi]

theorem payload_step (m : Move ρ) {r : Nat} {payload : ρ}
    (hpayload : s.resources[r]?.map Resource.payload = some payload) :
    (s.step m).resources[r]?.map Resource.payload = some payload := by
  rw [← hpayload]
  cases effect_step (s := s) m with
  | still hresources => rw [hresources]
  | made payload' slot' _ hresources =>
      have hlt : r < s.resources.length := by
        by_cases hlt : r < s.resources.length
        · exact hlt
        · rw [List.getElem?_eq_none (Nat.le_of_not_lt hlt)] at hpayload
          cases hpayload
      rw [hresources, List.getElem?_append_left hlt]
  | attached r' slot' _ _ hresources =>
      rw [hresources]
      exact payload_modify _ r (fun _ => rfl)
  | released slot' l _ _ _ hresources =>
      rw [hresources]
      exact payload_modify _ r (fun _ => rfl)
  | tornDown slot' l _ _ _ hresources =>
      rw [hresources]
      exact payload_modify _ r (fun _ => rfl)
  | signalled slot' l _ _ hresources =>
      rw [hresources]
      exact payload_modify _ r (fun _ => rfl)

/-- A lease reaches a resource, which has an owner and was not torn down. -/
structure Reaches (s : Commons ρ) (slot r : Nat) (payload : ρ) : Prop where
  get : s.get slot = .ok r
  payload : s.payload? slot = some payload
  owned : s.references r ≠ 0
  standing : s.teardowns r = 0
  quiet : s.isComplete r = false

theorem reaches_of_open (hb : Balanced s) {r : Nat} {payload : ρ}
    (hl : s.leases.get? slot = some (.own r))
    (hpayload : s.resources[r]?.map Resource.payload = some payload) :
    s.Reaches slot r payload := by
  -- The lease is among those that are counted.
  have howned : s.references r ≠ 0 := by
    rw [hb.references_eq r, Commons.tally]
    intro hzero
    have hnot := (Table.count_eq_zero_iff _ _).1 hzero slot _ hl
    simp [Lease.pointsAt, Lease.own, Lease.holds] at hnot
  have hget : s.get slot = .ok r := get_eq_ok_iff.2 ⟨_, hl, rfl, rfl, howned⟩
  have hmade := lt_length_of_references_ne_zero howned
  have htears := hb.teardowns_eq hmade
  rw [if_neg howned] at htears
  have hstanding : s.teardowns r = 0 := by omega
  have hdone := hb.signalled_eq hmade
  rw [hstanding] at hdone
  refine ⟨hget, ?_, howned, hstanding, ?_⟩
  · simp only [payload?, hget, hpayload]
  · cases hcomplete : s.isComplete r with
    | false => rfl
    | true =>
        rw [hcomplete, if_pos rfl] at hdone
        omega

end Commons

namespace Threads

/-- A turn that begins to close a lease, or to drop it. -/
def Turn.Closes (slot : Nat) : Threads.Turn ρ → Prop
  | .call _ (.close slot') => slot' = slot
  | .call _ (.drop slot') => slot' = slot
  | _ => False

variable {s : Threads ρ} {t source slot : Nat}

-- Nobody marks a lease who does not begin to close it.
theorem turn_spares {x : Threads.Turn ρ} (hx : ¬ x.Closes slot) :
    (s.turn x).commons = s.commons ∨
      ∃ m, m ≠ .mark slot ∧ (s.turn x).commons = s.commons.step m := by
  cases x with
  | call t c =>
      cases hp : s.place t with
      | some p => exact Or.inl (by simp only [turn, hp])
      | none =>
          simp only [turn, hp]
          cases c with
          | create payload slot' => exact Or.inr ⟨.create payload slot', by simp, rfl⟩
          | lend slot' newSlot => exact Or.inr ⟨.lend slot' newSlot, by simp, rfl⟩
          | acquire source slot' =>
              simp only [call]
              split
              · exact Or.inl rfl
              · exact Or.inr ⟨.enter source, by simp, rfl⟩
          | close slot' =>
              refine Or.inr ⟨.mark slot', ?_, rfl⟩
              rintro ⟨⟩
              exact hx rfl
          | drop slot' =>
              refine Or.inr ⟨.mark slot', ?_, rfl⟩
              rintro ⟨⟩
              exact hx rfl
  | go t =>
      cases hp : s.place t with
      | none => exact Or.inl (by simp only [turn, hp])
      | some p =>
          simp only [turn, hp]
          cases p with
          | asking source slot' =>
              refine Or.inr ⟨s.commons.visitMove source slot', ?_, rfl⟩
              intro hmark
              have hplain := s.commons.isPlain_visitMove source slot'
              rw [hmark] at hplain
              exact hplain
          | ending slot' => exact Or.inr ⟨.forget slot', by simp, rfl⟩
          | closing slot' stage d =>
              cases stage with
              | quiet => exact Or.inl rfl
              | releasing => exact Or.inr ⟨.release slot', by simp, rfl⟩
              | tearing => exact Or.inr ⟨.tearDown slot', by simp, rfl⟩
              | signalling => exact Or.inr ⟨.signal slot', by simp, rfl⟩

/-- A lease reaches its resource until it is closed, whatever becomes of all others. -/
theorem reaches_run (hb : Balanced s.commons) {r : Nat} {payload : ρ}
    (hl : s.commons.leases.get? slot = some (.own r))
    (hpayload : s.commons.resources[r]?.map Resource.payload = some payload)
    {more : List (Threads.Turn ρ)} (hmore : ∀ x ∈ more, ¬ x.Closes slot) :
    (s.run more).commons.Reaches slot r payload := by
  induction more generalizing s with
  | nil => exact Commons.reaches_of_open hb hl hpayload
  | cons x more ih =>
      have hrest := fun y hy => hmore y (List.mem_cons_of_mem x hy)
      have hnext := balanced_turn hb x
      rcases turn_spares (s := s) (hmore x List.mem_cons_self) with hsame | ⟨m, hm, hstep⟩
      · exact ih hnext (by rw [hsame]; exact hl) (by rw [hsame]; exact hpayload) hrest
      · refine ih hnext ?_ ?_ hrest
        · rw [hstep]
          exact Commons.lease_open_step hm hl rfl rfl
        · rw [hstep]
          exact Commons.payload_step m hpayload

/-! ### When a factory is asked -/

/-- A thread found nothing to attach to inside a source, and is to order. -/
def Orders (s : Threads ρ) (t source slot : Nat) : Prop :=
  s.Asks t source slot ∧ s.commons.visits.get? source = some .ordering

-- Only a thread that is to order has the factory asked.
theorem orders_of_asked {made : Nat → Nat → Prop} (h : Orderly s made) {x : Threads.Turn ρ}
    (hx : ((s.turn x).commons.sources source).orders ≠ (s.commons.sources source).orders) :
    ∃ t slot, x = .go t ∧ s.Orders t source slot := by
  cases s.at_sources_turn x with
  | elsewhere _ _ hsources _ => exact absurd (by rw [hsources]) hx
  | enters t source' slot _ _ _ hs => exact absurd (by rw [hs]; rfl) hx
  | proceeds t source' slot hgo hasks =>
      subst hgo
      have hproceeds := proceeds_turn h hasks
      by_cases he : source' = source
      · subst he
        refine ⟨t, slot, rfl, hasks, ?_⟩
        cases hproceeds with
        | waits _ hs => exact absurd (by rw [hs]) hx
        | finds r _ _ _ hs => exact absurd (by rw [hs]; rfl) hx
        | resorts _ _ hs => exact absurd (by rw [hs]; rfl) hx
        | attaches r _ _ _ _ _ hs => exact absurd (by rw [hs]; rfl) hx
        | builds payload hvisit => exact hvisit
        | fails failure hvisit => exact hvisit
      · exact absurd (by rw [(hproceeds.elsewhere he).2]) hx

/-- Who is to order came to that at a step of its own, at which nothing that the source had made
    had an owner, and is to order since. -/
theorem orders_since (factories : Nat → Nat → Except Failure ρ) {turns : List (Threads.Turn ρ)}
    (h : ((Threads.start factories).run turns).Orders t source slot) :
    ∃ earlier later, turns = earlier ++ .go t :: later ∧
      ((Threads.start factories).run earlier).Asks t source slot ∧
      (∀ r, (Threads.start factories).Made earlier source r →
        ((Threads.start factories).run earlier).commons.references r = 0) ∧
      ¬ ((Threads.start factories).run earlier).Orders t source slot ∧
      ∀ first rest, later = first ++ rest →
        ((((Threads.start factories).run earlier).turn (.go t)).run first).Orders t source
          slot := by
  have hstart : ¬ (Threads.start factories).Orders t source slot :=
    fun horders => not_asks_start horders.1
  rcases exists_rise (P := fun s => s.Orders t source slot) hstart h with
    ⟨earlier, x, later, rfl, hnot, hsince⟩
  have horderly := Orderly.run_start factories earlier
  rcases hsince [] later rfl with ⟨hafter, hvisit⟩
  change (((Threads.start factories).run earlier).turn x).Asks t source slot at hafter
  change (((Threads.start factories).run earlier).turn x).commons.visits.get? source = _ at hvisit
  rcases asks_turn hafter with hbefore | ⟨-, -, -, henters⟩
  · by_cases hx : x = .go t
    · subst hx
      cases proceeds_turn horderly hbefore with
      | waits _ hs =>
          rw [hs] at hvisit
          exact absurd ⟨hbefore, hvisit⟩ hnot
      | finds r _ _ _ hs =>
          rw [hs] at hvisit
          cases (Table.get?_insert_self _ _ _).symm.trans hvisit
      | resorts _ hdeserted => exact ⟨earlier, later, rfl, hbefore, hdeserted, hnot, hsince⟩
      | attaches r _ _ _ _ _ hs =>
          rw [hs] at hafter
          cases asks_updateAt_self.1 hafter
      | builds payload _ _ _ _ hs =>
          rw [hs] at hafter
          cases asks_updateAt_self.1 hafter
      | fails failure _ _ _ _ hs =>
          rw [hs] at hafter
          cases asks_updateAt_self.1 hafter
    · -- A turn of another does not move the visit.
      have hstays := (visit_stays horderly hbefore hx).2
      exact absurd ⟨hbefore, hstays.symm.trans hvisit⟩ hnot
  · rw [henters] at hvisit
    cases (Table.get?_insert_self _ _ _).symm.trans hvisit

-- The step at which a thread would attach decides.
theorem orders_iff_deserted {made : Nat → Nat → Prop} (h : Orderly s made)
    (hasks : s.Asks t source slot) {r : Nat}
    (hvisit : s.commons.visits.get? source = some (.holding r))
    (hfree : s.commons.leases.get? slot = none) :
    (s.turn (.go t)).Orders t source slot ↔
      ∀ r', made source r' → s.commons.references r' = 0 := by
  cases proceeds_turn h hasks with
  | waits htaken _ => exact absurd hfree htaken
  | finds r' hentered =>
      rw [hvisit] at hentered
      cases hentered
  | resorts _ hdeserted hs =>
      rw [hs]
      exact ⟨fun _ => hdeserted, fun _ => ⟨hasks, Table.get?_insert_self _ _ _⟩⟩
  | attaches r' _ hmade howned _ _ hs =>
      rw [hs]
      refine ⟨fun horders => ?_, fun hdeserted => absurd (hdeserted r' hmade) howned⟩
      cases asks_updateAt_self.1 horders.1
  | builds payload hordering =>
      rw [hvisit] at hordering
      cases hordering
  | fails failure hordering =>
      rw [hvisit] at hordering
      cases hordering

/-! ### How a visit ends -/

/-- Who leaves a source with a lease has one that reaches a resource of this source until it is
    closed. -/
theorem reaches_of_leaving {made : Nat → Nat → Prop} (h : Orderly s made)
    (hasks : s.Asks t source slot) (hleft : ¬ (s.turn (.go t)).Asks t source slot)
    (hok : s.commons.visitOutcome source = .ok ()) :
    ∃ r payload, (made source r ∨ s.Makes (.go t) source r) ∧
      (s.turn (.go t)).commons.leases.get? slot = some (.own r) ∧
      ∀ more : List (Threads.Turn ρ), (∀ x ∈ more, ¬ x.Closes slot) →
        ((s.turn (.go t)).run more).commons.Reaches slot r payload := by
  have hb := balanced_turn h.balanced (.go t)
  -- It is enough to know the lease, since it points at what was made.
  have hlease : ∀ r, (made source r ∨ s.Makes (.go t) source r) →
      (s.turn (.go t)).commons.leases.get? slot = some (.own r) →
      ∃ r payload, (made source r ∨ s.Makes (.go t) source r) ∧
        (s.turn (.go t)).commons.leases.get? slot = some (.own r) ∧
        ∀ more : List (Threads.Turn ρ), (∀ x ∈ more, ¬ x.Closes slot) →
          ((s.turn (.go t)).run more).commons.Reaches slot r payload := by
    intro r hmade hl
    rcases Commons.exists_resource (hb.made slot _ hl) with ⟨res, hres, -⟩
    have hpayload : (s.turn (.go t)).commons.resources[r]?.map Resource.payload =
        some res.payload := congrArg (Option.map Resource.payload) hres
    exact ⟨r, res.payload, hmade, hl, fun more hmore => reaches_run hb hl hpayload hmore⟩
  cases proceeds_turn h hasks with
  | waits _ hs =>
      rw [hs] at hleft
      exact absurd hasks hleft
  | finds r _ _ _ hs =>
      rw [hs] at hleft
      exact absurd hasks hleft
  | resorts _ _ hs =>
      rw [hs] at hleft
      exact absurd hasks hleft
  | attaches r _ hmade _ _ _ hs =>
      refine hlease r (Or.inl hmade) ?_
      rw [hs]
      exact Table.get?_insert_self _ _ _
  | builds payload _ _ _ _ hs =>
      refine hlease s.commons.resources.length (Or.inr ⟨⟨t, slot, rfl, hasks⟩, rfl, ?_⟩) ?_
      · rw [hs]
        exact List.length_append
      · rw [hs]
        exact Table.get?_insert_self _ _ _
  | fails failure hvisit _ _ hnext =>
      simp only [Commons.visitOutcome, hvisit, hnext] at hok
      cases hok

-- A factory that fails ends the visit, and nothing else.
theorem turn_of_failing (hasks : s.Orders t source slot)
    (hfree : s.commons.leases.get? slot = none) {failure : Failure}
    (hnext : s.commons.nextOrder source = .error failure) :
    s.turn (.go t) = s.without t source := by
  have hout : ¬ s.commons.leases.contains slot = true := by
    rw [Table.contains, hfree]
    exact Bool.false_ne_true
  refine turn_of_leaving hasks.1 ?_ (Table.get?_erase_self _ _)
  simp only [Commons.visitMove, hasks.2, Commons.step, Commons.order, if_neg hout, hnext]
  rfl

end Threads

/-- A source keeps one resource at a time, whatever its factory comes to, whoever asks for leases
    and whoever closes them. At every moment of every run:

    Of the resources that it made, one at most has an owner.

    A thread inside the source goes on as described: it is to order exactly if, at the step at
    which it would attach, nothing that the source made has an owner, and attaches to the one that
    has an owner otherwise. Nobody else moves its visit. So the factory is asked exactly for the
    threads that found everything deserted, and once for each.

    Who leaves with a lease has one that reaches a resource of this source, which is not torn
    down, and reaches it until that lease is closed.

    Who leaves because the factory failed reports that failure. Resources and leases are as
    before, and everything is as in the run in which this thread did not ask, the answer of the
    factory being passed over. -/
theorem one_resource_at_a_time (factories : Nat → Nat → Except Failure ρ)
    (turns : List (Threads.Turn ρ)) (source : Nat) :
    let first := Threads.start factories
    let s := first.run turns
    (∀ r r', first.Made turns source r → first.Made turns source r' →
      s.commons.references r ≠ 0 → s.commons.references r' ≠ 0 → r = r') ∧
    (∀ t slot, s.Asks t source slot →
      s.Proceeds (first.Made turns source) t source slot (s.turn (.go t)) ∧
        (∀ r, s.commons.visits.get? source = some (.holding r) →
          s.commons.leases.get? slot = none →
          ((s.turn (.go t)).Orders t source slot ↔
            ∀ r', first.Made turns source r' → s.commons.references r' = 0)) ∧
        ∀ x, x ≠ .go t → (s.turn x).Asks t source slot ∧
          (s.turn x).commons.visits.get? source = s.commons.visits.get? source) ∧
    (∀ x, ((s.turn x).commons.sources source).orders ≠ (s.commons.sources source).orders →
      ∃ t slot earlier later, x = .go t ∧ turns = earlier ++ .go t :: later ∧
        (first.run earlier).Asks t source slot ∧
        (∀ r, first.Made earlier source r → (first.run earlier).commons.references r = 0) ∧
        ¬ (first.run earlier).Orders t source slot ∧
        ∀ before rest, later = before ++ rest →
          (((first.run earlier).turn (.go t)).run before).Orders t source slot) ∧
    (∀ t slot, s.Asks t source slot → ¬ (s.turn (.go t)).Asks t source slot →
      s.commons.visitOutcome source = .ok () →
      ∃ r payload, first.Made (turns ++ [.go t]) source r ∧
        (s.turn (.go t)).commons.leases.get? slot = some (.own r) ∧
        ∀ more : List (Threads.Turn ρ), (∀ x ∈ more, ¬ x.Closes slot) →
          ((s.turn (.go t)).run more).commons.Reaches slot r payload) ∧
    (∀ t slot failure, s.Orders t source slot → s.commons.leases.get? slot = none →
      s.commons.nextOrder source = .error failure →
      s.commons.visitOutcome source = .error failure ∧
        (s.turn (.go t)).place t = none ∧
        (s.turn (.go t)).commons.resources = s.commons.resources ∧
        (s.turn (.go t)).commons.leases = s.commons.leases ∧
        ∃ earlier later, turns = earlier ++ .call t (.acquire source slot) :: later ∧
          s.turn (.go t) =
            ((first.run earlier).passOver source).run
              (later.filter (fun x => !x.belongs t source))) := by
  intro first s
  have h : Orderly s (first.Made turns) := Orderly.run_start factories turns
  refine ⟨?_, ?_, ?_, ?_, ?_⟩
  · intro r r' hr hr' howned howned'
    have hcurrent := h.lineage.current_of_owned hr howned
    have hcurrent' := h.lineage.current_of_owned hr' howned'
    exact Option.some.inj (hcurrent.symm.trans hcurrent')
  · intro t slot hasks
    exact ⟨Threads.proceeds_turn h hasks,
      fun r hvisit hfree => Threads.orders_iff_deserted h hasks hvisit hfree,
      fun x hx => Threads.visit_stays h hasks hx⟩
  · intro x hx
    rcases Threads.orders_of_asked h hx with ⟨t, slot, rfl, horders⟩
    rcases Threads.orders_since factories horders with ⟨earlier, later, hsplit, hsince⟩
    exact ⟨t, slot, earlier, later, rfl, hsplit, hsince⟩
  · intro t slot hasks hleft hok
    rcases Threads.reaches_of_leaving h hasks hleft hok with ⟨r, payload, hmade, hrest⟩
    exact ⟨r, payload, Threads.made_concat.2 hmade, hrest⟩
  · intro t slot failure horders hfree hnext
    have hturn := Threads.turn_of_failing horders hfree hnext
    refine ⟨?_, ?_, ?_, ?_, ?_⟩
    · simp only [Commons.visitOutcome, horders.2, hnext]
      rfl
    · rw [hturn]
      exact updateAt_self _ _ _
    · rw [hturn]
      rfl
    · rw [hturn]
      rfl
    · exact Threads.absence (Orderly.start factories) (fun _ => Threads.not_asks_start) horders.1
        hturn

-- The last owner closes while another thread has found the resource and is to attach to it, and
-- a borrowed lease keeps it within reach all the while. The thread gets a new one.
example :
    let s := (Threads.start (fun _ n => .ok n)).run
      ([.call 0 (.acquire 0 0), .go 0, .go 0, .call 0 (.lend 0 1), .call 1 (.acquire 0 2), .go 1,
        .call 0 (.close 0), .go 0, .go 0, .go 0] ++ List.replicate 2 (.go 1))
    s.commons.references 0 = 0 ∧ s.commons.isClosed 1 = true ∧ s.commons.references 1 = 1 ∧
      s.commons.payload? 2 = some 1 := by
  decide

end Imds
