import Imds.Proofs.Lease.Counting

/-!
# Threads Inside a Source

A source lets one thread in at a time, and what such a thread does there cannot be seen by
looking at leases: it finds a resource, gives up on it, orders a new one. The steps of the
commons divide accordingly. Some are on leases alone, and then it does not matter who is inside
which source; the others are taken by the one thread that is inside.

A run says how something came about. What holds at the end of a run and did not hold at its
start began to hold at some turn and holds since, and that turn is the one to look at.

## Main definitions

* `Move.OnLeases`: The steps that have nothing to do with sources.
* `Threads.Asks`: A thread is inside a source.
* `Threads.AtSources`: All that a turn can do at the sources.

## Theorems

* `step_withSources`: A step on leases does not depend on sources.
* `at_sources_turn`: Every turn does what `AtSources` lists.
* `turn_of_inside`, `turn_of_leaving`: A step that goes on with a visit, and one that ends it.
* `asks_turn`: How a visit begins.
* `exists_rise`: What holds at the end began to hold at some turn.
-/

namespace Imds

variable {ρ : Type}

/-! ### Steps on leases -/

/-- A step that no thread takes inside a source. -/
def Move.OnLeases : Move ρ → Prop
  | .enter _ | .upgrade _ | .retain _ _ | .order _ _ => False
  | _ => True

namespace Commons

/-- The same resources and leases with other sources. -/
def withSources (s : Commons ρ) (visits : Table Nat Visit) (sources : Nat → Source ρ) :
    Commons ρ :=
  { s with visits := visits, sources := sources }

variable (s : Commons ρ)

/-- A step on leases does not depend on sources, and leaves them alone. -/
theorem step_withSources {m : Move ρ} (hm : m.OnLeases) (visits : Table Nat Visit)
    (sources : Nat → Source ρ) :
    (s.withSources visits sources).step m = (s.step m).withSources visits sources := by
  cases m with
  | create payload slot =>
      change (if s.leases.contains slot then s.withSources visits sources
        else (s.addResource payload slot).withSources visits sources) = _
      simp only [step, create]
      split
      · rfl
      · rfl
  | lend slot newSlot =>
      simp only [step, lend, withSources]
      split
      · next l _ =>
        change (if s.leases.contains newSlot then s.withSources visits sources
          else (s.setLease newSlot (.borrow l.resource)).withSources visits sources) = _
        by_cases htaken : s.leases.contains newSlot = true
        · rw [if_pos htaken, if_pos htaken, withSources]
        · rw [if_neg htaken, if_neg htaken, withSources]
      · rfl
  | mark slot =>
      simp only [step, mark, withSources]
      split
      · split
        · rfl
        · rfl
      · rfl
  | release slot =>
      simp only [step, release, withSources]
      split
      · split
        · rfl
        · rfl
      · rfl
  | tearDown slot =>
      simp only [step, tearDown, withSources]
      split
      · split
        · rfl
        · rfl
      · rfl
  | signal slot =>
      simp only [step, signal, withSources]
      split
      · split
        · rfl
        · rfl
      · rfl
  | forget slot =>
      simp only [step, forget, withSources]
      split
      · split
        · rfl
        · rfl
      · rfl
  | enter source => exact hm.elim
  | upgrade source => exact hm.elim
  | retain source slot => exact hm.elim
  | order source slot => exact hm.elim

theorem visits_step {m : Move ρ} (hm : m.OnLeases) : (s.step m).visits = s.visits := by
  have hstep : s.step m = (s.step m).withSources s.visits s.sources :=
    s.step_withSources hm s.visits s.sources
  rw [hstep, withSources]

theorem sources_step {m : Move ρ} (hm : m.OnLeases) : (s.step m).sources = s.sources := by
  have hstep : s.step m = (s.step m).withSources s.visits s.sources :=
    s.step_withSources hm s.visits s.sources
  rw [hstep, withSources]

end Commons

/-! ### What a turn does at the sources -/

namespace Threads

/-- A thread is inside a source, asking for a lease under a number. -/
def Asks (s : Threads ρ) (t source slot : Nat) : Prop := s.place t = some (.asking source slot)

theorem not_asks_start {factories : Nat → Nat → Except Failure ρ} {t source slot : Nat} :
    ¬ (Threads.start factories).Asks t source slot := nofun

/-- All that a turn can do at the sources. -/
inductive AtSources (s : Threads ρ) (x : Threads.Turn ρ) (s' : Threads ρ) : Prop
  /-- Nothing, and it is no turn of a thread that is inside one. -/
  | elsewhere (hturn : ∀ t source slot, x = .go t → ¬ s.Asks t source slot)
      (hvisits : s'.commons.visits = s.commons.visits)
      (hsources : s'.commons.sources = s.commons.sources)
      (hasks : ∀ t source slot, s'.Asks t source slot ↔ s.Asks t source slot)
  /-- A thread enters a source that nobody is in. -/
  | enters (t source slot : Nat) (hx : x = .call t (.acquire source slot))
      (hidle : s.place t = none) (hfree : s.commons.visits.get? source = none)
      (hs : s' = ⟨s.commons.setVisit source .entered,
        updateAt s.place t (some (.asking source slot))⟩)
  /-- A thread that is inside a source takes its next step. -/
  | proceeds (t source slot : Nat) (hx : x = .go t) (hasks : s.Asks t source slot)

variable {s : Threads ρ}

-- Where a thread is after its own turn, and after a turn of another.
theorem asks_updateAt_self {c : Commons ρ} {t : Nat} {p : Option Place} {source slot : Nat} :
    Threads.Asks ⟨c, updateAt s.place t p⟩ t source slot ↔ p = some (.asking source slot) := by
  simp only [Asks, updateAt_self]

theorem asks_updateAt_of_ne {c : Commons ρ} {t t' : Nat} {p : Option Place} {source slot : Nat}
    (hne : t' ≠ t) :
    Threads.Asks ⟨c, updateAt s.place t p⟩ t' source slot ↔ s.Asks t' source slot := by
  simp only [Asks, updateAt_of_ne _ _ hne]

theorem next_ne_asking {slot source slot' : Nat} {stage : Stage} {d : Bool} :
    Place.next slot stage d ≠ some (.asking source slot') := by
  unfold Place.next
  split
  · split
    · exact nofun
    · exact nofun
  · exact nofun

-- A step on leases, of a thread that is inside no source before or after it.
theorem AtSources.of_move {x : Threads.Turn ρ} {t : Nat} {m : Move ρ} {p : Option Place}
    (hx : ∀ t', x = .go t' → t' = t) (hm : m.OnLeases)
    (hbefore : ∀ source slot, ¬ s.Asks t source slot)
    (hafter : ∀ source slot, p ≠ some (.asking source slot)) : AtSources s x (s.move t m p) := by
  refine .elsewhere ?_ (s.commons.visits_step hm) (s.commons.sources_step hm) ?_
  · intro t' source slot hgo
    rw [hx t' hgo]
    exact hbefore source slot
  · intro t' source slot
    by_cases ht : t' = t
    · subst ht
      exact asks_updateAt_self.trans
        ⟨fun h => absurd h (hafter source slot), fun h => absurd h (hbefore source slot)⟩
    · exact asks_updateAt_of_ne ht

theorem AtSources.refl {x : Threads.Turn ρ}
    (hturn : ∀ t source slot, x = .go t → ¬ s.Asks t source slot) : AtSources s x s :=
  .elsewhere hturn rfl rfl (fun _ _ _ => Iff.rfl)

theorem at_sources_call (t : Nat) (c : Call ρ) (hidle : s.place t = none) :
    AtSources s (.call t c) (s.call t c) := by
  have hbefore : ∀ source slot, ¬ s.Asks t source slot := by
    intro source slot h
    rw [Asks, hidle] at h
    cases h
  cases c with
  | create payload slot =>
      exact .of_move (m := .create payload slot) nofun trivial hbefore nofun
  | lend slot newSlot =>
      exact .of_move (m := .lend slot newSlot) nofun trivial hbefore nofun
  | close slot =>
      exact .of_move (m := .mark slot) nofun trivial hbefore (fun _ _ => next_ne_asking)
  | drop slot =>
      exact .of_move (m := .mark slot) nofun trivial hbefore (fun _ _ => next_ne_asking)
  | acquire source slot =>
      change AtSources s _ (if s.commons.visits.contains source then s else _)
      by_cases hinside : s.commons.visits.contains source = true
      · rw [if_pos hinside]
        exact .refl nofun
      · rw [if_neg hinside]
        refine .enters t source slot rfl hidle (Option.not_isSome_iff_eq_none.1 hinside) ?_
        change Threads.mk (s.commons.enter source) _ = _
        rw [Commons.enter, if_neg hinside]

theorem at_sources_go (t : Nat) (p : Place) (hp : s.place t = some p) :
    AtSources s (.go t) (s.go t p) := by
  have hself : ∀ t', Threads.Turn.go t = (.go t' : Threads.Turn ρ) → t' = t := by
    intro t' h
    cases h
    rfl
  cases p with
  | asking source slot => exact .proceeds t source slot rfl hp
  | closing slot stage d =>
      have hbefore : ∀ source slot, ¬ s.Asks t source slot := by
        intro source slot h
        rw [Asks, hp] at h
        cases h
      cases stage with
      | quiet =>
          refine .refl (fun t' source slot' h => ?_)
          rw [hself t' h]
          exact hbefore source slot'
      | releasing =>
          exact .of_move (m := .release slot) hself trivial hbefore (fun _ _ => next_ne_asking)
      | tearing =>
          exact .of_move (m := .tearDown slot) hself trivial hbefore (fun _ _ => next_ne_asking)
      | signalling =>
          exact .of_move (m := .signal slot) hself trivial hbefore (fun _ _ => next_ne_asking)
  | ending slot =>
      refine .of_move (m := .forget slot) hself trivial ?_ nofun
      intro source slot' h
      rw [Asks, hp] at h
      cases h

theorem at_sources_turn (s : Threads ρ) (x : Threads.Turn ρ) : AtSources s x (s.turn x) := by
  cases x with
  | call t c =>
      cases h : s.place t with
      | some p =>
          simp only [turn, h]
          exact .refl (by simp)
      | none =>
          simp only [turn, h]
          exact at_sources_call t c h
  | go t =>
      cases h : s.place t with
      | none =>
          simp only [turn, h]
          refine .refl (fun t' source slot hgo hasks => ?_)
          cases hgo
          rw [Asks, h] at hasks
          cases hasks
      | some p =>
          simp only [turn, h]
          exact at_sources_go t p h

/-! ### The steps of a visit -/

variable {t source slot : Nat}

-- A step that leaves the thread inside its source.
theorem turn_of_inside (hasks : s.Asks t source slot) {c : Commons ρ} {v : Visit}
    (hstep : s.commons.step (s.commons.visitMove source slot) = c)
    (hvisit : c.visits.get? source = some v) : s.turn (.go t) = ⟨c, s.place⟩ := by
  have hp : s.place t = some (.asking source slot) := hasks
  have hinside : c.visits.contains source = true := Table.contains_iff.2 ⟨v, hvisit⟩
  have hsame : updateAt s.place t (some (.asking source slot)) = s.place := by
    funext t'
    by_cases ht : t' = t
    · rw [ht, updateAt_self, hp]
    · exact updateAt_of_ne _ _ ht
  simp only [turn, hp, go, move, hstep, hinside, if_true, hsame]

-- A step that ends the visit.
theorem turn_of_leaving (hasks : s.Asks t source slot) {c : Commons ρ}
    (hstep : s.commons.step (s.commons.visitMove source slot) = c)
    (hvisit : c.visits.get? source = none) :
    s.turn (.go t) = ⟨c, updateAt s.place t none⟩ := by
  have hp : s.place t = some (.asking source slot) := hasks
  have hout : c.visits.contains source = false := by
    rw [Table.contains, hvisit]
    rfl
  simp only [turn, hp, go, move, hstep, hout, Bool.false_eq_true, if_false]

-- Whoever is inside a source after a turn was inside before it, or has just entered.
theorem asks_turn {x : Threads.Turn ρ} (h : (s.turn x).Asks t source slot) :
    s.Asks t source slot ∨ x = .call t (.acquire source slot) ∧ s.place t = none ∧
      s.commons.visits.get? source = none ∧
      s.turn x = ⟨s.commons.setVisit source .entered,
        updateAt s.place t (some (.asking source slot))⟩ := by
  cases s.at_sources_turn x with
  | elsewhere _ _ _ hasks => exact Or.inl ((hasks t source slot).1 h)
  | enters t' source' slot' hx hidle hfree hs =>
      by_cases ht : t = t'
      · subst ht
        rw [hs] at h
        cases asks_updateAt_self.1 h
        exact Or.inr ⟨hx, hidle, hfree, hs⟩
      · rw [hs] at h
        exact Or.inl ((asks_updateAt_of_ne ht).1 h)
  | proceeds t' source' slot' hx hasks =>
      subst hx
      have hp : s.place t' = some (.asking source' slot') := hasks
      simp only [turn, hp, go, move] at h
      by_cases ht : t = t'
      · subst ht
        have hplace := asks_updateAt_self.1 h
        split at hplace
        · cases hplace
          exact Or.inl hasks
        · cases hplace
      · exact Or.inl ((asks_updateAt_of_ne ht).1 h)

/-! ### How something came about -/

-- What holds at the end of a run held all along, or began to hold at some turn.
theorem always_or_rise {P : Threads ρ → Prop} {turns : List (Threads.Turn ρ)}
    (hend : P (s.run turns)) :
    (∀ first rest, turns = first ++ rest → P (s.run first)) ∨
      ∃ earlier x later, turns = earlier ++ x :: later ∧ ¬ P (s.run earlier) ∧
        ∀ first rest, later = first ++ rest → P (((s.run earlier).turn x).run first) := by
  induction turns generalizing s with
  | nil =>
      refine Or.inl (fun first rest hsplit => ?_)
      rw [(List.nil_eq_append_iff.1 hsplit).1]
      exact hend
  | cons x turns ih =>
      rcases ih (s := s.turn x) hend with halways | ⟨earlier, y, later, rfl, hnot, hsince⟩
      · by_cases hfirst : P s
        · refine Or.inl (fun first rest hsplit => ?_)
          cases first with
          | nil => exact hfirst
          | cons y first =>
              rw [List.cons_append, List.cons.injEq] at hsplit
              rw [← hsplit.1]
              exact halways first rest hsplit.2
        · exact Or.inr ⟨[], x, turns, rfl, hfirst, halways⟩
      · exact Or.inr ⟨x :: earlier, y, later, rfl, hnot, hsince⟩

/-- What holds at the end of a run, but did not hold at its start, began to hold at some turn and
    has held since. -/
theorem exists_rise {P : Threads ρ → Prop} {turns : List (Threads.Turn ρ)} (hstart : ¬ P s)
    (hend : P (s.run turns)) :
    ∃ earlier x later, turns = earlier ++ x :: later ∧ ¬ P (s.run earlier) ∧
      ∀ first rest, later = first ++ rest → P (((s.run earlier).turn x).run first) := by
  rcases always_or_rise hend with halways | hrise
  · exact absurd (halways [] turns rfl) hstart
  · exact hrise

end Threads

end Imds
