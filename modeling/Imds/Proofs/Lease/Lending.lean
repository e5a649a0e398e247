import Imds.Proofs.Lease.Unlent

/-!
# Lending Does Not Interfere

A lease can be lent, and what is lent can be lent on. Whoever holds a borrowed lease can close it
and drop it, look at it, and obtain completions from it, and nobody else notices: if everything that
was done with what was lent is struck out of a history, what is left comes to the same results, on
the same resources.

What is struck out is said of a history as it goes. A dealing concerns what was lent if it lends, or
if it names a borrowed lease or a completion that was obtained from one. So no care has to be taken
with the numbers under which leases are kept: a number that a borrowed lease has is a borrowed
lease's as long as it has it.

The proof is the one for two runs of one system. What was struck out keeps the second holdings what
they are to the first, and everything else is answered alike and keeps them so as well.

## Main definitions

* `Dealing`, `Holdings`, `Holdings.perform`: What a party does, the state, and what comes of it.
* `Holdings.concernsLent`: A dealing with what was lent.
* `Holdings.withoutLent`: A history without them.
* `Holdings.outcomes`, `Holdings.ownOutcomes`: What a history comes to, whole or without them.

## Theorems

* `Without.perform_own`, `Without.perform_lent`: One dealing in two histories.
* `Without.history`: What is left of a history.
* `lease_after`: What becomes of a lease that is not dropped.
* `get_lent`: What a lease reaches that was lent.
* `lending_does_not_interfere`: Two histories, and what a borrowed lease reaches.
-/

namespace Imds

variable {ρ : Type}

/-- One thing that a party does with sources, leases and completions. -/
inductive Dealing (ρ : Type) where
  /-- It makes a resource. -/
  | create (payload : ρ) (slot : Nat)
  /-- It asks a source for a lease. -/
  | acquire (source slot : Nat)
  /-- It lends the resource of a lease. -/
  | lend (slot newSlot : Nat)
  /-- It asks which resource a lease reaches. -/
  | get (slot : Nat)
  /-- It asks for the references to the resource of a lease. -/
  | refCount (slot : Nat)
  /-- It asks whether a lease can no longer reach its resource. -/
  | isClosed (slot : Nat)
  /-- It closes a lease. -/
  | close (slot : Nat)
  /-- It closes a lease and ends it. -/
  | drop (slot : Nat)
  /-- It obtains a completion from a lease. -/
  | obtain (slot name : Nat)
  /-- It asks whether a completion shows the end of its resource. -/
  | isComplete (name : Nat)
  /-- It asks whether a wait with a completion would be over. -/
  | wait (name : Nat)

/-- What a party is told. -/
inductive Dealing.Answer where
  /-- Nothing but that it is done. -/
  | done
  /-- Whether a source granted a lease. -/
  | granted (result : Except Failure Unit)
  /-- The number of a resource, or that there is none. -/
  | reached (result : Except Failure Nat)
  /-- A number of references. -/
  | count (references : Nat)
  /-- Yes or no, or that there is nothing to ask. -/
  | told (shown : Option Bool)

/-- What a party is told, and all resources after that. -/
structure Dealing.Outcome (ρ : Type) where
  /-- What it is told. -/
  answer : Dealing.Answer
  /-- All resources, in the order in which they were made. -/
  resources : List (Resource ρ)

/-- A completion, and what kind of lease it was obtained from. -/
structure Token where
  /-- The number of the resource. -/
  resource : Nat
  /-- Whether the lease was owned or borrowed. -/
  origin : Ownership

/-- What is shared, and the completions that were obtained. -/
structure Holdings (ρ : Type) where
  /-- What is shared. -/
  commons : Commons ρ
  /-- The completions, under the numbers that their holders chose. -/
  tokens : Table Nat Token

/-- Whether a completion was obtained from an owned lease. -/
def Token.isOwned (c : Token) : Bool := decide (c.origin = .owned)

namespace Holdings

/-- Nothing was made or obtained. -/
def start (factories : Nat → Nat → Except Failure ρ) : Holdings ρ :=
  ⟨Commons.ofFactories factories, Table.empty⟩

/-- The completions with what is shared in another state. -/
def share (s : Holdings ρ) (commons : Commons ρ) : Holdings ρ := { s with commons := commons }

/-- Obtains a completion from a lease, open or closed. -/
def subscribe (s : Holdings ρ) (slot name : Nat) : Holdings ρ :=
  match s.commons.leases.get? slot with
  | some l =>
    if s.tokens.contains name then s
    else { s with tokens := s.tokens.insert name ⟨l.resource, l.ownership⟩ }
  | none => s

/-- Asks a source for a lease, under a number that is not taken. -/
def ask (s : Holdings ρ) (source slot : Nat) : Dealing.Answer × Holdings ρ :=
  if s.commons.leases.contains slot then (.done, s)
  else (.granted (s.commons.acquire source slot).1, s.share (s.commons.acquire source slot).2)

/-- What a dealing comes to. -/
def perform (s : Holdings ρ) : Dealing ρ → Dealing.Answer × Holdings ρ
  | .create payload slot => (.done, s.share (s.commons.create payload slot))
  | .acquire source slot => s.ask source slot
  | .lend slot newSlot => (.done, s.share (s.commons.lend slot newSlot))
  | .get slot => (.reached (s.commons.get slot), s)
  | .refCount slot => (.count (s.commons.refCount slot), s)
  | .isClosed slot => (.told (some (s.commons.isClosed slot)), s)
  | .close slot => (.done, s.share (s.commons.close slot))
  | .drop slot => (.done, s.share (s.commons.drop slot))
  | .obtain slot name => (.done, s.subscribe slot name)
  | .isComplete name =>
    (.told ((s.tokens.get? name).map (fun c => s.commons.isComplete c.resource)), s)
  | .wait name => (.told ((s.tokens.get? name).map (fun c => s.commons.isReady c.resource)), s)

/-- What a history of dealings does. -/
def after (s : Holdings ρ) (dealings : List (Dealing ρ)) : Holdings ρ :=
  dealings.foldl (fun s d => (s.perform d).2) s

/-- Whether a number stands for a completion that was obtained from a borrowed lease. -/
def isLentToken (s : Holdings ρ) (name : Nat) : Bool :=
  (s.tokens.get? name).any (fun c => !c.isOwned)

/-- Whether a dealing lends, or is one with what was lent. -/
def concernsLent (s : Holdings ρ) : Dealing ρ → Bool
  | .lend _ _ => true
  | .create _ slot | .acquire _ slot | .get slot | .refCount slot | .isClosed slot | .close slot
  | .drop slot => s.commons.isLent slot
  | .obtain slot name => s.commons.isLent slot || s.isLentToken name
  | .isComplete name | .wait name => s.isLentToken name

/-- A history without all dealings with what was lent in its course. -/
def withoutLent (s : Holdings ρ) : List (Dealing ρ) → List (Dealing ρ)
  | [] => []
  | d :: dealings =>
    if s.concernsLent d then (s.perform d).2.withoutLent dealings
    else d :: (s.perform d).2.withoutLent dealings

/-- What a dealing comes to, for all to see. -/
def outcome (s : Holdings ρ) (d : Dealing ρ) : Dealing.Outcome ρ :=
  ⟨(s.perform d).1, (s.perform d).2.commons.resources⟩

/-- What the dealings of a history come to. -/
def outcomes (s : Holdings ρ) : List (Dealing ρ) → List (Dealing.Outcome ρ)
  | [] => []
  | d :: dealings => s.outcome d :: (s.perform d).2.outcomes dealings

/-- What those dealings of a history come to that have nothing to do with what was lent. -/
def ownOutcomes (s : Holdings ρ) : List (Dealing ρ) → List (Dealing.Outcome ρ)
  | [] => []
  | d :: dealings =>
    if s.concernsLent d then (s.perform d).2.ownOutcomes dealings
    else s.outcome d :: (s.perform d).2.ownOutcomes dealings

theorem after_append (s : Holdings ρ) (first second : List (Dealing ρ)) :
    s.after (first ++ second) = (s.after first).after second :=
  List.foldl_append

end Holdings

/-! ### One dealing -/

-- There is one failure of a lease that does not reach its resource.
theorem Commons.eq_of_get_eq_error {s : Commons ρ} {slot : Nat} {failure : Failure}
    (h : s.get slot = .error failure) : failure = .resourceClosed := by
  unfold Commons.get at h
  split at h
  · split at h
    · cases h
      rfl
    · cases h
  · cases h
    rfl

namespace Holdings

/-- The second holdings are the first ones without what was lent. -/
structure Without (s t : Holdings ρ) : Prop where
  rest : AtRest s.commons
  rest' : AtRest t.commons
  unlent : Unlent s.commons t.commons
  tokens : ∀ name, t.tokens.get? name = (s.tokens.get? name).filter Token.isOwned

theorem Without.start (factories : Nat → Nat → Except Failure ρ) :
    Without (start factories) (start factories) where
  rest := AtRest.ofFactories factories
  rest' := AtRest.ofFactories factories
  unlent := ⟨rfl, rfl, fun _ => rfl⟩
  tokens := fun _ => rfl

variable {s t : Holdings ρ}

theorem rest_perform (h : AtRest s.commons) (d : Dealing ρ) : AtRest (s.perform d).2.commons := by
  cases d with
  | create payload slot => exact h.create payload slot
  | acquire source slot =>
      change AtRest (s.ask source slot).2.commons
      unfold ask
      split
      · exact h
      · next hfree => exact h.acquire source (Option.not_isSome_iff_eq_none.1 hfree)
  | lend slot newSlot => exact h.lend slot newSlot
  | get slot => exact h
  | refCount slot => exact h
  | isClosed slot => exact h
  | close slot => exact h.close slot
  | drop slot => exact h.drop slot
  | obtain slot name =>
      change AtRest (s.subscribe slot name).commons
      unfold subscribe
      split
      · split
        · exact h
        · exact h
      · exact h
  | isComplete name => exact h
  | wait name => exact h

theorem rest_after (h : AtRest s.commons) (dealings : List (Dealing ρ)) :
    AtRest (s.after dealings).commons := by
  induction dealings generalizing s with
  | nil => exact h
  | cons d dealings ih => exact ih (rest_perform h d)

namespace Without

theorem token_eq (h : Without s t) {name : Nat} (hown : s.isLentToken name = false) :
    t.tokens.get? name = s.tokens.get? name := by
  rw [h.tokens name]
  unfold isLentToken at hown
  cases hc : s.tokens.get? name with
  | none => rfl
  | some c =>
      rw [hc] at hown
      have howned : c.isOwned = true := by simpa using hown
      exact Option.filter_some_pos howned

-- The commons of both take the same step.
theorem share (h : Without s t) {c c' : Commons ρ} (hrest : AtRest c) (hrest' : AtRest c')
    (hunlent : Unlent c c') : Without (s.share c) (t.share c') :=
  ⟨hrest, hrest', hunlent, h.tokens⟩

theorem share_left (h : Without s t) {c : Commons ρ} (hrest : AtRest c)
    (hunlent : Unlent c t.commons) : Without (s.share c) t :=
  ⟨hrest, h.rest', hunlent, h.tokens⟩

theorem subscribe (h : Without s t) {slot name : Nat} (hslot : s.commons.isLent slot = false)
    (hname : s.isLentToken name = false) :
    Without (s.subscribe slot name) (t.subscribe slot name) := by
  have hat := h.unlent.at_of_not_isLent hslot
  have htaken : t.tokens.contains name = s.tokens.contains name := by
    rw [Table.contains, h.token_eq hname, Table.contains]
  unfold Holdings.subscribe
  rw [hat.same, htaken]
  cases hl : s.commons.leases.get? slot with
  | none => exact h
  | some l =>
      have howned := hat.owned hl
      simp only []
      split
      · exact h
      · refine ⟨h.rest, h.rest', h.unlent, fun name' => ?_⟩
        change (t.tokens.insert name _).get? name' = ((s.tokens.insert name _).get? name').filter _
        rw [Table.get?_insert, Table.get?_insert]
        split
        · exact (Option.filter_some_pos (p := Token.isOwned) (decide_eq_true howned)).symm
        · exact h.tokens name'

theorem subscribe_lent (h : Without s t) {slot name : Nat}
    (hlent : (s.commons.isLent slot || s.isLentToken name) = true) :
    Without (s.subscribe slot name) t := by
  unfold Holdings.subscribe
  split
  · next l hl =>
    split
    · exact h
    · next hfree =>
      have hnone : s.tokens.get? name = none := Option.not_isSome_iff_eq_none.1 hfree
      -- The number is free, so it is the lease that was lent.
      have hslot : s.commons.isLent slot = true := by
        rcases Bool.or_eq_true_iff.1 hlent with hslot | hname
        · exact hslot
        · rw [isLentToken, hnone] at hname
          cases hname
      rcases Unlent.isLent_iff.1 hslot with ⟨l', hl', hborrowed⟩
      rw [hl] at hl'
      cases hl'
      refine ⟨h.rest, h.rest', h.unlent, fun name' => ?_⟩
      change t.tokens.get? name' = ((s.tokens.insert name _).get? name').filter _
      rw [Table.get?_insert]
      split
      · next he =>
        subst he
        rw [h.tokens name, hnone]
        have hnot : Token.isOwned ⟨l.resource, l.ownership⟩ = false := by
          simp [Token.isOwned, hborrowed]
        exact (Option.filter_some_neg hnot).symm
      · exact h.tokens name'
  · exact h

/-- A dealing that has nothing to do with what was lent comes to the same. -/
theorem perform_own (h : Without s t) {d : Dealing ρ} (hown : s.concernsLent d = false) :
    (t.perform d).1 = (s.perform d).1 ∧ Without (s.perform d).2 (t.perform d).2 := by
  cases d with
  | lend slot newSlot => cases hown
  | create payload slot =>
      have hat := h.unlent.at_of_not_isLent hown
      exact ⟨rfl, h.share (h.rest.create payload slot) (h.rest'.create payload slot)
        (hat.create payload).toUnlent⟩
  | acquire source slot =>
      have hat := h.unlent.at_of_not_isLent hown
      change (t.ask source slot).1 = (s.ask source slot).1 ∧
        Without (s.ask source slot).2 (t.ask source slot).2
      unfold ask
      rw [hat.contains_eq]
      by_cases htaken : s.commons.leases.contains slot = true
      · rw [if_pos htaken, if_pos htaken]
        exact ⟨rfl, h⟩
      · rw [if_neg htaken, if_neg htaken]
        have hfree : s.commons.leases.get? slot = none := Option.not_isSome_iff_eq_none.1 htaken
        have hfree' : t.commons.leases.get? slot = none := hat.same.trans hfree
        rcases hat.grant source with ⟨hresult, hgrant⟩
        have hrest := h.rest.acquire source hfree
        have hrest' := h.rest'.acquire source hfree'
        rw [Commons.acquire_eq_grant h.rest hfree] at hrest ⊢
        rw [Commons.acquire_eq_grant h.rest' hfree'] at hrest' ⊢
        exact ⟨congrArg Dealing.Answer.granted hresult, h.share hrest hrest' hgrant.toUnlent⟩
  | get slot =>
      have hat := h.unlent.at_of_not_isLent hown
      exact ⟨congrArg Dealing.Answer.reached hat.get_eq, h⟩
  | refCount slot =>
      have hat := h.unlent.at_of_not_isLent hown
      exact ⟨congrArg Dealing.Answer.count hat.refCount_eq, h⟩
  | isClosed slot =>
      have hat := h.unlent.at_of_not_isLent hown
      exact ⟨congrArg (fun b => Dealing.Answer.told (some b)) hat.isClosed_eq, h⟩
  | close slot =>
      have hat := h.unlent.at_of_not_isLent hown
      exact ⟨rfl, h.share (h.rest.close slot) (h.rest'.close slot) hat.close.toUnlent⟩
  | drop slot =>
      have hat := h.unlent.at_of_not_isLent hown
      exact ⟨rfl, h.share (h.rest.drop slot) (h.rest'.drop slot) hat.drop.toUnlent⟩
  | obtain slot name =>
      rcases Bool.or_eq_false_iff.1 hown with ⟨hslot, hname⟩
      exact ⟨rfl, h.subscribe hslot hname⟩
  | isComplete name =>
      refine ⟨?_, h⟩
      simp only [perform, h.token_eq hown, h.unlent.isComplete_eq]
  | wait name =>
      refine ⟨?_, h⟩
      simp only [perform, h.token_eq hown, h.rest.isReady_eq h.rest' h.unlent.resources]

/-- A dealing with what was lent is not noticed. -/
theorem perform_lent (h : Without s t) {d : Dealing ρ} (hlent : s.concernsLent d = true) :
    Without (s.perform d).2 t := by
  cases d with
  | lend slot newSlot =>
      exact h.share_left (h.rest.lend slot newSlot) (h.unlent.lend slot newSlot)
  | create payload slot =>
      have htaken := Unlent.contains_of_isLent hlent
      refine h.share_left (h.rest.create payload slot) ?_
      rw [Commons.create, if_pos htaken]
      exact h.unlent
  | acquire source slot =>
      change Without (s.ask source slot).2 t
      rw [ask, if_pos (Unlent.contains_of_isLent hlent)]
      exact h
  | get slot => exact h
  | refCount slot => exact h
  | isClosed slot => exact h
  | close slot => exact h.share_left (h.rest.close slot) (h.unlent.close_lent h.rest hlent)
  | drop slot => exact h.share_left (h.rest.drop slot) (h.unlent.drop_lent h.rest hlent)
  | obtain slot name => exact h.subscribe_lent hlent
  | isComplete name => exact h
  | wait name => exact h

/-- What is left of a history comes to what it came to in its course, and ends where it ended. -/
theorem history (h : Without s t) (dealings : List (Dealing ρ)) :
    s.ownOutcomes dealings = t.outcomes (s.withoutLent dealings) ∧
      Without (s.after dealings) (t.after (s.withoutLent dealings)) := by
  induction dealings generalizing s t with
  | nil => exact ⟨rfl, h⟩
  | cons d dealings ih =>
      cases hlent : s.concernsLent d with
      | true =>
          simp only [ownOutcomes, withoutLent, hlent, if_true]
          exact ih (h.perform_lent hlent)
      | false =>
          rcases h.perform_own hlent with ⟨hanswer, hnext⟩
          rcases ih hnext with ⟨houtcomes, hafter⟩
          simp only [ownOutcomes, withoutLent, hlent, Bool.false_eq_true, if_false]
          refine ⟨?_, hafter⟩
          simp only [outcomes, outcome, hanswer, hnext.unlent.resources, houtcomes]

end Without

/-! ### What a borrowed lease reaches -/

-- A lease that is neither closed nor dropped is as it was.
theorem lease_perform_of_ne (h : AtRest s.commons) {slot : Nat} {l : Lease}
    (hl : s.commons.leases.get? slot = some l) {d : Dealing ρ} (hclose : d ≠ .close slot)
    (hdrop : d ≠ .drop slot) :
    (s.perform d).2.commons.leases.get? slot = s.commons.leases.get? slot := by
  -- A number that is free is not the number of the lease.
  have hne : ∀ slot', s.commons.leases.get? slot' = none → slot' ≠ slot := by
    rintro slot' hfree rfl
    rw [hl] at hfree
    cases hfree
  cases d with
  | create payload slot' =>
      change (s.commons.create payload slot').leases.get? slot = _
      unfold Commons.create
      split
      · rfl
      · next hfree =>
        exact Table.get?_insert_of_ne _ _ (hne slot' (Option.not_isSome_iff_eq_none.1 hfree))
  | acquire source slot' =>
      change (s.ask source slot').2.commons.leases.get? slot = _
      unfold ask
      split
      · rfl
      · next htaken =>
        have hfree := Option.not_isSome_iff_eq_none.1 htaken
        change (s.commons.acquire source slot').2.leases.get? slot = _
        rw [Commons.acquire_eq_grant h hfree]
        unfold Commons.grant
        split
        · exact Table.get?_insert_of_ne _ _ (hne slot' hfree)
        · split
          · exact Table.get?_insert_of_ne _ _ (hne slot' hfree)
          · rfl
  | lend slot' newSlot =>
      change (s.commons.lend slot' newSlot).leases.get? slot = _
      unfold Commons.lend
      split
      · split
        · rfl
        · next hfree =>
          exact Table.get?_insert_of_ne _ _ (hne newSlot (Option.not_isSome_iff_eq_none.1 hfree))
      · rfl
  | get slot' => rfl
  | refCount slot' => rfl
  | isClosed slot' => rfl
  | close slot' =>
      refine s.commons.lease_close_of_ne slot' ?_
      rintro rfl
      exact hclose rfl
  | drop slot' =>
      refine AtRest.lease_drop_of_ne s.commons ?_
      rintro rfl
      exact hdrop rfl
  | obtain slot' name =>
      change (s.subscribe slot' name).commons.leases.get? slot = _
      unfold Holdings.subscribe
      split
      · split
        · rfl
        · rfl
      · rfl
  | isComplete name => rfl
  | wait name => rfl

-- A lease that is not dropped is as it was, unless it is closed.
theorem lease_perform (h : AtRest s.commons) {slot : Nat} {l : Lease}
    (hl : s.commons.leases.get? slot = some l) {d : Dealing ρ} (hdrop : d ≠ .drop slot) :
    ∃ closed, (s.perform d).2.commons.leases.get? slot = some { l with closed := closed } ∧
      (closed = true ↔ l.closed = true ∨ d = .close slot) := by
  by_cases hclose : d = .close slot
  · subst hclose
    exact ⟨true, h.lease_close_self hl, fun _ => Or.inr rfl, fun _ => rfl⟩
  · exact ⟨l.closed, (lease_perform_of_ne h hl hclose hdrop).trans hl, Or.inl,
      fun hd => hd.resolve_right hclose⟩

/-- A lease that is not dropped remains what it is, open as long as nobody closes it. -/
theorem lease_after (h : AtRest s.commons) {slot : Nat} {l : Lease}
    (hl : s.commons.leases.get? slot = some l) {dealings : List (Dealing ρ)}
    (hdrop : .drop slot ∉ dealings) :
    ∃ closed, (s.after dealings).commons.leases.get? slot = some { l with closed := closed } ∧
      (closed = true ↔ l.closed = true ∨ .close slot ∈ dealings) := by
  induction dealings generalizing s l with
  | nil =>
      refine ⟨l.closed, hl, Or.inl, fun hd => hd.resolve_right (fun hmem => ?_)⟩
      cases hmem
  | cons d dealings ih =>
      rw [List.mem_cons, not_or] at hdrop
      rcases lease_perform h hl (Ne.symm hdrop.1) with ⟨closed, hnext, hclosed⟩
      rcases ih (rest_perform h d) hnext hdrop.2 with ⟨last, hlast, hlastClosed⟩
      refine ⟨last, hlast, hlastClosed.trans ?_⟩
      rw [List.mem_cons, ← or_assoc]
      exact or_congr_left (hclosed.trans (or_congr_right ⟨Eq.symm, Eq.symm⟩))

/-- A lease that is lent reaches the resource that it was lent for and no other, exactly while it
    is not closed and an owned lease on that resource is open. -/
theorem get_lent (h : AtRest s.commons) {slot newSlot : Nat} {l : Lease}
    (hl : s.commons.leases.get? slot = some l) (hfree : s.commons.leases.get? newSlot = none)
    {dealings : List (Dealing ρ)} (hdrop : .drop newSlot ∉ dealings) :
    let t := (s.perform (.lend slot newSlot)).2.after dealings
    (∀ r, t.commons.get newSlot = .ok r ↔
      r = l.resource ∧ .close newSlot ∉ dealings ∧ t.commons.HasOwner l.resource) ∧
    ∀ failure, t.commons.get newSlot = .error failure → failure = .resourceClosed := by
  intro t
  have hlent : (s.perform (.lend slot newSlot)).2.commons.leases.get? newSlot =
      some (.borrow l.resource) := by
    have hout : ¬ s.commons.leases.contains newSlot = true := by
      rw [Table.contains, hfree]
      exact Bool.false_ne_true
    change (s.commons.lend slot newSlot).leases.get? newSlot = _
    simp only [Commons.lend, hl, if_neg hout]
    exact Table.get?_insert_self _ _ _
  have hnext := rest_perform h (.lend slot newSlot)
  have howners := (rest_after hnext dealings).references_ne_zero_iff (r := l.resource)
  rcases lease_after hnext hlent hdrop with ⟨closed, hnow, hclosed⟩
  refine ⟨fun r => Commons.get_eq_ok_iff.trans ?_, fun failure hfailure => ?_⟩
  · rw [hnow]
    constructor
    · rintro ⟨l', hl', hr, hopen, howned⟩
      cases hl'
      subst hr
      refine ⟨rfl, fun hmem => ?_, howners.1 howned⟩
      have hshut := hclosed.2 (Or.inr hmem)
      rw [show closed = false from hopen] at hshut
      cases hshut
    · rintro ⟨rfl, hmem, howner⟩
      refine ⟨_, rfl, rfl, ?_, howners.2 howner⟩
      cases hc : closed with
      | false => rfl
      | true => exact absurd ((hclosed.1 hc).resolve_left Bool.false_ne_true) hmem
  · exact Commons.eq_of_get_eq_error hfailure

end Holdings

/-- Lending does not interfere. Whatever is done with sources, leases and completions, and
    whatever the factories come to: if all lending and all that is done with what was lent is
    struck out, what is left comes to the same answers, each with the same resources after it, and
    so to the same teardowns at the same moments, and the sources gave the same orders; and a
    dealing that is struck out changes no resource and no source. In turn, a lease that was lent
    reaches, until it is dropped, the resource of the lease that it was lent from and no other,
    exactly while it is not closed and an owned lease on that resource is open. -/
theorem lending_does_not_interfere (factories : Nat → Nat → Except Failure ρ)
    (dealings : List (Dealing ρ)) :
    let s := Holdings.start factories
    s.ownOutcomes dealings = s.outcomes (s.withoutLent dealings) ∧
    (s.after dealings).commons.resources =
      (s.after (s.withoutLent dealings)).commons.resources ∧
    (s.after dealings).commons.sources = (s.after (s.withoutLent dealings)).commons.sources ∧
    (∀ first d, (s.after first).concernsLent d = true →
      ((s.after first).perform d).2.commons.resources = (s.after first).commons.resources ∧
      ((s.after first).perform d).2.commons.sources = (s.after first).commons.sources) ∧
    (∀ first slot newSlot rest l, dealings = first ++ .lend slot newSlot :: rest →
      (s.after first).commons.leases.get? slot = some l →
      (s.after first).commons.leases.get? newSlot = none → .drop newSlot ∉ rest →
      (∀ r, (s.after dealings).commons.get newSlot = .ok r ↔
        r = l.resource ∧ .close newSlot ∉ rest ∧
          (s.after dealings).commons.HasOwner l.resource) ∧
      ∀ failure, (s.after dealings).commons.get newSlot = .error failure →
        failure = .resourceClosed) := by
  intro s
  have hstart : Holdings.Without s s := Holdings.Without.start factories
  rcases hstart.history dealings with ⟨houtcomes, hafter⟩
  refine ⟨houtcomes, hafter.unlent.resources.symm, hafter.unlent.sources.symm, ?_, ?_⟩
  · intro first d hlent
    have hbefore := (hstart.history first).2
    have hnext := hbefore.perform_lent hlent
    exact ⟨hnext.unlent.resources.symm.trans hbefore.unlent.resources,
      hnext.unlent.sources.symm.trans hbefore.unlent.sources⟩
  · rintro first slot newSlot rest l rfl hl hfree hdrop
    have hfirst : AtRest (s.after first).commons := Holdings.rest_after hstart.rest first
    rw [Holdings.after_append]
    exact Holdings.get_lent hfirst hl hfree hdrop

end Imds
