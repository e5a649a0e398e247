import Imds.Proofs.Nic.Memory

/-!
# A Handle That Several Parties Ask

Any number of parties can ask the same handle at the same time, and what is known of the
interface is then what their deeds made of it.

The right to fetch the listing is a lock. It is given only while the keys are not known, to
one party at a time, and that party gives it back with the keys or without them, or vanishes.
So while anybody has it the keys are not known, and whoever was ever told the keys was told
those that are known now. `Chronicle.Keeps` is this as an invariant: `keeps_moves` is the
step, and `keeps_after` the history.

A handle is there from the moment when its record was made, and what is said of it holds from
then on, whatever was in its place before. `Nic.IsUsed` states what a program cannot help: a
handle is asked only after it was made, and no other handle has its record.

## Main definitions

* `Nic.IsUsed`: A history in which a handle is used.
* `Chronicle.Holds`, `Chronicle.Keeps`: Who has the right, and what holds of a record.
* `Chronicle.asked`: A chronicle in which a party was told an answer.

## Theorems

* `keeps_asks`: A query of a party.
* `keeps_moves`, `keeps_after`: Steps and histories.
* `isUsed_of_made`: A handle that is there from the beginning.
-/

namespace Imds

open Blocking (Memory)

/-- In a history a handle is asked only after its record was made, no other handle with this
    record is asked, and nothing was known of the interface when the record was made. -/
structure Nic.IsUsed (n : Nic) (site : Site) (events : List Happening) : Prop where
  fresh : n.record < site.attached → site.records n.record = Record.fresh
  asked : ∀ first m q waiting rest, events = first ++ .arrive (.question m q) waiting :: rest →
    m.record = n.record →
      m = n ∧ n.record < ((Chronicle.ofSite site).after first).site.attached

namespace Chronicle

/-- A party has the right to fetch the listing of a record. -/
def Holds (s : Chronicle) (record i : Nat) : Prop :=
  ∃ p, s.party i = some p ∧ p.right = some record

/-- What holds of the record of a handle. -/
structure Keeps (n : Nic) (s : Chronicle) : Prop where
  wishes : ∀ wish ∈ s.wishes, wish.record? = some n.record →
    n.record < s.site.attached ∧ ∃ q, wish = .question n q
  untouched : s.site.attached ≤ n.record → ∀ x ∈ s.deeds, x.said.query.record? ≠ some n.record
  memory : n.record < s.site.attached →
    (s.site.records n.record).memory = n.kept s.deeds
  right : ∀ i p, s.party i = some p → p.right = rightOf (own i s.deeds)
  held : ∀ i, s.Holds n.record i → (s.site.records n.record).keys = none ∧
    (s.site.records n.record).busy = true ∧ ∀ j, s.Holds n.record j → j = i
  busy : n.record < s.site.attached → (s.site.records n.record).busy = true →
    ∃ i, s.Holds n.record i
  told : ∀ i keys, Told n.record keys (own i s.deeds) →
    (s.site.records n.record).keys = some keys

section Steps

variable {n : Nic} {s : Chronicle}

theorem Keeps.not_holds (h : s.Keeps n) (hunmade : s.site.attached ≤ n.record) (i : Nat) :
    ¬ s.Holds n.record i := by
  rintro ⟨p, hp, hright⟩
  rw [h.right i p hp] at hright
  rcases mem_of_rightOf hright with ⟨x, hx, hrecord⟩
  exact h.untouched hunmade _ (mem_own.1 hx) hrecord

theorem Keeps.not_told (h : s.Keeps n) (hunmade : s.site.attached ≤ n.record) (i : Nat)
    (keys : List String) : ¬ Told n.record keys (own i s.deeds) := by
  rintro (hx | hx)
  · exact h.untouched hunmade _ (mem_own.1 hx) rfl
  · exact h.untouched hunmade _ (mem_own.1 hx) rfl

theorem keeps_ofSite {site : Site}
    (hfresh : n.record < site.attached → site.records n.record = Record.fresh) :
    (ofSite site).Keeps n where
  wishes := nofun
  untouched := fun _ => nofun
  memory := fun hmade => congrArg Record.memory (hfresh hmade)
  right := fun _ _ h => nomatch h
  held := fun _ ⟨_, hp, _⟩ => nomatch hp
  busy := by
    intro hmade hbusy
    rw [show (ofSite site).site.records n.record = Record.fresh from hfresh hmade] at hbusy
    cases hbusy
  told := by rintro i keys (hx | hx) <;> cases hx

-- Somebody comes. The right is not given to anybody for that.
theorem keeps_arrives (hsound : s.Sound) (h : s.Keeps n) {wish : Wish}
    (hwish : wish.record? = some n.record →
      n.record < s.site.attached ∧ ∃ q, wish = .question n q) :
    Keeps n ⟨⟨s.site, updateAt s.crowd.parties s.wishes.length (some (.ofPlan wish.plan))⟩,
      s.wishes ++ [wish], s.deeds⟩ := by
  have hparty : ∀ {i p}, updateAt s.crowd.parties s.wishes.length (some (.ofPlan wish.plan)) i =
      some p → s.party i = some p ∨ (i = s.wishes.length ∧ p = .ofPlan wish.plan) := by
    intro i p hp
    by_cases hi : i = s.wishes.length
    · rw [hi, updateAt_self] at hp
      cases hp
      exact Or.inr ⟨hi, rfl⟩
    · rw [updateAt_of_ne _ _ hi] at hp
      exact Or.inl hp
  have hholds : ∀ {i}, Holds ⟨⟨s.site, updateAt s.crowd.parties s.wishes.length
      (some (.ofPlan wish.plan))⟩, s.wishes ++ [wish], s.deeds⟩ n.record i →
        s.Holds n.record i := by
    rintro i ⟨p, hp, hright⟩
    rcases hparty hp with hp | ⟨-, rfl⟩
    · exact ⟨p, hp, hright⟩
    · cases hright
  refine ⟨fun w hw => ?_, h.untouched, h.memory, fun i p hp => ?_, fun i hi => ?_,
    fun hmade hbusy => ?_, h.told⟩
  · rcases List.mem_append.1 hw with hw | hw
    · exact h.wishes w hw
    · rw [List.mem_singleton.1 hw]
      exact hwish
  · rcases hparty hp with hp | ⟨rfl, rfl⟩
    · exact h.right i p hp
    · rw [(hsound.unborn _ (Nat.le_refl _)).2]
      rfl
  · rcases h.held i (hholds hi) with ⟨hkeys, hbusy, halone⟩
    exact ⟨hkeys, hbusy, fun j hj => halone j (hholds hj)⟩
  · rcases h.busy hmade hbusy with ⟨i, p, hp, hright⟩
    exact ⟨i, p, (updateAt_of_ne _ _ (Nat.ne_of_lt (hsound.lt_of_party hp))).trans hp, hright⟩

/-! ### Somebody vanishes -/

section Vanishing

variable {i : Nat} {p : Party (Except Failure Report)}

theorem attached_leaveBehind (p : Party (Except Failure Report)) (site : Site) :
    (p.leaveBehind site).attached = site.attached := by
  rw [Party.leaveBehind]
  cases p.right <;> rfl

theorem record_leaveBehind {site : Site} {record : Nat} (h : p.right ≠ some record) :
    (p.leaveBehind site).records record = site.records record := by
  rw [Party.leaveBehind]
  cases hright : p.right with
  | none => rfl
  | some r =>
      refine updateAt_of_ne _ _ ?_
      rintro rfl
      exact h hright

theorem record_leaveBehind_own {site : Site} {record : Nat} (h : p.right = some record) :
    (p.leaveBehind site).records record = { site.records record with busy := false } := by
  rw [Party.leaveBehind, h]
  exact updateAt_self _ _ _

theorem memory_leaveBehind (p : Party (Except Failure Report)) (site : Site) (record : Nat) :
    ((p.leaveBehind site).records record).memory = (site.records record).memory := by
  by_cases h : p.right = some record
  · rw [record_leaveBehind_own h]
    rfl
  · rw [record_leaveBehind h]

-- Somebody vanishes. A right to the listing goes back without the keys.
theorem keeps_vanishes (h : s.Keeps n) (hp : s.party i = some p) :
    Keeps n ⟨⟨p.leaveBehind s.site, updateAt s.crowd.parties i none⟩, s.wishes, s.deeds⟩ := by
  have hparty : ∀ {j q}, updateAt s.crowd.parties i none j = some q →
      j ≠ i ∧ s.party j = some q := by
    intro j q hq
    by_cases hj : j = i
    · rw [hj, updateAt_self] at hq
      cases hq
    · rw [updateAt_of_ne _ _ hj] at hq
      exact ⟨hj, hq⟩
  have hattached := attached_leaveBehind p s.site
  have hkeys : ((p.leaveBehind s.site).records n.record).keys =
      (s.site.records n.record).keys :=
    congrArg Memory.keys (memory_leaveBehind p s.site n.record)
  refine ⟨fun w hw hrecord => ?_, fun hunmade => h.untouched (hattached ▸ hunmade),
    fun hmade => (memory_leaveBehind p s.site n.record).trans (h.memory (hattached ▸ hmade)),
    fun j q hq => h.right j q (hparty hq).2, fun j hj => ?_, fun hmade hbusy => ?_,
    fun j keys htold => hkeys.trans (h.told j keys htold)⟩
  · change n.record < (p.leaveBehind s.site).attached ∧ _
    rw [hattached]
    exact h.wishes w hw hrecord
  · rcases hj with ⟨q, hq, hright⟩
    rcases hparty hq with ⟨hne, hq⟩
    rcases h.held j ⟨q, hq, hright⟩ with ⟨hnone, hbusy, halone⟩
    refine ⟨hkeys.trans hnone, ?_, fun k ⟨q', hq', hright'⟩ =>
      halone k ⟨q', (hparty hq').2, hright'⟩⟩
    -- Whoever vanishes had no right to this listing.
    have hother : p.right ≠ some n.record := fun hright => hne (halone i ⟨p, hp, hright⟩).symm
    exact (congrArg Record.busy (record_leaveBehind hother)).trans hbusy
  · -- Somebody else still has the right, since it would have been given back.
    change n.record < (p.leaveBehind s.site).attached at hmade
    change ((p.leaveBehind s.site).records n.record).busy = true at hbusy
    by_cases hright : p.right = some n.record
    · rw [record_leaveBehind_own hright] at hbusy
      cases hbusy
    · rw [record_leaveBehind hright] at hbusy
      rcases h.busy (hattached ▸ hmade) hbusy with ⟨j, q, hq, hright'⟩
      have hne : j ≠ i := by
        rintro rfl
        rw [hp] at hq
        cases hq
        exact hright hright'
      exact ⟨j, q, (updateAt_of_ne _ _ hne).trans hq, hright'⟩

end Vanishing

/-! ### A query -/

section Asking

variable {i : Nat} {p : Party (Except Failure Report)} {query : Query}
variable {next : query.Answer → Plan (Except Failure Report)} {answer : query.Answer}
variable {site' : Site}

/-- A chronicle in which a party was told an answer. -/
def asked (s : Chronicle) (i : Nat) (p : Party (Except Failure Report)) (query : Query)
    (next : query.Answer → Plan (Except Failure Report)) (answer : query.Answer) (site' : Site) :
    Chronicle :=
  ⟨⟨site', updateAt s.crowd.parties i (some ⟨next answer, query.rightAfter p.right answer⟩)⟩,
    s.wishes, s.deeds ++ [⟨i, ⟨query, answer⟩⟩]⟩

-- A query about the record of a handle is put for a question to this handle, as the question
-- may put it.
theorem Keeps.conduct (h : s.Keeps n) (hsound : s.Sound) (hp : s.party i = some p)
    (hplan : p.plan = .ask query next) (hmine : query.record? = some n.record) :
    n.record < s.site.attached ∧ ∃ q, n.May q (own i s.deeds) query := by
  rcases (⟨_, List.getElem?_eq_getElem (hsound.lt_of_party hp)⟩ :
    ∃ wish, s.wishes[i]? = some wish) with ⟨wish, hwish⟩
  have hleads := hsound.leads i p wish hp hwish
  rw [hplan] at hleads
  have hown := (hleads.abides (own_of_wish wish)).1 _ hmine
  rcases h.wishes wish (List.mem_of_getElem? hwish) hown with ⟨hmade, q, rfl⟩
  exact ⟨hmade, q, (hleads.abides (n.abides_question q)).1⟩

theorem holds_asked {record j : Nat} (h : (s.asked i p query next answer site').Holds record j) :
    (j ≠ i ∧ s.Holds record j) ∨ (j = i ∧ query.rightAfter p.right answer = some record) := by
  rcases h with ⟨q, hq, hright⟩
  change updateAt s.crowd.parties i _ j = some q at hq
  by_cases hj : j = i
  · rw [hj, updateAt_self] at hq
    cases hq
    exact Or.inr ⟨hj, hright⟩
  · rw [updateAt_of_ne _ _ hj] at hq
    exact Or.inl ⟨hj, q, hq, hright⟩

theorem asked_holds {record j : Nat} (hp : s.party i = some p) (h : s.Holds record j)
    (hstays : p.right = some record → query.rightAfter p.right answer = some record) :
    (s.asked i p query next answer site').Holds record j := by
  rcases h with ⟨q, hq, hright⟩
  by_cases hj : j = i
  · subst hj
    rw [hp] at hq
    cases hq
    exact ⟨_, updateAt_self _ _ _, hstays hright⟩
  · exact ⟨q, (updateAt_of_ne _ _ hj).trans hq, hright⟩

-- Whoever has a right to one listing asks about no other.
theorem Keeps.record_of_right (h : s.Keeps n) (hsound : s.Sound) (hp : s.party i = some p)
    (hplan : p.plan = .ask query next) {record : Nat} (hright : p.right = some record) :
    ∀ r, query.record? = some r → r = record := by
  intro r hr
  rcases (⟨_, List.getElem?_eq_getElem (hsound.lt_of_party hp)⟩ :
    ∃ wish, s.wishes[i]? = some wish) with ⟨wish, hwish⟩
  have hleads := hsound.leads i p wish hp hwish
  rw [hplan] at hleads
  rcases (hleads.abides (Plan.Abides.since (.refl _ []) (own_of_wish wish))).1 with
    ⟨⟨said, hsaid, hall⟩, hquery⟩
  rw [List.nil_append] at hsaid
  rw [h.right i p hp] at hright
  rcases mem_of_rightOf hright with ⟨x, hx, hrecord⟩
  rw [hsaid] at hx
  have hsame := (hquery r hr).symm.trans (hall x hx record hrecord)
  exact Option.some.inj hsame

-- What was told then, or is told now.
theorem told_asked {record j : Nat} {keys : List String}
    (h : Told record keys (own j (s.asked i p query next answer site').deeds)) :
    Told record keys (own j s.deeds) ∨ Told record keys [⟨query, answer⟩] := by
  have hmem : ∀ {x : Said}, x ∈ own j (s.deeds ++ [⟨i, ⟨query, answer⟩⟩]) →
      x ∈ own j s.deeds ∨ x ∈ [(⟨query, answer⟩ : Said)] := by
    intro x hx
    rcases List.mem_append.1 (mem_own.1 hx) with hx | hx
    · exact Or.inl (mem_own.2 hx)
    · cases List.mem_singleton.1 hx
      exact Or.inr List.mem_cons_self
  rcases h with hx | hx
  · exact (hmem hx).imp Or.inl Or.inl
  · exact (hmem hx).imp Or.inr Or.inr

theorem attached_le (hanswer : query.answer s.site = (answer, site')) :
    s.site.attached ≤ site'.attached := by
  have hcases := attached_answer s.site query
  rw [hanswer] at hcases
  rcases hcases with h | ⟨-, h⟩
  · exact Nat.le_of_eq h.symm
  · exact Nat.le_trans (Nat.le_succ _) (Nat.le_of_eq h.symm)

-- What does not depend on the query. The rest is about the lock.
theorem Keeps.asked (h : s.Keeps n) (hp : s.party i = some p)
    (hanswer : query.answer s.site = (answer, site'))
    (hunmade : s.site.attached ≤ n.record → query.record? ≠ some n.record)
    (hmemory : n.record < site'.attached →
      (site'.records n.record).memory = n.kept (s.deeds ++ [⟨i, ⟨query, answer⟩⟩]))
    (hheld : ∀ j, (s.asked i p query next answer site').Holds n.record j →
      (site'.records n.record).keys = none ∧ (site'.records n.record).busy = true ∧
        ∀ k, (s.asked i p query next answer site').Holds n.record k → k = j)
    (hbusy : n.record < site'.attached → (site'.records n.record).busy = true →
      ∃ j, (s.asked i p query next answer site').Holds n.record j)
    (htold : ∀ keys, (∃ j, Told n.record keys (own j s.deeds)) ∨
      Told n.record keys [⟨query, answer⟩] → (site'.records n.record).keys = some keys) :
    (s.asked i p query next answer site').Keeps n where
  wishes := by
    intro wish hwish hrecord
    rcases h.wishes wish hwish hrecord with ⟨hmade, hquestion⟩
    exact ⟨Nat.lt_of_lt_of_le hmade (attached_le hanswer), hquestion⟩
  untouched := by
    intro hle x hx
    have hle : s.site.attached ≤ n.record := Nat.le_trans (attached_le hanswer) hle
    rcases List.mem_append.1 hx with hx | hx
    · exact h.untouched hle x hx
    · rw [List.mem_singleton.1 hx]
      exact hunmade hle
  memory := hmemory
  right := by
    intro j q hq
    change updateAt s.crowd.parties i _ j = some q at hq
    change q.right = rightOf (own j (s.deeds ++ [⟨i, ⟨query, answer⟩⟩]))
    rw [own_append]
    by_cases hj : j = i
    · subst hj
      rw [updateAt_self] at hq
      cases hq
      rw [own_self, rightOf_concat, h.right j p hp]
    · rw [updateAt_of_ne _ _ hj] at hq
      rw [own_of_ne (Ne.symm hj), List.append_nil]
      exact h.right j q hq
  held := hheld
  busy := hbusy
  told := fun j keys hj => htold keys ((told_asked hj).imp (fun h => ⟨j, h⟩) id)

-- A query about another record gives nobody the right to this one, and tells nothing of it.
theorem holds_of_other {j : Nat} (hp : s.party i = some p)
    (hother : query.record? ≠ some n.record)
    (h : (s.asked i p query next answer site').Holds n.record j) : s.Holds n.record j := by
  rcases holds_asked h with ⟨-, hj⟩ | ⟨rfl, hright⟩
  · exact hj
  · exact ⟨p, hp, (rightAfter_eq_some hright).resolve_right hother⟩

theorem not_told_of_other {keys : List String} (hother : query.record? ≠ some n.record) :
    ¬ Told n.record keys [⟨query, answer⟩] := by
  rintro (hx | hx)
  · cases List.mem_singleton.1 hx
    exact hother rfl
  · cases List.mem_singleton.1 hx
    exact hother rfl

theorem kept_of_other (hother : query.record? ≠ some n.record) :
    n.kept (s.deeds ++ [⟨i, ⟨query, answer⟩⟩]) = n.kept s.deeds :=
  (Memory.replay_append _ _ _ _).trans (Memory.hear_of_other hother)

-- The record is made. Until now nobody knew of it.
theorem keeps_asked_attach {next : Query.attach.Answer → Plan (Except Failure Report)}
    {answer : Nat} (h : s.Keeps n) (hp : s.party i = some p)
    (hanswer : Query.attach.answer s.site = (answer, site'))
    (hmaking : s.site.attached = n.record) :
    (s.asked i p .attach next answer site').Keeps n := by
  have hother : Query.attach.record? ≠ some n.record := nofun
  have hunmade : s.site.attached ≤ n.record := Nat.le_of_eq hmaking
  have hrecord : site'.records n.record = Record.fresh := by
    rw [← show (Query.attach.answer s.site).2 = site' from congrArg Prod.snd hanswer, ← hmaking]
    exact updateAt_self _ _ _
  refine h.asked hp hanswer (fun _ => hother) (fun _ => ?_) (fun j hj => ?_)
    (fun _ hbusy => ?_) (fun keys hkeys => ?_)
  · rw [hrecord, kept_of_other hother, Nic.kept, Memory.replay_of_untouched (h.untouched hunmade)]
    rfl
  · exact absurd (holds_of_other hp hother hj) (h.not_holds hunmade j)
  · rw [hrecord] at hbusy
    cases hbusy
  · rcases hkeys.resolve_right (not_told_of_other hother) with ⟨j, hj⟩
    exact absurd hj (h.not_told hunmade j keys)

-- A query about something else, by which the record is not made either.
theorem keeps_asked_other (h : s.Keeps n) (hsound : s.Sound) (hp : s.party i = some p)
    (hplan : p.plan = .ask query next) (hanswer : query.answer s.site = (answer, site'))
    (hother : query.record? ≠ some n.record)
    (hmaking : ¬ (query = .attach ∧ s.site.attached = n.record)) :
    (s.asked i p query next answer site').Keeps n := by
  have hrecord : site'.records n.record = s.site.records n.record := by
    have h := records_answer_other hother hmaking
    rwa [hanswer] at h
  have hmade : n.record < site'.attached → n.record < s.site.attached := by
    intro hmade
    have hattached := attached_answer s.site query
    rw [hanswer] at hattached
    rcases hattached with hsame | ⟨hquery, hsucc⟩
    · exact Nat.lt_of_lt_of_eq hmade hsame
    · have hne : s.site.attached ≠ n.record := fun h => hmaking ⟨hquery, h⟩
      change site'.attached = _ at hsucc
      omega
  refine h.asked hp hanswer (fun _ => hother) (fun hmade' => ?_) (fun j hj => ?_)
    (fun hmade' hbusy => ?_) (fun keys hkeys => ?_)
  · rw [hrecord, kept_of_other hother]
    exact h.memory (hmade hmade')
  · rcases h.held j (holds_of_other hp hother hj) with ⟨hkeys, hbusy, halone⟩
    rw [hrecord]
    exact ⟨hkeys, hbusy, fun k hk => halone k (holds_of_other hp hother hk)⟩
  · rw [hrecord] at hbusy
    rcases h.busy (hmade hmade') hbusy with ⟨j, hj⟩
    refine ⟨j, asked_holds hp hj (fun hright => ?_)⟩
    rw [rightAfter_of_no_record, hright]
    cases hnone : query.record? with
    | none => rfl
    | some r =>
        rw [h.record_of_right hsound hp hplan hright r hnone] at hnone
        exact absurd hnone hother
  · rcases hkeys.resolve_right (not_told_of_other hother) with ⟨j, hj⟩
    rw [hrecord]
    exact h.told j keys hj

-- The listing is asked for and known. Then it is told, and nothing changes.
theorem keeps_asked_known {next : (Query.enter n.record).Answer → Plan (Except Failure Report)}
    {keys : List String} (h : s.Keeps n) (hp : s.party i = some p)
    (hkeys : (s.site.records n.record).keys = some keys)
    (hanswer : (Query.enter n.record).answer s.site = (some keys, s.site))
    (hmemory : n.record < s.site.attached → (s.site.records n.record).memory =
      n.kept (s.deeds ++ [⟨i, ⟨.enter n.record, some keys⟩⟩]))
    (hmade : n.record < s.site.attached) :
    (s.asked i p (.enter n.record) next (some keys) s.site).Keeps n := by
  have hnobody : ∀ j, ¬ s.Holds n.record j := by
    intro j hj
    have hnone := (h.held j hj).1
    rw [hkeys] at hnone
    cases hnone
  refine h.asked hp hanswer (fun hle => absurd hmade (Nat.not_lt.2 hle)) hmemory
    (fun j hj => ?_) (fun _ hbusy => ?_) (fun keys' htold => ?_)
  · rcases holds_asked hj with ⟨-, hj⟩ | ⟨rfl, hright⟩
    · exact absurd hj (hnobody j)
    · exact absurd ⟨p, hp, hright⟩ (hnobody j)
  · rcases h.busy hmade hbusy with ⟨j, hj⟩
    exact absurd hj (hnobody j)
  · rcases htold with ⟨j, hj⟩ | hx | hx
    · exact h.told j keys' hj
    · cases List.mem_singleton.1 hx
      exact hkeys
    · cases List.mem_singleton.1 hx

-- The listing is asked for and not known. Then the party has the right to fetch it, which nobody
-- had, since the record was not blocked.
theorem keeps_asked_unknown {next : (Query.enter n.record).Answer → Plan (Except Failure Report)}
    (h : s.Keeps n) (hp : s.party i = some p)
    (hkeys : (s.site.records n.record).keys = none)
    (hidle : (s.site.records n.record).busy = false)
    (hanswer : (Query.enter n.record).answer s.site = (none, site'))
    (hrecord : site'.records n.record = { s.site.records n.record with busy := true })
    (hmemory : n.record < site'.attached →
      (site'.records n.record).memory = n.kept (s.deeds ++ [⟨i, ⟨.enter n.record, none⟩⟩]))
    (hmade : n.record < s.site.attached) :
    (s.asked i p (.enter n.record) next none site').Keeps n := by
  have hnobody : ∀ j, ¬ s.Holds n.record j := by
    intro j hj
    have hbusy := (h.held j hj).2.1
    rw [hidle] at hbusy
    cases hbusy
  refine h.asked hp hanswer (fun hle => absurd hmade (Nat.not_lt.2 hle)) hmemory
    (fun j hj => ?_) (fun _ _ => ⟨i, _, updateAt_self _ _ _, rfl⟩) (fun keys htold => ?_)
  · rw [hrecord]
    refine ⟨hkeys, rfl, fun k hk => ?_⟩
    rcases holds_asked hj with ⟨-, hj⟩ | ⟨rfl, -⟩
    · exact absurd hj (hnobody j)
    · rcases holds_asked hk with ⟨-, hk⟩ | ⟨rfl, -⟩
      · exact absurd hk (hnobody k)
      · rfl
  · rcases htold with ⟨j, hj⟩ | hx | hx
    · have hknown := h.told j keys hj
      rw [hkeys] at hknown
      cases hknown
    · cases List.mem_singleton.1 hx
    · cases List.mem_singleton.1 hx

theorem keeps_asked_enter {next : (Query.enter n.record).Answer → Plan (Except Failure Report)}
    {answer : Option (List String)} (h : s.Keeps n) (hp : s.party i = some p)
    (hfree : (Query.enter n.record).isBlocked s.site = false)
    (hanswer : (Query.enter n.record).answer s.site = (answer, site'))
    (hmemory : n.record < site'.attached →
      (site'.records n.record).memory = n.kept (s.deeds ++ [⟨i, ⟨.enter n.record, answer⟩⟩]))
    (hmade : n.record < s.site.attached) :
    (s.asked i p (.enter n.record) next answer site').Keeps n := by
  cases hkeys : (s.site.records n.record).keys with
  | some keys =>
      have hafter : answer = some keys ∧ site' = s.site := by
        simp only [Query.answer, hkeys, Option.isSome_some, if_true, Prod.mk.injEq] at hanswer
        exact ⟨hanswer.1.symm, hanswer.2.symm⟩
      rcases hafter with ⟨rfl, rfl⟩
      exact keeps_asked_known h hp hkeys hanswer hmemory hmade
  | none =>
      have hidle : (s.site.records n.record).busy = false := by
        simpa only [Query.isBlocked, hkeys, Option.isNone_none, Bool.true_and] using hfree
      have hafter : answer = none ∧
          site'.records n.record = { s.site.records n.record with busy := true } := by
        simp only [Query.answer, hkeys, Option.isSome_none, Bool.false_eq_true, if_false,
          Prod.mk.injEq] at hanswer
        rcases hanswer with ⟨rfl, rfl⟩
        simp only [Site.setRecord, updateAt_self, hkeys, and_self]
      rcases hafter with ⟨rfl, hrecord⟩
      exact keeps_asked_unknown h hp hkeys hidle hanswer hrecord hmemory hmade

-- The right is given back, with the keys or without them. Nobody else had it, and nobody knew
-- the keys.
theorem keeps_asked_leave {given : Option (List String)}
    {next : (Query.leave n.record given).Answer → Plan (Except Failure Report)} {answer : Unit}
    (h : s.Keeps n) (hp : s.party i = some p)
    (hanswer : (Query.leave n.record given).answer s.site = (answer, site'))
    (hmemory : n.record < site'.attached →
      (site'.records n.record).memory = n.kept (s.deeds ++ [⟨i, ⟨.leave n.record given, answer⟩⟩]))
    (hmade : n.record < s.site.attached) (hright : rightOf (own i s.deeds) = some n.record) :
    (s.asked i p (.leave n.record given) next answer site').Keeps n := by
  have hholds : s.Holds n.record i := ⟨p, hp, (h.right i p hp).trans hright⟩
  rcases h.held i hholds with ⟨hnone, -, halone⟩
  have hsite : ((Query.leave n.record given).answer s.site).2 = site' := congrArg Prod.snd hanswer
  have hrecord : (site'.records n.record).keys = given := by
    rw [← hsite]
    simp only [Query.answer, Site.setRecord, updateAt_self, hnone, Option.or_none]
  have hidle : (site'.records n.record).busy = false := by
    rw [← hsite]
    simp only [Query.answer, Site.setRecord, updateAt_self]
  refine h.asked hp hanswer (fun hle => absurd hmade (Nat.not_lt.2 hle)) hmemory (fun j hj => ?_)
    (fun _ hbusy => ?_) (fun keys htold => ?_)
  · rcases holds_asked hj with ⟨hne, hj⟩ | ⟨-, hj⟩
    · exact absurd (halone j hj) hne
    · cases hj
  · rw [hidle] at hbusy
    cases hbusy
  · rcases htold with ⟨j, hj⟩ | hx | hx
    · have hknown := h.told j keys hj
      rw [hnone] at hknown
      cases hknown
    · cases List.mem_singleton.1 hx
    · cases List.mem_singleton.1 hx
      exact hrecord

-- A query about the record that does not touch the lock.
theorem keeps_asked_aside (h : s.Keeps n) (hp : s.party i = some p)
    (hanswer : query.answer s.site = (answer, site'))
    (hmemory : n.record < site'.attached →
      (site'.records n.record).memory = n.kept (s.deeds ++ [⟨i, ⟨query, answer⟩⟩]))
    (hmade : n.record < s.site.attached)
    (haside : ∀ record given, query ≠ .enter record ∧ query ≠ .leave record given)
    (hkeys : (site'.records n.record).keys = (s.site.records n.record).keys)
    (hbusy : (site'.records n.record).busy = (s.site.records n.record).busy) :
    (s.asked i p query next answer site').Keeps n := by
  have hrightAfter : query.rightAfter p.right answer = p.right := by
    cases query with
    | enter record => exact absurd rfl (haside record none).1
    | leave record given => exact absurd rfl (haside record given).2
    | _ => rfl
  have hholds : ∀ {j}, (s.asked i p query next answer site').Holds n.record j →
      s.Holds n.record j := by
    intro j hj
    rcases holds_asked hj with ⟨-, hj⟩ | ⟨rfl, hright⟩
    · exact hj
    · exact ⟨p, hp, hrightAfter.symm.trans hright⟩
  refine h.asked hp hanswer (fun hle => absurd hmade (Nat.not_lt.2 hle)) hmemory (fun j hj => ?_)
    (fun _ hheld => ?_) (fun keys htold => ?_)
  · rcases h.held j (hholds hj) with ⟨hnone, hheld, halone⟩
    exact ⟨hkeys.trans hnone, hbusy.trans hheld, fun k hk => halone k (hholds hk)⟩
  · rw [hbusy] at hheld
    rcases h.busy hmade hheld with ⟨j, hj⟩
    exact ⟨j, asked_holds hp hj (fun hright => hrightAfter.trans hright)⟩
  · rcases htold with ⟨j, hj⟩ | hx | hx
    · exact hkeys.trans (h.told j keys hj)
    · exact absurd (congrArg Said.query (List.mem_singleton.1 hx)).symm (haside _ none).1
    · exact absurd (congrArg Said.query (List.mem_singleton.1 hx)).symm (haside _ (some keys)).2

/-- A query with its answer. -/
theorem keeps_asks (h : s.Keeps n) (hsound : s.Sound) (hp : s.party i = some p)
    (hplan : p.plan = .ask query next) (hfree : query.isBlocked s.site = false)
    (hanswer : query.answer s.site = (answer, site')) :
    (s.asked i p query next answer site').Keeps n := by
  by_cases hmine : query.record? = some n.record
  · rcases h.conduct hsound hp hplan hmine with ⟨hmade, q, hmay⟩
    have hmemory : n.record < site'.attached → (site'.records n.record).memory =
        n.kept (s.deeds ++ [⟨i, ⟨query, answer⟩⟩]) := by
      intro _
      have hrecord := memory_answer_record (s := s.site) hmine
      rw [hanswer, h.memory hmade] at hrecord
      rw [Nic.kept, Memory.replay_append]
      exact hrecord
    cases query with
    | enter record =>
        cases hmine
        exact keeps_asked_enter h hp hfree hanswer hmemory hmade
    | leave record given =>
        cases hmine
        exact keeps_asked_leave h hp hanswer hmemory hmade (hmay.leave _ _ rfl).1
    | recollect record key =>
        cases hanswer
        exact keeps_asked_aside h hp rfl hmemory hmade (fun _ _ => ⟨nofun, nofun⟩) rfl rfl
    | remember record key value =>
        cases hmine
        have hrecord : site'.records n.record = { s.site.records n.record with
            remembered := (s.site.records n.record).remembered.insert key value } := by
          cases hanswer
          exact updateAt_self _ _ _
        refine keeps_asked_aside h hp hanswer hmemory hmade (fun _ _ => ⟨nofun, nofun⟩) ?_ ?_
        · rw [hrecord]
        · rw [hrecord]
    | _ => cases hmine
  · by_cases hmaking : query = .attach ∧ s.site.attached = n.record
    · rcases hmaking with ⟨rfl, hmaking⟩
      exact keeps_asked_attach h hp hanswer hmaking
    · exact keeps_asked_other h hsound hp hplan hanswer hmine hmaking

end Asking

/-- Whatever happens, the record of a handle stays in order. -/
theorem keeps_moves (h : s.Keeps n) (hsound : s.Sound) {s' : Chronicle} (hmoves : s.Moves s')
    (hcome : ∀ wish, s'.wishes = s.wishes ++ [wish] → wish.record? = some n.record →
      n.record < s.site.attached ∧ ∃ q, wish = .question n q) : s'.Keeps n := by
  cases hmoves with
  | stays => exact h
  | arrives wish => exact keeps_arrives hsound h (hcome wish rfl)
  | asks i p query next hp hplan hfree => exact keeps_asks h hsound hp hplan hfree rfl
  | vanishes i p hp => exact keeps_vanishes h hp
  | flagged flag => exact ⟨h.wishes, h.untouched, h.memory, h.right, h.held, h.busy, h.told⟩
  | varied name value => exact ⟨h.wishes, h.untouched, h.memory, h.right, h.held, h.busy, h.told⟩

end Steps

/-- What holds of the record of a handle after any history in which the handle is used. -/
theorem keeps_after {n : Nic} {site : Site} {events : List Happening}
    (h : n.IsUsed site events) : ((ofSite site).after events).Keeps n := by
  refine holds_after_arrivals (fun s wish => wish.record? = some n.record →
    n.record < s.site.attached ∧ ∃ q, wish = .question n q) (keeps_ofSite h.fresh)
    (fun s s' hsound hs hcome hmoves => keeps_moves hs hsound hmoves hcome) ?_
  intro first wish waiting rest hevents hrecord
  cases wish with
  | question m q =>
      rcases h.asked first m q waiting rest hevents (Option.some.inj hrecord) with ⟨rfl, hmade⟩
      exact ⟨hmade, q, rfl⟩
  | demand c D => cases hrecord
  | interfaces c => cases hrecord
  | interface c mac => cases hrecord

/-- A handle that is there from the beginning, and is not mistaken for another one, is used as
    it should be. -/
theorem isUsed_of_made {n : Nic} {site : Site} {events : List Happening}
    (hmade : n.record < site.attached) (hfresh : site.records n.record = Record.fresh)
    (hown : ∀ m q waiting, .arrive (.question m q) waiting ∈ events → m.record = n.record → m = n) :
    n.IsUsed site events := by
  refine ⟨fun _ => hfresh,
    fun first m q waiting rest hevents hrecord => ⟨hown m q waiting ?_ hrecord, ?_⟩⟩
  · rw [hevents]
    exact List.mem_append_right _ List.mem_cons_self
  · refine holds_after (P := fun s => n.record < s.site.attached) hmade
      (fun s s' _ hs hmoves => ?_) first
    -- Records are only ever added.
    cases hmoves with
    | asks i p query next hp hplan hfree => exact Nat.lt_of_lt_of_le hs (attached_le rfl)
    | vanishes i p hp =>
        change n.record < (p.leaveBehind s.site).attached
        rw [attached_leaveBehind]
        exact hs
    | stays => exact hs
    | arrives wish => exact hs
    | flagged flag => exact hs
    | varied name value => exact hs

end Chronicle

end Imds
