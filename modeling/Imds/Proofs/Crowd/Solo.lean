import Imds.Proofs.Nic.Memory
import Imds.Proofs.Switch.Handle

/-!
# Operations One After Another as a History

A desk does one operation after another, and a crowd lets everybody take turns. The first is a
case of the second: whoever comes to a desk makes a wish, takes all the turns, and is at the
end before the next one comes. So what is known of histories is known of programs that do one
thing at a time, and, since threads agree with desks, of threads.

The one thing that has to be seen is that nobody has to wait. A party can only wait for the
listing of a record, and whoever had the right to it has given it back in the end. `IsFree`
says that the only listing that is being fetched is the one that the party itself has the right
to, and `right_of_wish` that it then asks for no other.

## Main definitions

* `Desk.wish?`: The wish that an operation is.
* `Desk.talks`: The wishes of operations one after another, with their results.
* `Site.IsFree`: Nobody else is fetching a listing.

## Theorems

* `perform_of_wish`: An operation carries its wish out.
* `ends_alone`, `carries_out`: A party that goes on alone comes to its end.
* `history_of_work`: Operations one after another are a history.
-/

namespace Imds

open Blocking (Memory)

/-! ### Operations as wishes -/

namespace Desk

/-- The wish that an operation is, if it is one. -/
def wish? (d : Desk) : Operation → Option Wish
  | .demand c D => some (.demand c D)
  | .interfaces c => some (.interfaces c)
  | .interface c mac => some (.interface c mac)
  | .question index q => d.nics[index]?.map (fun n => .question n q)
  | .setFlag _ => none
  | .setVariable _ _ => none

/-- The wishes of operations one after another, with what they came to. -/
def talks (d : Desk) : List Operation → List (Wish × Except Failure Report)
  | [] => []
  | o :: os =>
    ((d.wish? o).map (fun wish => (wish, (d.perform o).1))).toList ++ (d.perform o).2.talks os

theorem talks_append (d : Desk) (first second : List Operation) :
    d.talks (first ++ second) = d.talks first ++ (d.work first).2.talks second := by
  induction first generalizing d with
  | nil => rfl
  | cons o os ih => simp only [List.cons_append, talks, ih, work, List.append_assoc]

/-- An operation carries its wish out. -/
theorem perform_of_wish {d : Desk} {o : Operation} {wish : Wish} (h : d.wish? o = some wish) :
    (d.perform o).1 = (wish.act.run d.site).1 ∧ (d.perform o).2.site = (wish.act.run d.site).2 := by
  cases o with
  | demand c D =>
      cases h
      rw [perform, drive_eq_run]
      exact ⟨rfl, rfl⟩
  | interfaces c =>
      cases h
      rw [perform, drive_eq_run, Wish.act, run_map]
      cases (c.interfaces.run d.site).1 <;> exact ⟨rfl, rfl⟩
  | interface c mac =>
      cases h
      rw [perform, Plan.drive_eq_run, Wish.act, run_map]
      exact ⟨rfl, rfl⟩
  | question index q =>
      rcases Option.map_eq_some_iff.1 h with ⟨n, hn, rfl⟩
      rw [perform_question hn]
      exact ⟨rfl, rfl⟩
  | setFlag flag => cases h
  | setVariable name value => cases h

/-- An operation that is no wish changes what the process keeps outside, or nothing. -/
theorem perform_of_no_wish {d : Desk} {o : Operation} (h : d.wish? o = none) :
    (∃ flag, o = .setFlag flag) ∨ (∃ name value, o = .setVariable name value) ∨
      (d.perform o).2 = d := by
  cases o with
  | setFlag flag => exact Or.inl ⟨flag, rfl⟩
  | setVariable name value => exact Or.inr (Or.inl ⟨name, value, rfl⟩)
  | question index q =>
      refine Or.inr (Or.inr ?_)
      rw [perform, Option.map_eq_none_iff.1 h]
  | demand c D => cases h
  | interfaces c => cases h
  | interface c mac => cases h

/-- A question that is wished for is put to a handle that is there. -/
theorem mem_of_wish {d : Desk} {o : Operation} {n : Nic} {q : Question}
    (h : d.wish? o = some (.question n q)) : n ∈ d.nics := by
  cases o with
  | question index q' =>
      rcases Option.map_eq_some_iff.1 h with ⟨n', hn, hquestion⟩
      cases hquestion
      exact List.mem_of_getElem? hn
  | setFlag flag => cases h
  | setVariable name value => cases h
  | demand c D => cases h
  | interfaces c => cases h
  | interface c mac => cases h

end Desk

/-! ### Nobody has to wait -/

/-- The only listing that is being fetched at a site is the one that there is a right to. -/
def Site.IsFree (s : Site) (right : Option Nat) : Prop :=
  ∀ record, (s.records record).keys = none → (s.records record).busy = true →
    right = some record

section Rights

variable {s : Site} {right : Option Nat} {query : Query}

theorem isBlocked_of_isFree (h : s.IsFree right)
    (henter : ∀ record, query = .enter record → right = none) : query.isBlocked s = false := by
  cases query with
  | enter record =>
      cases hkeys : (s.records record).keys with
      | some keys => simp only [Query.isBlocked, hkeys, Option.isNone_some, Bool.false_and]
      | none =>
          cases hbusy : (s.records record).busy with
          | false => simp only [Query.isBlocked, hbusy, Bool.and_false]
          | true =>
              have hright := h record hkeys hbusy
              rw [henter record rfl] at hright
              cases hright
  | _ => rfl

/-- A query leaves the site free, if it asks for a right only when there is none, and gives
    back the one that there is. -/
theorem isFree_answer (h : s.IsFree right)
    (henter : ∀ record, query = .enter record → right = none)
    (hleave : ∀ record given, query = .leave record given → right = some record) :
    (query.answer s).2.IsFree (query.rightAfter right (query.answer s).1) := by
  intro record hkeys hbusy
  by_cases hmine : query.record? = some record
  · cases query with
    | enter r =>
        have hnone : (s.records record).keys = none :=
          (congrArg Memory.keys (memory_answer_record (s := s) hmine)).symm.trans hkeys
        cases hmine
        simp only [Query.answer, Query.rightAfter, hnone, Option.isSome_none,
          Bool.false_eq_true, if_false]
    | leave r given =>
        cases hmine
        simp only [Query.answer, Site.setRecord, updateAt_self, Bool.false_eq_true] at hbusy
    | recollect r key => exact h record hkeys hbusy
    | remember r key value =>
        cases hmine
        simp only [Query.answer, Site.setRecord, updateAt_self] at hkeys hbusy
        exact h record hkeys hbusy
    | _ => cases hmine
  · by_cases hmaking : query = .attach ∧ s.attached = record
    · rcases hmaking with ⟨rfl, rfl⟩
      simp only [Query.answer, Site.setRecord, updateAt_self] at hbusy
      cases hbusy
    · rw [records_answer_other hmine hmaking] at hkeys hbusy
      have hright := h record hkeys hbusy
      cases query with
      | enter r =>
          rw [henter r rfl] at hright
          cases hright
      | leave r given =>
          rw [hleave r given rfl] at hright
          cases hright
          exact absurd rfl hmine
      | _ => exact hright

end Rights

namespace Chronicle

variable {s : Chronicle} {i : Nat}

/-- A party that goes on alone, at a site where nobody else is fetching a listing, does what its
    plan does there, and the site is as free in the end. -/
theorem ends_alone {p : Party (Except Failure Report)} {d : List Said}
    (hp : s.party i = some p) (hfree : s.site.IsFree (rightOf d))
    (hplan : p.plan.Abides (fun d query => (∀ record, query = .enter record → rightOf d = none) ∧
      ∀ record given, query = .leave record given → rightOf d = some record)
      (fun d _ => rightOf d = none) d) :
    ∃ m p', let s' := s.after (List.replicate m (.act i))
      s'.site = (p.plan.run s.site).2 ∧ s'.wishes = s.wishes ∧ s'.party i = some p' ∧
        p'.value? = some (p.plan.run s.site).1 ∧ (∀ j, j ≠ i → s'.party j = s.party j) ∧
        s'.site.IsFree none := by
  -- On the queries that are left.
  rcases p with ⟨plan, right⟩
  induction plan generalizing s right d with
  | done value =>
      have hnone : rightOf d = none := hplan
      rw [hnone] at hfree
      exact ⟨0, _, rfl, rfl, hp, rfl, fun _ _ => rfl, hfree⟩
  | ask query next ih =>
      rcases hplan with ⟨⟨henter, hleave⟩, hnext⟩
      have htake := take_of_ask hp rfl (isBlocked_of_isFree hfree henter)
      have hp' : (s.take (.act i)).party i = some ⟨next (query.answer s.site).1,
          query.rightAfter right (query.answer s.site).1⟩ := by
        rw [htake]
        exact updateAt_self _ _ _
      have hsite : (s.take (.act i)).site = (query.answer s.site).2 := by rw [htake]; rfl
      have hfree' : (s.take (.act i)).site.IsFree
          (rightOf (d ++ [⟨query, (query.answer s.site).1⟩])) := by
        rw [hsite, rightOf_concat]
        exact isFree_answer hfree henter hleave
      rcases ih _ hfree' _ hp' (hnext _) with ⟨m, p', hrun, hwishes, hend, hvalue, hothers, hlast⟩
      rw [hsite] at hrun hvalue
      refine ⟨m + 1, p', hrun, hwishes.trans ?_, hend, hvalue, fun j hj => ?_, hlast⟩
      · rw [htake]
      · refine (hothers j hj).trans ?_
        rw [htake]
        exact updateAt_of_ne _ _ hj

/-- Whoever comes when nobody is fetching a listing, and takes all the turns, carries the wish
    out. -/
theorem carries_out (hsound : s.Sound) (hfree : s.site.IsFree none) (wish : Wish)
    (waiting : Manner) :
    ∃ m p, let s' := s.after (.arrive wish waiting :: List.replicate m (.act s.wishes.length))
      s'.site = (wish.act.run s.site).2 ∧ s'.wishes = s.wishes ++ [wish] ∧
        s'.party s.wishes.length = some p ∧ p.value? = some (wish.act.run s.site).1 ∧
        (∀ j, j ≠ s.wishes.length → s'.party j = s.party j) ∧ s'.site.IsFree none := by
  have hsite : (s.take (.arrive wish waiting)).site = s.site := by
    rw [hsound.take_arrive]
    rfl
  have hnew : (s.take (.arrive wish waiting)).party s.wishes.length =
      some (.ofPlan wish.plan) := by
    rw [hsound.take_arrive]
    exact updateAt_self _ _ _
  rcases ends_alone (d := []) hnew (by rw [hsite]; exact hfree) (right_of_wish wish) with
    ⟨m, p, hrun, hwishes, hp, hvalue, hothers, hlast⟩
  rw [hsite] at hrun hvalue
  refine ⟨m, p, hrun, hwishes.trans ?_, hp, hvalue, fun j hj => (hothers j hj).trans ?_, hlast⟩
  · rw [hsound.take_arrive]
  · rw [hsound.take_arrive]
    exact updateAt_of_ne _ _ hj

end Chronicle

/-! ### Histories -/

open Chronicle

/-- A history tells what happens at a desk in the course of operations: the site comes to be the
    same, the wishes are made and come to what the operations give, everybody comes when the
    operations before are over, and in the end nobody is fetching a listing. -/
structure Desk.IsToldBy (d : Desk) (os : List Operation) (events : List Happening) : Prop where
  site : ((ofSite d.site).after events).site = (d.work os).2.site
  wishes : ((ofSite d.site).after events).wishes = (d.talks os).map Prod.fst
  values : ∀ i talk, (d.talks os)[i]? = some talk →
    ∃ p, ((ofSite d.site).after events).party i = some p ∧ p.value? = some talk.2
  arrivals : ∀ first wish waiting rest, events = first ++ .arrive wish waiting :: rest →
    ∃ done o more, os = done ++ o :: more ∧
      ((ofSite d.site).after first).site = (d.work done).2.site ∧
      (d.work done).2.wish? o = some wish
  free : ((ofSite d.site).after events).site.IsFree none

section Work

variable {d : Desk} {os : List Operation} {events : List Happening}

theorem work_concat (d : Desk) (os : List Operation) (o : Operation) :
    (d.work (os ++ [o])).2 = ((d.work os).2.perform o).2 := by
  rw [Desk.work_append]
  rfl

-- Where somebody comes in a longer history.
theorem arrival_append {more first rest : List Happening} {wish : Wish} {waiting : Manner}
    (h : events ++ more = first ++ .arrive wish waiting :: rest) :
    (∃ before, events = first ++ .arrive wish waiting :: before) ∨
      ∃ before, first = events ++ before ∧ more = before ++ .arrive wish waiting :: rest := by
  rcases List.append_eq_append_iff.1 h with ⟨before, hfirst, hmore⟩ | ⟨before, hevents, hrest⟩
  · exact Or.inr ⟨before, hfirst, hmore⟩
  · cases before with
    | nil =>
        refine Or.inr ⟨[], ?_, hrest.symm⟩
        rw [hevents, List.append_nil, List.append_nil]
    | cons e before =>
        cases hrest
        exact Or.inl ⟨before, hevents⟩

-- Where somebody comes and takes all the turns, nobody comes after.
theorem arrival_turns {first rest : List Happening} {wish wish' : Wish}
    {waiting waiting' : Manner} {m i : Nat}
    (h : events ++ .arrive wish waiting :: List.replicate m (.act i) =
      first ++ .arrive wish' waiting' :: rest) :
    (∃ before, events = first ++ .arrive wish' waiting' :: before) ∨
      (first = events ∧ wish' = wish) := by
  refine (arrival_append h).imp_right ?_
  rintro ⟨before, rfl, hsplit⟩
  cases before with
  | nil =>
      cases hsplit
      exact ⟨List.append_nil _, rfl⟩
  | cons e before =>
      injection hsplit with _ hturns
      have hturn : Happening.arrive wish' waiting' ∈ List.replicate m (.act i) := by
        rw [hturns]
        exact List.mem_append_right _ List.mem_cons_self
      cases List.eq_of_mem_replicate hturn

-- An operation that is no wish happens at once.
theorem Desk.IsToldBy.concat (h : d.IsToldBy os events) {o : Operation} {more : List Happening}
    (hwish : (d.work os).2.wish? o = none) (hmore : ∀ wish waiting, .arrive wish waiting ∉ more)
    (hsite : (((ofSite d.site).after events).after more).site = ((d.work os).2.perform o).2.site)
    (hsame : ∀ s : Chronicle, (s.after more).wishes = s.wishes ∧ (s.after more).party = s.party)
    (hfree : (((ofSite d.site).after events).after more).site.IsFree none) :
    d.IsToldBy (os ++ [o]) (events ++ more) := by
  have htalks : d.talks (os ++ [o]) = d.talks os := by
    rw [Desk.talks_append]
    simp only [Desk.talks, hwish, Option.map_none, Option.toList_none, List.append_nil]
  refine ⟨?_, ?_, fun i talk htalk => ?_, fun first wish waiting rest hfirst => ?_, ?_⟩
  · rw [after_append, work_concat]
    exact hsite
  · rw [after_append, (hsame _).1, htalks]
    exact h.wishes
  · rw [after_append, (hsame _).2]
    exact h.values i talk (htalks ▸ htalk)
  · rcases arrival_append hfirst with ⟨before, hevents⟩ | ⟨before, -, hsplit⟩
    · rcases h.arrivals first wish waiting before hevents with ⟨done, o', later, hos, hrest⟩
      exact ⟨done, o', later ++ [o], by rw [hos, List.append_assoc]; rfl, hrest⟩
    · refine absurd ?_ (hmore wish waiting)
      rw [hsplit]
      exact List.mem_append_right _ List.mem_cons_self
  · rw [after_append]
    exact hfree

-- An operation that is a wish takes all the turns to its end.
theorem Desk.IsToldBy.wish (h : d.IsToldBy os events) {o : Operation} {wish : Wish}
    (hwish : (d.work os).2.wish? o = some wish) (waiting : Manner) :
    ∃ more, d.IsToldBy (os ++ [o]) (events ++ more) := by
  rcases Desk.perform_of_wish hwish with ⟨hresult, hperform⟩
  have htalks : d.talks (os ++ [o]) = d.talks os ++ [(wish, ((d.work os).2.perform o).1)] := by
    rw [Desk.talks_append]
    simp only [Desk.talks, hwish, Option.map_some, Option.toList_some, List.append_nil]
  have hlength : (d.talks os).length = ((ofSite d.site).after events).wishes.length := by
    rw [h.wishes, List.length_map]
  rcases carries_out (sound_of_history d.site events) h.free wish waiting with
    ⟨m, p, hrun, hwishes, hp, hvalue, hothers, hlast⟩
  rw [h.site] at hrun hvalue
  refine ⟨.arrive wish waiting ::
      List.replicate m (.act ((ofSite d.site).after events).wishes.length),
    ?_, ?_, fun i talk htalk => ?_, fun first wish' waiting' rest hfirst => ?_, ?_⟩
  · rw [after_append, work_concat, hperform]
    exact hrun
  · rw [after_append, htalks, List.map_append, ← h.wishes]
    exact hwishes
  · rw [after_append]
    rw [htalks] at htalk
    by_cases hi : i = ((ofSite d.site).after events).wishes.length
    · rw [hi, ← hlength, List.getElem?_concat_length] at htalk
      cases htalk
      rw [hi, hresult]
      exact ⟨p, hp, hvalue⟩
    · have hlt : i < (d.talks os).length := by
        have hbound := (List.getElem?_eq_some_iff.1 htalk).1
        rw [List.length_append, List.length_singleton] at hbound
        omega
      rw [List.getElem?_append_left hlt] at htalk
      rcases h.values i talk htalk with ⟨p', hp', hvalue'⟩
      exact ⟨p', (hothers i hi).trans hp', hvalue'⟩
  · rcases arrival_turns hfirst with ⟨before, hevents⟩ | ⟨rfl, rfl⟩
    · rcases h.arrivals first wish' waiting' before hevents with ⟨done, o', later, hos, hrest⟩
      exact ⟨done, o', later ++ [o], by rw [hos, List.append_assoc]; rfl, hrest⟩
    · exact ⟨os, o, [], rfl, h.site, hwish⟩
  · rw [after_append]
    exact hlast

theorem Desk.IsToldBy.perform (h : d.IsToldBy os events) (o : Operation) (waiting : Manner) :
    ∃ more, d.IsToldBy (os ++ [o]) (events ++ more) := by
  cases hwish : (d.work os).2.wish? o with
  | some wish => exact h.wish hwish waiting
  | none =>
      rcases Desk.perform_of_no_wish hwish with ⟨flag, rfl⟩ | ⟨name, value, rfl⟩ | hsame
      · refine ⟨[.setFlag flag], h.concat hwish (by simp) ?_ (fun s => ?_) h.free⟩
        · exact congrArg (fun s => s.setFlag flag) h.site
        · exact ⟨List.append_nil _, rfl⟩
      · refine ⟨[.setVariable name value], h.concat hwish (by simp) ?_ (fun s => ?_) h.free⟩
        · exact congrArg (fun s => s.setVariable name value) h.site
        · exact ⟨List.append_nil _, rfl⟩
      · refine ⟨[], h.concat hwish nofun ?_ (fun s => ⟨rfl, rfl⟩) h.free⟩
        rw [hsame]
        exact h.site

/-- Operations one after another, at a desk where nobody is fetching a listing, are a history
    in which everybody takes all the turns. -/
theorem history_of_work (d : Desk) (hfree : d.site.IsFree none) (os : List Operation) :
    ∃ events, d.IsToldBy os events := by
  suffices hrun : ∀ rest done events, d.IsToldBy done events →
      ∃ events, d.IsToldBy (done ++ rest) events from
    hrun os [] [] ⟨rfl, rfl, fun i talk h => by simp [Desk.talks] at h,
      fun first wish waiting rest h => by simp at h, hfree⟩
  -- On what is still to be done.
  intro rest
  induction rest with
  | nil => exact fun done events h => ⟨events, by rwa [List.append_nil]⟩
  | cons o rest ih =>
      intro done events h
      rcases h.perform o .task with ⟨more, hmore⟩
      rcases ih _ _ hmore with ⟨events', hend⟩
      exact ⟨events', by rwa [List.append_assoc] at hend⟩

end Work

end Imds
