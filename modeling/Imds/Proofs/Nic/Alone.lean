import Imds.Proofs.Crowd.Solo
import Imds.Proofs.Nic.Record

/-!
# A Handle That Is Asked One Question After Another

Where nobody else is at the site, what a question is told is what the handle keeps, and what
the handle keeps in the end is what the question made of it. `Accounts` is this, query by
query: a value is remembered only by a question that was told that it is not, so that nothing
that was known before is lost.

A value that is known, because it is remembered or because its key is not listed, is therefore
the same for ever, and a question for it gives it without a request.

A program has its handles from operations that make them, each with a record that nobody else
has. So in the history that tells what the program does they are used as handles should be.

## Main definitions

* `Accounts`: What a dialogue was told of a memory, and made of it.
* `Site.Knows`: A value is known at a site.
* `Apart`, `Desk.Owns`: Handles with records of their own.

## Theorems

* `accounts_question`: A question that is carried out.
* `value?_lasts`, `value?_of_ends`: What is known stays known, and what was answered is known.
* `knows_perform`, `knows_work`: Operations leave what is known as it is.
* `same_answer`: An answered question for a value is answered alike for ever.
* `values_of_failure`: A question that fails leaves the values as they were.
* `isUsed_of_work`: A program uses the handles that it makes.
-/

namespace Imds

open Blocking (Memory)

/-- What a dialogue was told of what is known of an interface, and what it made of it. -/
structure Accounts (record : Nat) (start : Memory) (d : List Said) (m : Memory) : Prop where
  keys : ∀ keys, start.keys = some keys → m.keys = some keys
  told : ∀ keys, Told record keys d → m.keys = some keys
  right : rightOf d = some record → m.keys = none
  recalled : ∀ key known, ⟨.recollect record key, known⟩ ∈ d → start.values.get? key = known
  same : Unkept d → m.values = start.values
  kept : ∀ r key value, ⟨.remember r key value, ()⟩ ∈ d → start.values.get? key = none ∧
    m.values = start.values.insert key value ∧ ∃ keys, m.keys = some keys ∧ key ∈ keys

section Dialogues

variable {record : Nat} {start m : Memory} {d : List Said} {n : Nic} {q : Question} {s : Site}

theorem accounts_nil (record : Nat) (m : Memory) : Accounts record m [] m where
  keys := fun _ h => h
  told := by rintro keys (hx | hx) <;> cases hx
  right := nofun
  recalled := nofun
  same := fun _ => rfl
  kept := nofun

theorem record?_of_told {x : Said} {keys : List String} (h : Told record keys [x]) :
    x.query.record? = some record := by
  rcases h with hx | hx
  · rw [← List.mem_singleton.1 hx]
    rfl
  · rw [← List.mem_singleton.1 hx]
    rfl

-- A query that changes no value, with its answer.
theorem Accounts.concat (h : Accounts record start d m) {x : Said} {m' : Memory}
    (hunkept : Unkept d) (hvalues : m'.values = m.values)
    (hkeys : ∀ keys, m.keys = some keys → m'.keys = some keys)
    (htold : ∀ keys, Told record keys [x] → m'.keys = some keys)
    (hright : rightOf (d ++ [x]) = some record → m'.keys = none)
    (hrecalled : ∀ key known, x = ⟨.recollect record key, known⟩ → m.values.get? key = known)
    (hx : ∀ r key value, x.query ≠ .remember r key value) :
    Accounts record start (d ++ [x]) m' := by
  have hsame : m.values = start.values := h.same hunkept
  refine ⟨fun keys hstart => hkeys keys (h.keys keys hstart), fun keys hd => ?_, hright,
    fun key known hmem => ?_, fun _ => hvalues.trans hsame, fun r key value hmem => ?_⟩
  · have hsplit : Told record keys d ∨ Told record keys [x] := by
      rcases hd with hd | hd
      · exact (List.mem_append.1 hd).imp Or.inl Or.inl
      · exact (List.mem_append.1 hd).imp Or.inr Or.inr
    exact hsplit.elim (fun hd => hkeys keys (h.told keys hd)) (htold keys)
  · rcases List.mem_append.1 hmem with hmem | hmem
    · exact h.recalled key known hmem
    · rw [← hsame]
      exact hrecalled key known (List.mem_singleton.1 hmem).symm
  · rcases List.mem_append.1 hmem with hmem | hmem
    · exact absurd rfl (hunkept _ hmem r key value)
    · exact absurd (congrArg Said.query (List.mem_singleton.1 hmem)).symm (hx r key value)

theorem Accounts.enter (h : Accounts n.record start d (s.records n.record).memory)
    (hmay : n.May q d (.enter n.record)) :
    Accounts n.record start (d ++ [⟨.enter n.record, ((Query.enter n.record).answer s).1⟩])
      (((Query.enter n.record).answer s).2.records n.record).memory := by
  rw [memory_answer_record rfl]
  refine h.concat hmay.unkept rfl (fun _ hkeys => hkeys) ?_ (fun hheld => ?_) nofun nofun
  · rintro keys (hx | hx)
    · injection List.mem_singleton.1 hx with _ hknown
      exact hknown.symm
    · cases List.mem_singleton.1 hx
  · rw [rightOf_concat, hmay.enter _ rfl] at hheld
    cases hkeys : (s.records n.record).keys with
    | none => exact hkeys
    | some keys =>
        simp only [Query.answer, Query.rightAfter, hkeys, Option.isSome_some, if_true] at hheld
        cases hheld

-- Keys are left behind only where there were none.
theorem Accounts.leave {given : Option (List String)}
    (h : Accounts n.record start d (s.records n.record).memory)
    (hmay : n.May q d (.leave n.record given)) :
    Accounts n.record start
      (d ++ [⟨.leave n.record given, ((Query.leave n.record given).answer s).1⟩])
      (((Query.leave n.record given).answer s).2.records n.record).memory := by
  rw [memory_answer_record rfl]
  have hnone := h.right (hmay.leave _ _ rfl).1
  have hgiven : ((s.records n.record).memory.hear n.record
      ⟨.leave n.record given, ((Query.leave n.record given).answer s).1⟩).keys = given := by
    simp only [Memory.hear, if_true, hnone, Option.or_none]
  refine h.concat hmay.unkept (by simp only [Memory.hear, if_true]) ?_ ?_ ?_
    (fun key' known hx => by cases hx) (fun r key' value' hx => by cases hx)
  · intro keys hkeys
    rw [hnone] at hkeys
    cases hkeys
  · rintro keys (hx | hx)
    · cases List.mem_singleton.1 hx
    · cases List.mem_singleton.1 hx
      exact hgiven
  · intro hheld
    rw [rightOf_concat] at hheld
    cases hheld

theorem Accounts.recollect {key : String}
    (h : Accounts n.record start d (s.records n.record).memory)
    (hmay : n.May q d (.recollect n.record key)) :
    Accounts n.record start
      (d ++ [⟨.recollect n.record key, ((Query.recollect n.record key).answer s).1⟩])
      (((Query.recollect n.record key).answer s).2.records n.record).memory := by
  rw [memory_answer_record rfl]
  refine h.concat hmay.unkept rfl (fun _ hkeys => hkeys) ?_ (fun hheld => ?_) ?_ nofun
  · rintro keys (hx | hx) <;> cases List.mem_singleton.1 hx
  · rw [rightOf_concat] at hheld
    exact h.right hheld
  · intro key' known hx
    injection hx with hquery hknown
    cases hquery
    exact hknown

-- A value is remembered by a question that was told that it is not, and of a listed key.
theorem Accounts.remember {key : String} {value : Option String}
    (h : Accounts n.record start d (s.records n.record).memory)
    (hmay : n.May q d (.remember n.record key value)) :
    Accounts n.record start
      (d ++ [⟨.remember n.record key value, ((Query.remember n.record key value).answer s).1⟩])
      (((Query.remember n.record key value).answer s).2.records n.record).memory := by
  rcases hmay.remember _ _ _ rfl with ⟨hkey, ⟨keys, htold, hlisted⟩, -⟩
  have hmemory : (s.records n.record).memory.hear n.record
      ⟨.remember n.record key value, ((Query.remember n.record key value).answer s).1⟩ =
        { (s.records n.record).memory with
          values := (s.records n.record).memory.values.insert key value } := by
    simp only [Memory.hear, if_true]
  have hnone : start.values.get? key = none :=
    h.recalled key none ((hmay.asked key hkey).resolve_left (fun hquery => by cases hquery))
  have htold' : ∀ keys', Told n.record keys' (d ++ [⟨.remember n.record key value,
      ((Query.remember n.record key value).answer s).1⟩]) → Told n.record keys' d :=
    fun keys' hd => hd.of_concat (fun hx => by cases hx) (fun hx => by cases hx)
  rw [memory_answer_record rfl, hmemory]
  refine ⟨h.keys, fun keys' hd => h.told keys' (htold' keys' hd), fun hheld => h.right ?_,
    fun key' known hx => h.recalled key' known ?_, fun hunkept => ?_, ?_⟩
  · rw [rightOf_concat] at hheld
    exact hheld
  · exact (List.mem_append.1 hx).resolve_right (fun hx => by cases List.mem_singleton.1 hx)
  · exact absurd rfl (hunkept _ (List.mem_append_right _ List.mem_cons_self) _ _ _)
  · intro r key' value' hx
    rcases List.mem_append.1 hx with hx | hx
    · exact absurd rfl (hmay.unkept _ hx _ _ _)
    · injection List.mem_singleton.1 hx with hquery
      cases hquery
      exact ⟨hnone, by rw [h.same hmay.unkept], keys, h.told keys htold, hlisted⟩

-- A query that is about no record tells nothing of this one, and changes nothing of it.
theorem Accounts.elsewhere (h : Accounts n.record start d (s.records n.record).memory)
    {query : Query} (hmay : n.May q d query) (hmade : n.record < s.attached)
    (hnone : query.record? = none) :
    Accounts n.record start (d ++ [⟨query, (query.answer s).1⟩])
      ((query.answer s).2.records n.record).memory := by
  have hother : query.record? ≠ some n.record := by
    rw [hnone]
    nofun
  rw [records_answer_other hother (fun hmaking => Nat.ne_of_lt hmade hmaking.2.symm)]
  refine h.concat hmay.unkept rfl (fun _ hkeys => hkeys) ?_ (fun hheld => h.right ?_) ?_ ?_
  · intro keys htold
    rw [record?_of_told htold] at hnone
    cases hnone
  · rw [← rightAfter_of_no_record hnone (rightOf d) (query.answer s).1]
    exact (rightOf_concat d _).symm.trans hheld
  · intro key known hx
    cases hx
    cases hnone
  · rintro r key value rfl
    cases hnone

/-- A query that a question may put is answered with what is known, and accounts for what it
    changes. -/
theorem Accounts.answer (h : Accounts n.record start d (s.records n.record).memory)
    {query : Query} (hmay : n.May q d query) (hmade : n.record < s.attached) :
    Accounts n.record start (d ++ [⟨query, (query.answer s).1⟩])
      ((query.answer s).2.records n.record).memory := by
  cases query with
  | enter record =>
      cases hmay.own record rfl
      exact h.enter hmay
  | leave record given =>
      cases hmay.own record rfl
      exact h.leave hmay
  | recollect record key =>
      cases hmay.own record rfl
      exact h.recollect hmay
  | remember record key value =>
      cases hmay.own record rfl
      exact h.remember hmay
  | _ => exact h.elsewhere hmay hmade rfl

/-- A question that is carried out ends as questions do, and its dialogue accounts for what is
    known. -/
theorem accounts_question (n : Nic) (q : Question) (hmade : n.record < s.attached) :
    ∃ d, n.Ends q d ((q.act n).run s).1 ∧ Accounts n.record (s.records n.record).memory d
        (((q.act n).run s).2.records n.record).memory ∧
      n.record < ((q.act n).run s).2.attached := by
  refine (n.abides_question q).run_carries (P := fun d s' => Accounts n.record
    (s.records n.record).memory d (s'.records n.record).memory ∧ n.record < s'.attached)
    (fun d s' query hmay ⟨haccounts, hmade⟩ => ⟨haccounts.answer hmay hmade, ?_⟩)
    ⟨accounts_nil _ _, hmade⟩
  rcases attached_answer s' query with hsame | ⟨-, hsucc⟩ <;> omega

/-! ### What is known -/

variable {key : String} {value : Option String}

theorem exists_of_kept (h : ¬ Unkept d) :
    ∃ record key value, ⟨.remember record key value, ()⟩ ∈ d := by
  refine Classical.byContradiction (fun hnone => h (fun x hx record key value hquery => ?_))
  rcases x with ⟨query, answer⟩
  have hquery : query = .remember record key value := hquery
  subst hquery
  exact hnone ⟨record, key, value, hx⟩

/-- A value that is known stays known. -/
theorem value?_lasts (h : Accounts record start d m) (hvalue : start.value? key = some value) :
    m.value? key = some value := by
  rcases Memory.value?_eq_some.1 hvalue with hkept | ⟨hnone, rfl, keys, hkeys, hmissing⟩
  · refine Memory.value?_eq_some.2 (Or.inl ?_)
    by_cases hunkept : Unkept d
    · rw [h.same hunkept]
      exact hkept
    · rcases exists_of_kept hunkept with ⟨r, key', value', hx⟩
      rcases h.kept r key' value' hx with ⟨hfree, hvalues, -⟩
      have hne : key' ≠ key := by
        rintro rfl
        rw [hkept] at hfree
        cases hfree
      rw [hvalues, Table.get?_insert_of_ne _ _ hne]
      exact hkept
  · refine Memory.value?_eq_some.2 (Or.inr ⟨?_, rfl, keys, h.keys keys hkeys, hmissing⟩)
    by_cases hunkept : Unkept d
    · rw [h.same hunkept]
      exact hnone
    · rcases exists_of_kept hunkept with ⟨r, key', value', hx⟩
      rcases h.kept r key' value' hx with ⟨-, hvalues, keys', hkeys', hlisted⟩
      have hne : key' ≠ key := by
        rintro rfl
        rw [h.keys keys hkeys] at hkeys'
        cases hkeys'
        exact hmissing hlisted
      rw [hvalues, Table.get?_insert_of_ne _ _ hne]
      exact hnone

/-- What was answered is known. -/
theorem value?_of_ends {report : Report} (h : Accounts n.record start d m)
    (hends : n.Ends q d (.ok report)) (hkey : q.valueKey? = some key) :
    ∃ value, report = .text value ∧ m.value? key = some value := by
  rcases hends.value key report hkey rfl with ⟨value, rfl, hvalued⟩
  refine ⟨value, rfl, Memory.value?_eq_some.2 ?_⟩
  cases hvalued with
  | known =>
      rw [h.same (unkept_nil.concat (d := []) nofun)]
      exact Or.inl (h.recalled key _ List.mem_cons_self)
  | unlisted _ keys hunkept hasked htold hmissing hnone =>
      refine Or.inr ⟨?_, hnone, keys, h.told keys htold, hmissing⟩
      rw [h.same hunkept]
      exact h.recalled key _ hasked
  | fetched before keys htold hlisted hbrought =>
      refine Or.inl ?_
      rw [(h.kept _ _ _ (List.mem_append_right _ List.mem_cons_self)).2.1]
      exact Table.get?_insert_self _ _ _

end Dialogues

/-! ### Operations -/

/-- At a site a record was made, and the value of a key is known from it. -/
def Site.Knows (s : Site) (record : Nat) (key : String) (value : Option String) : Prop :=
  record < s.attached ∧ (s.records record).memory.value? key = some value

section Operations

variable {n : Nic} {q q' : Question} {s : Site} {d : Desk} {record : Nat} {key : String}
variable {value : Option String}

theorem knows_answer (h : s.Knows record key value) {query : Query}
    (hother : query.record? ≠ some record) : (query.answer s).2.Knows record key value := by
  rcases h with ⟨hmade, hvalue⟩
  refine ⟨?_, ?_⟩
  · rcases attached_answer s query with hsame | ⟨-, hsucc⟩ <;> omega
  · rw [records_answer_other hother (fun hmaking => Nat.ne_of_lt hmade hmaking.2.symm)]
    exact hvalue

/-- Whatever is wished for, a value that is known stays known. -/
theorem knows_run (h : s.Knows record key value) (wish : Wish) :
    (wish.act.run s).2.Knows record key value := by
  by_cases hmine : wish.record? = some record
  · cases wish with
    | question n q =>
        cases hmine
        rcases accounts_question n q h.1 with ⟨d, -, haccounts, hmade⟩
        exact ⟨hmade, value?_lasts haccounts h.2⟩
    | _ => cases hmine
  · refine Plan.Abides.run_preserves (own_of_wish wish)
      (P := fun s' => s'.Knows record key value) (fun s' query hown hs => knows_answer hs ?_) h
    exact fun hrecord => hmine (hown record hrecord)

theorem knows_perform (h : d.site.Knows record key value) (o : Operation) :
    (d.perform o).2.site.Knows record key value := by
  cases hwish : d.wish? o with
  | some wish =>
      rw [(Desk.perform_of_wish hwish).2]
      exact knows_run h wish
  | none =>
      rcases Desk.perform_of_no_wish hwish with ⟨flag, rfl⟩ | ⟨name, value', rfl⟩ | hsame
      · exact h
      · exact h
      · rw [hsame]
        exact h

theorem knows_work (h : d.site.Knows record key value) (os : List Operation) :
    (d.work os).2.site.Knows record key value := by
  induction os generalizing d with
  | nil => exact h
  | cons o os ih => exact ih (knows_perform h o)

-- Handles are only ever added.
theorem nics_perform (d : Desk) (o : Operation) : d.nics <+: (d.perform o).2.nics := by
  cases o with
  | interfaces c =>
      rw [Desk.perform]
      rcases hdrive : d.drive c.interfaces with ⟨result, after⟩
      have hnics : after.nics = d.nics :=
        (congrArg (fun x => x.2.nics) hdrive).symm
      cases result with
      | ok nics =>
          simp only [Desk.add, hnics]
          exact List.prefix_append _ _
      | error failure =>
          simp only [hnics]
          exact List.prefix_refl _
  | interface c mac => exact List.prefix_append _ _
  | question index q =>
      rw [Desk.perform]
      split <;> exact List.prefix_refl _
  | _ => exact List.prefix_refl _

theorem nics_work (d : Desk) (os : List Operation) : d.nics <+: (d.work os).2.nics := by
  induction os generalizing d with
  | nil => exact List.prefix_refl _
  | cons o os ih => exact (nics_perform d o).trans (ih _)

/-- A question for a value that is known is answered with it, and changes nothing. -/
theorem value_of_known (h : (s.records n.record).memory.value? key = some value) :
    (n.value key).run s = (.ok value, s) := by
  have hrecollect : (liftM (Plan.recollect n.record key) : Act (Option (Option String))).run s =
      (.ok ((s.records n.record).remembered.get? key), s) := rfl
  rw [Nic.value, run_bind_ok hrecollect]
  rcases Memory.value?_eq_some.1 h with hkept | ⟨hnone, rfl, keys, hkeys, hmissing⟩
  · rw [show (s.records n.record).remembered.get? key = _ from hkept]
    rfl
  · rw [show (s.records n.record).remembered.get? key = _ from hnone]
    simp only
    rw [run_bind_ok (availableKeys_of_known hkeys)]
    simp only [if_neg hmissing]
    rfl

theorem act_of_valueKey (h : q.valueKey? = some key) : q.act n = Report.text <$> n.value key := by
  cases q <;> cases h <;> rfl

/-- A question for a value that was answered is answered in the same way for ever. Nothing is
    changed by that. -/
theorem same_answer {index : Nat} {report : Report} (hn : d.nics[index]? = some n)
    (hmade : n.record < d.site.attached) (hkey : q.valueKey? = some key)
    (hkey' : q'.valueKey? = some key) (hok : (d.perform (.question index q)).1 = .ok report)
    (os : List Operation) :
    let last := ((d.perform (.question index q)).2.work os).2
    last.perform (.question index q') = (.ok report, last) := by
  intro last
  rcases accounts_question n q hmade with ⟨dialogue, hends, haccounts, hmade'⟩
  have hperform := perform_question hn q
  rw [hperform] at hok
  rw [show ((q.act n).run d.site).1 = _ from hok] at hends
  rcases value?_of_ends haccounts hends hkey with ⟨value, rfl, hvalue⟩
  have hknows : (d.perform (.question index q)).2.site.Knows n.record key value := by
    rw [hperform]
    exact ⟨hmade', hvalue⟩
  have hnics : last.nics[index]? = some n := by
    rcases (nics_perform d (.question index q)).trans (nics_work _ os) with ⟨more, hmore⟩
    rw [← hmore, List.getElem?_append_left (List.getElem?_eq_some_iff.1 hn).1]
    exact hn
  rw [perform_question hnics, act_of_valueKey hkey', run_map,
    value_of_known (knows_work hknows os).2]
  rfl

/-- A question that fails leaves the values that are remembered as they were. -/
theorem values_of_failure {index : Nat} {f : Failure} (hn : d.nics[index]? = some n)
    (hmade : n.record < d.site.attached) (hfailed : (d.perform (.question index q)).1 = .error f) :
    ((d.perform (.question index q)).2.site.records n.record).remembered =
      (d.site.records n.record).remembered := by
  rcases accounts_question n q hmade with ⟨dialogue, hends, haccounts, -⟩
  rw [perform_question hn] at hfailed ⊢
  exact haccounts.same (hends.failed f hfailed).1

end Operations

/-! ### The handles of a program -/

/-- No two handles have the same record. -/
def Apart (nics : List Nic) : Prop := ∀ n ∈ nics, ∀ m ∈ nics, n.record = m.record → n = m

/-- The handles at a desk have records of their own, which were made there. -/
structure Desk.Owns (d : Desk) : Prop where
  made : ∀ n ∈ d.nics, n.record < d.site.attached
  apart : Apart d.nics

section Ownership

variable {d : Desk}

theorem apart_append {first second : List Nic} (bound : Nat) (hfirst : Apart first)
    (hsecond : Apart second) (hbelow : ∀ n ∈ first, n.record < bound)
    (habove : ∀ n ∈ second, bound ≤ n.record) : Apart (first ++ second) := by
  intro n hn m hm hrecord
  rcases List.mem_append.1 hn with hn | hn <;> rcases List.mem_append.1 hm with hm | hm
  · exact hfirst n hn m hm hrecord
  · exact absurd hrecord (Nat.ne_of_lt (Nat.lt_of_lt_of_le (hbelow n hn) (habove m hm)))
  · exact absurd hrecord.symm (Nat.ne_of_lt (Nat.lt_of_lt_of_le (hbelow m hm) (habove n hn)))
  · exact hsecond n hn m hm hrecord

theorem attached_run {α : Type} (p : Plan α) (s : Site) : s.attached ≤ (p.run s).2.attached := by
  induction p generalizing s with
  | done value => exact Nat.le_refl _
  | ask query next ih =>
      refine Nat.le_trans ?_ (ih _ _)
      rcases attached_answer s query with hsame | ⟨-, hsucc⟩ <;> omega

/-- Handles that are made get new records, one after the other. -/
theorem run_mapM_ofMac (c : Client) (macs : List String) (s : Site) :
    ∃ nics s', (macs.mapM (fun mac => (Nic.ofMac c mac : Plan Nic)) : Act (List Nic)).run s =
        (.ok nics, s') ∧
      s.attached ≤ s'.attached ∧ Apart nics ∧
      ∀ n ∈ nics, s.attached ≤ n.record ∧ n.record < s'.attached := by
  induction macs generalizing s with
  | nil => exact ⟨[], s, rfl, Nat.le_refl _, nofun, nofun⟩
  | cons mac macs ih =>
      rcases ih (Query.attach.answer s).2 with ⟨nics, s', hrun, hle, hapart, hnics⟩
      have hsucc : s.attached + 1 ≤ s'.attached := hle
      have hmade : (liftM (Nic.ofMac c mac) : Act Nic).run s =
          (.ok ⟨c, mac, s.attached⟩, (Query.attach.answer s).2) := rfl
      refine ⟨⟨c, mac, s.attached⟩ :: nics, s', ?_, Nat.le_of_succ_le hsucc, ?_, ?_⟩
      · rw [List.mapM_cons, run_bind_ok hmade, run_bind_ok hrun]
        rfl
      · change Apart ([_] ++ nics)
        refine apart_append (s.attached + 1) ?_ hapart ?_ (fun n hn => (hnics n hn).1)
        · intro n hn m hm _
          rw [List.mem_singleton.1 hn, List.mem_singleton.1 hm]
        · intro n hn
          rw [List.mem_singleton.1 hn]
          exact Nat.lt_succ_self _
      · intro n hn
        rcases List.mem_cons.1 hn with rfl | hn
        · exact ⟨Nat.le_refl _, hsucc⟩
        · exact ⟨Nat.le_of_succ_le (hnics n hn).1, (hnics n hn).2⟩

-- Handles that are there keep their records, whatever becomes of the site.
theorem Desk.Owns.mono (h : d.Owns) {s : Site} (hle : d.site.attached ≤ s.attached) :
    Desk.Owns { d with site := s } :=
  ⟨fun n hn => Nat.lt_of_lt_of_le (h.made n hn) hle, h.apart⟩

-- Handles that are made have records that nobody had.
theorem Desk.Owns.add (h : d.Owns) {s : Site} {nics : List Nic}
    (hle : d.site.attached ≤ s.attached) (hapart : Apart nics)
    (hnics : ∀ n ∈ nics, d.site.attached ≤ n.record ∧ n.record < s.attached) :
    Desk.Owns ⟨s, d.nics ++ nics⟩ where
  made := by
    intro n hn
    rcases List.mem_append.1 hn with hn | hn
    · exact Nat.lt_of_lt_of_le (h.made n hn) hle
    · exact (hnics n hn).2
  apart := apart_append d.site.attached h.apart hapart h.made (fun n hn => (hnics n hn).1)

theorem owns_perform (h : d.Owns) (o : Operation) : (d.perform o).2.Owns := by
  have hdrive : ∀ {α : Type} (a : Act α), (d.drive a).2.Owns := by
    intro α a
    rw [Desk.drive_eq_run]
    exact h.mono (attached_run _ _)
  cases o with
  | demand c D => exact hdrive _
  | interfaces c =>
      rw [Desk.perform, Desk.drive_eq_run, Client.interfaces]
      rcases hlisting : (c.listing .interfaceMacs).run d.site with ⟨result, s⟩
      have hle : d.site.attached ≤ s.attached := by
        have hrun := attached_run (c.listing .interfaceMacs).outcome d.site
        rwa [show Plan.run _ d.site = _ from hlisting] at hrun
      cases result with
      | error failure =>
          rw [run_bind_error hlisting]
          exact h.mono hle
      | ok lines =>
          rcases run_mapM_ofMac c (macsOfLines lines) s with ⟨nics, s', hrun, hle', hapart, hnics⟩
          rw [run_bind_ok hlisting, hrun]
          exact h.add (Nat.le_trans hle hle') hapart
            (fun n hn => ⟨Nat.le_trans hle (hnics n hn).1, (hnics n hn).2⟩)
  | interface c mac =>
      rw [Desk.perform, Plan.drive_eq_run]
      refine h.add (s := (Query.attach.answer d.site).2) (Nat.le_succ _) ?_ ?_
      · intro n hn m hm _
        rw [List.mem_singleton.1 hn, List.mem_singleton.1 hm]
      · intro n hn
        rw [List.mem_singleton.1 hn]
        exact ⟨Nat.le_refl _, Nat.lt_succ_self _⟩
  | question index q =>
      rw [Desk.perform]
      split
      · exact hdrive _
      · exact h
  | setFlag flag => exact h.mono (Nat.le_refl _)
  | setVariable name value => exact h.mono (Nat.le_refl _)

theorem owns_work (h : d.Owns) (os : List Operation) : (d.work os).2.Owns := by
  induction os generalizing d with
  | nil => exact h
  | cons o os ih => exact ih (owns_perform h o)

/-- A program uses the handles that it makes. -/
theorem isUsed_of_work {os : List Operation} {events : List Happening} {n : Nic}
    (hstart : d.site.attached = 0) (hnone : d.nics = []) (htold : d.IsToldBy os events)
    (hn : n ∈ (d.work os).2.nics) : n.IsUsed d.site events := by
  have howns : d.Owns := by
    refine ⟨fun m hm => ?_, fun m hm => ?_⟩
    · rw [hnone] at hm
      cases hm
    · rw [hnone] at hm
      cases hm
  refine ⟨fun hlt => ?_, fun first m q waiting rest hevents hrecord => ?_⟩
  · rw [hstart] at hlt
    cases hlt
  · rcases htold.arrivals first _ waiting rest hevents with ⟨done, o, more, rfl, hsite, hwish⟩
    have hm : m ∈ (d.work done).2.nics := Desk.mem_of_wish hwish
    have hlater : m ∈ (d.work (done ++ o :: more)).2.nics := by
      rw [Desk.work_append]
      exact (nics_work _ _).subset hm
    have hsame : m = n := (owns_work howns _).apart m hlater n hn hrecord
    refine ⟨hsame, ?_⟩
    rw [hsite, ← hrecord]
    exact (owns_work howns done).made m hm

end Ownership

end Imds
