import Imds.Proofs.Blocking.Agreement
import Imds.Proofs.Nic.Conduct

/-!
# What Deeds Make of an Interface

What is known of an interface is what was done with its record, one deed after the other. The
keys are those that were given back last with the right to fetch them, and the value of a key
is the one that was remembered last. `Memory.replay` says this of the part of a record that
handles keep. The rest of a record is the lock, which says nothing about the interface. That
keys are not given back twice is the work of the lock, and is nothing that a record would see
to by itself.

So whatever is known has an origin, a deed that can be found, with nothing since that could
have changed it.

## Main definitions

* `Memory.hear`, `Memory.replay`, `Nic.kept`: What a handle keeps after deeds.

## Theorems

* `replay_keys_eq_some`, `replay_values_eq_some`: What is known has an origin.
* `memory_answer_record`, `records_answer_other`: What queries do to records.
-/

namespace Imds

open Blocking (Memory)

namespace Blocking.Memory

/-- What a handle keeps after a query was answered. -/
def hear (record : Nat) (m : Memory) : Said → Memory
  | ⟨.leave r keys, _⟩ => if r = record then { m with keys := keys.or m.keys } else m
  | ⟨.remember r key value, _⟩ =>
    if r = record then { m with values := m.values.insert key value } else m
  | _ => m

/-- What a handle keeps after deeds one after another. -/
def replay (record : Nat) (m : Memory) (deeds : List Deed) : Memory :=
  deeds.foldl (fun m x => m.hear record x.said) m

variable {record : Nat} {deeds : List Deed} {m : Memory}

theorem replay_append (record : Nat) (m : Memory) (first second : List Deed) :
    m.replay record (first ++ second) = (m.replay record first).replay record second :=
  List.foldl_append

theorem hear_of_other {x : Said} (h : x.query.record? ≠ some record) : m.hear record x = m := by
  rcases x with ⟨query, answer⟩
  cases query with
  | leave r keys => exact if_neg (fun hr => h (congrArg some hr))
  | remember r key value => exact if_neg (fun hr => h (congrArg some hr))
  | _ => rfl

theorem replay_of_untouched (h : ∀ x ∈ deeds, x.said.query.record? ≠ some record) :
    m.replay record deeds = m := by
  induction deeds with
  | nil => rfl
  | cons x deeds ih =>
      rw [replay, List.foldl_cons, hear_of_other (h x List.mem_cons_self)]
      exact ih (fun y hy => h y (List.mem_cons_of_mem x hy))

-- Keys stay as they are unless others are given back.
theorem hear_keys {x : Said} (h : ∀ given, x.query ≠ .leave record given) :
    (m.hear record x).keys = m.keys := by
  rcases x with ⟨query, answer⟩
  cases query with
  | leave r given => exact congrArg Memory.keys (if_neg (fun hr => h given (by rw [hr])))
  | remember r key value =>
      simp only [hear]
      split <;> rfl
  | _ => rfl

theorem hear_keys_eq_some {x : Said} {keys : List String} (h : (m.hear record x).keys = some keys) :
    m.keys = some keys ∨ x.query = .leave record (some keys) := by
  by_cases hleaves : ∃ given, x.query = .leave record given
  · rcases x with ⟨query, answer⟩
    rcases hleaves with ⟨given, hquery⟩
    have hquery : query = .leave record given := hquery
    subst hquery
    simp only [hear, if_true] at h
    cases given with
    | none => exact Or.inl h
    | some given =>
        cases h
        exact Or.inr rfl
  · rw [hear_keys (fun given hquery => hleaves ⟨given, hquery⟩)] at h
    exact Or.inl h

/-- Keys that are known were known from the beginning, or were listed by some deed. -/
theorem replay_keys_eq_some {keys : List String} (h : (m.replay record deeds).keys = some keys) :
    m.keys = some keys ∨ ∃ before x after, deeds = before ++ x :: after ∧
      x.said.query = .leave record (some keys) := by
  induction deeds generalizing m with
  | nil => exact Or.inl h
  | cons x deeds ih =>
      rcases ih h with hkeys | ⟨before, y, after, rfl, hy⟩
      · rcases hear_keys_eq_some hkeys with hkeys | hx
        · exact Or.inl hkeys
        · exact Or.inr ⟨[], x, deeds, rfl, hx⟩
      · exact Or.inr ⟨x :: before, y, after, rfl, hy⟩

theorem hear_values_eq_some {x : Said} {key : String} {value : Option String}
    (h : (m.hear record x).values.get? key = some value) :
    (m.values.get? key = some value ∧ ∀ other, x.query ≠ .remember record key other) ∨
      x.query = .remember record key value := by
  rcases x with ⟨query, answer⟩
  cases query with
  | remember r key' value' =>
      by_cases hsame : r = record ∧ key' = key
      · rcases hsame with ⟨rfl, rfl⟩
        simp only [hear, if_true, Table.get?_insert_self, Option.some.injEq] at h
        rw [h]
        exact Or.inr rfl
      · refine Or.inl ⟨?_, fun other hquery => ?_⟩
        · simp only [hear] at h
          split at h
          · next hr => rwa [Table.get?_insert_of_ne _ _ (fun hkey => hsame ⟨hr, hkey⟩)] at h
          · exact h
        · cases hquery
          exact hsame ⟨rfl, rfl⟩
  | leave r given =>
      refine Or.inl ⟨?_, fun other hquery => by cases hquery⟩
      simp only [hear] at h
      split at h <;> exact h
  | _ => exact Or.inl ⟨h, fun other hquery => by cases hquery⟩

/-- A value that is remembered was remembered from the beginning, or by some deed, and no other
    value of this key since. -/
theorem replay_values_eq_some {key : String} {value : Option String}
    (h : (m.replay record deeds).values.get? key = some value) :
    m.values.get? key = some value ∨ ∃ before x after, deeds = before ++ x :: after ∧
      x.said.query = .remember record key value ∧
      ∀ y ∈ after, ∀ other, y.said.query ≠ .remember record key other := by
  suffices hstrong : (m.values.get? key = some value ∧
      ∀ y ∈ deeds, ∀ other, y.said.query ≠ .remember record key other) ∨
        ∃ before x after, deeds = before ++ x :: after ∧
          x.said.query = .remember record key value ∧
          ∀ y ∈ after, ∀ other, y.said.query ≠ .remember record key other from
    hstrong.imp (fun h => h.1) id
  induction deeds generalizing m with
  | nil => exact Or.inl ⟨h, nofun⟩
  | cons x deeds ih =>
      rcases ih h with ⟨hvalue, hrest⟩ | ⟨before, y, after, rfl, hy, hafter⟩
      · rcases hear_values_eq_some hvalue with ⟨hvalue, hx⟩ | hx
        · refine Or.inl ⟨hvalue, fun y hy => ?_⟩
          rcases List.mem_cons.1 hy with rfl | hy
          · exact hx
          · exact hrest y hy
        · exact Or.inr ⟨[], x, deeds, rfl, hx, hrest⟩
      · exact Or.inr ⟨x :: before, y, after, rfl, hy, hafter⟩

-- A value is never forgotten.
theorem hear_values {key : String} (h : m.values.get? key ≠ none) (x : Said) :
    (m.hear record x).values.get? key ≠ none := by
  rcases x with ⟨query, answer⟩
  cases query with
  | remember r key' value' =>
      simp only [hear]
      split
      · rw [Table.get?_insert]
        split
        · exact Option.some_ne_none _
        · exact h
      · exact h
  | leave r given =>
      simp only [hear]
      split <;> exact h
  | _ => exact h

theorem replay_values {key : String} (h : m.values.get? key ≠ none) (deeds : List Deed) :
    (m.replay record deeds).values.get? key ≠ none := by
  induction deeds generalizing m with
  | nil => exact h
  | cons x deeds ih => exact ih (hear_values h x.said)

end Blocking.Memory

/-- What a handle keeps after all deeds that there were. -/
def Nic.kept (n : Nic) (deeds : List Deed) : Memory := Memory.fresh.replay n.record deeds

/-! ### What queries do to records -/

section Answers

variable {s : Site} {record : Nat} {query : Query}

/-- A query leaves the other records alone, except that it can make a new one. -/
theorem records_answer_other (hother : query.record? ≠ some record)
    (hmaking : ¬ (query = .attach ∧ s.attached = record)) :
    (query.answer s).2.records record = s.records record := by
  have hne : ∀ {r}, query.record? = some r → record ≠ r := by
    rintro r hr rfl
    exact hother hr
  cases query with
  | attach => exact updateAt_of_ne _ _ (fun hsame => hmaking ⟨rfl, hsame.symm⟩)
  | send channel request =>
      simp only [Query.answer, Site.exchange]
      split <;> rfl
  | pause length =>
      rcases Plan.answer_pause_eq length s with ⟨time, hpause⟩
      rw [hpause]
  | enter r =>
      simp only [Query.answer]
      split
      · rfl
      · exact updateAt_of_ne _ _ (hne rfl)
  | leave r keys => exact updateAt_of_ne _ _ (hne rfl)
  | remember r key value => exact updateAt_of_ne _ _ (hne rfl)
  | _ => rfl

theorem attached_answer (s : Site) (query : Query) : (query.answer s).2.attached = s.attached ∨
    (query = .attach ∧ (query.answer s).2.attached = s.attached + 1) := by
  cases query with
  | attach => exact Or.inr ⟨rfl, rfl⟩
  | send channel request =>
      refine Or.inl ?_
      simp only [Query.answer, Site.exchange]
      split <;> rfl
  | pause length =>
      rcases Plan.answer_pause_eq length s with ⟨time, hpause⟩
      rw [hpause]
      exact Or.inl rfl
  | enter r =>
      refine Or.inl ?_
      simp only [Query.answer]
      split <;> rfl
  | _ => exact Or.inl rfl

/-- A query about a record does to it what it does to what a handle keeps. -/
theorem memory_answer_record (hmine : query.record? = some record) :
    ((query.answer s).2.records record).memory =
      (s.records record).memory.hear record ⟨query, (query.answer s).1⟩ := by
  cases query with
  | enter r =>
      cases hmine
      simp only [Query.answer]
      split
      · rfl
      · simp only [Site.setRecord, updateAt_self]
        rfl
  | leave r keys =>
      cases hmine
      simp only [Query.answer, Site.setRecord, updateAt_self, Memory.hear, if_true]
      rfl
  | recollect r key => rfl
  | remember r key value =>
      cases hmine
      simp only [Query.answer, Site.setRecord, updateAt_self, Memory.hear, if_true]
      rfl
  | _ => cases hmine

end Answers

end Imds
