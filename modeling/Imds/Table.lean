/-!
# Tables

A finite map from keys to values, kept in the order in which the keys first
came. The cache of fetched values, what a network interface remembers, the
mapping of block devices and the variables of the environment are all tables.

A key occurs once. That is a field of the structure and not a convention,
because the number of entries is one of the answers a cache gives: without the
invariant, storing a path twice would make it count twice.

## Main definitions

* `Table`: Entries with distinct keys.
* `Table.get?`, `Table.insert`, `Table.erase`, `Table.size`: The operations.
* `Table.count`: How many keys have a value of a kind.

## Theorems

* `get?_empty`, `get?_insert_self`, `get?_insert_of_ne`: Reading after writing.
* `get?_erase_self`, `get?_erase_of_ne`: Reading after removing.
* `insert_insert_self`: Storing twice is storing the last value.
* `erase_insert_self`, `erase_insert_of_ne`, `erase_comm`: Removing after another
  change.
* `erase_eq_self`: To remove a key that is not there changes nothing.
* `contains_iff`: A key is present when it can be read.
* `size_insert`: Storing adds an entry only for a new key.
* `mem_keys_iff`: The keys are those that can be read.
* `count_insert`, `count_erase`: A change of one key moves a count by that key.
* `count_eq_zero_iff`: A count is zero when no value is of the kind.
-/

namespace Imds

variable {κ ν : Type} [DecidableEq κ]

/-- The value stored for a key, in a list of entries. -/
def lookupEntry (k : κ) : List (κ × ν) → Option ν
  | [] => none
  | (k', v) :: rest => if k' = k then some v else lookupEntry k rest

/-- Replaces the value of a key in place, or puts a new entry at the end. -/
def storeEntry (k : κ) (v : ν) : List (κ × ν) → List (κ × ν)
  | [] => [(k, v)]
  | (k', v') :: rest => if k' = k then (k, v) :: rest else (k', v') :: storeEntry k v rest

/-- Removes the entry of a key. -/
def eraseEntry (k : κ) : List (κ × ν) → List (κ × ν)
  | [] => []
  | (k', v') :: rest => if k' = k then rest else (k', v') :: eraseEntry k rest

theorem lookupEntry_storeEntry (k k' : κ) (v : ν) (es : List (κ × ν)) :
    lookupEntry k' (storeEntry k v es) = if k = k' then some v else lookupEntry k' es := by
  induction es with
  | nil => simp [storeEntry, lookupEntry]
  | cons e es ih =>
    obtain ⟨a, w⟩ := e
    by_cases h : a = k
    · subst h
      by_cases h' : a = k' <;> simp [storeEntry, lookupEntry, h']
    · by_cases h' : a = k'
      · subst h'
        simp [storeEntry, lookupEntry, h, Ne.symm h]
      · simp [storeEntry, lookupEntry, h, h', ih]

theorem keys_storeEntry (k : κ) (v : ν) (es : List (κ × ν)) :
    (storeEntry k v es).map Prod.fst =
      if k ∈ es.map Prod.fst then es.map Prod.fst else es.map Prod.fst ++ [k] := by
  induction es with
  | nil => simp [storeEntry]
  | cons e es ih =>
    obtain ⟨a, w⟩ := e
    by_cases h : a = k
    · subst h
      simp [storeEntry]
    · simp only [storeEntry, if_neg h, List.map_cons, ih, List.mem_cons, Ne.symm h, false_or]
      split <;> simp

theorem lookupEntry_eq_none {k : κ} {es : List (κ × ν)} (h : k ∉ es.map Prod.fst) :
    lookupEntry k es = none := by
  induction es with
  | nil => rfl
  | cons e es ih =>
    simp only [List.map_cons, List.mem_cons, not_or] at h
    simp [lookupEntry, Ne.symm h.1, ih h.2]

theorem mem_keys_of_lookupEntry {k : κ} {v : ν} {es : List (κ × ν)}
    (h : lookupEntry k es = some v) : k ∈ es.map Prod.fst := by
  apply Decidable.byContradiction
  intro hk
  rw [lookupEntry_eq_none hk] at h
  cases h

theorem exists_lookupEntry {k : κ} {es : List (κ × ν)} (h : k ∈ es.map Prod.fst) :
    ∃ v, lookupEntry k es = some v := by
  induction es with
  | nil => cases h
  | cons e es ih =>
    obtain ⟨a, w⟩ := e
    by_cases ha : a = k
    · exact ⟨w, by simp [lookupEntry, ha]⟩
    · simp only [List.map_cons, List.mem_cons, Ne.symm ha, false_or] at h
      obtain ⟨v, hv⟩ := ih h
      exact ⟨v, by simp [lookupEntry, ha, hv]⟩

theorem eraseEntry_sublist (k : κ) (es : List (κ × ν)) : (eraseEntry k es).Sublist es := by
  induction es with
  | nil => exact List.Sublist.slnil
  | cons e es ih =>
    simp only [eraseEntry]
    split
    · exact List.sublist_cons_self _ _
    · exact ih.cons_cons _

theorem lookupEntry_eraseEntry_of_ne {k k' : κ} (h : k ≠ k') (es : List (κ × ν)) :
    lookupEntry k' (eraseEntry k es) = lookupEntry k' es := by
  induction es with
  | nil => rfl
  | cons e es ih =>
    obtain ⟨a, w⟩ := e
    by_cases ha : a = k
    · subst ha
      simp [eraseEntry, lookupEntry, h]
    · by_cases ha' : a = k'
      · subst ha'
        simp [eraseEntry, lookupEntry, ha]
      · simp [eraseEntry, lookupEntry, ha, ha', ih]

-- What is stored for a key and removed again leaves the other entries where they were.
theorem eraseEntry_storeEntry_self (k : κ) (v : ν) (es : List (κ × ν)) :
    eraseEntry k (storeEntry k v es) = eraseEntry k es := by
  induction es with
  | nil => simp [storeEntry, eraseEntry]
  | cons e es ih =>
    obtain ⟨a, w⟩ := e
    by_cases h : a = k
    · simp [storeEntry, eraseEntry, h]
    · simp [storeEntry, eraseEntry, h, ih]

-- What is stored for a key twice is there as if it had been stored once.
theorem storeEntry_storeEntry_self (k : κ) (v w : ν) (es : List (κ × ν)) :
    storeEntry k w (storeEntry k v es) = storeEntry k w es := by
  induction es with
  | nil => simp [storeEntry]
  | cons e es ih =>
    obtain ⟨a, u⟩ := e
    by_cases h : a = k
    · simp [storeEntry, h]
    · simp [storeEntry, h, ih]

theorem eraseEntry_storeEntry_of_ne {k k' : κ} (h : k ≠ k') (v : ν) (es : List (κ × ν)) :
    eraseEntry k' (storeEntry k v es) = storeEntry k v (eraseEntry k' es) := by
  induction es with
  | nil => simp [storeEntry, eraseEntry, h]
  | cons e es ih =>
    obtain ⟨a, w⟩ := e
    by_cases ha : a = k
    · subst ha
      simp [storeEntry, eraseEntry, h]
    · by_cases ha' : a = k'
      · subst ha'
        simp [storeEntry, eraseEntry, ha]
      · simp [storeEntry, eraseEntry, ha, ha', ih]

theorem eraseEntry_comm (k k' : κ) (es : List (κ × ν)) :
    eraseEntry k' (eraseEntry k es) = eraseEntry k (eraseEntry k' es) := by
  induction es with
  | nil => rfl
  | cons e es ih =>
    obtain ⟨a, w⟩ := e
    by_cases ha : a = k
    · subst ha
      by_cases ha' : a = k'
      · subst ha'
        rfl
      · simp [eraseEntry, ha']
    · by_cases ha' : a = k'
      · subst ha'
        simp [eraseEntry, ha]
      · simp [eraseEntry, ha, ha', ih]

theorem eraseEntry_eq_self {k : κ} {es : List (κ × ν)} (h : lookupEntry k es = none) :
    eraseEntry k es = es := by
  induction es with
  | nil => rfl
  | cons e es ih =>
    obtain ⟨a, w⟩ := e
    by_cases ha : a = k
    · simp [lookupEntry, ha] at h
    · simp only [lookupEntry, ha, if_false] at h
      simp [eraseEntry, ha, ih h]

/-- Entries with distinct keys, in the order in which the keys first came. -/
structure Table (κ ν : Type) where
  /-- The entries, oldest key first. -/
  entries : List (κ × ν)
  /-- No key occurs twice, so the length is the number of keys. -/
  nodup : (entries.map Prod.fst).Nodup

namespace Table

/-- The table without entries. -/
def empty : Table κ ν := ⟨[], List.nodup_nil⟩

instance : Inhabited (Table κ ν) := ⟨empty⟩

/-- The value stored for a key. -/
def get? (t : Table κ ν) (k : κ) : Option ν := lookupEntry k t.entries

/-- Whether a key has a value. -/
def contains (t : Table κ ν) (k : κ) : Bool := (t.get? k).isSome

/-- Stores a value, replacing an earlier one of the same key. -/
def insert (t : Table κ ν) (k : κ) (v : ν) : Table κ ν :=
  ⟨storeEntry k v t.entries, by
    rw [keys_storeEntry]
    split
    · exact t.nodup
    · next h =>
      rw [List.nodup_append]
      exact ⟨t.nodup, by simp, fun a ha b hb => by
        have := List.mem_singleton.1 hb
        subst this
        exact fun e => h (e ▸ ha)⟩⟩

/-- Removes a key. -/
def erase (t : Table κ ν) (k : κ) : Table κ ν :=
  ⟨eraseEntry k t.entries, t.nodup.sublist ((eraseEntry_sublist k t.entries).map _)⟩

/-- The number of keys. -/
def size (t : Table κ ν) : Nat := t.entries.length

/-- The keys, oldest first. -/
def keys (t : Table κ ν) : List κ := t.entries.map Prod.fst

/-- The table that holds each entry of a list; of two entries with one key the
    later counts. -/
def ofList (es : List (κ × ν)) : Table κ ν := es.foldl (fun t e => t.insert e.1 e.2) empty

@[simp] theorem get?_empty (k : κ) : (empty : Table κ ν).get? k = none := rfl

theorem get?_insert (t : Table κ ν) (k k' : κ) (v : ν) :
    (t.insert k v).get? k' = if k = k' then some v else t.get? k' :=
  lookupEntry_storeEntry k k' v t.entries

@[simp] theorem get?_insert_self (t : Table κ ν) (k : κ) (v : ν) :
    (t.insert k v).get? k = some v := by
  simp [get?_insert]

theorem get?_insert_of_ne (t : Table κ ν) {k k' : κ} (v : ν) (h : k ≠ k') :
    (t.insert k v).get? k' = t.get? k' := by
  simp [get?_insert, h]

theorem get?_erase_of_ne (t : Table κ ν) {k k' : κ} (h : k ≠ k') :
    (t.erase k).get? k' = t.get? k' :=
  lookupEntry_eraseEntry_of_ne h t.entries

theorem get?_erase_self (t : Table κ ν) (k : κ) : (t.erase k).get? k = none := by
  apply lookupEntry_eq_none
  have hnodup := t.nodup
  simp only [erase]
  generalize t.entries = es at hnodup ⊢
  induction es with
  | nil => simp [eraseEntry]
  | cons e es ih =>
    obtain ⟨a, w⟩ := e
    simp only [List.map_cons, List.nodup_cons] at hnodup
    by_cases ha : a = k
    · subst ha
      simpa [eraseEntry] using hnodup.1
    · simp only [eraseEntry, if_neg ha, List.map_cons, List.mem_cons, Ne.symm ha, false_or]
      exact ih hnodup.2

omit [DecidableEq κ] in
theorem eq_of_entries {t t' : Table κ ν} (h : t.entries = t'.entries) : t = t' := by
  cases t
  cases t'
  cases h
  rfl

theorem insert_insert_self (t : Table κ ν) (k : κ) (v w : ν) :
    (t.insert k v).insert k w = t.insert k w :=
  eq_of_entries (storeEntry_storeEntry_self k v w t.entries)

theorem erase_insert_self (t : Table κ ν) (k : κ) (v : ν) : (t.insert k v).erase k = t.erase k :=
  eq_of_entries (eraseEntry_storeEntry_self k v t.entries)

theorem erase_insert_of_ne (t : Table κ ν) {k k' : κ} (h : k ≠ k') (v : ν) :
    (t.insert k v).erase k' = (t.erase k').insert k v :=
  eq_of_entries (eraseEntry_storeEntry_of_ne h v t.entries)

theorem erase_comm (t : Table κ ν) (k k' : κ) : (t.erase k).erase k' = (t.erase k').erase k :=
  eq_of_entries (eraseEntry_comm k k' t.entries)

theorem erase_eq_self {t : Table κ ν} {k : κ} (h : t.get? k = none) : t.erase k = t :=
  eq_of_entries (eraseEntry_eq_self h)

theorem contains_iff {t : Table κ ν} {k : κ} : t.contains k = true ↔ ∃ v, t.get? k = some v := by
  simp [contains, Option.isSome_iff_exists]

theorem mem_keys_iff {t : Table κ ν} {k : κ} : k ∈ t.keys ↔ ∃ v, t.get? k = some v :=
  ⟨exists_lookupEntry, fun ⟨_, h⟩ => mem_keys_of_lookupEntry h⟩

theorem size_insert (t : Table κ ν) (k : κ) (v : ν) :
    (t.insert k v).size = if t.contains k then t.size else t.size + 1 := by
  have hlen : (t.insert k v).size = ((t.insert k v).entries.map Prod.fst).length := by
    simp [size]
  have hmem : (k ∈ t.entries.map Prod.fst) ↔ t.contains k = true :=
    mem_keys_iff.trans contains_iff.symm
  rw [hlen]
  simp only [insert, keys_storeEntry]
  by_cases h : t.contains k = true
  · rw [if_pos (hmem.2 h), if_pos h, List.length_map, size]
  · rw [if_neg (fun hk => h (hmem.1 hk)), if_neg h, List.length_append, List.length_map, size]
    rfl

omit [DecidableEq κ] in
/-- How many keys have a value of a kind. -/
def count (p : ν → Bool) (t : Table κ ν) : Nat := t.entries.countP (fun e => p e.2)

/-- What an entry that may be missing adds to a count. -/
def weight (p : ν → Bool) : Option ν → Nat
  | none => 0
  | some v => if p v then 1 else 0

theorem count_insert (p : ν → Bool) (t : Table κ ν) (k : κ) (v : ν) :
    (t.insert k v).count p + weight p (t.get? k) = t.count p + weight p (some v) := by
  simp only [count, insert, get?]
  generalize t.entries = es
  induction es with
  | nil => simp [storeEntry, lookupEntry, weight]
  | cons e es ih =>
    obtain ⟨a, w⟩ := e
    by_cases h : a = k
    · subst h
      simp [storeEntry, lookupEntry, weight, List.countP_cons]
      omega
    · simp only [storeEntry, lookupEntry, h, if_false, List.countP_cons]
      omega

theorem count_erase (p : ν → Bool) (t : Table κ ν) (k : κ) :
    (t.erase k).count p + weight p (t.get? k) = t.count p := by
  simp only [count, erase, get?]
  generalize t.entries = es
  induction es with
  | nil => simp [eraseEntry, lookupEntry, weight]
  | cons e es ih =>
    obtain ⟨a, w⟩ := e
    by_cases h : a = k
    · subst h
      simp [eraseEntry, lookupEntry, weight, List.countP_cons]
    · simp only [eraseEntry, lookupEntry, h, if_false, List.countP_cons]
      omega

theorem get?_of_mem_entries {t : Table κ ν} {k : κ} {v : ν} (h : (k, v) ∈ t.entries) :
    t.get? k = some v := by
  have hnodup := t.nodup
  unfold get?
  generalize t.entries = es at h hnodup
  induction es with
  | nil => cases h
  | cons e es ih =>
    obtain ⟨a, w⟩ := e
    simp only [List.map_cons, List.nodup_cons] at hnodup
    rcases List.mem_cons.1 h with heq | htail
    · cases heq
      exact if_pos rfl
    · have hne : a ≠ k := fun e => hnodup.1 (e ▸ List.mem_map_of_mem htail)
      rw [lookupEntry, if_neg hne]
      exact ih htail hnodup.2

theorem count_eq_zero_iff (p : ν → Bool) (t : Table κ ν) :
    t.count p = 0 ↔ ∀ k v, t.get? k = some v → p v = false := by
  constructor
  · intro h k v hv
    have hweight := count_erase p t k
    rw [hv, weight] at hweight
    by_cases hp : p v = true
    · rw [if_pos hp] at hweight
      omega
    · exact Bool.eq_false_iff.2 hp
  · intro h
    unfold count
    rw [List.countP_eq_zero]
    intro e he
    rw [h e.1 e.2 (get?_of_mem_entries he)]
    exact Bool.false_ne_true

omit [DecidableEq κ] in
@[simp] theorem count_empty (p : ν → Bool) : (empty : Table κ ν).count p = 0 := rfl

omit [DecidableEq κ] in
@[simp] theorem size_empty : (empty : Table κ ν).size = 0 := rfl

end Table

end Imds
