import Imds.Json.Numeral
import Imds.Json.Quoted

/-!
# Values

The values of a document and how they are read. Reading is strict: blanks are
the four characters that the format names, nothing may follow the value, and a
comma stands between two items and nowhere else.

Nesting is bounded. The bound is what the recursion goes by: a list or an object
spends one level, and within it the reader for the level below reads the items.
So no text, however deep, makes the reader run away.

An object keeps its members in the order in which they stand. When a name comes
twice the last one counts, which `member?` says.

## Main definitions

* `Json`: A value.
* `Json.reader`: Reads a value of bounded nesting.
* `Json.ofText?`: The value that a text is.
* `Json.member?`: The member of a name.
* `Json.text?`, `Json.items?`: A value seen as a text, as a list.

## Theorems

* `member?_append`: The last member of a name counts.
-/

namespace Imds

/-- A value of a document. -/
inductive Json where
  | null
  | bool (value : Bool)
  | number (numeral : Json.Numeral)
  | text (value : String)
  | list (items : List Json)
  | object (members : List (String × Json))

namespace Json

/-- How deep lists and objects may be nested. -/
def deepest : Nat := 127

/-- Reads the rest of a list after its opening bracket. -/
def readItems (item : Reader Json) (s : List Char) : Option (List Json × List Char) :=
  match skipBlank s with
  | ']' :: r => some ([], r)
  | s => item.separated ']' [] s

/-- Reads a member of an object: a quoted name, a colon and a value. -/
def readMember (value : Reader Json) (s : List Char) : Option ((String × Json) × List Char) := do
  let (name, r) ← Quoted.read s
  match skipBlank r with
  | ':' :: r =>
    let (v, r) ← value.run (skipBlank r)
    some ((name, v), r)
  | _ => none

theorem length_of_readMember {value : Reader Json} {s r : List Char} {m : String × Json}
    (h : readMember value s = some (m, r)) : r.length < s.length := by
  simp only [readMember, Option.bind_eq_bind, Option.bind_eq_some_iff] at h
  obtain ⟨⟨name, t⟩, hname, h⟩ := h
  have h1 := Quoted.length_of_read hname
  split at h
  · next u hu =>
    have h2 : (skipBlank t).length ≤ t.length := length_skipBlank_le t
    simp only at hu
    rw [hu, List.length_cons] at h2
    simp only [Option.bind_eq_some_iff, Option.some.injEq, Prod.mk.injEq] at h
    obtain ⟨⟨v, w⟩, hv, _, rfl⟩ := h
    have h3 := value.shrinks hv
    have h4 := length_skipBlank_le u
    show w.length < s.length
    omega
  · cases h

/-- The reader of members. -/
def memberReader (value : Reader Json) : Reader (String × Json) :=
  ⟨readMember value, length_of_readMember⟩

/-- Reads the rest of an object after its opening brace. -/
def readMembers (value : Reader Json) (s : List Char) :
    Option (List (String × Json) × List Char) :=
  match skipBlank s with
  | '\x7d' :: r => some ([], r)
  | s => (memberReader value).separated '\x7d' [] s

theorem length_of_readItems {item : Reader Json} {s r : List Char} {items : List Json}
    (h : readItems item s = some (items, r)) : r.length < s.length := by
  have hskip := length_skipBlank_le s
  simp only [readItems] at h
  split at h
  · next t ht =>
    rw [ht, List.length_cons] at hskip
    cases h
    omega
  · exact Nat.lt_of_lt_of_le (Reader.length_of_separated h) hskip

theorem length_of_readMembers {value : Reader Json} {s r : List Char}
    {members : List (String × Json)} (h : readMembers value s = some (members, r)) :
    r.length < s.length := by
  have hskip := length_skipBlank_le s
  simp only [readMembers] at h
  split at h
  · next t ht =>
    rw [ht, List.length_cons] at hskip
    cases h
    omega
  · exact Nat.lt_of_lt_of_le (Reader.length_of_separated h) hskip

/-- Reads a value that is neither a list nor an object. -/
def readFlat : List Char → Option (Json × List Char)
  | 'n' :: s => (word "ull".toList s).map (fun r => (null, r))
  | 't' :: s => (word "rue".toList s).map (fun r => (bool true, r))
  | 'f' :: s => (word "alse".toList s).map (fun r => (bool false, r))
  | '"' :: s => (Quoted.read ('"' :: s)).map (fun x => (text x.1, x.2))
  | s => (Numeral.read s).map (fun x => (number x.1, x.2))

theorem length_of_word {w s r : List Char} (h : word w s = some r) : r.length ≤ s.length := by
  rw [eq_append_of_word h, List.length_append]
  omega

theorem length_of_readFlat {s r : List Char} {v : Json} (h : readFlat s = some (v, r)) :
    r.length < s.length := by
  simp only [readFlat] at h
  split at h
  case h_4 =>
    simp only [Option.map_eq_some_iff, Prod.mk.injEq] at h
    obtain ⟨⟨t, u⟩, ht, _, rfl⟩ := h
    exact Quoted.length_of_read ht
  case h_5 =>
    simp only [Option.map_eq_some_iff, Prod.mk.injEq] at h
    obtain ⟨⟨t, u⟩, ht, _, rfl⟩ := h
    exact Numeral.length_of_read ht
  all_goals
    simp only [Option.map_eq_some_iff, Prod.mk.injEq] at h
    obtain ⟨u, hu, _, rfl⟩ := h
    exact Nat.lt_succ_of_le (length_of_word hu)

/-- Reads a value whose lists and objects read their items by `inner`, if it may
    have any. -/
def readWithin (inner : Option (Reader Json)) : List Char → Option (Json × List Char)
  | '[' :: s => do
    let item ← inner
    let (items, r) ← readItems item s
    some (list items, r)
  | '\x7b' :: s => do
    let value ← inner
    let (members, r) ← readMembers value s
    some (object members, r)
  | s => readFlat s

theorem length_of_readWithin {inner : Option (Reader Json)} {s r : List Char} {v : Json}
    (h : readWithin inner s = some (v, r)) : r.length < s.length := by
  simp only [readWithin] at h
  split at h
  · simp only [Option.bind_eq_bind, Option.bind_eq_some_iff, Option.some.injEq,
      Prod.mk.injEq] at h
    obtain ⟨_, _, ⟨items, t⟩, ht, _, rfl⟩ := h
    exact Nat.lt_succ_of_lt (length_of_readItems ht)
  · simp only [Option.bind_eq_bind, Option.bind_eq_some_iff, Option.some.injEq,
      Prod.mk.injEq] at h
    obtain ⟨_, _, ⟨members, t⟩, ht, _, rfl⟩ := h
    exact Nat.lt_succ_of_lt (length_of_readMembers ht)
  · exact length_of_readFlat h

/-- Reads a value whose lists and objects are nested no deeper than `depth`. -/
def reader : Nat → Reader Json
  | 0 => ⟨readWithin none, length_of_readWithin⟩
  | depth + 1 => ⟨readWithin (some (reader depth)), length_of_readWithin⟩

/-- The value that a list of characters is. -/
def ofChars? (s : List Char) : Option Json := do
  let (v, r) ← (reader deepest).run (skipBlank s)
  if skipBlank r = [] then some v else none

/-- The value that a text is, when it is one value with nothing after it. -/
def ofText? (s : String) : Option Json := ofChars? s.toList

/-- The last value of a name in a list of members. -/
def lastMember (name : String) : List (String × Json) → Option Json
  | [] => none
  | (n, v) :: rest => (lastMember name rest).or (if n = name then some v else none)

/-- The member of a name, if the value is an object that has one. -/
def member? (name : String) : Json → Option Json
  | object members => lastMember name members
  | _ => none

/-- The value as a text, if it is one. -/
def text? : Json → Option String
  | text value => some value
  | _ => none

/-- The items of the value, if it is a list. -/
def items? : Json → Option (List Json)
  | list items => some items
  | _ => none

theorem lastMember_append (name : String) (ms ns : List (String × Json)) :
    lastMember name (ms ++ ns) = (lastMember name ns).or (lastMember name ms) := by
  induction ms with
  | nil => simp [lastMember]
  | cons m ms ih => simp [lastMember, ih, Option.or_assoc]

theorem member?_append (name : String) (ms : List (String × Json)) (v : Json) :
    (object (ms ++ [(name, v)])).member? name = some v := by
  simp [member?, lastMember_append, lastMember]

end Json

end Imds
