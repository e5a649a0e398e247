import Imds.Proofs.Crowd.Chronicle
import Imds.Proofs.Switch.Client

/-!
# The Conduct of Handles on Interfaces

What a handle may ask is ruled by what it was told. Before it knows which keys the interface
lists it requests nothing but the listing, and for this it needs the right, which it gives
back with what the fetch brought. A value it requests only when it was told that the key is
listed, and if it remembers values of this kind, only when it was told that this one is not
remembered. What it remembers it has just read.

`Nic.May` says so query by query and `Nic.Ends` for the end, both in terms of what the same
question said before. Whoever else is asking the same handle does not come into it, so that
the rule is kept in any crowd. Other wishes do not touch what is known of interfaces, or
touch only their own.

## Main definitions

* `Query.record?`, `Wish.record?`: The record that a query or a wish is about.
* `rightOf`: The right that a dialogue leads to.
* `Told`: A dialogue in which the keys of an interface were learnt.
* `EndsIn`: A dialogue that ends in an act.
* `Aloof`: What was said since asks about no record.
* `Question.valueKey?`, `Question.linesKey?`, `Question.key?`: The key that is asked for.
* `Nic.Targets`: What a question may fetch.
* `Nic.May`, `Nic.Ends`: The conduct of a question.
* `Nic.Valued`, `Nic.Lined`: How a question came by its answer.

## Theorems

* `abides_availableKeys`, `abides_value`, `abides_lines`: The conduct of accessors.
* `abides_question`: The conduct of every question.
* `own_of_wish`: A wish touches no record but its own.
* `right_of_wish`: Rights are given back.
-/

namespace Imds

/-- The record that a query is about. -/
def Query.record? : Query → Option Nat
  | .enter record => some record
  | .leave record _ => some record
  | .recollect record _ => some record
  | .remember record _ _ => some record
  | _ => none

/-- The record that a wish is about. -/
def Wish.record? : Wish → Option Nat
  | .question n _ => some n.record
  | _ => none

/-- The right to fetch a listing that a dialogue leads to. -/
def rightOf (d : List Said) : Option Nat :=
  d.foldl (fun right x => x.query.rightAfter right x.answer) none

/-- The keys of an interface were learnt: they were known, or were listed. -/
def Told (record : Nat) (keys : List String) (d : List Said) : Prop :=
  ⟨.enter record, some keys⟩ ∈ d ∨ ⟨.leave record (some keys), ()⟩ ∈ d

/-- A dialogue ends in an act, which came to this result. -/
def EndsIn {α : Type} (a : Act α) (r : Except Failure α) (d : List Said) : Prop :=
  ∃ w before, a.among w before = (r, d)

/-- Nothing that was said makes an interface remember a value. -/
def Unkept (d : List Said) : Prop :=
  ∀ x ∈ d, ∀ record key value, x.query ≠ .remember record key value

namespace Question

/-- The key whose value is asked for, if one is. -/
def valueKey? : Question → Option String
  | .value key => some key
  | .scalar v => some v.key
  | _ => none

/-- The key whose lines are asked for, if some are. -/
def linesKey? : Question → Option String
  | .lines key => some key
  | .listing l => some l.key
  | _ => none

/-- The key that is asked for. -/
def key? (q : Question) : Option String := q.valueKey?.or q.linesKey?

end Question

/-- The lines of a body, none if there is no body. -/
def linesOf (body : Option String) : List String := (body.map Text.splitLines).getD []

namespace Nic

/-- What a question may fetch when it has said this much: the listing, with the right to it;
    a key that it was told is listed; or the addresses behind another one. -/
inductive Targets (n : Nic) (q : Question) (d : List Said) : String → Prop where
  | listing (hright : rightOf d = some n.record) : Targets n q d n.path
  | value (key : String) (keys : List String) (hkey : q.key? = some key)
      (htold : Told n.record keys d) (hlisted : key ∈ keys) : Targets n q d (n.path ++ key)
  | associations (address : String) (hq : q = .associations address) :
      Targets n q d (n.associationPath address)

/-- What a question may ask when it has said this much. -/
structure May (n : Nic) (q : Question) (d : List Said) (query : Query) : Prop where
  own : ∀ record, query.record? = some record → record = n.record
  unkept : Unkept d
  asked : ∀ key, q.valueKey? = some key →
    query = .recollect n.record key ∨ ⟨.recollect n.record key, none⟩ ∈ d
  send : ∀ channel request, query = .send channel request → channel = n.client.channel ∧
    ∃ path, n.Targets q d path ∧ request.IsFor path
  enter : ∀ record, query = .enter record → rightOf d = none
  leave : ∀ record given, query = .leave record given →
    rightOf d = some record ∧
      (∃ r, EndsIn (n.client.fetchLines n.path) r d ∧ given = r.toOption.map (·.getD [])) ∧
      given = (lastBrought d).map linesOf
  remember : ∀ record key value, query = .remember record key value →
    q.valueKey? = some key ∧ (∃ keys, Told n.record keys d ∧ key ∈ keys) ∧
      EndsIn (n.client.fetchDocument (n.path ++ key)) (.ok value) d ∧
      JustBrought n.client (n.path ++ key) value d

/-- How a question came by the value of a key: it was remembered; or the key is not listed,
    and there is no value; or it was read, and is remembered now. -/
inductive Valued (n : Nic) (key : String) (value : Option String) : List Said → Prop where
  | known : Valued n key value [⟨.recollect n.record key, some value⟩]
  | unlisted (d : List Said) (keys : List String) (hunkept : Unkept d)
      (hasked : ⟨.recollect n.record key, none⟩ ∈ d) (htold : Told n.record keys d)
      (hkey : key ∉ keys) (hvalue : value = none) : Valued n key value d
  | fetched (before : List Said) (keys : List String) (htold : Told n.record keys before)
      (hkey : key ∈ keys) (hbrought : JustBrought n.client (n.path ++ key) value before) :
      Valued n key value (before ++ [⟨.remember n.record key value, ()⟩])

/-- How a question came by the lines of a key: the key is not listed, and there are none; or
    they were read. -/
inductive Lined (n : Nic) (key : String) (lines : List String) (d : List Said) : Prop where
  | unlisted (keys : List String) (htold : Told n.record keys d) (hkey : key ∉ keys)
      (hlines : lines = [])
  | fetched (keys : List String) (body : Option String) (htold : Told n.record keys d)
      (hkey : key ∈ keys) (hbrought : JustBrought n.client (n.path ++ key) body d)
      (hlines : lines = linesOf body)

/-- A dialogue leaves the value of a key open: the keys were not learnt, or the key is one of
    them. -/
def Open (n : Nic) (key : String) (d : List Said) : Prop :=
  (∀ keys, ¬ Told n.record keys d) ∨ ∃ keys, Told n.record keys d ∧ key ∈ keys

/-- How the dialogue of a question ends with an answer, and with a failure. -/
structure Ends (n : Nic) (q : Question) (d : List Said) (r : Except Failure Report) : Prop where
  idle : rightOf d = none
  value : ∀ key report, q.valueKey? = some key → r = .ok report →
    ∃ value, report = .text value ∧ n.Valued key value d
  lines : ∀ key report, q.linesKey? = some key → r = .ok report →
    ∃ lines, report = .list lines ∧ n.Lined key lines d
  keys : ∀ report, q = .keys → r = .ok report → ∃ keys, report = .list keys ∧ Told n.record keys d
  failed : ∀ f, r = .error f → Unkept d ∧ ∀ key, q.key? = some key → n.Open key d

end Nic

/-! ### Pieces of dialogues -/

/-- What a plan comes to in the end it came to in this dialogue. -/
theorem Plan.Abides.endsIn {α : Type} {may : List Said → Query → Prop} {a : Act α}
    {ends : List Said → Except Failure α → Prop} {d : List Said} (h : a.Abides may ends d) :
    a.Abides may (fun e r => ends e r ∧ EndsIn a r e) d := by
  suffices hamong : ∀ (p : Plan (Except Failure α)) d, p.Abides may ends d →
      p.Abides may (fun e r => ends e r ∧ p.among (.echo e) d = (r, e)) d from
    Plan.Abides.mono (hamong a.outcome d h) (fun _ _ hq => hq)
      (fun e _ ⟨hends, hamong⟩ => ⟨hends, .echo e, d, hamong⟩)
  -- An answer that was heard is the one that is echoed.
  intro p
  induction p with
  | done value => exact fun d hends => ⟨hends, rfl⟩
  | ask query next ih =>
      rintro d ⟨hquery, hnext⟩
      refine ⟨hquery, fun answer => (ih answer _ (hnext answer)).mono (fun _ _ hq => hq) ?_⟩
      rintro e r ⟨hends, hamong⟩
      have hprefix : d ++ [⟨query, answer⟩] <+: e := by
        rcases Plan.among_prefix (.echo e) (next answer) (d ++ [⟨query, answer⟩]) with ⟨said, hsaid⟩
        rw [hamong] at hsaid
        exact ⟨said, hsaid.symm⟩
      refine ⟨hends, ?_⟩
      rw [among_ask, echo_of_prefix hprefix, hamong]

/-! ### What fetches leave as it is -/

section Fetches

variable {d e : List Said} {record : Nat} {keys : List String} {c : Client} {path : String}

theorem rightOf_concat (d : List Said) (x : Said) :
    rightOf (d ++ [x]) = x.query.rightAfter (rightOf d) x.answer := by
  rw [rightOf, List.foldl_append]
  rfl

-- A right comes from a query about its record.
theorem rightAfter_eq_some {query : Query} {right : Option Nat} {a : query.Answer} {record : Nat}
    (h : query.rightAfter right a = some record) :
    right = some record ∨ query.record? = some record := by
  cases query with
  | enter r =>
      simp only [Query.rightAfter] at h
      split at h
      · exact Or.inl h
      · exact Or.inr h
  | leave r keys => cases h
  | _ => exact Or.inl h

theorem rightAfter_of_no_record {query : Query} (h : query.record? = none) (right : Option Nat)
    (a : query.Answer) : query.rightAfter right a = right := by
  cases query with
  | enter r => cases h
  | leave r keys => cases h
  | _ => rfl

theorem mem_of_rightOf {d : List Said} {record : Nat} (h : rightOf d = some record) :
    ∃ x ∈ d, x.query.record? = some record := by
  suffices hfold : ∀ right, d.foldl (fun right x => x.query.rightAfter right x.answer) right =
      some record → right = some record ∨ ∃ x ∈ d, x.query.record? = some record from
    (hfold none h).resolve_left nofun
  clear h
  induction d with
  | nil => exact fun right h => Or.inl h
  | cons x d ih =>
      intro right h
      rcases ih _ h with hright | ⟨y, hy, hrecord⟩
      · rcases rightAfter_eq_some hright with hright | hrecord
        · exact Or.inl hright
        · exact Or.inr ⟨x, List.mem_cons_self, hrecord⟩
      · exact Or.inr ⟨y, List.mem_cons_of_mem x hy, hrecord⟩

theorem Told.mono (h : Told record keys d) (hde : d <+: e) : Told record keys e :=
  h.imp (fun hx => hde.subset hx) (fun hx => hde.subset hx)

theorem unkept_nil : Unkept [] := fun _ h => nomatch h

theorem Unkept.concat (h : Unkept d) {x : Said}
    (hx : ∀ record key value, x.query ≠ .remember record key value) : Unkept (d ++ [x]) := by
  intro y hy
  rcases List.mem_append.1 hy with hy | hy
  · exact h y hy
  · rw [List.mem_singleton.1 hy]
    exact hx

theorem Since.isPrefix {may : Query → Prop} (h : Since may d e) : d <+: e := by
  rcases h with ⟨said, rfl, -⟩
  exact List.prefix_append d said

-- No query of a fetch is about a record.
theorem record?_of_fetches {query : Query} (h : c.Fetches query) : query.record? = none := by
  cases query with
  | enter record => exact absurd h id
  | leave record keys => exact absurd h id
  | recollect record key => exact absurd h id
  | remember record key value => exact absurd h id
  | _ => rfl

/-- Since an earlier point no record was asked about. -/
def Aloof (d e : List Said) : Prop := Since (fun query => query.record? = none) d e

theorem aloof_of_asks (h : Since (c.Asks path) d e) : Aloof d e :=
  h.mono (fun _ hq => record?_of_fetches hq.1)

theorem Aloof.rightOf_eq (h : Aloof d e) : rightOf e = rightOf d := by
  rcases h with ⟨said, rfl, hsaid⟩
  rw [rightOf, List.foldl_append]
  change said.foldl _ (rightOf d) = rightOf d
  generalize rightOf d = right
  induction said with
  | nil => rfl
  | cons x said ih =>
      rw [List.foldl_cons, rightAfter_of_no_record (hsaid x List.mem_cons_self)]
      exact ih (fun y hy => hsaid y (List.mem_cons_of_mem x hy))

theorem Unkept.of_aloof (h : Unkept d) (haloof : Aloof d e) : Unkept e := by
  rcases haloof with ⟨said, rfl, hsaid⟩
  intro x hx record key value hquery
  rcases List.mem_append.1 hx with hx | hx
  · exact h x hx record key value hquery
  · have hnone := hsaid x hx
    rw [hquery] at hnone
    cases hnone

-- What is said after does not tell the keys unless it is one of the two queries that do.
theorem Told.of_concat {x : Said} (h : Told record keys (d ++ [x]))
    (henter : x ≠ ⟨.enter record, some keys⟩) (hleave : x ≠ ⟨.leave record (some keys), ()⟩) :
    Told record keys d :=
  h.imp
    (fun hx => (List.mem_append.1 hx).resolve_right
      (fun hx => henter (List.mem_singleton.1 hx).symm))
    (fun hx => (List.mem_append.1 hx).resolve_right
      (fun hx => hleave (List.mem_singleton.1 hx).symm))

theorem Told.of_aloof (haloof : Aloof d e) (h : Told record keys e) : Told record keys d := by
  rcases haloof with ⟨said, rfl, hsaid⟩
  have hearlier : ∀ x ∈ d ++ said, x.query.record? = some record → x ∈ d := by
    intro x hx hrecord
    rcases List.mem_append.1 hx with hx | hx
    · exact hx
    · rw [hsaid x hx] at hrecord
      cases hrecord
  exact h.imp (fun hx => hearlier _ hx rfl) (fun hx => hearlier _ hx rfl)

end Fetches

/-! ### Handles -/

namespace Nic

section Accessors

variable {n : Nic} {q : Question} {d : List Said} {α : Type}

/-- A question is under way: it has kept nothing yet, and if it may be remembered, it was told
    that it is not. -/
structure Underway (n : Nic) (q : Question) (d : List Said) : Prop where
  unkept : Unkept d
  asked : ∀ key, q.valueKey? = some key → ⟨.recollect n.record key, none⟩ ∈ d

theorem underway_nil (h : q.valueKey? = none) : n.Underway q [] := by
  refine ⟨unkept_nil, fun key hkey => ?_⟩
  rw [h] at hkey
  cases hkey

theorem Underway.concat (h : n.Underway q d) {x : Said}
    (hx : ∀ record key value, x.query ≠ .remember record key value) :
    n.Underway q (d ++ [x]) :=
  ⟨h.unkept.concat hx, fun key hkey => List.mem_append_left _ (h.asked key hkey)⟩

theorem Underway.since {c : Client} {path : String} {e : List Said} (h : n.Underway q d)
    (hsince : Since (c.Asks path) d e) : n.Underway q e :=
  ⟨h.unkept.of_aloof (aloof_of_asks hsince),
    fun key hkey => hsince.isPrefix.subset (h.asked key hkey)⟩

theorem Targets.since {c : Client} {path target : String} {e : List Said}
    (h : n.Targets q d target) (hsince : Since (c.Asks path) d e) : n.Targets q e target := by
  cases h with
  | listing hright => exact .listing ((aloof_of_asks hsince).rightOf_eq.trans hright)
  | value key keys hkey htold hlisted =>
      exact .value key keys hkey (htold.mono hsince.isPrefix) hlisted
  | associations address hq => exact .associations address hq

/-- What a question may fetch, it may fetch to the end. -/
theorem abides_of_asks {path : String} {a : Act α} {ends : List Said → Except Failure α → Prop}
    (ha : a.Abides (fun _ => n.client.Asks path) ends d) (hd : n.Underway q d)
    (htarget : n.Targets q d path) :
    a.Abides (n.May q)
      (fun e r => Since (n.client.Asks path) d e ∧ ends e r ∧ EndsIn a r e) d := by
  refine Plan.Abides.mono (Plan.Abides.since (.refl _ d) (Plan.Abides.endsIn ha)) ?_
    (fun _ _ h => h)
  rintro e query ⟨hsince, hasks⟩
  have hrecord := record?_of_fetches hasks.1
  refine ⟨fun record h => ?_, (hd.since hsince).unkept,
    fun key hkey => Or.inr ((hd.since hsince).asked key hkey), ?_, ?_, ?_, ?_⟩
  · rw [hrecord] at h
    cases h
  · rintro channel request rfl
    exact ⟨hasks.1, path, htarget.since hsince, hasks.2 channel request rfl⟩
  · rintro record rfl
    cases hrecord
  · rintro record keys rfl
    cases hrecord
  · rintro record key value rfl
    cases hrecord

-- What is remembered is asked for first.
theorem may_recollect {key : String} (hq : q.valueKey? = some key) :
    n.May q [] (.recollect n.record key) := by
  refine ⟨fun record h => ?_, unkept_nil, fun key' h => ?_, nofun, nofun, nofun, nofun⟩
  · cases h
    rfl
  · rw [hq] at h
    cases h
    exact Or.inl rfl

theorem Underway.may_enter (h : n.Underway q d) (hidle : rightOf d = none) :
    n.May q d (.enter n.record) := by
  refine ⟨fun record h => ?_, h.unkept, fun key hkey => Or.inr (h.asked key hkey), nofun,
    fun _ _ => hidle, nofun, nofun⟩
  cases h
  rfl

-- The right is given back with what the fetch came to.
theorem Underway.may_leave (h : n.Underway q d) (hright : rightOf d = some n.record)
    {result : Except Failure (Option String)}
    (hfetch : EndsIn (n.client.fetchLines n.path) (result.map (Option.map Text.splitLines)) d)
    (hlast : lastBrought d = result.toOption) :
    n.May q d (.leave n.record (result.toOption.map linesOf)) := by
  refine ⟨fun record h => ?_, h.unkept, fun key hkey => Or.inr (h.asked key hkey), nofun, nofun,
    fun record given h => ?_, nofun⟩
  · cases h
    rfl
  · cases h
    refine ⟨hright, ⟨_, hfetch, ?_⟩, by rw [hlast]⟩
    cases result <;> rfl

theorem Underway.may_remember {key : String} {value : Option String} {keys : List String}
    (h : n.Underway q d) (hq : q.valueKey? = some key) (htold : Told n.record keys d)
    (hlisted : key ∈ keys) (hfetch : EndsIn (n.client.fetchDocument (n.path ++ key)) (.ok value) d)
    (hbrought : JustBrought n.client (n.path ++ key) value d) :
    n.May q d (.remember n.record key value) := by
  refine ⟨fun record h => ?_, h.unkept, fun key' hkey => Or.inr (h.asked key' hkey), nofun, nofun,
    nofun, fun record key' value' h => ?_⟩
  · cases h
    rfl
  · cases h
    exact ⟨hq, ⟨keys, htold, hlisted⟩, hfetch, hbrought⟩

/-- The listing is fetched with the right to it, which is given back with what was listed. -/
theorem abides_availableKeys (hd : n.Underway q d) (hidle : rightOf d = none)
    (hquiet : exchanges d = []) (huntold : ∀ keys, ¬ Told n.record keys d) :
    n.availableKeys.Abides (n.May q) (fun e r => n.Underway q e ∧ rightOf e = none ∧
      (∀ keys, r = .ok keys → Told n.record keys e) ∧
      ∀ f, r = .error f → ∀ keys, ¬ Told n.record keys e) d := by
  refine Act.abides_bind (Act.abides_lift ⟨hd.may_enter hidle, fun known => ?_⟩)
  have hentered : n.Underway q (d ++ [⟨.enter n.record, known⟩]) :=
    hd.concat (fun _ _ _ h => by cases h)
  cases known with
  | some keys =>
      refine ⟨hentered, (rightOf_concat d _).trans hidle, fun keys' h => ?_,
        fun f h => by cases h⟩
      cases h
      exact Or.inl (List.mem_append_right _ List.mem_cons_self)
  | none =>
      have hright : rightOf (d ++ [⟨.enter n.record, none⟩]) = some n.record := by
        rw [rightOf_concat]
        rfl
      have hnothing : lastBrought (d ++ [⟨.enter n.record, none⟩]) = none := by
        rw [lastBrought, exchanges_concat_of_silent rfl, hquiet]
        rfl
      refine Act.abides_bind (Act.abides_lift (Plan.Abides.mono (abides_of_asks
        (Client.tells_fetchItems n.path n.client.attempts false) hentered (.listing hright))
        (fun _ _ hq => hq) ?_))
      rintro e r ⟨hsince, ⟨result, rfl, htells⟩, hfetch⟩
      have he : n.Underway q e := hentered.since hsince
      have hleave := he.may_leave ((aloof_of_asks hsince).rightOf_eq.trans hright) hfetch
        (htells.of_nothing hnothing)
      cases result with
      | ok body =>
          refine Act.abides_bind (Act.abides_lift ⟨hleave, fun done => ?_⟩)
          refine ⟨he.concat (fun _ _ _ h => by cases h), rightOf_concat e _, fun keys h => ?_,
            fun f h => by cases h⟩
          cases h
          exact Or.inr (List.mem_append_right _ List.mem_cons_self)
      | error failure =>
          refine Act.abides_bind (Act.abides_lift ⟨hleave, fun done => ?_⟩)
          refine ⟨he.concat (fun _ _ _ h => by cases h), rightOf_concat e _,
            (fun keys h => by cases h), fun _ _ keys htold => ?_⟩
          -- A right that is given back without keys tells nothing, nor did anything before.
          have hsent := htold.of_concat (fun h => by cases h) (fun h => by cases h)
          have hknown := hsent.of_aloof (aloof_of_asks hsince)
          exact huntold keys (hknown.of_concat (fun h => by cases h) (fun h => by cases h))

theorem abides_value {key : String} (hq : q.valueKey? = some key) :
    (n.value key).Abides (n.May q) (fun e r => rightOf e = none ∧
      (∀ value, r = .ok value → n.Valued key value e) ∧
      ∀ f, r = .error f → Unkept e ∧ n.Open key e) [] := by
  have hkey : q.key? = some key := by rw [Question.key?, hq]; rfl
  refine Act.abides_bind (Act.abides_lift ⟨may_recollect hq, fun known => ?_⟩)
  cases known with
  | some value =>
      refine ⟨rfl, fun value' h => ?_, nofun⟩
      cases h
      exact .known
  | none =>
      have hasked : n.Underway q [⟨.recollect n.record key, none⟩] := by
        refine ⟨unkept_nil.concat (d := []) nofun, fun key' h => ?_⟩
        rw [hq] at h
        cases h
        exact List.mem_cons_self
      have huntold : ∀ keys, ¬ Told n.record keys [⟨.recollect n.record key, none⟩] := by
        rintro keys (hx | hx)
        · cases List.mem_singleton.1 hx
        · cases List.mem_singleton.1 hx
      refine Act.abides_bind (Plan.Abides.mono (abides_availableKeys hasked rfl rfl huntold)
        (fun _ _ hq => hq) ?_)
      rintro e r ⟨he, hidle, htold, hfailed⟩
      cases r with
      | error failure =>
          exact ⟨hidle, nofun, fun _ _ => ⟨he.unkept, Or.inl (hfailed failure rfl)⟩⟩
      | ok keys =>
          have htold : Told n.record keys e := htold keys rfl
          by_cases hlisted : key ∈ keys
          · simp only [if_pos hlisted]
            refine Act.abides_bind (Plan.Abides.mono (abides_of_asks
              (Client.tells_fetchDocument (n.path ++ key)) he
              (.value key keys hkey htold hlisted)) (fun _ _ hq => hq) ?_)
            rintro e' r ⟨hsince, htells, hfetch⟩
            have he' := he.since hsince
            have htold' := htold.mono hsince.isPrefix
            have hidle' := (aloof_of_asks hsince).rightOf_eq.trans hidle
            cases r with
            | error failure =>
                exact ⟨hidle', nofun, fun _ _ => ⟨he'.unkept, Or.inr ⟨keys, htold', hlisted⟩⟩⟩
            | ok value =>
                have hbrought := htells.brought value rfl
                refine Act.abides_bind (Act.abides_lift
                  ⟨he'.may_remember hq htold' hlisted hfetch hbrought, fun done => ?_⟩)
                refine ⟨(rightOf_concat e' _).trans hidle', fun value' h => ?_, nofun⟩
                cases h
                exact .fetched e' keys htold' hlisted hbrought
          · simp only [if_neg hlisted]
            refine ⟨hidle, fun value h => ?_, nofun⟩
            cases h
            exact .unlisted e keys he.unkept (he.asked key hq) htold hlisted rfl

theorem abides_lines {key : String} (hq : q.linesKey? = some key) (hvalue : q.valueKey? = none) :
    (n.lines key).Abides (n.May q) (fun e r => rightOf e = none ∧
      (∀ lines, r = .ok lines → n.Lined key lines e) ∧
      ∀ f, r = .error f → Unkept e ∧ n.Open key e) [] := by
  have hkey : q.key? = some key := by rw [Question.key?, hvalue, hq]; rfl
  refine Act.abides_bind (Plan.Abides.mono (abides_availableKeys (underway_nil hvalue) rfl rfl
    (by rintro keys (hx | hx) <;> cases hx)) (fun _ _ hq => hq) ?_)
  rintro e r ⟨he, hidle, htold, hfailed⟩
  cases r with
  | error failure =>
      exact ⟨hidle, nofun, fun _ _ => ⟨he.unkept, Or.inl (hfailed failure rfl)⟩⟩
  | ok keys =>
      have htold : Told n.record keys e := htold keys rfl
      by_cases hlisted : key ∈ keys
      · simp only [if_pos hlisted]
        refine Act.abides_bind (Plan.Abides.mono (abides_of_asks
          (Client.tells_fetchItems (n.path ++ key) n.client.attempts false) he
          (.value key keys hkey htold hlisted)) (fun _ _ hq => hq) ?_)
        rintro e' r ⟨hsince, ⟨result, rfl, htells⟩, -⟩
        have he' := he.since hsince
        have htold' := htold.mono hsince.isPrefix
        have hidle' := (aloof_of_asks hsince).rightOf_eq.trans hidle
        cases result with
        | error failure =>
            exact ⟨hidle', nofun, fun _ _ => ⟨he'.unkept, Or.inr ⟨keys, htold', hlisted⟩⟩⟩
        | ok body =>
            refine ⟨hidle', fun lines h => ?_, nofun⟩
            cases h
            exact .fetched keys body htold' hlisted (htells.brought body rfl) rfl
      · simp only [if_neg hlisted]
        refine ⟨hidle, fun lines h => ?_, nofun⟩
        cases h
        exact .unlisted keys htold hlisted rfl

-- A question for the value of a key, by its own name or as it is.
theorem abides_of_valueKey {key : String} (hq : q.valueKey? = some key)
    (hact : q.act n = Report.text <$> n.value key) :
    (q.act n).Abides (n.May q) (n.Ends q) [] := by
  have hnames : q.linesKey? = none ∧ q ≠ .keys ∧ q.key? = some key := by
    cases q <;> cases hq <;> exact ⟨rfl, nofun, rfl⟩
  rcases hnames with ⟨hlines, hkeys, hkey⟩
  rw [hact]
  refine Act.abides_map (Plan.Abides.mono (abides_value hq) (fun _ _ hq => hq) ?_)
  rintro e r ⟨hidle, hvalue, hfailed⟩
  refine ⟨hidle, fun key' report h hr => ?_, fun key' report h => ?_,
    fun report h => absurd h hkeys, fun f hr => ?_⟩
  · rw [hq] at h
    cases h
    cases r with
    | error failure => cases hr
    | ok value =>
        cases hr
        exact ⟨value, rfl, hvalue value rfl⟩
  · rw [hlines] at h
    cases h
  · cases r with
    | ok value => cases hr
    | error failure =>
        refine ⟨(hfailed failure rfl).1, fun key' h => ?_⟩
        rw [hkey] at h
        cases h
        exact (hfailed failure rfl).2

theorem abides_of_linesKey {key : String} (hq : q.linesKey? = some key)
    (hact : q.act n = Report.list <$> n.lines key) :
    (q.act n).Abides (n.May q) (n.Ends q) [] := by
  have hnames : q.valueKey? = none ∧ q ≠ .keys ∧ q.key? = some key := by
    cases q <;> cases hq <;> exact ⟨rfl, nofun, rfl⟩
  rcases hnames with ⟨hvalue, hkeys, hkey⟩
  rw [hact]
  refine Act.abides_map (Plan.Abides.mono (abides_lines hq hvalue) (fun _ _ hq => hq) ?_)
  rintro e r ⟨hidle, hlines, hfailed⟩
  refine ⟨hidle, fun key' report h => ?_, fun key' report h hr => ?_,
    fun report h => absurd h hkeys, fun f hr => ?_⟩
  · rw [hvalue] at h
    cases h
  · rw [hq] at h
    cases h
    cases r with
    | error failure => cases hr
    | ok lines =>
        cases hr
        exact ⟨lines, rfl, hlines lines rfl⟩
  · cases r with
    | ok lines => cases hr
    | error failure =>
        refine ⟨(hfailed failure rfl).1, fun key' h => ?_⟩
        rw [hkey] at h
        cases h
        exact (hfailed failure rfl).2

/-- The conduct of every question. -/
theorem abides_question (n : Nic) (q : Question) : (q.act n).Abides (n.May q) (n.Ends q) [] := by
  cases q with
  | mac =>
      exact Act.abides_pure ⟨rfl, fun _ _ h => (by cases h), fun _ _ h => (by cases h),
        fun _ h => (by cases h), fun _ h => (by cases h)⟩
  | value key => exact abides_of_valueKey rfl rfl
  | scalar v => exact abides_of_valueKey rfl rfl
  | lines key => exact abides_of_linesKey rfl rfl
  | listing l => exact abides_of_linesKey rfl rfl
  | keys =>
      refine Act.abides_map (Plan.Abides.mono (abides_availableKeys (underway_nil rfl) rfl rfl
        (by rintro keys (hx | hx) <;> cases hx)) (fun _ _ hq => hq) ?_)
      rintro e r ⟨he, hidle, htold, -⟩
      refine ⟨hidle, fun _ _ h => (by cases h), fun _ _ h => (by cases h), fun report _ hr => ?_,
        fun f hr => ⟨he.unkept, fun _ h => (by cases h)⟩⟩
      cases r with
      | error failure => cases hr
      | ok keys =>
          cases hr
          exact ⟨keys, rfl, htold keys rfl⟩
  | associations address =>
      refine Act.abides_map (Act.abides_bind (Plan.Abides.mono (abides_of_asks
        (Client.tells_fetchItems _ n.client.attempts false) (underway_nil rfl)
        (.associations address rfl)) (fun _ _ hq => hq) ?_))
      rintro e r ⟨hsince, -⟩
      have he : Unkept e := unkept_nil.of_aloof (aloof_of_asks hsince)
      have hends : ∀ r : Except Failure Report, n.Ends (.associations address) e r := fun r =>
        ⟨(aloof_of_asks hsince).rightOf_eq, fun _ _ h => (by cases h), fun _ _ h => (by cases h),
          fun _ h => (by cases h), fun _ _ => ⟨he, fun _ h => (by cases h)⟩⟩
      cases r with
      | error failure => exact hends _
      | ok lines => exact hends _

end Accessors

end Nic

/-! ### All wishes -/

-- Whatever goes through a client to the end asks about no record.
theorem aloof_of_attends {a : Act Report} {h : Halt} {channel : Nat} (ha : a.Attends h channel) :
    a.Abides (fun d query => Aloof [] d ∧ query.record? = none) (fun d _ => Aloof [] d) [] := by
  have hclient : ∀ {query : Query}, query.OfClient channel → query.record? = none := by
    intro query h
    cases query <;> first | rfl | exact absurd h id
  have haloof : a.Abides (fun _ query => query.record? = none) (fun _ _ => True) [] :=
    Plan.Abides.mono (ha [] unstopped_nil) (fun _ _ hq => hclient hq.2) (fun _ _ _ => trivial)
  exact Plan.Abides.mono (Plan.Abides.since (.refl _ []) haloof) (fun _ _ hq => hq)
    (fun _ _ hends => hends.1)

/-- A wish is a question, or asks about no record. -/
theorem question_or_aloof (wish : Wish) : (∃ n q, wish = .question n q) ∨
    wish.act.Abides (fun d query => Aloof [] d ∧ query.record? = none)
      (fun d _ => Aloof [] d) [] := by
  cases wish with
  | demand c D => exact Or.inr (aloof_of_attends (attends_demand (fits_halt c) D))
  | interfaces c =>
      exact Or.inr (aloof_of_attends (attends_map (attends_interfaces (fits_halt c)) _))
  | interface c mac =>
      exact Or.inr (aloof_of_attends (attends_map (attends_ofMac (fits_halt c) mac) _))
  | question n q => exact Or.inl ⟨n, q, rfl⟩

/-- A wish touches no record but its own. -/
theorem own_of_wish (wish : Wish) : wish.act.Abides
    (fun _ query => ∀ record, query.record? = some record → wish.record? = some record)
    (fun _ _ => True) [] := by
  rcases question_or_aloof wish with ⟨n, q, rfl⟩ | haloof
  · refine Plan.Abides.mono (n.abides_question q) (fun e query hmay record hrecord => ?_)
      (fun _ _ _ => trivial)
    rw [hmay.own record hrecord]
    rfl
  · refine Plan.Abides.mono haloof (fun e query hquery record hrecord => ?_)
      (fun _ _ _ => trivial)
    rw [hquery.2] at hrecord
    cases hrecord

/-- A right is asked for by whoever has none, and given back by whoever has it. In the end
    nobody has one. -/
theorem right_of_wish (wish : Wish) : wish.act.Abides
    (fun d query => (∀ record, query = .enter record → rightOf d = none) ∧
      ∀ record given, query = .leave record given → rightOf d = some record)
    (fun d _ => rightOf d = none) [] := by
  rcases question_or_aloof wish with ⟨n, q, rfl⟩ | haloof
  · exact Plan.Abides.mono (n.abides_question q)
      (fun _ _ hmay => ⟨hmay.enter, fun record given h => (hmay.leave record given h).1⟩)
      (fun _ _ hends => hends.idle)
  · refine Plan.Abides.mono haloof (fun e query hquery => ⟨?_, ?_⟩) (fun _ _ h => h.rightOf_eq)
    · rintro record rfl
      cases hquery.2
    · rintro record given rfl
      cases hquery.2

end Imds
