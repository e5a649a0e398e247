import Imds.Proofs.Nic.Alone

/-!
# One Snapshot for All Who Ask

Any number of parties ask a handle, in any order, some vanish half way, and the service
answers as it likes. Their deeds still form one story. There is at most one deed that gives
back a listing, and it comes before anybody was told the keys; what was fetched before
without success left nothing behind. From then on everybody is told these keys. A value is
requested by those who were told that its key is listed, and remembered by those who have
just fetched it.

Each of these is a statement about one deed and what was kept before it. A deed was done at
some moment, where the record of the handle was in order, and by a party that may do what it
did in view of what it was told. So the statements are read off `Keeps` at that moment and
`May` for the party.

What is kept only grows, as far as it decides who has to request something. Hence whoever
comes after a value was answered for finds it kept, or its key unlisted, and requests nothing.
Which value is kept can still change while several parties are reading it for the first time.
Where one question comes after another it cannot.

## Main definitions

* `Nic.Lists`: How a party gives back the right to fetch the listing.
* `Nic.Grants`: The requests that a question may make.
* `Nic.Reads`: How a value comes to be remembered.
* `Question.missing`: What is answered for a key that is not listed.
* `Nic.Finishes`: How a question ends.
* `Nic.OneSnapshot`: What a history comes to in which a handle is asked.

## Theorems

* `moment_of_deed`: The moment of a deed, with the record in order.
* `lists_of_deed`, `listed_once`: The listing.
* `grants_of_deed`: Requests are granted by what was kept.
* `reads_of_deed`, `origin_of_value`: Where remembered values come from.
* `finishes_of_party`: What questions come to.
* `quiet_after_answer`: Who comes later requests nothing.
* `one_snapshot`: All of it.
* `handle_keeps_one_snapshot`: The same for programs and for threads.
* `answered_value_is_not_requested`: Two parties, one after the other.
-/

namespace Imds

open Blocking (Memory)

/-- What is answered for a key that is not listed. -/
def Question.missing : Question → Report
  | .value _ => .text none
  | .scalar _ => .text none
  | .lines _ => .list []
  | .listing _ => .list []
  | _ => .nothing

theorem Question.key?_eq_some {q : Question} {key : String} (h : q.key? = some key) :
    (q.valueKey? = some key ∧ q.missing = .text none) ∨
      (q.linesKey? = some key ∧ q.missing = .list []) := by
  cases q with
  | value key' => exact Or.inl ⟨h, rfl⟩
  | scalar v => exact Or.inl ⟨h, rfl⟩
  | lines key' => exact Or.inr ⟨h, rfl⟩
  | listing l => exact Or.inr ⟨h, rfl⟩
  | _ => cases h

namespace Nic

/-- A party gives back the right to fetch the listing. The keys are not known, it has the
    right and has fetched the listing, and gives back what that came to: the lines, none if
    there is no listing, or nothing if the fetch failed. -/
structure Lists (n : Nic) (before : List Deed) (i : Nat) (given : Option (List String)) :
    Prop where
  unknown : (n.kept before).keys = none
  right : rightOf (own i before) = some n.record
  fetched : ∃ r, EndsIn (n.client.fetchLines n.path) r (own i before) ∧
    given = r.toOption.map (·.getD [])
  brought : given = (lastBrought (own i before)).map linesOf

/-- The requests that a question may make, given what is kept: for the listing while the keys
    are not known, for the value of the key that is asked for if it is listed, and for
    associations, about which the keys say nothing. -/
inductive Grants (n : Nic) (q : Question) (m : Memory) (request : Request) : Prop where
  | listing (hkeys : m.keys = none) (hfor : request.IsFor n.path)
  | value (key : String) (keys : List String) (hkey : q.key? = some key)
      (hkeys : m.keys = some keys) (hlisted : key ∈ keys) (hfor : request.IsFor (n.path ++ key))
  | associations (address : String) (hq : q = .associations address)
      (hfor : request.IsFor (n.associationPath address))

/-- A party has a value remembered. Its key is listed, and the party has just fetched it: this
    is the document that came, or there is none. -/
structure Reads (n : Nic) (before : List Deed) (i : Nat) (key : String) (value : Option String) :
    Prop where
  listed : ∃ keys, (n.kept before).keys = some keys ∧ key ∈ keys
  fetched : EndsIn (n.client.fetchDocument (n.path ++ key)) (.ok value) (own i before)
  brought : JustBrought n.client (n.path ++ key) value (own i before)

/-- A question has come to its end. What it was told of the keys is what is kept, and a key
    that is not listed is not requested and answered for with nothing. -/
structure Finishes (n : Nic) (q : Question) (deeds : List Deed) (i : Nat)
    (r : Except Failure Report) : Prop where
  ends : n.Ends q (own i deeds) r
  sees : ∀ keys, Told n.record keys (own i deeds) → (n.kept deeds).keys = some keys
  unlisted : ∀ key keys, q.key? = some key → (n.kept deeds).keys = some keys → key ∉ keys →
    (∀ report, r = .ok report → report = q.missing) ∧
      ∀ e ∈ exchanges (own i deeds), e.request.IsFor n.path

/-- What a history comes to in which a handle is asked. -/
structure OneSnapshot (n : Nic) (site : Site) (events : List Happening) : Prop where
  /-- What is known of the interface is what the deeds made of it. -/
  memory : let s := (Chronicle.ofSite site).after events
    n.record < s.site.attached → (s.site.records n.record).memory = n.kept s.deeds
  /-- A listing is given back by whoever fetched it, when there was none. Without success
      nothing changes. -/
  lists : let s := (Chronicle.ofSite site).after events
    ∀ before i given after, s.deeds = before ++ ⟨i, ⟨.leave n.record given, ()⟩⟩ :: after →
      n.Lists before i given ∧ n.kept (before ++ [⟨i, ⟨.leave n.record given, ()⟩⟩]) =
        { n.kept before with keys := given }
  /-- The keys that are kept were given back by somebody who had fetched them. -/
  snapshot : let s := (Chronicle.ofSite site).after events
    ∀ keys, (n.kept s.deeds).keys = some keys → ∃ before i after,
      s.deeds = before ++ ⟨i, ⟨.leave n.record (some keys), ()⟩⟩ :: after ∧
        n.Lists before i (some keys)
  /-- Once there is a listing it is the only one: nobody has the right to fetch it or gives one
      back, and whoever asks is told this one. -/
  lasts : let s := (Chronicle.ofSite site).after events
    ∀ before x after keys, s.deeds = before ++ x :: after → (n.kept before).keys = some keys →
      (n.kept s.deeds).keys = some keys ∧ rightOf (own x.errand before) ≠ some n.record ∧
        (∀ given, x.said.query ≠ .leave n.record given) ∧
        ∀ known, x.said = ⟨.enter n.record, known⟩ → known = some keys
  /-- Questions request what is granted by what is kept. -/
  grants : let s := (Chronicle.ofSite site).after events
    ∀ before i channel request outcome after q,
      s.deeds = before ++ ⟨i, ⟨.send channel request, outcome⟩⟩ :: after →
      s.wishes[i]? = some (.question n q) →
        channel = n.client.channel ∧ n.Grants q (n.kept before) request
  /-- Questions end as they should. -/
  finishes : let s := (Chronicle.ofSite site).after events
    ∀ i q p r, s.wishes[i]? = some (.question n q) → s.party i = some p → p.value? = some r →
      n.Finishes q s.deeds i r
  /-- Every value that is kept was read, its key is listed, and no other value was kept since. -/
  origin : let s := (Chronicle.ofSite site).after events
    ∀ key value, (n.kept s.deeds).values.get? key = some value →
      (∃ keys, (n.kept s.deeds).keys = some keys ∧ key ∈ keys) ∧
        ∃ before i after, s.deeds = before ++ ⟨i, ⟨.remember n.record key value, ()⟩⟩ :: after ∧
          n.Reads before i key value ∧
          ∀ y ∈ after, ∀ other, y.said.query ≠ .remember n.record key other
  /-- Whoever comes after a question for a value was answered, and asks for this value,
      requests nothing. -/
  quiet : let s := (Chronicle.ofSite site).after events
    ∀ first second i j q q' key report p, events = first ++ second →
      let earlier := (Chronicle.ofSite site).after first
      earlier.wishes[i]? = some (.question n q) → q.valueKey? = some key →
      earlier.party i = some p → p.value? = some (.ok report) → earlier.wishes.length ≤ j →
      s.wishes[j]? = some (.question n q') → q'.valueKey? = some key →
        exchanges (own j s.deeds) = []

variable {n : Nic}

theorem kept_concat (n : Nic) (before : List Deed) (x : Deed) :
    n.kept (before ++ [x]) = (n.kept before).hear n.record x.said :=
  Memory.replay_append _ _ _ _

-- A value can be replaced, but is not forgotten.
theorem kept_values {before deeds : List Deed} {key : String}
    (h : (n.kept before).values.get? key ≠ none) (hgrows : before <+: deeds) :
    (n.kept deeds).values.get? key ≠ none := by
  rcases hgrows with ⟨more, rfl⟩
  rw [kept, Memory.replay_append]
  exact Memory.replay_values h more

/-- Whoever uses a handle well to the end has done so up to any point. -/
theorem IsUsed.of_append {site : Site} {first second : List Happening}
    (h : n.IsUsed site (first ++ second)) : n.IsUsed site first :=
  ⟨h.fresh, fun start m q waiting rest hfirst =>
    h.asked start m q waiting (rest ++ second) (by rw [hfirst, List.append_assoc]; rfl)⟩

end Nic

namespace Chronicle

/-! ### What the record shows -/

section Records

variable {n : Nic} {s : Chronicle} {i : Nat} {keys : List String}

theorem Keeps.told_kept (h : s.Keeps n) (htold : Told n.record keys (own i s.deeds)) :
    (n.kept s.deeds).keys = some keys := by
  rcases Nat.lt_or_ge n.record s.site.attached with hmade | hunmade
  · rw [← h.memory hmade]
    exact h.told i keys htold
  · exact absurd htold (h.not_told hunmade i keys)

theorem Keeps.right_kept (h : s.Keeps n) (hright : s.Holds n.record i) :
    (n.kept s.deeds).keys = none := by
  rcases Nat.lt_or_ge n.record s.site.attached with hmade | hunmade
  · rw [← h.memory hmade]
    exact (h.held i hright).1
  · exact absurd hright (h.not_holds hunmade i)

end Records

/-! ### Deeds -/

section Deeds

variable {n : Nic} {site : Site} {events : List Happening} {before after : List Deed} {x : Deed}
variable {q : Question} {i : Nat} {keys : List String}

/-- A deed was done when the record was in order, by a party that had got that far. -/
theorem moment_of_deed (h : n.IsUsed site events)
    (hdeeds : ((ofSite site).after events).deeds = before ++ x :: after) :
    ∃ s : Chronicle, s.Keeps n ∧ s.Sound ∧ s.deeds = before ∧
      ∃ p next, s.party x.errand = some p ∧ p.plan = .ask x.said.query next ∧
        x.said.answer = (x.said.query.answer s.site).1 := by
  rcases split_deeds hdeeds with ⟨first, second, rfl, hbefore, p, next, hp, hplan, -, hanswer⟩
  exact ⟨_, keeps_after h.of_append, sound_of_history site first, hbefore, p, next, hp, hplan,
    hanswer⟩

theorem may_of_deed (hdeeds : ((ofSite site).after events).deeds = before ++ x :: after)
    (hwish : ((ofSite site).after events).wishes[x.errand]? = some (.question n q)) :
    n.May q (own x.errand before) x.said.query := by
  rcases leads_of_deed hdeeds with ⟨wish, next, hwish', hleads⟩
  rw [hwish] at hwish'
  cases hwish'
  exact (hleads.abides (n.abides_question q)).1

/-- Only questions to a handle touch its record. -/
theorem question_of_deed (h : n.IsUsed site events)
    (hdeeds : ((ofSite site).after events).deeds = before ++ x :: after)
    (hmine : x.said.query.record? = some n.record) :
    ∃ q, ((ofSite site).after events).wishes[x.errand]? = some (.question n q) := by
  rcases leads_of_deed hdeeds with ⟨wish, next, hwish, hleads⟩
  have hown := (hleads.abides (own_of_wish wish)).1 _ hmine
  rcases ((keeps_after h).wishes wish (List.mem_of_getElem? hwish) hown).2 with ⟨q, rfl⟩
  exact ⟨q, hwish⟩

theorem right_of_deed (h : n.IsUsed site events)
    (hdeeds : ((ofSite site).after events).deeds = before ++ x :: after)
    (hright : rightOf (own x.errand before) = some n.record) : (n.kept before).keys = none := by
  rcases moment_of_deed h hdeeds with ⟨s, hkeeps, -, rfl, p, next, hp, -, -⟩
  exact hkeeps.right_kept ⟨p, hp, (hkeeps.right _ p hp).trans hright⟩

theorem told_of_deed (h : n.IsUsed site events)
    (hdeeds : ((ofSite site).after events).deeds = before ++ x :: after)
    (htold : Told n.record keys (own i before)) : (n.kept before).keys = some keys := by
  rcases moment_of_deed h hdeeds with ⟨s, hkeeps, -, rfl, -⟩
  exact hkeeps.told_kept htold

-- What the record answers is what is kept.
theorem memory_of_deed (h : n.IsUsed site events)
    (hdeeds : ((ofSite site).after events).deeds = before ++ x :: after)
    (hmine : x.said.query.record? = some n.record) :
    ∃ s : Site, (s.records n.record).memory = n.kept before ∧
      x.said.answer = (x.said.query.answer s).1 := by
  rcases moment_of_deed h hdeeds with ⟨s, hkeeps, hsound, rfl, p, next, hp, hplan, hanswer⟩
  exact ⟨s.site, hkeeps.memory (hkeeps.conduct hsound hp hplan hmine).1, hanswer⟩

theorem enter_of_deed {known : Option (List String)} (h : n.IsUsed site events)
    (hdeeds : ((ofSite site).after events).deeds =
      before ++ ⟨i, ⟨.enter n.record, known⟩⟩ :: after) : known = (n.kept before).keys := by
  rcases memory_of_deed h hdeeds rfl with ⟨s, hmemory, hanswer⟩
  rw [← hmemory]
  exact hanswer

theorem recollect_of_deed {key : String} {known : Option (Option String)}
    (h : n.IsUsed site events) (hdeeds : ((ofSite site).after events).deeds =
      before ++ ⟨i, ⟨.recollect n.record key, known⟩⟩ :: after) :
    known = (n.kept before).values.get? key := by
  rcases memory_of_deed h hdeeds rfl with ⟨s, hmemory, hanswer⟩
  rw [← hmemory]
  exact hanswer

/-- How the right to fetch the listing is given back. -/
theorem lists_of_deed {given : Option (List String)} {answer : Unit} (h : n.IsUsed site events)
    (hdeeds : ((ofSite site).after events).deeds =
      before ++ ⟨i, ⟨.leave n.record given, answer⟩⟩ :: after) : n.Lists before i given := by
  rcases question_of_deed h hdeeds rfl with ⟨q, hwish⟩
  rcases (may_of_deed hdeeds hwish).leave _ _ rfl with ⟨hright, hfetched, hbrought⟩
  exact ⟨right_of_deed h hdeeds hright, hright, hfetched, hbrought⟩

/-- Once the keys are known, nobody gives a listing back any more. -/
theorem listed_once (h : n.IsUsed site events)
    (hdeeds : ((ofSite site).after events).deeds = before ++ x :: after)
    (hkeys : (n.kept before).keys = some keys) (given : Option (List String)) :
    x.said.query ≠ .leave n.record given := by
  rcases x with ⟨i, query, answer⟩
  rintro rfl
  have hnone := (lists_of_deed h hdeeds).unknown
  rw [hkeys] at hnone
  cases hnone

/-- What is known of the keys lasts. -/
theorem kept_keys {deeds : List Deed} (h : n.IsUsed site events)
    (hdeeds : deeds <+: ((ofSite site).after events).deeds) (hgrows : before <+: deeds)
    (hkeys : (n.kept before).keys = some keys) : (n.kept deeds).keys = some keys := by
  rcases hgrows with ⟨more, rfl⟩
  -- On what was done since.
  induction more generalizing before with
  | nil => rwa [List.append_nil]
  | cons x more ih =>
      rw [List.append_cons] at hdeeds ⊢
      refine ih ?_ hdeeds
      rcases hdeeds with ⟨rest, hdeeds⟩
      rw [List.append_assoc, List.append_assoc, List.singleton_append] at hdeeds
      rw [Nic.kept_concat, Memory.hear_keys (listed_once h hdeeds.symm hkeys)]
      exact hkeys

/-- A question requests only what is granted by what was kept. -/
theorem grants_of_deed {channel : Nat} {request : Request} {outcome : Except Fault String}
    (h : n.IsUsed site events) (hdeeds : ((ofSite site).after events).deeds =
      before ++ ⟨i, ⟨.send channel request, outcome⟩⟩ :: after)
    (hwish : ((ofSite site).after events).wishes[i]? = some (.question n q)) :
    channel = n.client.channel ∧ n.Grants q (n.kept before) request := by
  rcases (may_of_deed hdeeds hwish).send _ _ rfl with ⟨hchannel, path, htarget, hfor⟩
  refine ⟨hchannel, ?_⟩
  cases htarget with
  | listing hright => exact .listing (right_of_deed h hdeeds hright) hfor
  | value key keys hkey htold hlisted =>
      exact .value key keys hkey (told_of_deed h hdeeds htold) hlisted hfor
  | associations address hq => exact .associations address hq hfor

/-- What is remembered was read, and its key is listed. -/
theorem reads_of_deed {key : String} {value : Option String} {answer : Unit}
    (h : n.IsUsed site events) (hdeeds : ((ofSite site).after events).deeds =
      before ++ ⟨i, ⟨.remember n.record key value, answer⟩⟩ :: after) :
    n.Reads before i key value := by
  rcases question_of_deed h hdeeds rfl with ⟨q, hwish⟩
  rcases (may_of_deed hdeeds hwish).remember _ _ _ rfl with
    ⟨-, ⟨keys, htold, hlisted⟩, hfetched, hbrought⟩
  exact ⟨⟨keys, told_of_deed h hdeeds htold, hlisted⟩, hfetched, hbrought⟩

/-- Every value that is kept was remembered by somebody, and no other value of its key since. -/
theorem origin_of_value {key : String} {value : Option String}
    (hkept : (n.kept ((ofSite site).after events).deeds).values.get? key = some value) :
    ∃ before i after, ((ofSite site).after events).deeds =
        before ++ ⟨i, ⟨.remember n.record key value, ()⟩⟩ :: after ∧
      ∀ y ∈ after, ∀ other, y.said.query ≠ .remember n.record key other := by
  rcases Memory.replay_values_eq_some hkept with hfresh | ⟨before, x, after, hdeeds, hx, hafter⟩
  · cases hfresh
  · rcases x with ⟨i, query, answer⟩
    have hx : query = .remember n.record key value := hx
    subst hx
    exact ⟨before, i, after, hdeeds, hafter⟩

/-! ### Ends -/

/-- A request that a party has made was granted by what was kept then. -/
theorem grants_of_exchange (h : n.IsUsed site events)
    (hwish : ((ofSite site).after events).wishes[i]? = some (.question n q)) {e : Exchange}
    (he : e ∈ exchanges (own i ((ofSite site).after events).deeds)) :
    ∃ before after, ((ofSite site).after events).deeds =
        before ++ ⟨i, ⟨.send e.channel e.request, e.outcome⟩⟩ :: after ∧
      n.Grants q (n.kept before) e.request := by
  rcases List.append_of_mem (mem_own.1 (mem_exchanges.1 he)) with ⟨before, after, hdeeds⟩
  exact ⟨before, after, hdeeds, (grants_of_deed h hdeeds hwish).2⟩

theorem ends_of_party {p : Party (Except Failure Report)} {r : Except Failure Report}
    (hwish : ((ofSite site).after events).wishes[i]? = some (.question n q))
    (hp : ((ofSite site).after events).party i = some p) (hr : p.value? = some r) :
    n.Ends q (own i ((ofSite site).after events).deeds) r :=
  (leads_of_value hwish hp hr).abides (n.abides_question q)

/-- A value that is kept is the value of a key that is listed. -/
theorem listed_of_value {key : String} {value : Option String} (h : n.IsUsed site events)
    (hkept : (n.kept ((ofSite site).after events).deeds).values.get? key = some value) :
    ∃ keys, (n.kept ((ofSite site).after events).deeds).keys = some keys ∧ key ∈ keys := by
  rcases origin_of_value hkept with ⟨before, i, after, hdeeds, -⟩
  rcases (reads_of_deed h hdeeds).listed with ⟨keys, hkeys, hlisted⟩
  exact ⟨keys, kept_keys h List.prefix_rfl ⟨_, hdeeds.symm⟩ hkeys, hlisted⟩

/-- A question for a key that is not listed is answered with nothing. -/
theorem missing_of_unlisted {key : String} {report : Report} (h : n.IsUsed site events)
    (hends : n.Ends q (own i ((ofSite site).after events).deeds) (.ok report))
    (hkey : q.key? = some key)
    (hkeys : (n.kept ((ofSite site).after events).deeds).keys = some keys)
    (hmissing : key ∉ keys) : report = q.missing := by
  -- What the party was told is what is kept.
  have htells : ∀ keys', Told n.record keys' (own i ((ofSite site).after events).deeds) →
      key ∉ keys' := by
    intro keys' htold
    have hsame := (keeps_after h).told_kept htold
    rw [hkeys] at hsame
    cases hsame
    exact hmissing
  rcases q.key?_eq_some hkey with ⟨hvalue, hreport⟩ | ⟨hlines, hreport⟩
  · rcases hends.value key report hvalue rfl with ⟨value, rfl, hvalued⟩
    rw [hreport]
    generalize hd : own i ((ofSite site).after events).deeds = d at hvalued htells
    cases hvalued with
    | known =>
        have hmem : ⟨.recollect n.record key, some value⟩ ∈
            own i ((ofSite site).after events).deeds := by
          rw [hd]
          exact List.mem_cons_self
        rcases List.append_of_mem (mem_own.1 hmem) with ⟨before, after, hdeeds⟩
        have hkept : (n.kept before).values.get? key ≠ none := by
          rw [← recollect_of_deed h hdeeds]
          exact nofun
        have hlast := Nic.kept_values hkept ⟨_, hdeeds.symm⟩
        cases hknown : (n.kept ((ofSite site).after events).deeds).values.get? key with
        | none => exact absurd hknown hlast
        | some kept =>
            rcases listed_of_value h hknown with ⟨keys', hkeys', hlisted⟩
            rw [hkeys] at hkeys'
            cases hkeys'
            exact absurd hlisted hmissing
    | unlisted _ keys' hunkept hasked htold hkey hvalue => rw [hvalue]
    | fetched before keys' htold hlisted hbrought =>
        exact absurd hlisted (htells keys' (htold.mono (List.prefix_append _ _)))
  · rcases hends.lines key report hlines rfl with ⟨lines, rfl, hlined⟩
    rw [hreport]
    cases hlined with
    | unlisted keys' htold hkey hlines => rw [hlines]
    | fetched keys' body htold hlisted hbrought hlines =>
        exact absurd hlisted (htells keys' htold)

/-- How a question ends. -/
theorem finishes_of_party {p : Party (Except Failure Report)} {r : Except Failure Report}
    (h : n.IsUsed site events)
    (hwish : ((ofSite site).after events).wishes[i]? = some (.question n q))
    (hp : ((ofSite site).after events).party i = some p) (hr : p.value? = some r) :
    n.Finishes q ((ofSite site).after events).deeds i r := by
  have hends := ends_of_party hwish hp hr
  refine ⟨hends, fun keys htold => (keeps_after h).told_kept htold,
    fun key keys hkey hkeys hmissing => ⟨fun report hreport => ?_, ?_⟩⟩
  · subst hreport
    exact missing_of_unlisted h hends hkey hkeys hmissing
  · intro e he
    rcases grants_of_exchange h hwish he with ⟨before, after, hdeeds, hgrants⟩
    cases hgrants with
    | listing hnone hfor => exact hfor
    | value key' keys' hkey' hkeys' hlisted hfor =>
        rw [hkey] at hkey'
        cases hkey'
        rw [kept_keys h List.prefix_rfl ⟨_, hdeeds.symm⟩ hkeys'] at hkeys
        cases hkeys
        exact absurd hlisted hmissing
    | associations address hq hfor =>
        rw [hq] at hkey
        cases hkey

end Deeds

/-! ### Who comes later -/

section Later

variable {n : Nic} {site : Site} {first second : List Happening} {before after : List Deed}
variable {i j : Nat} {key : String}

-- What a party does that has not come yet is done after everything that was done by then.
theorem deeds_before {x : Said} (hj : ((ofSite site).after first).wishes.length ≤ j)
    (hdeeds : ((ofSite site).after (first ++ second)).deeds = before ++ ⟨j, x⟩ :: after) :
    ((ofSite site).after first).deeds <+: before := by
  have hnot : (⟨j, x⟩ : Deed) ∉ ((ofSite site).after first).deeds := by
    intro hx
    have hown := mem_own.2 hx
    rw [((sound_of_history site first).unborn j hj).2] at hown
    cases hown
  have hearlier : ((ofSite site).after first).deeds <+: before ++ ⟨j, x⟩ :: after := by
    rw [← hdeeds, after_append]
    exact deeds_prefix _ second
  have hdone : before ++ [⟨j, x⟩] <+: before ++ ⟨j, x⟩ :: after :=
    (List.prefix_append_right_inj before).2 ⟨after, rfl⟩
  rcases List.prefix_or_prefix_of_prefix hearlier hdone with h | h
  · rcases List.prefix_concat_iff.1 h with heq | h
    · rw [heq] at hnot
      exact absurd (List.mem_append_right _ List.mem_cons_self) hnot
    · exact h
  · exact absurd (h.subset (List.mem_append_right _ List.mem_cons_self)) hnot

/-- What an answered question for a value leaves behind answers for this value: it is kept, or
    its key is known not to be listed. -/
theorem settled_of_answer {events : List Happening} {q : Question} {report : Report}
    {p : Party (Except Failure Report)} (h : n.IsUsed site events)
    (hwish : ((ofSite site).after events).wishes[i]? = some (.question n q))
    (hkey : q.valueKey? = some key) (hp : ((ofSite site).after events).party i = some p)
    (hr : p.value? = some (.ok report)) :
    (n.kept ((ofSite site).after events).deeds).value? key ≠ none := by
  rcases (ends_of_party hwish hp hr).value key report hkey rfl with ⟨value, -, hvalued⟩
  generalize hd : own i ((ofSite site).after events).deeds = d at hvalued
  have hdone : ∀ x ∈ d, ∃ before after,
      ((ofSite site).after events).deeds = before ++ ⟨i, x⟩ :: after := by
    rintro x hx
    rw [← hd] at hx
    exact List.append_of_mem (mem_own.1 hx)
  rw [Memory.value?_ne_none]
  cases hvalued with
  | known =>
      rcases hdone _ List.mem_cons_self with ⟨before, after, hdeeds⟩
      refine Or.inl (Nic.kept_values ?_ ⟨_, hdeeds.symm⟩)
      rw [← recollect_of_deed h hdeeds]
      exact nofun
  | unlisted _ keys hunkept hasked htold hmissing hvalue =>
      rw [← hd] at htold
      exact Or.inr ⟨keys, (keeps_after h).told_kept htold, hmissing⟩
  | fetched said keys htold hlisted hbrought =>
      rcases hdone _ (List.mem_append_right _ List.mem_cons_self) with ⟨before, after, hdeeds⟩
      rw [List.append_cons] at hdeeds
      refine Or.inl (Nic.kept_values ?_ ⟨_, hdeeds.symm⟩)
      rw [Nic.kept_concat, Memory.hear, if_pos rfl, Table.get?_insert_self]
      exact nofun

/-- Whoever comes after a question for a value was answered, and asks for this value as well,
    requests nothing. -/
theorem quiet_after_answer {q q' : Question} {report : Report}
    {p : Party (Except Failure Report)} (h : n.IsUsed site (first ++ second))
    (hwish : ((ofSite site).after first).wishes[i]? = some (.question n q))
    (hkey : q.valueKey? = some key) (hp : ((ofSite site).after first).party i = some p)
    (hr : p.value? = some (.ok report)) (hj : ((ofSite site).after first).wishes.length ≤ j)
    (hwish' : ((ofSite site).after (first ++ second)).wishes[j]? = some (.question n q'))
    (hkey' : q'.valueKey? = some key) :
    exchanges (own j ((ofSite site).after (first ++ second)).deeds) = [] := by
  refine List.eq_nil_iff_forall_not_mem.2 (fun e he => ?_)
  rcases grants_of_exchange h hwish' he with ⟨before, after, hdeeds, hgrants⟩
  have hgrows := deeds_before hj hdeeds
  rcases Memory.value?_ne_none.1 (settled_of_answer h.of_append hwish hkey hp hr) with
    hkept | ⟨keys, hkeys, hmissing⟩
  · -- The party was told that the value is not remembered, although it was.
    rcases (may_of_deed hdeeds hwish').asked key hkey' with hquery | hasked
    · cases hquery
    · rcases List.append_of_mem (mem_own.1 hasked) with ⟨earlier, rest, rfl⟩
      rw [List.append_assoc, List.cons_append] at hdeeds
      exact Nic.kept_values hkept (deeds_before hj hdeeds) (recollect_of_deed h hdeeds).symm
  · have hknown := kept_keys h ⟨_, hdeeds.symm⟩ hgrows hkeys
    cases hgrants with
    | listing hnone hfor =>
        rw [hknown] at hnone
        cases hnone
    | value key' keys' hkey'' hkeys' hlisted hfor =>
        rw [Question.key?, hkey'] at hkey''
        cases hkey''
        rw [hknown] at hkeys'
        cases hkeys'
        exact hmissing hlisted
    | associations address hq hfor =>
        rw [hq] at hkey'
        cases hkey'

/-- A history in which a handle is used is one of one snapshot. -/
theorem one_snapshot {events : List Happening} (h : n.IsUsed site events) :
    n.OneSnapshot site events where
  memory := (keeps_after h).memory
  lists := by
    intro s before i given after hdeeds
    have hlists := lists_of_deed h hdeeds
    refine ⟨hlists, ?_⟩
    rw [Nic.kept_concat]
    simp only [Memory.hear, if_true, hlists.unknown, Option.or_none]
  snapshot := by
    intro s keys hkeys
    rcases Memory.replay_keys_eq_some hkeys with hfresh | ⟨before, x, after, hdeeds, hx⟩
    · cases hfresh
    · rcases x with ⟨i, query, answer⟩
      have hx : query = .leave n.record (some keys) := hx
      subst hx
      exact ⟨before, i, after, hdeeds, lists_of_deed h hdeeds⟩
  lasts := by
    intro s before x after keys hdeeds hkeys
    refine ⟨kept_keys h List.prefix_rfl ⟨_, hdeeds.symm⟩ hkeys, fun hright => ?_,
      listed_once h hdeeds hkeys, fun known hx => ?_⟩
    · rw [right_of_deed h hdeeds hright] at hkeys
      cases hkeys
    · rcases x with ⟨i, said⟩
      have hx : said = ⟨.enter n.record, known⟩ := hx
      subst hx
      exact (enter_of_deed h hdeeds).trans hkeys
  grants := fun before i channel request outcome after q hdeeds => grants_of_deed h hdeeds
  finishes := fun i q p r => finishes_of_party h
  origin := by
    intro s key value hkept
    rcases origin_of_value hkept with ⟨before, i, after, hdeeds, hafter⟩
    exact ⟨listed_of_value h hkept, before, i, after, hdeeds, reads_of_deed h hdeeds, hafter⟩
  quiet := by
    rintro s first second i j q q' key report p rfl earlier hwish hkey hp hr hj hwish' hkey'
    exact quiet_after_answer h hwish hkey hp hr hj hwish' hkey'

end Later

end Chronicle

/-- Who asks a handle is told of one snapshot. It is fetched with success at most once, and from
    then on it is what everybody sees; it rules what is requested and what is remembered, in
    any history in which the handle is used: with any number of parties that ask and take
    turns in any order, tasks and threads with the operations of each, some of which vanish,
    and with any service.

    Operations one after another are such a history, and a thread gets from its handles what
    it would get there. In particular a value that was answered is answered for ever without a
    request, and a question that fails leaves what is remembered as it was. -/
theorem handle_keeps_one_snapshot :
    (∀ (n : Nic) (site : Site) (events : List Happening),
      n.IsUsed site events → n.OneSnapshot site events) ∧
    (∀ service settings flag caches (os : List Operation),
      let d := Desk.initial service settings flag caches
      let b := Blocking.Desk.initial service settings flag caches
      (∃ events, d.IsToldBy os events ∧ ∀ n ∈ (d.work os).2.nics, n.OneSnapshot d.site events) ∧
        (b.work os).1 = (d.work os).1 ∧ (d.work os).2.Agrees (b.work os).2) ∧
    (∀ (n : Nic) (q : Question), (q.act n).Matches (Blocking.question n.blocking q)) ∧
    ∀ (d : Desk) (index : Nat) (n : Nic) (q : Question), d.nics[index]? = some n →
      n.record < d.site.attached →
        let done := d.perform (.question index q)
        (∀ f, done.1 = .error f →
          (done.2.site.records n.record).memory.values =
            (d.site.records n.record).memory.values ∧
          ∀ b, d.Agrees b → ((b.perform (.question index q)).2.world.memories n.record).values =
            (b.world.memories n.record).values) ∧
        ∀ key report, q.valueKey? = some key → done.1 = .ok report →
          ∀ os q', q'.valueKey? = some key →
            let last := (done.2.work os).2
            last.perform (.question index q') = (.ok report, last) ∧
              ∀ b, last.Agrees b → (b.perform (.question index q')).1 = .ok report ∧
                (b.perform (.question index q')).2.world.posted = b.world.posted := by
  refine ⟨fun n site events h => Chronicle.one_snapshot h, ?_, matches_question, ?_⟩
  · intro service settings flag caches os d b
    have hfree : d.site.IsFree none := fun record _ hbusy => by cases hbusy
    rcases history_of_work d hfree os with ⟨events, htold⟩
    exact ⟨⟨events, htold, fun n hn => Chronicle.one_snapshot (isUsed_of_work rfl rfl htold hn)⟩,
      agrees_work (agrees_initial service settings flag caches) os⟩
  · intro d index n q hn hmade done
    refine ⟨?_, ?_⟩
    · intro f hf
      have hsame := values_of_failure hn hmade hf
      refine ⟨hsame, fun b hagrees => ?_⟩
      have hafter := (agrees_perform hagrees (.question index q)).2
      rw [hafter.world.memories, hagrees.world.memories]
      exact hsame
    · intro key report hkey hok os q' hkey' last
      have hlast := same_answer hn hmade hkey hkey' hok os
      refine ⟨hlast, fun b hagrees => ?_⟩
      rcases agrees_perform hagrees (.question index q') with ⟨hresult, hafter⟩
      rw [show last.perform (.question index q') = _ from hlast] at hresult hafter
      exact ⟨hresult, hafter.world.posted.trans hagrees.world.posted.symm⟩

/-- Whether a party was told this text. -/
def tellsText (text : Option String) : Option (Except Failure Report) → Bool
  | some (.ok (.text told)) => told == text
  | _ => false

theorem eq_of_tellsText {text : Option String} {told : Option (Except Failure Report)}
    (h : tellsText text told = true) : told = some (.ok (.text text)) := by
  unfold tellsText at h
  split at h
  · rw [beq_iff_eq.1 h]
  · cases h

-- Two parties come to a handle that knows nothing yet. The first one is a thread and fetches the
-- listing and the value, with a token for each. The second one is a task that comes when it was
-- answered, and is told the same without a request.
theorem answered_value_is_not_requested :
    let c : Client := ⟨⟨.fixed "http://host", .flag, ⟨1, Duration.zero⟩, 21600, 0⟩, 0⟩
    let service : List Sent → Except Fault String := fun sent =>
      match sent.head?.map (fun x => x.request.url) with
      | some "http://host/latest/meta-data/network/interfaces/macs/m/" => .ok "k"
      | _ => .ok "v"
    let site : Site := { Site.fresh service with attached := 1 }
    let n : Nic := ⟨c, "m", 0⟩
    let wish : Wish := .question n (.value "k")
    let first := .arrive wish .thread :: List.replicate 10 (.act 0)
    let events := first ++ .arrive wish .task :: List.replicate 2 (.act 1)
    let s := (Chronicle.ofSite site).after events
    n.IsUsed site events ∧
      s.wishes = [wish, wish] ∧ (exchanges (own 0 s.deeds)).length = 4 ∧
      exchanges (own 1 s.deeds) = [] ∧
      (s.party 1).bind Party.value? = some (.ok (.text (some "v"))) := by
  intro c service site n wish first events s
  have hused : n.IsUsed site events := by
    refine Chronicle.isUsed_of_made (by decide) rfl (fun m q waiting hmem _ => ?_)
    simp only [events, first, wish, List.cons_append, List.mem_cons, List.mem_append,
      List.mem_replicate, Happening.arrive.injEq, Wish.question.injEq, reduceCtorEq, and_false,
      false_or, or_false] at hmem
    rcases hmem with ⟨⟨hm, -⟩, -⟩ | ⟨⟨hm, -⟩, -⟩ <;> exact hm
  have hfirst : (((Chronicle.ofSite site).after first).party 0).bind Party.value? =
      some (.ok (.text (some "v"))) := eq_of_tellsText (by decide +kernel)
  rcases Option.bind_eq_some_iff.1 hfirst with ⟨p, hp, hvalue⟩
  have hwish : ((Chronicle.ofSite site).after first).wishes = [wish] :=
    Chronicle.wishes_after _ first
  have hwishes : s.wishes = [wish, wish] := Chronicle.wishes_after _ _
  have hquiet := (handle_keeps_one_snapshot.1 n site _ hused).quiet first _ 0 1 (.value "k")
    (.value "k") "k" (.text (some "v")) p rfl (by rw [hwish]; rfl) rfl hp hvalue
    (by rw [hwish]; exact Nat.le_refl 1) (by rw [hwishes]; rfl) rfl
  exact ⟨hused, hwishes, by decide +kernel, hquiet, eq_of_tellsText (by decide +kernel)⟩

end Imds
