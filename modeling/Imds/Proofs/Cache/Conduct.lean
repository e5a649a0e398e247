import Imds.Desk
import Imds.Proofs.Fetch.Conduct
import Imds.Proofs.Fetch.Rounds

/-!
# What Demands Do to Caches

Three kinds of demand touch a cache. A demand for a single value may look its path up, and
if it fetches the value it stores it under this path, right after the read that brought
it. A value can be kept by hand, and a cache can be cleared. Whatever changes a cache is the
last thing that its demand says: a demand that has more to say has changed nothing yet.

`Demand.May` puts this as a rule for each query, in terms of what the same demand said
before, and `Demand.Ends` says what the dialogue accounts for when the demand is met. Both
speak of the demand's own dialogue only, so that they hold no matter who else is at the
site, and what is done to the cache in between.

## Main definitions

* `Query.IsWrite`, `Unwritten`: Changes of a cache, and dialogues without one.
* `Query.OfCache`: Everything that concerns a cache.
* `Single`, `Demand.single?`: Demands for single values.
* `Reading`, `Demand.reading?`: Demands for the items of a path.
* `Found`, `ValueEnds`: How a single value was come by.
* `Demand.May`, `Demand.Ends`: The conduct of a demand.
* `Act.SparesCaches`, `Act.PassesCaches`: An act that never changes a cache, or never asks about
  one.

## Theorems

* `abides_fetchValueWith`: The conduct of a fetch of a single value.
* `abides_demand`: The conduct of every demand.
* `passes_question`, `passes_interfaces`: Handles on interfaces pass caches by.
* `spares_question`, `spares_interfaces`: So they leave caches alone.
-/

namespace Imds

/-- A change of a cache. -/
def Query.IsWrite : Query → Prop
  | .store _ _ _ => True
  | .clear _ => True
  | _ => False

/-- A query that a cache answers, or that changes one. -/
def Query.OfCache : Query → Prop
  | .lookup _ _ => True
  | .store _ _ _ => True
  | .clear _ => True
  | _ => False

/-- Nothing that was said changed a cache. -/
def Unwritten (d : List Said) : Prop := ∀ x ∈ d, ¬ x.query.IsWrite

/-- A single value that is asked for. -/
structure Single where
  /-- Where it is. -/
  path : String
  /-- Whether the cache is passed by. -/
  force : Bool
  /-- How often to try. -/
  attempts : Nat

/-- The single value that a demand asks for, if it asks for one. -/
def Demand.single? (c : Client) : Demand → Option Single
  | .value path => some ⟨path, false, c.attempts⟩
  | .valueWith path force attempts => some ⟨path, force, attempts⟩
  | .scalar v => some ⟨v.path, false, c.attempts⟩
  | _ => none

/-- Items of a path that are asked for. -/
structure Reading where
  /-- Where they are. -/
  path : String
  /-- Whether the body is one item. -/
  whole : Bool
  /-- How often to try. -/
  attempts : Nat

/-- The items that a demand asks for, if it asks for items of a path. -/
def Demand.reading? (c : Client) : Demand → Option Reading
  | .items path attempts whole => some ⟨path, whole, attempts⟩
  | .lines path => some ⟨path, false, c.attempts⟩
  | .linesWith path attempts => some ⟨path, false, attempts⟩
  | _ => none

/-- How a single value was come by, as the last thing of a dialogue tells. -/
inductive Found (c : Client) (path value : String) : List Said → Prop where
  /-- The cache knew it, and nothing was requested. -/
  | known (before : List Said) (hquiet : exchanges before = []) (hbefore : Unwritten before) :
    Found c path value (before ++ [⟨.lookup c.settings.cache path, some value⟩])
  /-- The last request read it, and it was stored then. -/
  | fetched (before : List Said) (hread : JustRead c path value before)
      (hbefore : Unwritten before) :
    Found c path value (before ++ [⟨.store c.settings.cache path value, ()⟩])

/-- How the dialogue of a fetch of a single value ends. Without a value nothing was
    changed, and the last request brought no body. -/
structure ValueEnds (c : Client) (path : String) (d : List Said)
    (r : Except Failure (Option String)) : Prop where
  found : ∀ value, r = .ok (some value) → Found c path value d
  lost : (∀ value, r ≠ .ok (some value)) → Unwritten d ∧ lastBody d = none

namespace Demand

variable (c : Client) (D : Demand)

/-- What a demand may ask when it has said this much. -/
structure May (d : List Said) (query : Query) : Prop where
  unwritten : Unwritten d
  lookup : ∀ cache path, query = .lookup cache path → cache = c.settings.cache ∧
    exchanges d = [] ∧ ∃ attempts, D.single? c = some ⟨path, false, attempts⟩
  store : ∀ cache path value, query = .store cache path value → cache = c.settings.cache ∧
    (D = .keep path value ∨ ∃ force attempts, D.single? c = some ⟨path, force, attempts⟩ ∧
      JustRead c path value d)
  clear : ∀ cache, query = .clear cache → cache = c.settings.cache ∧ D = .clearCache

/-- How the dialogue of a demand ends when it is met, or fails. -/
structure Ends (d : List Said) (r : Except Failure Report) : Prop where
  single : ∀ q, D.single? c = some q →
    ∃ result, r = result.map Report.text ∧ ValueEnds c q.path d result
  reading : ∀ q, D.reading? c = some q → ∃ result,
    r = result.map (fun body => .texts (body.map (Client.items q.whole))) ∧
      FetchEnds c q.path [] d result
  keep : ∀ path value, D = .keep path value →
    r = .ok .nothing ∧ d = [⟨.store c.settings.cache path value, ()⟩]
  clear : D = .clearCache → r = .ok .nothing ∧ d = [⟨.clear c.settings.cache, ()⟩]
  unwritten : D.single? c = none → (∀ path value, D ≠ .keep path value) → D ≠ .clearCache →
    Unwritten d

end Demand

/-! ### Fetches of single values -/

section Fetches

variable {c : Client} {D : Demand}

theorem unwritten_nil : Unwritten [] := fun _ h => nomatch h

theorem Unwritten.since {may : Query → Prop} {d e : List Said} (h : Unwritten d)
    (hmay : ∀ query, may query → ¬ query.IsWrite) (hsince : Since may d e) : Unwritten e := by
  rcases hsince with ⟨said, rfl, hsaid⟩
  intro x hx
  rcases List.mem_append.1 hx with hx | hx
  · exact h x hx
  · exact hmay x.query (hsaid x hx)

theorem not_isWrite_of_fetches {query : Query} (h : c.Fetches query) : ¬ query.IsWrite := by
  cases query with
  | store cache path value => exact absurd h id
  | clear cache => exact absurd h id
  | _ => exact id

-- As long as nothing was written, a demand may fetch.
theorem may_of_fetches {d : List Said} (h : Unwritten d) {query : Query}
    (hquery : c.Fetches query) : D.May c d query where
  unwritten := h
  lookup := by
    rintro cache path rfl
    exact absurd hquery id
  store := by
    rintro cache path value rfl
    exact absurd hquery id
  clear := by
    rintro cache rfl
    exact absurd hquery id

-- A part of a demand that only fetches.
theorem abides_of_fetches {α : Type} {a : Act α} {d : List Said}
    {ends : List Said → Except Failure α → Prop} (ha : a.Abides (fun _ => c.Fetches) ends d)
    (hd : Unwritten d) : a.Abides (D.May c) (fun e r => Unwritten e ∧ ends e r) d := by
  have hsince : a.Abides (fun e query => Since c.Fetches d e ∧ c.Fetches query)
      (fun e r => Since c.Fetches d e ∧ ends e r) d := Plan.Abides.since (.refl _ d) ha
  have hunwritten : ∀ {e}, Since c.Fetches d e → Unwritten e :=
    fun h => hd.since (fun _ hq => not_isWrite_of_fetches hq) h
  exact hsince.mono (fun e query h => may_of_fetches (hunwritten h.1) h.2)
    (fun e r h => ⟨hunwritten h.1, h.2⟩)

theorem Unwritten.concat {d : List Said} (h : Unwritten d) {x : Said} (hx : ¬ x.query.IsWrite) :
    Unwritten (d ++ [x]) := by
  intro y hy
  rcases List.mem_append.1 hy with hy | hy
  · exact h y hy
  · rw [List.mem_singleton.1 hy]
    exact hx

-- What is done when the cache did not answer: a body is stored right after it was read.
theorem abides_fetchAndStore {path : String} {force : Bool} {n : Nat} {d : List Said}
    (hD : D.single? c = some ⟨path, force, n⟩) (hd : Unwritten d) (hquiet : exchanges d = []) :
    (c.fetchAndStore path n).Abides (D.May c) (ValueEnds c path) d := by
  have hlast : lastBody d = none := by
    rw [lastBody, hquiet]
    rfl
  have hfetch := abides_of_fetches (D := D) (Client.abides_fetchItems (c := c) path n true) hd
  refine Act.abides_bind (hfetch.mono (fun _ _ hq => hq) ?_)
  rintro e r ⟨he, result, rfl, hends⟩
  have hbody := hends.last hlast
  cases result with
  | error failure => exact ⟨(fun _ h => by cases h), fun _ => ⟨he, hbody⟩⟩
  | ok body =>
      cases body with
      | none => exact ⟨(fun _ h => by cases h), fun _ => ⟨he, hbody⟩⟩
      | some value =>
          refine Act.abides_bind (Act.abides_lift ⟨?_, fun _ => ?_⟩)
          · refine ⟨he, (fun _ _ h => by cases h), fun cache path' value' h => ?_,
              (fun _ h => by cases h)⟩
            cases h
            exact ⟨rfl, Or.inr ⟨force, n, hD, hends.read value rfl⟩⟩
          · refine ⟨fun value' h => ?_, fun h => absurd rfl (h value)⟩
            cases h
            exact .fetched e (hends.read value rfl) he

/-- The conduct of a fetch of a single value. -/
theorem abides_fetchValueWith {path : String} {force : Bool} {n : Nat}
    (hD : D.single? c = some ⟨path, force, n⟩) :
    (c.fetchValueWith path force n).Abides (D.May c) (ValueEnds c path) [] := by
  have hpass : c.settings.gate.pass.Abides (fun _ => c.Fetches)
      (fun e _ => exchanges e = []) [] :=
    (Client.abides_pass c.settings.gate).mono (fun _ _ hq => Client.fetches_of_looks hq)
      (fun _ _ he => he)
  rw [Client.fetchValueWith_eq]
  refine Act.abides_bind
    ((abides_of_fetches (D := D) hpass unwritten_nil).mono (fun _ _ hq => hq) ?_)
  rintro e r ⟨he, hquiet⟩
  cases r with
  | error failure =>
      refine ⟨(fun _ h => by cases h), fun _ => ⟨he, ?_⟩⟩
      rw [lastBody, hquiet]
      rfl
  | ok _ =>
      cases force with
      | true => exact abides_fetchAndStore hD he hquiet
      | false =>
          refine Act.abides_bind (Act.abides_lift ⟨?_, fun known => ?_⟩)
          · refine ⟨he, fun cache path' h => ?_, (fun _ _ _ h => by cases h),
              (fun _ h => by cases h)⟩
            cases h
            exact ⟨rfl, hquiet, n, hD⟩
          · cases known with
            | some value =>
                refine ⟨fun value' h => ?_, fun h => absurd rfl (h value)⟩
                cases h
                exact .known e hquiet he
            | none =>
                refine abides_fetchAndStore hD (he.concat id) ?_
                rw [exchanges_concat_of_silent rfl, hquiet]

/-! ### All demands -/

theorem act_of_single {q : Single} (h : D.single? c = some q) :
    D.act c = Report.text <$> c.fetchValueWith q.path q.force q.attempts := by
  cases D <;> simp only [Demand.single?, Option.some.injEq, reduceCtorEq] at h <;> subst h <;> rfl

theorem act_of_reading {q : Reading} (h : D.reading? c = some q) :
    D.act c = (fun items => Report.texts items) <$> c.fetchItems q.path q.attempts q.whole := by
  cases D <;> simp only [Demand.reading?, Option.some.injEq, reduceCtorEq] at h <;> subst h <;> rfl

-- A document, a listing or a mapping is fetched, and nothing else is done.
theorem abides_fetchLines (path : String) {d : List Said} :
    (c.fetchLines path).Abides (fun _ => c.Fetches) (fun _ _ => True) d :=
  (Client.abides_fetchItems path c.attempts false).mono (fun _ _ hq => hq) (fun _ _ _ => trivial)

theorem abides_fetchDocument (path : String) {d : List Said} :
    (c.fetchDocument path).Abides (fun _ => c.Fetches) (fun _ _ => True) d :=
  Act.abides_map ((Client.abides_fetchItems path c.attempts true).mono (fun _ _ hq => hq)
    (fun _ _ _ => trivial))

theorem abides_listing (l : Listing) {d : List Said} :
    (c.listing l).Abides (fun _ => c.Fetches) (fun _ _ => True) d :=
  Act.abides_map (abides_fetchLines l.path)

theorem abides_foldlM_addDevice (names : List String) (mapping : Table String String)
    {d : List Said} :
    (names.foldlM c.addDevice mapping).Abides (fun _ => c.Fetches) (fun _ _ => True) d := by
  induction names generalizing mapping d with
  | nil => exact Act.abides_pure trivial
  | cons name names ih =>
      rw [List.foldlM_cons]
      refine Act.abides_bind (Act.abides_bind ((abides_fetchDocument _).mono (fun _ _ hq => hq) ?_))
      intro e r _
      cases r with
      | error failure => trivial
      | ok value =>
          cases value with
          | none => exact ih _
          | some text => exact ih _

theorem abides_blockDevices {d : List Said} :
    c.blockDevices.Abides (fun _ => c.Fetches) (fun _ _ => True) d := by
  refine Act.abides_bind ((abides_listing .blockDeviceNames).mono (fun _ _ hq => hq) ?_)
  intro e r _
  cases r with
  | error failure => trivial
  | ok lines => exact abides_foldlM_addDevice _ _

-- Demands that do not say what they want of a cache leave it alone.
theorem abides_of_plain {d : List Said}
    (h : (D.act c).Abides (fun _ => c.Fetches) (fun _ _ => True) d) (hd : Unwritten d)
    (hsingle : D.single? c = none) (hreading : D.reading? c = none)
    (hkeep : ∀ path value, D ≠ .keep path value) (hclear : D ≠ .clearCache) :
    (D.act c).Abides (D.May c) (D.Ends c) d := by
  refine (abides_of_fetches h hd).mono (fun _ _ hq => hq) (fun e r he => ?_)
  exact {
    single := fun q hq => by rw [hsingle] at hq; cases hq
    reading := fun q hq => by rw [hreading] at hq; cases hq
    keep := fun path value h => absurd h (hkeep path value)
    clear := fun h => absurd h hclear
    unwritten := fun _ _ _ => he.1 }

theorem abides_of_single {q : Single} (h : D.single? c = some q) :
    (D.act c).Abides (D.May c) (D.Ends c) [] := by
  rw [act_of_single h]
  refine Act.abides_map ((abides_fetchValueWith h).mono (fun _ _ hq => hq) (fun e r he => ?_))
  exact {
    single := fun q' hq => by
      rw [h] at hq
      cases hq
      exact ⟨r, rfl, he⟩
    reading := fun q' hq => by cases D <;> cases h <;> cases hq
    keep := fun path value hD => by subst hD; cases h
    clear := fun hD => by subst hD; cases h
    unwritten := fun hnone => by rw [h] at hnone; cases hnone }

theorem abides_of_reading {q : Reading} (h : D.reading? c = some q) :
    (D.act c).Abides (D.May c) (D.Ends c) [] := by
  rw [act_of_reading h]
  refine Act.abides_map ((abides_of_fetches (Client.abides_fetchItems q.path q.attempts q.whole)
    unwritten_nil).mono (fun _ _ hq => hq) ?_)
  rintro e r ⟨he, result, rfl, hends⟩
  exact {
    single := fun q' hq => by cases D <;> cases h <;> cases hq
    reading := fun q' hq => by
      rw [h] at hq
      cases hq
      refine ⟨result, ?_, hends⟩
      cases result <;> rfl
    keep := fun path value hD => by subst hD; cases h
    clear := fun hD => by subst hD; cases h
    unwritten := fun _ _ _ => he }

/-- The conduct of every demand. -/
theorem abides_demand (c : Client) (D : Demand) : (D.act c).Abides (D.May c) (D.Ends c) [] := by
  have hplain : (D.act c).Abides (fun _ => c.Fetches) (fun _ _ => True) [] →
      D.single? c = none → D.reading? c = none → (∀ path value, D ≠ .keep path value) →
      D ≠ .clearCache → (D.act c).Abides (D.May c) (D.Ends c) [] :=
    fun h => abides_of_plain h unwritten_nil
  cases D with
  | value path => exact abides_of_single rfl
  | valueWith path force attempts => exact abides_of_single rfl
  | scalar v => exact abides_of_single rfl
  | items path attempts whole => exact abides_of_reading rfl
  | lines path => exact abides_of_reading rfl
  | linesWith path attempts => exact abides_of_reading rfl
  | document path => exact hplain (Act.abides_map (abides_fetchDocument path)) rfl rfl nofun nofun
  | listing l => exact hplain (Act.abides_map (abides_listing l)) rfl rfl nofun nofun
  | identityDocument =>
      exact hplain (Act.abides_map (abides_fetchDocument _)) rfl rfl nofun nofun
  | region =>
      exact hplain (Act.abides_map (Act.abides_map (abides_fetchDocument _))) rfl rfl nofun nofun
  | description =>
      exact hplain (Act.abides_map (Act.abides_map (abides_fetchDocument _))) rfl rfl nofun nofun
  | userData => exact hplain (Act.abides_map (abides_fetchDocument _)) rfl rfl nofun nofun
  | blockDevices => exact hplain (Act.abides_map abides_blockDevices) rfl rfl nofun nofun
  | keep path value =>
      refine Act.abides_map (Act.abides_lift ⟨?_, fun _ => ?_⟩)
      · refine ⟨unwritten_nil, nofun, fun cache path' value' h => ?_, nofun⟩
        cases h
        exact ⟨rfl, Or.inl rfl⟩
      · refine ⟨nofun, nofun, fun path' value' h => ?_, nofun, fun _ h => absurd rfl (h path value)⟩
        cases h
        exact ⟨rfl, rfl⟩
  | clearCache =>
      refine Act.abides_map (Act.abides_lift ⟨?_, fun _ => ?_⟩)
      · refine ⟨unwritten_nil, nofun, nofun, fun cache h => ?_⟩
        cases h
        exact ⟨rfl, rfl⟩
      · exact ⟨nofun, nofun, nofun, fun _ => ⟨rfl, rfl⟩, fun _ _ h => absurd rfl h⟩
  | close =>
      refine Act.abides_map (Act.abides_lift ⟨⟨unwritten_nil, nofun, nofun, nofun⟩, fun _ => ?_⟩)
      exact ⟨nofun, nofun, nofun, nofun, fun _ _ _ => unwritten_nil.concat id⟩

end Fetches

/-! ### Handles on interfaces -/

section Handles

/-- An act never changes a cache, whatever it is told. -/
def Act.SparesCaches {α : Type} (a : Act α) : Prop :=
  ∀ d, a.Abides (fun _ query => ¬ query.IsWrite) (fun _ _ => True) d

/-- An act never asks about a cache, whatever it is told. -/
def Act.PassesCaches {α : Type} (a : Act α) : Prop :=
  ∀ d, a.Abides (fun _ query => ¬ query.OfCache) (fun _ _ => True) d

variable {α β : Type}

theorem not_ofCache_of_fetches {c : Client} {query : Query} (h : c.Fetches query) :
    ¬ query.OfCache := by
  cases query with
  | lookup cache path => exact absurd h id
  | store cache path value => exact absurd h id
  | clear cache => exact absurd h id
  | _ => exact id

theorem Act.PassesCaches.spares {a : Act α} (h : a.PassesCaches) : a.SparesCaches := by
  intro d
  refine (h d).mono (fun _ query hquery => ?_) (fun _ _ h => h)
  cases query with
  | store cache path value => exact absurd trivial hquery
  | clear cache => exact absurd trivial hquery
  | _ => exact id

theorem passes_pure (value : α) : (pure value : Act α).PassesCaches := fun _ => trivial

theorem passes_throw (failure : Failure) : (throw failure : Act α).PassesCaches := fun _ => trivial

theorem passes_bind {a : Act α} {f : α → Act β} (ha : a.PassesCaches)
    (hf : ∀ x, (f x).PassesCaches) : (a >>= f).PassesCaches := by
  intro d
  refine Act.abides_bind ((ha d).mono (fun _ _ hq => hq) ?_)
  intro e r _
  cases r with
  | error failure => trivial
  | ok value => exact hf value e

theorem passes_map {a : Act α} (f : α → β) (ha : a.PassesCaches) : (f <$> a).PassesCaches :=
  fun d => Act.abides_map (ha d)

theorem passes_ask {query : Query} (h : ¬ query.OfCache) :
    (liftM (Plan.ask query Plan.done) : Act query.Answer).PassesCaches :=
  fun _ => Act.abides_lift ⟨h, fun _ => trivial⟩

theorem passes_of_fetches {c : Client} {a : Act α}
    (h : ∀ d, a.Abides (fun _ => c.Fetches) (fun _ _ => True) d) : a.PassesCaches :=
  fun d => (h d).mono (fun _ _ hq => not_ofCache_of_fetches hq) (fun _ _ h => h)

theorem passes_availableKeys (n : Nic) : n.availableKeys.PassesCaches := by
  refine passes_bind (passes_ask id) ?_
  intro known
  cases known with
  | some keys => exact passes_pure keys
  | none =>
      have hfetch : (n.client.fetchLines n.path).PassesCaches :=
        passes_of_fetches (fun _ => abides_fetchLines _)
      -- The outcome of the fetch, a failure included, is what comes next.
      refine passes_bind (fun d => Act.abides_lift ((hfetch d).mono (fun _ _ hq => hq) ?_)) ?_
      · exact fun _ _ _ => trivial
      · intro r
        cases r with
        | ok lines => exact passes_bind (passes_ask id) (fun _ => passes_pure _)
        | error failure => exact passes_bind (passes_ask id) (fun _ => passes_throw failure)

theorem passes_value (n : Nic) (key : String) : (n.value key).PassesCaches := by
  refine passes_bind (passes_ask id) ?_
  intro known
  cases known with
  | some value => exact passes_pure value
  | none =>
      refine passes_bind (passes_availableKeys n) ?_
      intro keys
      by_cases hkey : key ∈ keys
      · simp only [hkey, if_true]
        refine passes_bind (passes_of_fetches (fun _ => abides_fetchDocument _)) ?_
        exact fun value => passes_bind (passes_ask id) (fun _ => passes_pure value)
      · simp only [hkey, if_false]
        exact passes_pure none

theorem passes_lines (n : Nic) (key : String) : (n.lines key).PassesCaches := by
  refine passes_bind (passes_availableKeys n) ?_
  intro keys
  by_cases hkey : key ∈ keys
  · simp only [hkey, if_true]
    exact passes_map _ (passes_of_fetches (fun _ => abides_fetchLines _))
  · simp only [hkey, if_false]
    exact passes_pure []

/-- Handles on interfaces pass caches by. -/
theorem passes_question (n : Nic) (q : Question) : (q.act n).PassesCaches := by
  cases q with
  | mac => exact passes_pure _
  | keys => exact passes_map _ (passes_availableKeys n)
  | value key => exact passes_map _ (passes_value n key)
  | lines key => exact passes_map _ (passes_lines n key)
  | scalar v => exact passes_map _ (passes_value n v.key)
  | listing l => exact passes_map _ (passes_lines n l.key)
  | associations address =>
      exact passes_map _ (passes_map _ (passes_of_fetches (fun _ => abides_fetchLines _)))

theorem passes_ofMac (c : Client) (mac : String) :
    (liftM (Nic.ofMac c mac) : Act Nic).PassesCaches :=
  fun _ => Act.abides_lift ⟨id, fun _ => trivial⟩

theorem passes_interfaces (c : Client) : c.interfaces.PassesCaches := by
  refine passes_bind (passes_of_fetches (fun _ => abides_listing _)) ?_
  intro lines
  induction macsOfLines lines with
  | nil => exact passes_pure []
  | cons mac macs ih =>
      rw [List.mapM_cons]
      exact passes_bind (passes_ofMac c mac) (fun _ => passes_map _ ih)

/-- So they leave caches alone. -/
theorem spares_question (n : Nic) (q : Question) : (q.act n).SparesCaches :=
  (passes_question n q).spares

theorem spares_interfaces (c : Client) : c.interfaces.SparesCaches := (passes_interfaces c).spares

end Handles

end Imds
