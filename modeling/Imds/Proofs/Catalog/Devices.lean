import Imds.Proofs.Cache.Bypass
import Imds.Proofs.Fetch.Views
import Imds.Proofs.Text.Trimming

/-!
# The Mapping of Block Devices

The mapping is made of a listing and of one document for each name in it. The listing is text
that nobody has checked: lines can be blank, names can be padded, and a name can come twice.

`Mapped` tells what became of a mapping without saying how it is made. Either the listing
failed, or there was none, or the documents were fetched in the order of the names until one
failed or all were there. In the end there is a table only if there was no failure, and the
table has for each name the last value that was found for it. A fetch that finds nothing is
passed over by this description, so it does not take back what an earlier one found.

The description is over any kind of state. What has to be known of a fetch is what it comes to
and where it leaves off, and both ways of waiting provide that: a task leaves off at a dialogue,
a thread at a world. They walk through the names in different ways, one folding over names and
the other going down the lines, and `visit` is the walk that both are.

## Main definitions

* `Latest`, `Gathers`: The last values that were found, and a table of them.
* `Named`: The names in the lines of a listing.
* `Answered`: Fetches one after another that succeed.
* `Mapped`: What became of a mapping.
* `visit`: Fetching for one name after the other.

## Theorems

* `latest_concat`, `Gathers.noted`: One more fetch.
* `named_iff`: The names that are taken from lines.
* `visit_spec`: How a walk through names ends.
* `foldlM_addDevice_among`, `Blocking.run_addDevices`: Both ways of waiting walk.
* `Mapped.of_visit`: What becomes of a listing whose names are visited.
* `Mapped.trimmed`: The names of a table.
* `devices_are_mapped`: The mapping of block devices.
-/

namespace Imds

/-! ### What was found -/

/-- The last value that was found for a name. -/
def Latest (fetched : List (String × Option String)) (name value : String) : Prop :=
  ∃ before after, fetched = before ++ (name, some value) :: after ∧
    ∀ later, (name, some later) ∉ after

/-- A table has the last value that was found for each name, and nothing else. -/
def Gathers (t : Table String String) (fetched : List (String × Option String)) : Prop :=
  ∀ name value, t.get? name = some value ↔ Latest fetched name value

/-- A table with what was found for one more name. -/
def noted (t : Table String String) (name : String) : Option String → Table String String
  | some value => t.insert name value
  | none => t

-- The newest fetch counts if it found a value of the name, and otherwise those before it do.
theorem latest_concat {fetched : List (String × Option String)} {found : String × Option String}
    {name value : String} :
    Latest (fetched ++ [found]) name value ↔
      found = (name, some value) ∨
        (∀ later, found ≠ (name, some later)) ∧ Latest fetched name value := by
  constructor
  · rintro ⟨before, after, heq, hafter⟩
    rcases split_concat heq with ⟨-, hfound, -⟩ | ⟨rest, rfl, hrest⟩
    · exact Or.inl hfound.symm
    · refine Or.inr ⟨fun later h => hafter later ?_, before, rest, hrest, fun later h => ?_⟩
      · rw [h]
        exact List.mem_append_right rest List.mem_cons_self
      · exact hafter later (List.mem_append_left _ h)
  · rintro (rfl | ⟨hother, before, after, rfl, hafter⟩)
    · exact ⟨fetched, [], rfl, fun later h => by cases h⟩
    · refine ⟨before, after ++ [found], by simp, fun later h => ?_⟩
      rcases List.mem_append.1 h with h | h
      · exact hafter later h
      · exact hother later (List.mem_singleton.1 h).symm

theorem gathers_empty : Gathers Table.empty [] := by
  intro name value
  rw [Table.get?_empty]
  constructor
  · intro h
    cases h
  · rintro ⟨before, after, h, -⟩
    cases before <;> cases h

/-- One more fetch. -/
theorem Gathers.noted {t : Table String String} {fetched : List (String × Option String)}
    (h : Gathers t fetched) (name : String) (found : Option String) :
    Gathers (noted t name found) (fetched ++ [(name, found)]) := by
  intro other value
  rw [latest_concat, ← h other value]
  cases found with
  | none => simp [Imds.noted]
  | some text =>
      rw [Imds.noted, Table.get?_insert]
      by_cases hname : name = other
      · simp [hname]
      · simp [hname]

/-! ### Names -/

/-- The names in the lines of a listing: what is left of each line without the blanks on either
    end, unless nothing is. -/
inductive Named : List String → List String → Prop where
  /-- There is no line. -/
  | nil : Named [] []
  /-- A line is blank. -/
  | blank (line : String) {lines names : List String} (hline : Text.Trims line "")
    (hrest : Named lines names) : Named (line :: lines) names
  /-- A line has a name. -/
  | name (line name : String) {lines names : List String} (hline : Text.Trims line name)
    (hname : name ≠ "") (hrest : Named lines names) : Named (line :: lines) (name :: names)

theorem deviceNames_cons (line : String) (lines : List String) :
    deviceNames (line :: lines) = if Text.trimBlank line = "" then deviceNames lines
      else Text.trimBlank line :: deviceNames lines := by
  by_cases hblank : Text.trimBlank line = ""
  · simp [deviceNames, hblank]
  · simp [deviceNames, hblank]

/-- The names that are taken from lines are the names in them, and there are no others. -/
theorem named_iff {lines names : List String} :
    Named lines names ↔ names = deviceNames lines := by
  constructor
  · intro h
    induction h with
    | nil => rfl
    | blank line hline _ ih => rw [deviceNames_cons, if_pos hline.eq_trimBlank.symm, ih]
    | name line name hline hname _ ih =>
        rw [deviceNames_cons, ← hline.eq_trimBlank, if_neg hname, ih]
  · rintro rfl
    induction lines with
    | nil => exact .nil
    | cons line lines ih =>
        have hline := Text.trims_trimBlank line
        rw [deviceNames_cons]
        by_cases hblank : Text.trimBlank line = ""
        · rw [if_pos hblank]
          exact .blank line (hblank ▸ hline) ih
        · rw [if_neg hblank]
          exact .name line _ hline hblank ih

theorem Named.trimmed {lines names : List String} (h : Named lines names) {name : String}
    (hmem : name ∈ names) : name ≠ "" ∧ Text.Trims name name := by
  induction h with
  | nil => cases hmem
  | blank line hline hrest ih => exact ih hmem
  | name line first hline hname hrest ih =>
      rcases List.mem_cons.1 hmem with rfl | hmem
      · exact ⟨hname, hline.trims_self⟩
      · exact ih hmem

/-! ### Visits -/

section Visits

variable {σ : Type}

/-- Fetches one after another that succeed, with what each of them found. -/
inductive Answered (fetch : String → σ → Except Failure (Option String) × σ) :
    σ → List (String × Option String) → σ → Prop where
  /-- There is none. -/
  | nil (s : σ) : Answered fetch s [] s
  /-- One comes before the others. -/
  | cons {s s' last : σ} (name : String) (found : Option String)
    {fetched : List (String × Option String)} (hfirst : fetch name s = (.ok found, s'))
    (hrest : Answered fetch s' fetched last) : Answered fetch s ((name, found) :: fetched) last

/-- What became of a mapping. -/
inductive Mapped (list : σ → Except Failure (Option (List String)) × σ)
    (fetch : String → σ → Except Failure (Option String) × σ) (s : σ) :
    Except Failure (Table String String) → σ → Prop where
  /-- The listing failed. -/
  | unlisted (failure : Failure) (last : σ) (hlist : list s = (.error failure, last)) :
    Mapped list fetch s (.error failure) last
  /-- There was no listing. -/
  | absent (last : σ) (hlist : list s = (.ok none, last)) :
    Mapped list fetch s (.ok Table.empty) last
  /-- All documents were fetched. -/
  | all (lines : List String) (fetched : List (String × Option String))
    (t : Table String String) (listed last : σ) (hlist : list s = (.ok (some lines), listed))
    (hnames : Named lines (fetched.map Prod.fst)) (hfetched : Answered fetch listed fetched last)
    (htable : Gathers t fetched) : Mapped list fetch s (.ok t) last
  /-- A document failed. -/
  | failed (lines : List String) (fetched : List (String × Option String)) (name : String)
    (rest : List String) (failure : Failure) (listed reached last : σ)
    (hlist : list s = (.ok (some lines), listed))
    (hnames : Named lines (fetched.map Prod.fst ++ name :: rest))
    (hfetched : Answered fetch listed fetched reached)
    (hfailed : fetch name reached = (.error failure, last)) :
    Mapped list fetch s (.error failure) last

variable (fetch : String → σ → Except Failure (Option String) × σ)

/-- Fetching for one name after the other, and noting what was found. -/
def visit : List String → Table String String → σ → Except Failure (Table String String) × σ
  | [], t, s => (.ok t, s)
  | name :: names, t, s =>
    match fetch name s with
    | (.ok found, s') => visit names (noted t name found) s'
    | (.error failure, s') => (.error failure, s')

-- On the names. The table has what was found before.
theorem visit_spec (names : List String) {t : Table String String}
    {before : List (String × Option String)} (ht : Gathers t before) (s : σ) :
    (∃ fetched t' last, visit fetch names t s = (.ok t', last) ∧ names = fetched.map Prod.fst ∧
        Answered fetch s fetched last ∧ Gathers t' (before ++ fetched)) ∨
      ∃ fetched name rest failure reached last,
        visit fetch names t s = (.error failure, last) ∧
          names = fetched.map Prod.fst ++ name :: rest ∧
          Answered fetch s fetched reached ∧ fetch name reached = (.error failure, last) := by
  induction names generalizing t before s with
  | nil => exact Or.inl ⟨[], t, s, rfl, rfl, .nil s, by rwa [List.append_nil]⟩
  | cons name names ih =>
      rw [visit]
      cases hfirst : fetch name s with
      | mk result s' =>
          cases result with
          | error failure =>
              exact Or.inr ⟨[], name, names, failure, s, s', rfl, rfl, .nil s, hfirst⟩
          | ok found =>
              rcases ih (ht.noted name found) s' with
                ⟨fetched, t', last, hvisit, hnames, hfetched, htable⟩ |
                ⟨fetched, other, rest, failure, reached, last, hvisit, hnames, hfetched, hfailed⟩
              · refine Or.inl ⟨(name, found) :: fetched, t', last, hvisit, ?_,
                  .cons name found hfirst hfetched, ?_⟩
                · rw [hnames, List.map_cons]
                · rwa [List.append_assoc, List.singleton_append] at htable
              · refine Or.inr ⟨(name, found) :: fetched, other, rest, failure, reached, last,
                  hvisit, ?_, .cons name found hfirst hfetched, hfailed⟩
                rw [hnames, List.map_cons, List.cons_append]

-- A name that comes three times, and a device without a value.
example :
    let fetch (_ : String) (s : List (Option String)) := (Except.ok s.head?.join, s.tail)
    let names := deviceNames [" sda", "sdb\r", "", "sda\t", "sda"]
    let mapping := visit fetch names Table.empty [some "one", none, some "two", none]
    mapping.1.toOption.map Table.entries = some [("sda", "two")] := by
  decide

variable {fetch} {list : σ → Except Failure (Option (List String)) × σ} {s last : σ}

/-- What becomes of a listing whose names are visited. -/
theorem Mapped.of_visit {lines : Option (List String)} {listed : σ}
    (hlist : list s = (.ok lines, listed)) :
    Mapped list fetch s (visit fetch (deviceNames (lines.getD [])) Table.empty listed).1
      (visit fetch (deviceNames (lines.getD [])) Table.empty listed).2 := by
  cases lines with
  | none => exact .absent listed hlist
  | some lines =>
      have hnamed : Named lines (deviceNames lines) := named_iff.2 rfl
      rw [Option.getD_some]
      rcases visit_spec fetch (deviceNames lines) gathers_empty listed with
        ⟨fetched, t, last, hvisit, hnames, hfetched, htable⟩ |
        ⟨fetched, name, rest, failure, reached, last, hvisit, hnames, hfetched, hfailed⟩
      · rw [hvisit]
        rw [hnames] at hnamed
        exact .all lines fetched t listed last hlist hnamed hfetched htable
      · rw [hvisit]
        rw [hnames] at hnamed
        exact .failed lines fetched name rest failure listed reached last hlist hnamed hfetched
          hfailed

/-- The names of a table. -/
theorem Mapped.trimmed {t : Table String String} (h : Mapped list fetch s (.ok t) last)
    {name : String} (hname : name ∈ t.keys) : name ≠ "" ∧ Text.Trims name name := by
  rcases Table.mem_keys_iff.1 hname with ⟨value, hvalue⟩
  cases h with
  | absent => cases hvalue
  | all lines fetched _ listed _ hlist hnames hfetched htable =>
      rcases (htable name value).1 hvalue with ⟨before, after, rfl, -⟩
      exact hnames.trimmed (by simp)

end Visits

/-! ### Tasks -/

section Tasks

variable (c : Client) (w : Surroundings) (d : List Said)

theorem addDevice_among (t : Table String String) (name : String) :
    (c.addDevice t name).among w d =
      (((c.fetchDocument (devicePath name)).among w d).1.map (noted t name),
        ((c.fetchDocument (devicePath name)).among w d).2) := by
  rw [Client.addDevice]
  rcases hfetch : (c.fetchDocument (devicePath name)).among w d with ⟨result, e⟩
  cases result with
  | error failure => exact Act.among_bind_error hfetch
  | ok found =>
      rw [Act.among_bind_ok hfetch]
      cases found <;> rfl

-- A task folds over the names.
theorem foldlM_addDevice_among (names : List String) (t : Table String String) :
    (names.foldlM c.addDevice t).among w d =
      visit (fun name => (c.fetchDocument (devicePath name)).among w) names t d := by
  induction names generalizing t d with
  | nil => rfl
  | cons name names ih =>
      rw [List.foldlM_cons, visit]
      have hadd := addDevice_among c w d t name
      rcases hfetch : (c.fetchDocument (devicePath name)).among w d with ⟨result, e⟩
      rw [hfetch] at hadd
      cases result with
      | error failure => exact Act.among_bind_error hadd
      | ok found => exact (Act.among_bind_ok hadd).trans (ih e _)

theorem mapped_among :
    Mapped ((c.fetchLines Listing.blockDeviceNames.path).among w)
      (fun name => (c.fetchDocument (devicePath name)).among w) d
      (c.blockDevices.among w d).1 (c.blockDevices.among w d).2 := by
  rcases hlines : (c.fetchLines Listing.blockDeviceNames.path).among w d with ⟨result, e⟩
  have hlisting : (c.listing .blockDeviceNames).among w d = _ :=
    Act.among_map w (c.fetchLines Listing.blockDeviceNames.path) (fun lines => lines.getD []) d
  rw [hlines] at hlisting
  cases result with
  | error failure =>
      rw [Client.blockDevices, Act.among_bind_error hlisting]
      exact .unlisted failure e hlines
  | ok lines =>
      rw [Client.blockDevices, Act.among_bind_ok hlisting, foldlM_addDevice_among]
      exact .of_visit hlines

end Tasks

/-! ### Threads -/

namespace Blocking

variable (c : Client) (w : World)

-- A line is passed over, or its name is fetched.
theorem addDevices_cons (t : Table String String) (line : String) (lines : List String) :
    addDevices c t (line :: lines) = if Text.trimBlank line = "" then addDevices c t lines
      else fetchDocument c (devicePath (Text.trimBlank line)) >>= fun found =>
        addDevices c (noted t (Text.trimBlank line) found) lines := by
  rw [addDevices]
  by_cases hblank : Text.trimBlank line = ""
  · simp only [if_pos hblank]
  · simp only [if_neg hblank]
    refine congrArg (fetchDocument c (devicePath (Text.trimBlank line)) >>= ·) ?_
    funext found
    cases found <;> rfl

-- A thread goes down the lines.
theorem run_addDevices (lines : List String) (t : Table String String) :
    (addDevices c t lines).run w =
      visit (fun name => (fetchDocument c (devicePath name)).run) (deviceNames lines) t w := by
  induction lines generalizing t w with
  | nil => rfl
  | cons line lines ih =>
      rw [addDevices_cons, deviceNames_cons]
      by_cases hblank : Text.trimBlank line = ""
      · rw [if_pos hblank, if_pos hblank]
        exact ih w t
      · rw [if_neg hblank, if_neg hblank, run_direct_bind, visit]
        rcases (fetchDocument c (devicePath (Text.trimBlank line))).run w with ⟨result, w'⟩
        cases result with
        | error failure => rfl
        | ok found => exact ih w' _

theorem mapped_run :
    Mapped (fetchLines c Listing.blockDeviceNames.path).run
      (fun name => (fetchDocument c (devicePath name)).run) w
      ((blockDevices c).run w).1 ((blockDevices c).run w).2 := by
  have hlisting : (several c "block-device-mapping").run w = _ :=
    blocking_run_map (fetchLines c Listing.blockDeviceNames.path) (fun lines => lines.getD [])
  rw [blockDevices, run_direct_bind, hlisting]
  cases hlines : (fetchLines c Listing.blockDeviceNames.path).run w with
  | mk result w' =>
      cases result with
      | error failure => exact .unlisted failure w' hlines
      | ok lines =>
          change Mapped _ _ w ((addDevices c Table.empty (lines.getD [])).run w').1
            ((addDevices c Table.empty (lines.getD [])).run w').2
          rw [run_addDevices]
          exact .of_visit hlines

end Blocking

/-! ### Both ways of waiting -/

-- What never asks about a cache adds nothing about one to a dialogue.
theorem Act.PassesCaches.since {α : Type} {a : Act α} (h : a.PassesCaches) (w : Surroundings)
    (d : List Said) : Since (fun query => ¬ query.OfCache) d (a.among w d).2 :=
  (Plan.abides_among w (Plan.Abides.since (.refl _ d) (h d))).1

theorem Client.passes_blockDevices (c : Client) : c.blockDevices.PassesCaches :=
  passes_of_fetches (fun _ => abides_blockDevices)

theorem Blocking.passes_blockDevices (c : Client) : (blockDevices c).PassesCaches := by
  rw [blockDevices_eq]
  exact c.passes_blockDevices

/-- The mapping of block devices, whatever the service answers. The listing is fetched, then a
    document for each name in its lines, in their order; the result is a table of the last values
    that were found, or the first failure, after which nothing is fetched. What a listing and a
    document are is told by the last request of each fetch. No name is empty or padded, and the
    caches are left alone. -/
theorem devices_are_mapped (c : Client) :
    (∀ (w : Surroundings) (d : List Said),
      let mapping := c.blockDevices.among w d
      Mapped ((c.fetchLines "/latest/meta-data/block-device-mapping").among w)
          (fun name =>
            (c.fetchDocument ("/latest/meta-data/block-device-mapping/" ++ name)).among w)
          d mapping.1 mapping.2 ∧
        (∀ t, mapping.1 = .ok t → ∀ name ∈ t.keys, name ≠ "" ∧ Text.Trims name name) ∧
        Since (fun query => ¬ query.OfCache) d mapping.2) ∧
    (∀ (w : Surroundings) (d : List Said) (path : String),
      let document := (c.fetchDocument path).among w d
      Views id (fun found => JustBrought c path found document.2) document.1
        ((c.fetchLines path).among w d).1) ∧
    (∀ s : Site,
      let told := c.blockDevices.among s.voice []
      c.blockDevices.run s = (told.1, s.hear told.2) ∧
        c.blockDevices.drive s = (told.1, s.hear told.2) ∧
        (c.blockDevices.drive s).2.caches = s.caches) ∧
    (∀ w : Blocking.World,
      let mapping := (Blocking.blockDevices c).run w
      Mapped (Blocking.fetchLines c "/latest/meta-data/block-device-mapping").run
          (fun name =>
            (Blocking.fetchDocument c ("/latest/meta-data/block-device-mapping/" ++ name)).run)
          w mapping.1 mapping.2 ∧
        (∀ t, mapping.1 = .ok t → ∀ name ∈ t.keys, name ≠ "" ∧ Text.Trims name name) ∧
        mapping.2.caches = w.caches ∧
        ∀ caches, (Blocking.blockDevices c).run (w.withCaches caches) =
          (mapping.1, mapping.2.withCaches caches)) ∧
    ∀ (w : Blocking.World) (path : String),
      let document := (Blocking.fetchDocument c path).run w
      Views id (fun found => Blocking.JustBrought c path found document.2) document.1
        ((Blocking.fetchLines c path).run w).1 := by
  refine ⟨fun w d => ⟨mapped_among c w d, fun t ht name hname => ?_,
      c.passes_blockDevices.since w d⟩,
    fun w d path => (views_of_document_among c path w d).2,
    fun s => ⟨Plan.run_eq_among s _, Plan.drive_eq_among s _, ?_⟩,
    fun w => ⟨Blocking.mapped_run c w, fun t ht name hname => ?_, ?_,
      fun caches => Blocking.run_withCaches caches (Blocking.passes_blockDevices c) w⟩,
    fun w path => Blocking.views_of_document_of_thread.2⟩
  · have hmapped := mapped_among c w d
    rw [ht] at hmapped
    exact hmapped.trimmed hname
  · -- To replace the caches by themselves changes nothing.
    exact congrArg (fun x => x.2.caches) (c.passes_blockDevices.drive_withCaches s.caches s)
  · have hmapped := Blocking.mapped_run c w
    rw [ht] at hmapped
    exact hmapped.trimmed hname
  · exact congrArg (fun x => x.2.caches)
      (Blocking.run_withCaches w.caches (Blocking.passes_blockDevices c) w)

end Imds
