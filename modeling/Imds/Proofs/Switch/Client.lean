import Imds.Proofs.Blocking.Agreement
import Imds.Proofs.Fetch.Halting
import Imds.Proofs.Fetch.Outcome

/-!
# The Switch Is Absolute for Clients

An operation that metadata answers does not begin before the switch was looked at. If it
is on, or cannot be read, nothing else is asked: no cache is looked into, no base address
is found, no request is made, and neither a budget of none nor a closed channel comes to
light. That is a matter of the shape of the operations, `Gated`, and a site or a world where
the switch stops them is left as it was found.

An operation that fetches several times looks again before each fetch, and others may
have thrown the switch in the meantime. That a look is obeyed then as well can be read off
any dialogue, whoever answered: a look that stops an operation is the last thing that was
said, and its failure is what the operation comes to. Only such a look can make an operation
say that metadata is off.

Since a stopped operation leaves no trace, a switch that was on and is off again has left
none either, however much was tried in between.

## Main definitions

* `Gate.look`, `Gate.seen`: The look at a switch, and what it shows.
* `Gate.Stops`: What has to be seen for an operation to be stopped, and with what failure.
* `Demand.AsksMetadata`, `Client.Answers`, `Blocking.Answers`: What metadata answers.
* `Act.Gated`, `Blocking.Gated`: An operation that begins with a look at the switch.
* `Gate.halt`: A switch as something that ends operations.
* `Gate.Throws`, `Operation.IsBehind`: Operations that throw a switch, and that obey it.
* `ReadAlike`: Environments with the same texts.

## Theorems

* `gated_answers`, `gated_blocking`: Everything that metadata answers is gated.
* `attends_answers`: Everything that metadata answers obeys the switch on the way.
* `work_of_stops`: Operations at a desk where they are stopped.
* `run_withSettings`, `runIn_withSettings`: A run sees the texts of an environment.
* `switch_is_absolute`: All of this, for tasks and for threads.
* `disabled_before_all_else`: A client that has every other reason to fail, or to answer.
* `garbled_switch_is_passed`: A byte in the variable that is no text.
-/

namespace Imds

open Blocking (World Direct)

/-! ### What stops an operation -/

namespace Gate

/-- The query by which a switch is looked at. -/
def look : Gate → Query
  | environment => .setting disabledVariable
  | flag => .flag

/-- What a look at a switch shows, given the variables of the environment and the flag. -/
def shown (settings : Table String Variable) (isOff : Bool) : (g : Gate) → g.look.Answer
  | environment => (settings.get? disabledVariable).bind Variable.text?
  | flag => isOff

/-- That look with what it shows. -/
def seen (settings : Table String Variable) (isOff : Bool) (g : Gate) : Said :=
  ⟨g.look, g.shown settings isOff⟩

/-- What was seen of a switch stops an operation with a failure: the flag is thrown, or the
    variable says so in any case and with blanks around, or the variable is neither blank
    nor a truth value. -/
inductive Stops : Gate → Said → Failure → Prop where
  | thrown : Stops flag ⟨.flag, true⟩ .disabled
  | said (value : String) (h : Text.folded (Text.trimBlank value) = "true") :
      Stops environment ⟨.setting "AWS_EC2_METADATA_DISABLED", some value⟩ .disabled
  | mistaken (value : String) (hblank : Text.trimBlank value ≠ "")
      (htrue : Text.folded (Text.trimBlank value) ≠ "true")
      (hfalse : Text.folded (Text.trimBlank value) ≠ "false") :
      Stops environment ⟨.setting "AWS_EC2_METADATA_DISABLED", some value⟩
        (.configuration ("AWS_EC2_METADATA_DISABLED must be true or false, got " ++ value))

/-- What the answer to a look says. -/
def tell : (g : Gate) → g.look.Answer → Except Failure Bool
  | environment, value => read value
  | flag, isOff => .ok isOff

end Gate

section Looking

variable {g : Gate} {f : Failure}

theorem folded_eq_empty_iff (s : String) : Text.folded s = "" ↔ s = "" := by
  rw [Text.folded, Text.foldedChars, ← String.toList_eq_nil_iff, String.toList_ofList,
    List.map_eq_nil_iff, String.toList_eq_nil_iff]

-- A look stops an operation exactly if its answer says that metadata is off, or makes no sense.
theorem read_eq_true_iff {value : Option String} :
    Gate.read value = .ok true ↔
      ∃ v, value = some v ∧ Text.folded (Text.trimBlank v) = "true" := by
  cases value with
  | none => simp [Gate.read]
  | some v =>
      simp only [Gate.read, Option.some.injEq, exists_eq_left']
      split
      · next h => simp [h]
      · next h => split <;> simp [h]

theorem read_eq_error_iff {value : Option String} :
    Gate.read value = .error f ↔ ∃ v, value = some v ∧ Text.trimBlank v ≠ "" ∧
      Text.folded (Text.trimBlank v) ≠ "true" ∧ Text.folded (Text.trimBlank v) ≠ "false" ∧
      f = .configuration ("AWS_EC2_METADATA_DISABLED must be true or false, got " ++ v) := by
  cases value with
  | none => simp [Gate.read]
  | some v =>
      simp only [Gate.read, Option.some.injEq, exists_eq_left']
      split
      · next h => simp [h]
      · next h =>
        split
        · next hoff =>
          rw [folded_eq_empty_iff] at hoff
          rcases hoff with hoff | hoff <;> simp [hoff]
        · next hoff =>
          rw [folded_eq_empty_iff, not_or] at hoff
          simp [h, hoff, Gate.disabledVariable, eq_comm]

theorem stops_iff {a : g.look.Answer} :
    g.Stops ⟨g.look, a⟩ f ↔ (g.tell a = .ok true ∧ f = .disabled) ∨ g.tell a = .error f := by
  cases g with
  | flag =>
      change Bool at a
      constructor
      · intro h
        cases h
        exact Or.inl ⟨rfl, rfl⟩
      · rintro (⟨h, rfl⟩ | h)
        · cases h
          exact .thrown
        · cases h
  | environment =>
      change Option String at a
      change _ ↔ (Gate.read a = _ ∧ _) ∨ Gate.read a = _
      rw [read_eq_true_iff, read_eq_error_iff]
      constructor
      · intro h
        cases h with
        | said v h => exact Or.inl ⟨⟨v, rfl, h⟩, rfl⟩
        | mistaken v hblank htrue hfalse => exact Or.inr ⟨v, rfl, hblank, htrue, hfalse, rfl⟩
      · rintro (⟨⟨v, rfl, h⟩, rfl⟩ | ⟨v, rfl, hblank, htrue, hfalse, rfl⟩)
        · exact .said v h
        · exact .mistaken v hblank htrue hfalse

theorem isDisabled_among (g : Gate) (w : Surroundings) (d : List Said) :
    g.isDisabled.among w d = (g.tell (w d g.look), d ++ [⟨g.look, w d g.look⟩]) := by
  cases g <;> rfl

theorem pass_of_stops {w : Surroundings} {d : List Said} (h : g.Stops ⟨g.look, w d g.look⟩ f) :
    g.pass.among w d = (.error f, d ++ [⟨g.look, w d g.look⟩]) := by
  rw [pass_among, isDisabled_among]
  rcases stops_iff.1 h with ⟨htell, rfl⟩ | htell
  · rw [htell]
  · rw [htell]

-- Whoever looks at the switch of a site sees what it shows, and leaves the site alone.
theorem seen_at_site (g : Gate) (s : Site) :
    ⟨g.look, s.voice [] g.look⟩ = g.seen s.settings s.flag ∧
      s.hear [⟨g.look, s.voice [] g.look⟩] = s := by
  cases g <;> exact ⟨rfl, rfl⟩

theorem isDisabled_in_world (g : Gate) (w : World) :
    (Blocking.isDisabled g).run w = (g.tell (g.shown w.settings w.flag), w) := by
  cases g <;> rfl

theorem passGate_of_stops {w : World} (h : g.Stops (g.seen w.settings w.flag) f) :
    (Blocking.passGate g).run w = (.error f, w) := by
  rw [Blocking.passGate, run_direct_bind, isDisabled_in_world]
  rcases stops_iff.1 h with ⟨htell, rfl⟩ | htell
  · rw [htell]
    rfl
  · rw [htell]
    rfl

end Looking

/-! ### Operations that begin with a look -/

/-- An act begins by passing the switch. -/
def Act.Gated {α : Type} (g : Gate) (a : Act α) : Prop := ∃ k, a = g.pass >>= k

/-- An operation of a thread begins by passing the switch. -/
def Blocking.Gated {α : Type} (g : Gate) (m : Direct α) : Prop :=
  ∃ k, m = Blocking.passGate g >>= k

section Gates

variable {α β : Type} {g : Gate} {f : Failure}

theorem gated_bind {a : Act α} (h : a.Gated g) (k : α → Act β) : (a >>= k).Gated g := by
  rcases h with ⟨first, rfl⟩
  exact ⟨fun passed => first passed >>= k, bind_assoc _ _ _⟩

theorem gated_map {a : Act α} (h : a.Gated g) (k : α → β) : (k <$> a).Gated g := by
  rw [map_eq_pure_bind]
  exact gated_bind h _

/-- An act that is stopped has said nothing but that it looked. -/
theorem Act.Gated.among_of_stops {a : Act α} (h : a.Gated g) {w : Surroundings} {d : List Said}
    (hstops : g.Stops ⟨g.look, w d g.look⟩ f) :
    a.among w d = (.error f, d ++ [⟨g.look, w d g.look⟩]) := by
  rcases h with ⟨k, rfl⟩
  exact Act.among_bind_error (pass_of_stops hstops)

/-- It leaves a site as it was. -/
theorem Act.Gated.run_of_stops {a : Act α} (h : a.Gated g) {s : Site}
    (hstops : g.Stops (g.seen s.settings s.flag) f) : a.run s = (.error f, s) := by
  rcases seen_at_site g s with ⟨hseen, hhear⟩
  rw [← hseen] at hstops
  have hrun := Plan.run_eq_among s a.outcome
  rw [show Plan.among s.voice a.outcome [] = _ from h.among_of_stops hstops, List.nil_append,
    hhear] at hrun
  exact hrun

theorem blocking_gated_bind {m : Direct α} (h : Blocking.Gated g m) (k : α → Direct β) :
    Blocking.Gated g (m >>= k) := by
  rcases h with ⟨first, rfl⟩
  exact ⟨fun passed => first passed >>= k, bind_assoc _ _ _⟩

theorem blocking_gated_map {m : Direct α} (h : Blocking.Gated g m) (k : α → β) :
    Blocking.Gated g (k <$> m) := by
  rw [map_eq_pure_bind]
  exact blocking_gated_bind h _

/-- An operation of a thread that is stopped leaves the world as it was. -/
theorem Blocking.Gated.run_of_stops {m : Direct α} (h : Blocking.Gated g m) {w : World}
    (hstops : g.Stops (g.seen w.settings w.flag) f) : m.run w = (.error f, w) := by
  rcases h with ⟨k, rfl⟩
  rw [run_direct_bind, passGate_of_stops hstops]
  rfl

end Gates

/-! ### What metadata answers -/

/-- Demands that metadata answers, and not the cache or the channel. -/
def Demand.AsksMetadata : Demand → Prop
  | .keep _ _ => False
  | .clearCache => False
  | .close => False
  | _ => True

/-- The operations of a client that metadata answers. -/
inductive Client.Answers (c : Client) : {α : Type} → Act α → Prop where
  | demand (D : Demand) (h : D.AsksMetadata) : Answers c (D.act c)
  | interfaces : Answers c c.interfaces

/-- The same on the calling thread. -/
inductive Blocking.Answers (c : Client) : {α : Type} → Direct α → Prop where
  | demand (D : Demand) (h : D.AsksMetadata) : Answers c (Blocking.demand c D)
  | interfaces : Answers c (Blocking.interfaces c)

section Shapes

variable {c : Client} {α : Type}

theorem gated_fetchItems (path : String) (n : Nat) (whole : Bool) :
    (c.fetchItems path n whole).Gated c.settings.gate :=
  gated_bind ⟨_, rfl⟩ _

theorem gated_fetchDocument (path : String) : (c.fetchDocument path).Gated c.settings.gate :=
  gated_bind (gated_fetchItems path _ true) _

theorem gated_listing (l : Listing) : (c.listing l).Gated c.settings.gate :=
  gated_bind (gated_fetchItems l.path _ false) _

/-- Everything that metadata answers begins by passing the switch. -/
theorem gated_answers {a : Act α} (h : c.Answers a) : a.Gated c.settings.gate := by
  cases h with
  | interfaces => exact gated_bind (gated_listing _) _
  | demand D h =>
      cases D with
      | value path => exact gated_map ⟨_, rfl⟩ _
      | valueWith path force n => exact gated_map ⟨_, rfl⟩ _
      | scalar v => exact gated_map ⟨_, rfl⟩ _
      | items path n whole => exact gated_map (gated_fetchItems path n whole) _
      | lines path => exact gated_map (gated_fetchItems path _ false) _
      | linesWith path n => exact gated_map (gated_fetchItems path n false) _
      | document path => exact gated_map (gated_fetchDocument path) _
      | listing l => exact gated_map (gated_listing l) _
      | identityDocument => exact gated_map (gated_fetchDocument _) _
      | region => exact gated_map (gated_bind (gated_fetchDocument _) _) _
      | description => exact gated_map (gated_bind (gated_fetchDocument _) _) _
      | userData => exact gated_map (gated_fetchDocument _) _
      | blockDevices => exact gated_map (gated_bind (gated_listing _) _) _
      | _ => exact absurd h id

theorem blocking_gated_fetchItems (path : String) (n : Nat) (whole : Bool) :
    Blocking.Gated c.settings.gate (Blocking.fetchItems c path n whole) := ⟨_, rfl⟩

theorem blocking_gated_fetchDocument (path : String) :
    Blocking.Gated c.settings.gate (Blocking.fetchDocument c path) :=
  blocking_gated_bind (blocking_gated_fetchItems path _ true) _

theorem blocking_gated_several (key : String) :
    Blocking.Gated c.settings.gate (Blocking.several c key) :=
  blocking_gated_bind (blocking_gated_fetchItems _ _ false) _

/-- So it does on the calling thread. -/
theorem gated_blocking {m : Direct α} (h : Blocking.Answers c m) :
    Blocking.Gated c.settings.gate m := by
  cases h with
  | interfaces => exact blocking_gated_bind (blocking_gated_several _) _
  | demand D h =>
      cases D with
      | value path => exact blocking_gated_map ⟨_, rfl⟩ _
      | valueWith path force n => exact blocking_gated_map ⟨_, rfl⟩ _
      | scalar v => cases v <;> exact blocking_gated_map ⟨_, rfl⟩ _
      | items path n whole => exact blocking_gated_map (blocking_gated_fetchItems path n whole) _
      | lines path => exact blocking_gated_map (blocking_gated_fetchItems path _ false) _
      | linesWith path n => exact blocking_gated_map (blocking_gated_fetchItems path n false) _
      | document path => exact blocking_gated_map (blocking_gated_fetchDocument path) _
      | listing l => cases l <;> exact blocking_gated_map (blocking_gated_several _) _
      | identityDocument => exact blocking_gated_map (blocking_gated_fetchDocument _) _
      | region =>
          exact blocking_gated_map (blocking_gated_bind (blocking_gated_fetchDocument _) _) _
      | description =>
          exact blocking_gated_map (blocking_gated_bind (blocking_gated_fetchDocument _) _) _
      | userData => exact blocking_gated_map (blocking_gated_fetchDocument _) _
      | blockDevices =>
          exact blocking_gated_map (blocking_gated_bind (blocking_gated_several _) _) _
      | _ => exact absurd h id

end Shapes

/-! ### A switch that is thrown on the way -/

/-- What a switch shows can end an operation. -/
def Gate.halt (g : Gate) : Halt := ⟨g.Stops, .disabled⟩

section Attention

variable {g : Gate} {c : Client} {channel : Nat}

-- No other query is a look at the switch.
theorem not_stops (query : Query) (hflag : query ≠ .flag)
    (hsetting : query ≠ .setting "AWS_EC2_METADATA_DISABLED") (a : query.Answer) (f : Failure) :
    ¬ g.halt.stops ⟨query, a⟩ f := by
  intro h
  cases h with
  | thrown => exact hflag rfl
  | said value h => exact hsetting rfl
  | mistaken value hblank htrue hfalse => exact hsetting rfl

-- Passing a switch is one look, and what is made of the answer.
theorem pass_eq (g : Gate) : g.pass = ExceptT.mk (Plan.ask g.look (fun a => .done
    (match g.tell a with
      | .ok true => .error .disabled
      | .ok false => .ok ()
      | .error failure => .error failure))) := by
  cases g with
  | flag =>
      refine congrArg (Plan.ask Query.flag) (funext fun isOff => ?_)
      cases isOff <;> rfl
  | environment =>
      refine congrArg (Plan.ask (.setting Gate.disabledVariable)) (funext fun value => ?_)
      change Plan.bind (Plan.done (Gate.read value)) _ = Plan.done (match Gate.read value with
        | .ok true => _
        | .ok false => _
        | .error failure => _)
      cases Gate.read value with
      | error failure => rfl
      | ok isOff => cases isOff <;> rfl

theorem attends_pass (g : Gate) : g.pass.Attends g.halt channel := by
  intro d hd
  rw [pass_eq]
  refine ⟨⟨hd, by cases g <;> trivial⟩, fun a => ?_⟩
  change Heeds g.halt (d ++ [⟨g.look, a⟩]) (match g.tell a with
    | .ok true => _
    | .ok false => _
    | .error failure => _)
  cases htell : g.tell a with
  | error failure => exact Or.inr ⟨d, _, failure, rfl, hd, stops_iff.2 (Or.inr htell), rfl⟩
  | ok isOff =>
      cases isOff with
      | true => exact Or.inr ⟨d, _, _, rfl, hd, stops_iff.2 (Or.inl ⟨htell, rfl⟩), rfl⟩
      | false =>
          refine Or.inl ⟨hd.concat (fun f hstops => ?_), nofun⟩
          rcases stops_iff.1 hstops with ⟨h, -⟩ | h
          · rw [htell] at h
            cases h
          · rw [htell] at h
            cases h

theorem ofMode_failure {mode : Option String} {f : Failure} (h : Address.ofMode mode = .error f) :
    ∃ text, f = .configuration text := by
  cases mode with
  | none => cases h
  | some mode =>
      simp only [Address.ofMode] at h
      split at h
      · cases h
      · split at h
        · cases h
        · cases h
          exact ⟨_, rfl⟩

theorem attends_resolve (a : Address) : a.resolve.Attends g.halt channel := by
  cases a with
  | fixed base => exact attends_pure base
  | environment =>
      have hask : ∀ {name}, name ≠ "AWS_EC2_METADATA_DISABLED" → ∀ a f,
          ¬ g.halt.stops ⟨.setting name, a⟩ f :=
        fun hname => not_stops _ nofun (fun h => hname (Query.setting.inj h))
      refine attends_bind (attends_ask _ trivial (hask (by decide))) (fun endpoint => ?_)
      cases Address.explicit endpoint with
      | some base => exact attends_pure base
      | none =>
          refine attends_bind (attends_ask _ trivial (hask (by decide))) (fun mode => ?_)
          refine attends_ofExcept (fun h => ?_)
          rcases ofMode_failure h with ⟨_, hf⟩
          cases hf
  | provided name hname answer =>
      refine attends_bind (attends_ask _ trivial ?_) (fun value => attends_ofExcept (fun h => ?_))
      · exact not_stops _ nofun (fun h => hname (Query.setting.inj h))
      · rcases Address.configuration_of_ofAnswer h with ⟨_, hf⟩
        cases hf

theorem ofTokenOutcome_ne_disabled (outcome : Except Fault String) :
    Client.ofTokenOutcome outcome ≠ .error .disabled := by
  intro h
  cases outcome with
  | ok token => cases h
  | error fault =>
      simp only [Client.ofTokenOutcome] at h
      split at h
      · cases h
      · split at h <;> cases h

theorem ofReadOutcome_ne_disabled (outcome : Except Fault String) :
    Client.ofReadOutcome outcome ≠ .fatal .disabled := by
  intro h
  cases outcome with
  | ok body => cases h
  | error fault =>
      simp only [Client.ofReadOutcome] at h
      split at h
      · cases h
      · split at h <;> cases h

-- No request is a look at a switch.
theorem attends_attempt (base path : String) {d : List Said} (hd : Unstopped g.halt d) :
    (c.attempt base path).Abides (fun e query => Unstopped g.halt e ∧ query.OfClient c.channel)
      (Judges g.halt) d := by
  refine ⟨⟨hd, rfl⟩, fun issue => ?_⟩
  have hsend : ∀ channel request (outcome : Except Fault String) f,
      ¬ g.halt.stops ⟨.send channel request, outcome⟩ f :=
    fun channel request => not_stops (.send channel request) nofun nofun
  have hissue := hd.concat (hsend c.channel (.forToken base c.settings.lifetime) issue)
  change Plan.Abides _ _ ((Act.ofExcept (Client.ofTokenOutcome issue)).outcome >>= _) _
  cases htoken : Client.ofTokenOutcome issue with
  | error failure =>
      refine Or.inl ⟨hissue, fun h => ofTokenOutcome_ne_disabled issue ?_⟩
      cases h
      exact htoken
  | ok token =>
      refine ⟨⟨hissue, rfl⟩, fun outcome => Or.inl ⟨?_, ofReadOutcome_ne_disabled outcome⟩⟩
      exact hissue.concat (hsend _ _ outcome)

theorem fits_halt (c : Client) : c.settings.gate.halt.Fits c where
  pass := attends_pass _
  resolve := attends_resolve _
  attempt := fun base path _ hd => attends_attempt base path hd
  aside := by
    intro query haside
    refine not_stops query ?_ ?_
    · rintro rfl
      exact haside
    · rintro rfl
      exact haside
  unreachable := nofun
  exhausted := nofun

/-- Everything that metadata answers obeys the switch, also when it is thrown on the way. -/
theorem attends_answers {α : Type} {a : Act α} (h : c.Answers a) :
    a.Attends c.settings.gate.halt c.channel := by
  cases h with
  | demand D _ => exact attends_demand (fits_halt c) D
  | interfaces => exact attends_interfaces (fits_halt c)

end Attention

/-! ### Several fetches in one operation -/

section Composite

variable {c : Client} {f : Failure}

theorem gated_addDevice (mapping : Table String String) (name : String) :
    (c.addDevice mapping name).Gated c.settings.gate :=
  gated_bind (gated_fetchDocument _) _

/-- Where the next device is to be fetched and the switch stops that, the devices that are
    there already go with the failure. -/
theorem blockDevices_of_stops {w : Surroundings} {e e' : List Said}
    {lines before after : List String} {name : String} {mapping : Table String String}
    (hlisting : (c.listing .blockDeviceNames).among w [] = (.ok lines, e))
    (hnames : deviceNames lines = before ++ name :: after)
    (hbefore : (before.foldlM c.addDevice Table.empty).among w e = (.ok mapping, e'))
    (hstops : c.settings.gate.Stops ⟨c.settings.gate.look, w e' c.settings.gate.look⟩ f) :
    c.blockDevices.among w [] =
      (.error f, e' ++ [⟨c.settings.gate.look, w e' c.settings.gate.look⟩]) := by
  rw [Client.blockDevices, Act.among_bind_ok hlisting, hnames, List.foldlM_append,
    Act.among_bind_ok hbefore, List.foldlM_cons]
  exact (gated_bind (gated_addDevice mapping name) _).among_of_stops hstops

-- On the lines. A blank one is no device and nothing is fetched for it.
theorem addDevices_of_stops {w : World} (h : c.settings.gate.Stops
      (c.settings.gate.seen w.settings w.flag) f) {lines : List String}
    (hlines : deviceNames lines ≠ []) (mapping : Table String String) :
    (Blocking.addDevices c mapping lines).run w = (.error f, w) := by
  induction lines generalizing mapping with
  | nil => exact absurd rfl hlines
  | cons line lines ih =>
      simp only [Blocking.addDevices]
      by_cases hblank : Text.trimBlank line = ""
      · rw [if_pos hblank]
        refine ih ?_ mapping
        simpa [deviceNames, hblank] using hlines
      · rw [if_neg hblank]
        exact (blocking_gated_bind (blocking_gated_fetchDocument _) _).run_of_stops h

end Composite

/-! ### Throwing a switch and throwing it back -/

/-- Operations that throw a switch, or throw it back. -/
inductive Gate.Throws : Gate → Operation → Prop where
  | flag (isOff : Bool) : Throws flag (.setFlag isOff)
  | setting (value : Option Variable) : Throws environment (.setVariable disabledVariable value)

/-- Operations of clients that obey a switch, and that metadata answers. -/
inductive Operation.IsBehind (g : Gate) : Operation → Prop where
  | demand (c : Client) (D : Demand) (hgate : c.settings.gate = g) (h : D.AsksMetadata) :
      IsBehind g (.demand c D)
  | interfaces (c : Client) (hgate : c.settings.gate = g) : IsBehind g (.interfaces c)

section Throwing

variable {g : Gate} {f : Failure}

/-- What metadata answers comes to the failure, and leaves the site as it was. -/
theorem drive_of_stops {α : Type} {c : Client} {a : Act α} (h : c.Answers a) {s : Site}
    (hstops : c.settings.gate.Stops (c.settings.gate.seen s.settings s.flag) f) :
    a.drive s = (.error f, s) := by
  rw [Act.drive, Plan.drive_eq_run]
  exact (gated_answers h).run_of_stops hstops

theorem perform_of_stops {d : Desk} (h : g.Stops (g.seen d.site.settings d.site.flag) f)
    {o : Operation} (ho : o.IsBehind g) : d.perform o = (.error f, d) := by
  cases ho with
  | demand c D hgate hD =>
      subst hgate
      rw [Desk.perform, Desk.drive, drive_of_stops (.demand D hD) h]
  | interfaces c hgate =>
      subst hgate
      rw [Desk.perform, Desk.drive, drive_of_stops .interfaces h]

-- However many operations are stopped, the desk stays as it is.
theorem work_of_stops {d : Desk} (h : g.Stops (g.seen d.site.settings d.site.flag) f)
    {os : List Operation} (hos : ∀ o ∈ os, o.IsBehind g) :
    d.work os = (os.map (fun _ => .error f), d) := by
  induction os with
  | nil => rfl
  | cons o os ih =>
      simp only [Desk.work, perform_of_stops h (hos o List.mem_cons_self),
        ih (fun o' ho' => hos o' (List.mem_cons_of_mem o ho')), List.map_cons]

theorem blocking_perform_of_stops {d : Blocking.Desk}
    (h : g.Stops (g.seen d.world.settings d.world.flag) f) {o : Operation} (ho : o.IsBehind g) :
    d.perform o = (.error f, d) := by
  cases ho with
  | demand c D hgate hD =>
      subst hgate
      rw [Blocking.Desk.perform, Blocking.Desk.call,
        (gated_blocking (.demand D hD)).run_of_stops h]
  | interfaces c hgate =>
      subst hgate
      rw [Blocking.Desk.perform, Blocking.Desk.call,
        (gated_blocking .interfaces).run_of_stops h]

theorem blocking_work_of_stops {d : Blocking.Desk}
    (h : g.Stops (g.seen d.world.settings d.world.flag) f) {os : List Operation}
    (hos : ∀ o ∈ os, o.IsBehind g) : d.work os = (os.map (fun _ => .error f), d) := by
  induction os with
  | nil => rfl
  | cons o os ih =>
      simp only [Blocking.Desk.work, blocking_perform_of_stops h (hos o List.mem_cons_self),
        ih (fun o' ho' => hos o' (List.mem_cons_of_mem o ho')), List.map_cons]

-- A variable that is removed stops nothing, so that the throw that counts has put a value
-- there, and whatever comes after takes its place.
theorem exists_of_stops {settings : Table String Variable} {value : Option Variable} {isOff : Bool}
    (h : Gate.environment.Stops (Gate.environment.seen (match value with
      | some v => settings.insert Gate.disabledVariable v
      | none => settings.erase Gate.disabledVariable) isOff) f) : ∃ v, value = some v := by
  cases value with
  | some v => exact ⟨v, rfl⟩
  | none =>
      change Gate.Stops _ ⟨.setting _, ((settings.erase _).get? _).bind Variable.text?⟩ f at h
      rw [Table.get?_erase_self] at h
      cases h

theorem setVariable_setVariable (s : Site) (name : String) (v : Variable)
    (value : Option Variable) :
    (s.setVariable name (some v)).setVariable name value = s.setVariable name value := by
  cases value with
  | none => simp only [Site.setVariable, Table.erase_insert_self]
  | some v' => simp only [Site.setVariable, Table.insert_insert_self]

theorem blocking_setVariable_setVariable (w : World) (name : String) (v : Variable)
    (value : Option Variable) :
    (w.setVariable name (some v)).setVariable name value = w.setVariable name value := by
  cases value with
  | none => simp only [World.setVariable, Table.erase_insert_self]
  | some v' => simp only [World.setVariable, Table.insert_insert_self]

theorem perform_perform_of_throws {d : Desk} {on off : Operation} (hon : g.Throws on)
    (hoff : g.Throws off) (h : g.Stops (g.seen (d.perform on).2.site.settings
      (d.perform on).2.site.flag) f) :
    ((d.perform on).2.perform off).2 = (d.perform off).2 := by
  cases hon with
  | flag isOff => cases hoff with | flag isOff' => rfl
  | setting value =>
      cases hoff with
      | setting value' =>
          rcases exists_of_stops h with ⟨v, rfl⟩
          simp only [Desk.perform, Desk.change, setVariable_setVariable]

theorem blocking_perform_perform_of_throws {d : Blocking.Desk} {on off : Operation}
    (hon : g.Throws on) (hoff : g.Throws off)
    (h : g.Stops (g.seen (d.perform on).2.world.settings (d.perform on).2.world.flag) f) :
    ((d.perform on).2.perform off).2 = (d.perform off).2 := by
  cases hon with
  | flag isOff => cases hoff with | flag isOff' => rfl
  | setting value =>
      cases hoff with
      | setting value' =>
          rcases exists_of_stops h with ⟨v, rfl⟩
          simp only [Blocking.Desk.perform, Blocking.Desk.change,
            blocking_setVariable_setVariable]

end Throwing

/-! ### Bytes that are no text -/

/-- Two environments in which every variable has the same text. -/
def ReadAlike (t t' : Table String Variable) : Prop :=
  ∀ name, (t.get? name).bind Variable.text? = (t'.get? name).bind Variable.text?

/-- A site with another environment. -/
def Site.withSettings (s : Site) (t : Table String Variable) : Site := { s with settings := t }

/-- A world with another environment. -/
def Blocking.World.withSettings (w : World) (t : Table String Variable) : World :=
  { w with settings := t }

section Garbled

variable {α : Type} {t t' : Table String Variable}

theorem readAlike_garbled (t : Table String Variable) (name : String) (bytes : ByteArray)
    (h : String.fromUTF8? bytes = none) :
    ReadAlike (t.insert name (.garbled bytes h)) (t.erase name) := by
  intro other
  by_cases hname : name = other
  · subst hname
    rw [Table.get?_insert_self, Table.get?_erase_self]
    rfl
  · rw [Table.get?_insert_of_ne _ _ hname, Table.get?_erase_of_ne _ hname]

theorem settings_answer (query : Query) (s : Site) : (query.answer s).2.settings = s.settings := by
  cases query with
  | send channel request =>
      simp only [Query.answer, Site.exchange]
      split <;> rfl
  | enter record =>
      simp only [Query.answer]
      split <;> rfl
  | pause length =>
      rcases Plan.answer_pause_moves length with ⟨move, hmove⟩
      rw [hmove]
  | _ => rfl

-- A variable is only ever asked for its text, so the environment can be exchanged beforehand
-- or afterwards.
theorem answer_withSettings (query : Query) {s : Site} (h : ReadAlike t s.settings) :
    query.answer (s.withSettings t) = ((query.answer s).1, (query.answer s).2.withSettings t) := by
  cases query with
  | setting name => exact Prod.ext (h name) rfl
  | send channel request =>
      change (if s.isShut channel then _ else _) = _
      simp only [Query.answer, Site.exchange]
      split <;> rfl
  | enter record =>
      change (_, if (s.records record).keys.isSome then _ else _) = _
      simp only [Query.answer]
      split <;> rfl
  | pause length =>
      rcases Plan.answer_pause_moves length with ⟨move, hmove⟩
      rw [hmove, hmove]
      rfl
  | _ => rfl

theorem run_withSettings (p : Plan α) {s : Site} (h : ReadAlike t s.settings) :
    p.run (s.withSettings t) = ((p.run s).1, (p.run s).2.withSettings t) := by
  induction p generalizing s with
  | done value => rfl
  | ask query next ih =>
      rw [Plan.run_ask, answer_withSettings query h, ih _ (by rwa [settings_answer]),
        Plan.run_ask]

theorem settings_answer_in_world (query : Query) (w : World) :
    (World.answer query w).2.settings = w.settings := by
  cases query with
  | send channel request =>
      simp only [World.answer, World.post]
      split <;> rfl
  | leave handle keys => cases keys <;> rfl
  | _ => rfl

theorem answer_in_world_withSettings (query : Query) {w : World} (h : ReadAlike t w.settings) :
    World.answer query (w.withSettings t) =
      ((World.answer query w).1, (World.answer query w).2.withSettings t) := by
  cases query with
  | setting name => exact Prod.ext (h name) rfl
  | send channel request =>
      change (if w.isShut channel then _ else _) = _
      simp only [World.answer, World.post]
      split <;> rfl
  | leave handle keys => cases keys <;> rfl
  | _ => rfl

theorem runIn_withSettings (p : Plan α) {w : World} (h : ReadAlike t w.settings) :
    p.runIn (w.withSettings t) = ((p.runIn w).1, (p.runIn w).2.withSettings t) := by
  induction p generalizing w with
  | done value => rfl
  | ask query next ih =>
      rw [Plan.runIn_ask, answer_in_world_withSettings query h,
        ih _ (by rwa [settings_answer_in_world]), Plan.runIn_ask]

end Garbled

/-- A switch that stops an operation is the only thing that the operation sees. Whatever is
    fetched, however, and with whatever is in the cache and however many attempts there are:
    one look is all that is said, and its failure is the result. Looks that come later, before
    each further fetch, are obeyed in the same way, so that a mapping of which some devices
    were fetched is lost when the switch is thrown then. A site and a world are what they
    were, for tasks as for threads.

    However much was tried while the switch was on, throwing it back leaves what throwing it
    there in the first place would have left.

    All of this is about what is seen of a switch. Bytes that are no text are not seen: with
    them in the variable, everything goes on as if it were not set. -/
theorem switch_is_absolute (c : Client) :
    let g := c.settings.gate
    (∀ (α : Type) (a : Act α), c.Answers a → ∀ w, let told := a.among w []
      (∀ f, g.Stops ⟨g.look, w [] g.look⟩ f → told = (.error f, [⟨g.look, w [] g.look⟩])) ∧
        Heeds g.halt told.2 told.1) ∧
    (∀ w lines e before name after mapping e' f,
      (c.listing .blockDeviceNames).among w [] = (.ok lines, e) →
      deviceNames lines = before ++ name :: after →
      (before.foldlM c.addDevice Table.empty).among w e = (.ok mapping, e') →
      g.Stops ⟨g.look, w e' g.look⟩ f →
        c.blockDevices.among w [] = (.error f, e' ++ [⟨g.look, w e' g.look⟩])) ∧
    (∀ (α : Type) (a : Act α), c.Answers a → ∀ s f, g.Stops (g.seen s.settings s.flag) f →
      a.drive s = (.error f, s)) ∧
    (∀ w f, g.Stops (g.seen w.settings w.flag) f →
      (∀ (α : Type) (m : Direct α), Blocking.Answers c m → m.run w = (.error f, w)) ∧
        ∀ mapping lines, deviceNames lines ≠ [] →
          (Blocking.addDevices c mapping lines).run w = (.error f, w)) ∧
    (∀ bytes hbytes, let garbled := some (Variable.garbled bytes hbytes)
      (∀ (α : Type) (a : Act α) (s : Site),
        let set := s.setVariable Gate.disabledVariable garbled
        let unset := s.setVariable Gate.disabledVariable none
        a.drive set = ((a.drive unset).1, (a.drive unset).2.withSettings set.settings)) ∧
      ∀ (α : Type) (m : Direct α) (w : World),
        let set := w.setVariable Gate.disabledVariable garbled
        let unset := w.setVariable Gate.disabledVariable none
        m.run set = ((m.run unset).1, (m.run unset).2.withSettings set.settings)) ∧
    ∀ on off os, g.Throws on → g.Throws off → (∀ o ∈ os, o.IsBehind g) →
      (∀ (d : Desk) f, let stopped := (d.perform on).2
        g.Stops (g.seen stopped.site.settings stopped.site.flag) f →
          stopped.work os = (os.map (fun _ => .error f), stopped) ∧
            ((stopped.work os).2.perform off).2 = (d.perform off).2) ∧
      ∀ (d : Blocking.Desk) f, let stopped := (d.perform on).2
        g.Stops (g.seen stopped.world.settings stopped.world.flag) f →
          stopped.work os = (os.map (fun _ => .error f), stopped) ∧
            ((stopped.work os).2.perform off).2 = (d.perform off).2 := by
  intro g
  refine ⟨?_, ?_, ?_, ?_, ?_, ?_⟩
  · intro α a ha w told
    refine ⟨fun f hstops => (gated_answers ha).among_of_stops hstops, ?_⟩
    exact Plan.abides_among w (attends_answers ha [] unstopped_nil)
  · intro w lines e before name after mapping e' f hlisting hnames hbefore hstops
    exact blockDevices_of_stops hlisting hnames hbefore hstops
  · exact fun α a ha s f hstops => drive_of_stops ha hstops
  · intro w f hstops
    exact ⟨fun α m hm => (gated_blocking hm).run_of_stops hstops,
      fun mapping lines hlines => addDevices_of_stops hstops hlines mapping⟩
  · intro bytes hbytes garbled
    constructor
    · intro α a s set unset
      have halike : ReadAlike set.settings unset.settings :=
        readAlike_garbled s.settings _ bytes hbytes
      simp only [Act.drive, Plan.drive_eq_run]
      exact run_withSettings a.outcome halike
    · intro α m w set unset
      have halike : ReadAlike set.settings unset.settings :=
        readAlike_garbled w.settings _ bytes hbytes
      exact runIn_withSettings m.outcome halike
  · intro on off os hon hoff hos
    constructor
    · intro d f stopped hstops
      have hwork := work_of_stops hstops hos
      exact ⟨hwork, by rw [hwork]; exact perform_perform_of_throws hon hoff hstops⟩
    · intro d f stopped hstops
      have hwork := blocking_work_of_stops hstops hos
      exact ⟨hwork, by rw [hwork]; exact blocking_perform_perform_of_throws hon hoff hstops⟩

-- A value that is in the cache, a base address that cannot be found, no attempts and a closed
-- channel: the switch comes before all of them. Blanks and capital letters in the variable
-- make no difference.
theorem disabled_before_all_else :
    let c : Client := ⟨⟨.environment, .environment, ⟨0, Duration.zero⟩, 21600, 0⟩, 0⟩
    let s : Site := { Site.fresh (fun _ => .error .timeout) with
      settings := (Table.empty.insert "AWS_EC2_METADATA_DISABLED" (.text " TRUE\t")).insert
        "AWS_EC2_METADATA_SERVICE_ENDPOINT_MODE" (.text "IPv5")
      caches := fun _ => Table.empty.insert "/a" "x"
      isShut := fun _ => true }
    ((Demand.valueWith "/a" false 0).act c).drive s = (.error .disabled, s) := by
  intro c s
  refine (switch_is_absolute c).2.2.1 _ _ (.demand (.valueWith "/a" false 0) trivial) s _ ?_
  exact .said " TRUE\t" (by decide)

theorem fromUTF8?_255 : String.fromUTF8? ⟨#[255]⟩ = none := by decide

-- A byte that no text begins with is neither blank nor a truth value, and it does not stop
-- anything.
theorem garbled_switch_is_passed :
    let c : Client := ⟨⟨.fixed "http://host", .environment, ⟨1, Duration.zero⟩, 21600, 0⟩, 0⟩
    let garbled := some (Variable.garbled ⟨#[255]⟩ fromUTF8?_255)
    let s := (Site.fresh (fun _ => .ok "v")).setVariable "AWS_EC2_METADATA_DISABLED" garbled
    let w := (World.fresh (fun _ => .ok "v")).setVariable "AWS_EC2_METADATA_DISABLED" garbled
    let fetched := ((Demand.value "/a").act c).drive s
    let called := (Blocking.demand c (.value "/a")).run w
    fetched.1 = .ok (.text (some "v")) ∧ fetched.2.sent.length = 2 ∧
      called.1 = .ok (.text (some "v")) ∧ called.2.posted.length = 2 := by
  intro c garbled s w fetched called
  have hfetched : fetched = (Demand.act c (.value "/a")).run s := Plan.drive_eq_run _ _
  rw [hfetched]
  exact ⟨rfl, rfl, rfl, rfl⟩

end Imds
