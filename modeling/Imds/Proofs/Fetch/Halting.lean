import Imds.Desk
import Imds.Proofs.Conduct
import Imds.Proofs.Fetch.Rounds

/-!
# Answers That End an Operation

There are answers after which an operation has no way to go on. A switch that says that
metadata is off is one, and a channel that says that it is closed is another. What is wanted
of an operation is the same in either case: such an answer is the last thing that it hears,
its failure is the failure of the answer, whatever was gathered until then, and it does not
come to that failure in any other way.

A `Halt` is a kind of such answers. That an operation attends to it is shown once, for every
demand that can be put to a client, from what is special about the halt: how the switch is
passed, how the base address is found, and how one attempt ends. `Halt.Fits` lists that. On
the way it is also seen that a client sends and closes through its own channel only, and
does not touch what handles know of interfaces.

## Main definitions

* `Query.OfClient`: The queries that operations of a client put.
* `Halt`: Answers that end an operation, and the failure that comes from nothing else.
* `Unstopped`, `Heeds`: Dialogues in which a halt is obeyed.
* `Act.Attends`: An operation that obeys a halt, whatever it is told.
* `Halt.Fits`: What a halt has to be like for a client to attend to it.

## Theorems

* `attends_bind`, `attends_ask`, `attends_retryFrom`: Pieces of operations.
* `attends_demand`, `attends_interfaces`: Whole operations.
-/

namespace Imds

/-- Answers that end an operation. -/
structure Halt where
  /-- What was said ends an operation with a failure. -/
  stops : Said → Failure → Prop
  /-- A failure that an operation comes to only when it was stopped. -/
  mark : Failure

/-- Nothing that was said ends the operation. -/
def Unstopped (h : Halt) (d : List Said) : Prop := ∀ x ∈ d, ∀ f, ¬ h.stops x f

/-- A dialogue obeys a halt: nothing has stopped the operation, and it does not come to the
    failure of an operation that was stopped; or the last thing said stopped it, and its
    failure is the result. -/
def Heeds {α : Type} (h : Halt) (d : List Said) (r : Except Failure α) : Prop :=
  (Unstopped h d ∧ r ≠ .error h.mark) ∨
    ∃ before x f, d = before ++ [x] ∧ Unstopped h before ∧ h.stops x f ∧ r = .error f

/-- The same for the verdict of an attempt. -/
def Judges (h : Halt) (d : List Said) (v : Verdict (Option String)) : Prop :=
  (Unstopped h d ∧ v ≠ .fatal h.mark) ∨
    ∃ before x f, d = before ++ [x] ∧ Unstopped h before ∧ h.stops x f ∧ v = .fatal f

/-- Queries that send or close through one channel only, and leave alone what is known of
    interfaces. -/
def Query.OfClient (channel : Nat) : Query → Prop
  | .send k _ => k = channel
  | .shut k => k = channel
  | .enter _ => False
  | .leave _ _ => False
  | .recollect _ _ => False
  | .remember _ _ _ => False
  | _ => True

/-- Whatever it is told, an act obeys a halt, and puts queries of a client only. -/
def Act.Attends {α : Type} (h : Halt) (channel : Nat) (a : Act α) : Prop :=
  ∀ d, Unstopped h d →
    a.Abides (fun e query => Unstopped h e ∧ query.OfClient channel) (Heeds h) d

/-- Queries that look neither at the switch nor for the base, and send nothing. -/
def Query.IsAside : Query → Prop
  | .setting _ => False
  | .flag => False
  | .send _ _ => False
  | _ => True

/-- A halt that a client attends to. -/
structure Halt.Fits (h : Halt) (c : Client) : Prop where
  pass : c.settings.gate.pass.Attends h c.channel
  resolve : c.settings.address.resolve.Attends h c.channel
  attempt : ∀ base path d, Unstopped h d → (c.attempt base path).Abides
    (fun e query => Unstopped h e ∧ query.OfClient c.channel) (Judges h) d
  aside : ∀ query, query.IsAside → ∀ a f, ¬ h.stops ⟨query, a⟩ f
  unreachable : h.mark ≠ .unreachable
  exhausted : ∀ n cause, h.mark ≠ .exhausted n cause

/-! ### Pieces -/

section Pieces

variable {α β : Type} {h : Halt} {channel : Nat}

theorem unstopped_nil : Unstopped h [] := fun _ hx => nomatch hx

theorem Unstopped.concat {d : List Said} (hd : Unstopped h d) {x : Said}
    (hx : ∀ f, ¬ h.stops x f) : Unstopped h (d ++ [x]) := by
  intro y hy
  rcases List.mem_append.1 hy with hy | hy
  · exact hd y hy
  · rw [List.mem_singleton.1 hy]
    exact hx

theorem attends_ofExcept {r : Except Failure α} (hr : r ≠ .error h.mark) :
    (Act.ofExcept r).Attends h channel :=
  fun _ hd => Or.inl ⟨hd, hr⟩

theorem attends_pure (value : α) : (pure value : Act α).Attends h channel :=
  attends_ofExcept (r := .ok value) nofun

theorem attends_bind {a : Act α} {k : α → Act β} (ha : a.Attends h channel)
    (hk : ∀ x, (k x).Attends h channel) : (a >>= k).Attends h channel := by
  intro d hd
  refine Act.abides_bind ((ha d hd).mono (fun _ _ hq => hq) ?_)
  intro e r hr
  cases r with
  | ok value =>
      rcases hr with ⟨he, -⟩ | ⟨before, x, f, -, -, -, hr⟩
      · exact hk value e he
      · cases hr
  | error failure =>
      rcases hr with ⟨he, hfailure⟩ | ⟨before, x, f, he, hbefore, hx, hr⟩
      · exact Or.inl ⟨he, fun hmark => hfailure (by cases hmark; rfl)⟩
      · cases hr
        exact Or.inr ⟨before, x, failure, he, hbefore, hx, rfl⟩

theorem attends_map {a : Act α} (ha : a.Attends h channel) (k : α → β) :
    (k <$> a).Attends h channel := by
  rw [map_eq_pure_bind]
  exact attends_bind ha (fun x => attends_pure (k x))

theorem attends_ask (query : Query) (hclient : query.OfClient channel)
    (hquery : ∀ a f, ¬ h.stops ⟨query, a⟩ f) :
    (liftM (Plan.ask query Plan.done) : Act query.Answer).Attends h channel :=
  fun _ hd => Act.abides_lift ⟨⟨hd, hclient⟩, fun a => Or.inl ⟨hd.concat (hquery a), nofun⟩⟩

end Pieces

/-! ### Operations of clients -/

section Operations

variable {h : Halt} {c : Client}

theorem attends_aside (hc : h.Fits c) (query : Query) (haside : query.IsAside)
    (hclient : query.OfClient c.channel) :
    (liftM (Plan.ask query Plan.done) : Act query.Answer).Attends h c.channel :=
  attends_ask query hclient (hc.aside query haside)

-- On the attempts that are left. Nothing is asked after a verdict that stops the fetch.
theorem attends_retryFrom (hc : h.Fits c) (b : Backoff) (base path : String)
    (remaining : Nat) : Act.Attends h c.channel
      (ExceptT.mk (b.retryFrom Plan.pause (c.attempt base path) remaining)) := by
  induction remaining with
  | zero => exact fun d hd => Or.inl ⟨hd, fun hr => hc.unreachable (Except.error.inj hr).symm⟩
  | succ left ih =>
      intro d hd
      refine Plan.abides_bind ((hc.attempt base path d hd).mono (fun _ _ hq => hq) ?_)
      intro e verdict hjudged
      cases verdict with
      | settled value =>
          rcases hjudged with ⟨he, -⟩ | ⟨before, x, f, -, -, -, hv⟩
          · exact Or.inl ⟨he, nofun⟩
          · cases hv
      | fatal failure =>
          rcases hjudged with ⟨he, hfailure⟩ | ⟨before, x, f, he, hbefore, hx, hv⟩
          · exact Or.inl ⟨he, fun hr => hfailure (by cases hr; rfl)⟩
          · cases hv
            exact Or.inr ⟨before, x, failure, he, hbefore, hx, rfl⟩
      | again cause =>
          rcases hjudged with ⟨he, -⟩ | ⟨before, x, f, -, -, -, hv⟩
          · simp only
            split
            · exact Or.inl ⟨he, fun hr => hc.exhausted _ _ (Except.error.inj hr).symm⟩
            · exact ⟨⟨he, trivial⟩, fun _ => ih _ (he.concat (hc.aside (.pause _) trivial ()))⟩
          · cases hv

theorem attends_fetchBody (hc : h.Fits c) (path : String) (n : Nat) :
    (c.fetchBody path n).Attends h c.channel :=
  attends_bind hc.pass (fun _ => attends_bind hc.resolve
    (fun base => attends_retryFrom hc _ base path n))

theorem attends_fetchItems (hc : h.Fits c) (path : String) (n : Nat) (whole : Bool) :
    (c.fetchItems path n whole).Attends h c.channel :=
  attends_bind (attends_fetchBody hc path n) (fun _ => attends_pure _)

theorem attends_fetchDocument (hc : h.Fits c) (path : String) :
    (c.fetchDocument path).Attends h c.channel :=
  attends_bind (attends_fetchItems hc path _ true) (fun _ => attends_pure _)

theorem attends_listing (hc : h.Fits c) (l : Listing) : (c.listing l).Attends h c.channel :=
  attends_bind (attends_fetchItems hc l.path _ false) (fun _ => attends_pure _)

theorem attends_fetchValueWith (hc : h.Fits c) (path : String) (force : Bool) (n : Nat) :
    (c.fetchValueWith path force n).Attends h c.channel := by
  have hrest : (c.fetchAndStore path n).Attends h c.channel := by
    refine attends_bind (attends_fetchItems hc path n true) (fun items => ?_)
    cases items.bind List.head? with
    | some value =>
        exact attends_bind (attends_aside hc (.store _ _ _) trivial trivial)
          (fun _ => attends_pure _)
    | none => exact attends_pure none
  rw [Client.fetchValueWith_eq]
  refine attends_bind hc.pass (fun _ => ?_)
  have hknown : (c.known path force).Attends h c.channel := by
    cases force with
    | true => exact attends_pure none
    | false => exact attends_aside hc (.lookup _ _) trivial trivial
  refine attends_bind hknown (fun known => ?_)
  cases known with
  | some value => exact attends_pure _
  | none => exact hrest

-- On the names. Each device is a fetch of its own.
theorem attends_foldlM_addDevice (hc : h.Fits c) (names : List String)
    (mapping : Table String String) : (names.foldlM c.addDevice mapping).Attends h c.channel := by
  induction names generalizing mapping with
  | nil => exact attends_pure mapping
  | cons name names ih =>
      rw [List.foldlM_cons]
      refine attends_bind (attends_bind (attends_fetchDocument hc _) (fun value => ?_)) ih
      cases value <;> exact attends_pure _

theorem attends_ofMac (hc : h.Fits c) (mac : String) :
    (liftM (Nic.ofMac c mac) : Act Nic).Attends h c.channel :=
  fun _ hd => Act.abides_lift
    ⟨⟨hd, trivial⟩, fun n => Or.inl ⟨hd.concat (hc.aside .attach trivial n), nofun⟩⟩

theorem attends_mapM_ofMac (hc : h.Fits c) (macs : List String) :
    (macs.mapM (fun mac => (Nic.ofMac c mac : Plan Nic)) : Act (List Nic)).Attends h c.channel := by
  induction macs with
  | nil => exact attends_pure []
  | cons mac macs ih =>
      rw [List.mapM_cons]
      exact attends_bind (attends_ofMac hc mac) (fun _ => attends_bind ih (fun _ => attends_pure _))

theorem attends_interfaces (hc : h.Fits c) : c.interfaces.Attends h c.channel :=
  attends_bind (attends_listing hc _) (fun _ => attends_mapM_ofMac hc _)

/-- Whatever is asked of a client, it attends to a halt that fits it. -/
theorem attends_demand (hc : h.Fits c) (D : Demand) : (D.act c).Attends h c.channel := by
  cases D with
  | value path => exact attends_map (attends_fetchValueWith hc path false _) _
  | valueWith path force n => exact attends_map (attends_fetchValueWith hc path force n) _
  | scalar v => exact attends_map (attends_fetchValueWith hc v.path false _) _
  | items path n whole => exact attends_map (attends_fetchItems hc path n whole) _
  | lines path => exact attends_map (attends_fetchItems hc path _ false) _
  | linesWith path n => exact attends_map (attends_fetchItems hc path n false) _
  | document path => exact attends_map (attends_fetchDocument hc path) _
  | listing l => exact attends_map (attends_listing hc l) _
  | identityDocument => exact attends_map (attends_fetchDocument hc _) _
  | region =>
      exact attends_map (attends_bind (attends_fetchDocument hc _) (fun _ => attends_pure _)) _
  | description =>
      exact attends_map (attends_bind (attends_fetchDocument hc _) (fun _ => attends_pure _)) _
  | userData => exact attends_map (attends_fetchDocument hc _) _
  | blockDevices =>
      exact attends_map (attends_bind (attends_listing hc _)
        (fun lines => attends_foldlM_addDevice hc (deviceNames lines) Table.empty)) _
  | keep path value => exact attends_map (attends_aside hc (.store _ _ _) trivial trivial) _
  | clearCache => exact attends_map (attends_aside hc (.clear _) trivial trivial) _
  | close => exact attends_map (attends_aside hc (.shut _) trivial rfl) _

end Operations

end Imds
