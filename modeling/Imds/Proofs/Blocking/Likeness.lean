import Imds.Blocking.Desk

/-!
# Threads Ask What Tasks Ask

Clients and handles come twice, for tasks and for threads, and the two were written down
separately. Both are plans, and a plan is nothing but its queries in their order and what
follows from each answer. So there is no need to compare what they do: they are the same
plans, and whatever is known of one of them, in any surroundings and in any company, is
known of the other.

Piece by piece the two forms are close. Three pairs are not of the same shape. An attempt
loop ends in a result here and throws there. The mapping of block devices is a fold over
names here and a recursion over lines there. And a listing of keys is fetched with two
branches here that give the right to fetch it back, while there something is done under a
lock.

## Main definitions

* `Nic.blocking`: The handle that a thread has on an interface.

## Theorems

* `retry_eq`: The two attempt loops.
* `fetchItems_eq`, `fetchValueWith_eq`, `fetchDocument_eq`: The fetches of a client.
* `availableKeys_eq`, `value_eq`, `lines_eq`: What a handle does.
* `demand_eq`, `question_eq`, `interfaces_eq`: Everything that is asked of a client or a handle.
-/

namespace Imds

/-- The handle that a thread has on an interface. -/
def Nic.blocking (n : Nic) : Blocking.Nic := ⟨n.client, n.mac, n.path, n.record⟩

namespace Blocking

/-! ### The client -/

theorem isDisabled_eq (g : Gate) : isDisabled g = g.isDisabled := by
  cases g <;> rfl

theorem passGate_eq (g : Gate) : passGate g = g.pass := by
  rw [passGate, isDisabled_eq]
  rfl

theorem baseOf_eq (a : Address) : baseOf a = a.resolve := by
  cases a with
  | fixed base => rfl
  | environment => rfl
  | provided name h answer =>
      refine bind_congr (fun value => ?_)
      cases answer value <;> rfl

theorem attempt_eq (c : Client) (base path : String) : attempt c base path = c.attempt base path :=
  rfl

-- On the attempts that are left, which both loops count down.
theorem retry_eq {m : Type → Type} [Monad m] [LawfulMonad m] {α : Type} (b : Backoff)
    (sleep : Duration → m Unit) (attempt : m (Verdict α)) (n : Nat) :
    retry b sleep attempt n = ExceptT.mk (b.retryFrom sleep attempt n) := by
  induction n with
  | zero => rfl
  | succ left ih =>
      rw [retry, Backoff.retryFrom]
      refine ExceptT.ext ((ExceptT.run_bind_lift attempt _).trans ?_)
      change _ = attempt >>= _
      refine bind_congr (fun verdict => ?_)
      cases verdict with
      | settled value => rfl
      | fatal failure => rfl
      | again cause =>
          by_cases hlast : left = 0
          · simp only [if_pos hlast]
            rfl
          · simp only [if_neg hlast, ih]
            exact ExceptT.run_bind_lift _ _

/-- The fetch that all others are made of. -/
theorem fetchItems_eq (c : Client) (path : String) (n : Nat) (whole : Bool) :
    fetchItems c path n whole = c.fetchItems path n whole := by
  simp only [fetchItems, Client.fetchItems, Client.fetchBody, passGate_eq, baseOf_eq, attempt_eq,
    retry_eq, Backoff.retry, bind_assoc]

theorem fetchLines_eq (c : Client) (path : String) : fetchLines c path = c.fetchLines path :=
  fetchItems_eq c path _ false

theorem fetchLinesWith_eq (c : Client) (path : String) (n : Nat) :
    fetchLinesWith c path n = c.fetchLinesWith path n :=
  fetchItems_eq c path n false

theorem fetchDocument_eq (c : Client) (path : String) :
    fetchDocument c path = c.fetchDocument path := by
  rw [fetchDocument, fetchItems_eq]
  rfl

-- What both do when the cache did not answer: a value that was fetched is kept.
theorem store_eq (cache : Nat) (path : String) (value : Option String) :
    (do
      if let some text := value then
        Plan.store cache path text
      return value : Direct (Option String)) = (do
      match value with
      | some text =>
        Plan.store cache path text
        pure (some text)
      | none => pure none) := by
  cases value <;> rfl

theorem fetchValueWith_eq (c : Client) (path : String) (force : Bool) (n : Nat) :
    fetchValueWith c path force n = c.fetchValueWith path force n := by
  rw [fetchValueWith, Client.fetchValueWith, passGate_eq]
  refine bind_congr (fun _ => ?_)
  cases force with
  | true =>
      rw [fetchItems_eq]
      exact bind_congr (fun items => store_eq _ path (items.bind List.head?))
  | false =>
      refine bind_congr (fun known => ?_)
      cases known with
      | some value => rfl
      | none =>
          rw [fetchItems_eq]
          exact bind_congr (fun items => store_eq _ path (items.bind List.head?))

theorem fetchValue_eq (c : Client) (path : String) : fetchValue c path = c.fetchValue path :=
  fetchValueWith_eq c path false _

theorem listing_eq (c : Client) (l : Listing) : listing c l = c.listing l := by
  cases l <;> exact congrArg (· >>= fun lines => pure (lines.getD [])) (fetchLines_eq c _)

theorem scalar_eq (c : Client) (v : Scalar) : scalar c v = c.scalar v := by
  cases v <;> exact fetchValue_eq c _

theorem identityDocument_eq (c : Client) : identityDocument c = c.identityDocument :=
  fetchDocument_eq c _

-- On the lines. A blank one is left out of the names, and passed over by the thread.
theorem addDevices_eq (c : Client) (lines : List String) (mapping : Table String String) :
    addDevices c mapping lines = (deviceNames lines).foldlM c.addDevice mapping := by
  induction lines generalizing mapping with
  | nil => rfl
  | cons line lines ih =>
      rw [addDevices]
      by_cases hblank : Text.trimBlank line = ""
      · have hnames : deviceNames (line :: lines) = deviceNames lines := by
          simp [deviceNames, hblank]
        rw [if_pos hblank, hnames]
        exact ih mapping
      · have hnames : deviceNames (line :: lines) = Text.trimBlank line :: deviceNames lines := by
          simp [deviceNames, hblank]
        rw [if_neg hblank, hnames, List.foldlM_cons, Client.addDevice, bind_assoc,
          fetchDocument_eq]
        refine bind_congr (fun value => ?_)
        cases value with
        | some value => exact ih _
        | none => exact ih mapping

theorem blockDevices_eq (c : Client) : blockDevices c = c.blockDevices := by
  have hlisting : several c "block-device-mapping" = c.listing .blockDeviceNames :=
    listing_eq c .blockDeviceNames
  rw [blockDevices, hlisting]
  exact bind_congr (fun lines => addDevices_eq c lines Table.empty)

/-- Everything that is asked of a client. -/
theorem demand_eq (c : Client) (D : Demand) : demand c D = D.act c := by
  cases D with
  | value path => exact congrArg (Report.text <$> ·) (fetchValue_eq c path)
  | valueWith path force n => exact congrArg (Report.text <$> ·) (fetchValueWith_eq c path force n)
  | items path n whole => exact congrArg (Report.texts <$> ·) (fetchItems_eq c path n whole)
  | lines path => exact congrArg (Report.texts <$> ·) (fetchLines_eq c path)
  | linesWith path n => exact congrArg (Report.texts <$> ·) (fetchLinesWith_eq c path n)
  | document path => exact congrArg (Report.text <$> ·) (fetchDocument_eq c path)
  | scalar v => exact congrArg (Report.text <$> ·) (scalar_eq c v)
  | listing l => exact congrArg (Report.list <$> ·) (listing_eq c l)
  | identityDocument => exact congrArg (Report.text <$> ·) (identityDocument_eq c)
  | region =>
      exact congrArg
        (fun d => Report.text <$> (d >>= fun body => pure (body.bind Identity.regionOf)))
        (identityDocument_eq c)
  | description =>
      exact congrArg
        (fun d => Report.description <$>
          (d >>= fun body => pure (body.bind Identity.Document.ofText?)))
        (identityDocument_eq c)
  | userData => exact congrArg (Report.text <$> ·) (fetchDocument_eq c userDataPath)
  | blockDevices => exact congrArg (Report.devices <$> ·) (blockDevices_eq c)
  | keep path value => rfl
  | clearCache => rfl
  | close => rfl

/-! ### Handles -/

-- What is listed under a lock is kept when the lock is given back, and a failure keeps nothing.
theorem whileLocked_eq (handle : Nat) (a : Act (Option (List String))) :
    whileLocked handle (a >>= fun lines => pure (lines.getD [])) = (do
      match ← a.outcome.act with
      | .ok lines =>
        Plan.leave handle (some (lines.getD []))
        pure (lines.getD [])
      | .error failure =>
        Plan.leave handle none
        throw failure) := by
  refine ExceptT.ext ?_
  change (a.outcome >>= ExceptT.bindCont _) >>= _ = (a.outcome >>= _) >>= ExceptT.bindCont _
  rw [bind_assoc, bind_assoc]
  refine bind_congr (fun result => ?_)
  cases result with
  | ok lines => rfl
  | error failure => rfl

/-- The listing of an interface: what is done under the lock is what is done with the right to
    fetch it. -/
theorem availableKeys_eq (n : Imds.Nic) : n.blocking.availableKeys = n.availableKeys := by
  rw [Nic.availableKeys, Imds.Nic.availableKeys]
  refine bind_congr (fun known => ?_)
  cases known with
  | some keys => rfl
  | none =>
      have hfetch : fetchLines n.blocking.client n.blocking.path = n.client.fetchLines n.path :=
        fetchLines_eq n.client n.path
      rw [hfetch]
      exact whileLocked_eq n.record _

-- Looking a key up in a listing leaves two ways to go on, the same for both.
theorem hasKey_bind_eq {α : Type} (n : Imds.Nic) (key : String) (a b : Act α) :
    (n.blocking.hasKey key >>= fun listed => if (!listed) = true then b else a) =
      n.availableKeys >>= fun keys => if key ∈ keys then a else b := by
  rw [Nic.hasKey, bind_assoc, availableKeys_eq]
  refine bind_congr (fun keys => ?_)
  rw [pure_bind, List.any_beq', List.contains_eq_mem]
  by_cases hkey : key ∈ keys
  · rw [decide_eq_true hkey, if_pos hkey]
    rfl
  · rw [decide_eq_false hkey, if_neg hkey]
    rfl

theorem value_eq (n : Imds.Nic) (key : String) : n.blocking.value key = n.value key := by
  rw [Nic.value, Imds.Nic.value]
  refine bind_congr (fun known => ?_)
  cases known with
  | some value => rfl
  | none =>
      have hfetch : fetchDocument n.blocking.client (n.blocking.path ++ key) =
          n.client.fetchDocument (n.path ++ key) := fetchDocument_eq _ _
      rw [hfetch]
      exact hasKey_bind_eq n key _ _

theorem lines_eq (n : Imds.Nic) (key : String) : n.blocking.lines key = n.lines key := by
  have hfetch : fetchLines n.blocking.client (n.blocking.path ++ key) =
      n.client.fetchLines (n.path ++ key) := fetchLines_eq _ _
  rw [Nic.lines, hfetch]
  exact hasKey_bind_eq n key _ _

/-- Everything that is asked of a handle. -/
theorem question_eq (n : Imds.Nic) (q : Question) : question n.blocking q = q.act n := by
  cases q with
  | mac => rfl
  | keys => exact congrArg (Report.list <$> ·) (availableKeys_eq n)
  | value key => exact congrArg (Report.text <$> ·) (value_eq n key)
  | lines key => exact congrArg (Report.list <$> ·) (lines_eq n key)
  | scalar v => cases v <;> exact congrArg (Report.text <$> ·) (value_eq n _)
  | listing l => cases l <;> exact congrArg (Report.list <$> ·) (lines_eq n _)
  | associations address =>
      exact congrArg (fun d => Report.list <$> (d >>= fun lines => pure (lines.getD [])))
        (fetchLines_eq n.client _)

theorem ofMac_eq (c : Client) (mac : String) :
    Nic.ofMac c mac = Imds.Nic.blocking <$> Imds.Nic.ofMac c mac :=
  rfl

/-- The interfaces of an instance are the same ones, made in the same order. -/
theorem interfaces_eq (c : Client) :
    interfaces c = List.map Imds.Nic.blocking <$> c.interfaces := by
  have hlisting : several c "network/interfaces/macs/" = c.listing .interfaceMacs :=
    listing_eq c .interfaceMacs
  rw [interfaces, hlisting, Client.interfaces, map_bind]
  refine bind_congr (fun lines => ?_)
  change _ = List.map Imds.Nic.blocking <$>
    ((lines.map macOfLine).filter (fun mac => mac ≠ "")).mapM _
  -- On the addresses, for each of which a handle is made.
  induction (lines.map macOfLine).filter (fun mac => mac ≠ "") with
  | nil => rfl
  | cons mac macs ih =>
      rw [List.mapM_cons, List.mapM_cons, ih, ofMac_eq, liftM_map]
      simp only [map_eq_pure_bind, bind_assoc, pure_bind, List.map_cons]

end Blocking

end Imds
