import Imds.Blocking.Nic
import Imds.Desk

/-!
# Operations One After Another on the Calling Thread

The demands, questions and operations of a program are the same whether it waits on its
own thread or has an executor wait. Here a thread carries them out, with the handles that
it made itself.

## Main definitions

* `Blocking.demand`: How a client meets a demand on the calling thread.
* `Blocking.question`: How a handle answers a question there.
* `Blocking.Desk`, `Blocking.Desk.perform`: A world with handles, and an operation in it.
* `Blocking.Desk.work`: Operations one after another.
-/

namespace Imds

namespace Blocking

/-- How a client meets a demand. -/
def demand (c : Client) : Demand → Direct Report
  | .value path => Report.text <$> fetchValue c path
  | .valueWith path force attempts => Report.text <$> fetchValueWith c path force attempts
  | .items path attempts whole => Report.texts <$> fetchItems c path attempts whole
  | .lines path => Report.texts <$> fetchLines c path
  | .linesWith path attempts => Report.texts <$> fetchLinesWith c path attempts
  | .document path => Report.text <$> fetchDocument c path
  | .scalar v => Report.text <$> scalar c v
  | .listing l => Report.list <$> listing c l
  | .identityDocument => Report.text <$> identityDocument c
  | .region => Report.text <$> region c
  | .description => Report.description <$> description c
  | .userData => Report.text <$> userData c
  | .blockDevices => Report.devices <$> blockDevices c
  | .keep path value => do
    Plan.store c.settings.cache path value
    return .nothing
  | .clearCache => do
    clearCache c
    return .nothing
  | .close => do
    close c
    return .nothing

/-- How a handle answers a question. -/
def question (n : Nic) : Question → Direct Report
  | .mac => pure (.text (some n.mac))
  | .keys => Report.list <$> n.availableKeys
  | .value key => Report.text <$> n.value key
  | .lines key => Report.list <$> n.lines key
  | .scalar v => Report.text <$> n.scalar v
  | .listing l => Report.list <$> n.listing l
  | .associations address => Report.list <$> n.associations address

/-- A world, and the handles that were made in it. -/
structure Desk where
  /-- The world. -/
  world : World
  /-- The handles, oldest first. -/
  nics : List Nic

namespace Desk

/-- A thread carries an operation out. -/
def call {α : Type} (d : Desk) (a : Direct α) : Except Failure α × Desk :=
  ((a.run d.world).1, { d with world := (a.run d.world).2 })

/-- Handles are added to those that are there. -/
def add (d : Desk) (nics : List Nic) : Desk := { d with nics := d.nics ++ nics }

/-- Something is done to the world that cannot fail. -/
def change (d : Desk) (f : World → World) : Except Failure Report × Desk :=
  (.ok .nothing, { d with world := f d.world })

/-- One operation: its result, and the desk after it. A handle that is not there answers
    nothing. -/
def perform (d : Desk) : Operation → Except Failure Report × Desk
  | .demand c demand => d.call (Blocking.demand c demand)
  | .interfaces c =>
    match d.call (Blocking.interfaces c) with
    | (.ok nics, after) => (.ok (.list (nics.map Nic.mac)), after.add nics)
    | (.error failure, after) => (.error failure, after)
  | .interface c mac =>
    let made := (Nic.ofMac c mac).runIn d.world
    (.ok (.text (some made.1.mac)), Desk.add ⟨made.2, d.nics⟩ [made.1])
  | .question index question =>
    match d.nics[index]? with
    | some n => d.call (Blocking.question n question)
    | none => (.ok .nothing, d)
  | .setFlag flag => d.change (fun w => w.setFlag flag)
  | .setVariable name value => d.change (fun w => w.setVariable name value)

/-- Operations one after another: their results, and the desk after the last. -/
def work (d : Desk) : List Operation → List (Except Failure Report) × Desk
  | [] => ([], d)
  | o :: os =>
    let (result, after) := d.perform o
    let (results, last) := after.work os
    (result :: results, last)

end Desk

end Blocking

end Imds
