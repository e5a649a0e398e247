import Imds.Nic
import Imds.Task

/-!
# Operations One After Another

A program that uses the library has clients and handles on interfaces, and does one
thing after another with them. What it can do is listed here once: a `Demand` is put to
a client, a `Question` to a handle, and an `Operation` is either of them, the making of
handles, or a change of what the process keeps outside of the library, which is the flag
and the variables of its environment.

A `Desk` is a site together with the handles that were made there, oldest first. An
operation leaves a result and the desk as it is afterwards. The handles of a listing that
failed are not made.

## Main definitions

* `Report`: What an operation gives.
* `Demand`, `Demand.act`: What is asked of a client.
* `Question`, `Question.act`: What is asked of a handle on an interface.
* `Operation`: One thing that a program does.
* `Desk`, `Desk.perform`: A site with handles, and an operation there.
* `Desk.work`: Operations one after another.

## Theorems

* `work_append`: What was done before is not done again.
-/

namespace Imds

/-- What an operation gives. -/
inductive Report where
  /-- Nothing but that it is done. -/
  | nothing
  /-- A value, or that there is none. -/
  | text (value : Option String)
  /-- Items, or that there are none. -/
  | texts (values : Option (List String))
  /-- Items of a listing that may be empty. -/
  | list (values : List String)
  /-- The fields of the identity document. -/
  | description (document : Option Identity.Document)
  /-- The mapping of block devices. -/
  | devices (mapping : Table String String)

/-- What is asked of a client. -/
inductive Demand where
  /-- A single value. -/
  | value (path : String)
  /-- A single value, perhaps past the cache, with a number of attempts. -/
  | valueWith (path : String) (force : Bool) (attempts : Nat)
  /-- The items of a path, with a number of attempts. -/
  | items (path : String) (attempts : Nat) (whole : Bool)
  /-- The lines of a path. -/
  | lines (path : String)
  /-- The lines of a path, with a number of attempts. -/
  | linesWith (path : String) (attempts : Nat)
  /-- A whole document. -/
  | document (path : String)
  /-- A single value that has a name. -/
  | scalar (value : Scalar)
  /-- A listing that has a name. -/
  | listing (listing : Listing)
  /-- The identity document. -/
  | identityDocument
  /-- The region of the instance. -/
  | region
  /-- The fields of the identity document. -/
  | description
  /-- The data that was supplied when the instance was launched. -/
  | userData
  /-- The mapping of block devices. -/
  | blockDevices
  /-- Keep a value in the cache. -/
  | keep (path value : String)
  /-- Forget every cached value. -/
  | clearCache
  /-- Close the channel. -/
  | close

/-- What is asked of a handle on an interface. -/
inductive Question where
  /-- Its hardware address. -/
  | mac
  /-- The keys the interface exposes. -/
  | keys
  /-- The value of a key. -/
  | value (key : String)
  /-- The lines of a key. -/
  | lines (key : String)
  /-- A named value. -/
  | scalar (value : NicScalar)
  /-- A named list. -/
  | listing (listing : NicListing)
  /-- The private addresses behind a public one. -/
  | associations (address : String)

/-- How a client meets a demand. -/
def Demand.act (c : Client) : Demand → Act Report
  | .value path => Report.text <$> c.fetchValue path
  | .valueWith path force attempts => Report.text <$> c.fetchValueWith path force attempts
  | .items path attempts whole => Report.texts <$> c.fetchItems path attempts whole
  | .lines path => Report.texts <$> c.fetchLines path
  | .linesWith path attempts => Report.texts <$> c.fetchLinesWith path attempts
  | .document path => Report.text <$> c.fetchDocument path
  | .scalar v => Report.text <$> c.scalar v
  | .listing l => Report.list <$> c.listing l
  | .identityDocument => Report.text <$> c.identityDocument
  | .region => Report.text <$> c.region
  | .description => Report.description <$> c.description
  | .userData => Report.text <$> c.userData
  | .blockDevices => Report.devices <$> c.blockDevices
  | .keep path v => (fun _ => .nothing) <$> (Plan.store c.settings.cache path v).act
  | .clearCache => (fun _ => .nothing) <$> c.clearCache.act
  | .close => (fun _ => .nothing) <$> c.close.act

/-- How a handle answers a question. -/
def Question.act (n : Nic) : Question → Act Report
  | .mac => pure (.text (some n.mac))
  | .keys => Report.list <$> n.availableKeys
  | .value key => Report.text <$> n.value key
  | .lines key => Report.list <$> n.lines key
  | .scalar v => Report.text <$> n.scalar v
  | .listing l => Report.list <$> n.listing l
  | .associations address => Report.list <$> n.associations address

/-- One thing that a program does. -/
inductive Operation where
  /-- It puts a demand to a client. -/
  | demand (client : Client) (demand : Demand)
  /-- It has handles made on all interfaces. -/
  | interfaces (client : Client)
  /-- It makes a handle on one interface. -/
  | interface (client : Client) (mac : String)
  /-- It puts a question to a handle, named by its place among all that were made. -/
  | question (index : Nat) (question : Question)
  /-- It throws the flag that turns metadata off, or throws it back. -/
  | setFlag (flag : Bool)
  /-- It sets a variable of the environment, or removes it. -/
  | setVariable (name : String) (value : Option Variable)

/-- A site, and the handles that were made there. -/
structure Desk where
  /-- The site. -/
  site : Site
  /-- The handles, oldest first. -/
  nics : List Nic

namespace Desk

/-- An act is driven at a desk. -/
def drive {α : Type} (d : Desk) (a : Act α) : Except Failure α × Desk :=
  ((a.drive d.site).1, { d with site := (a.drive d.site).2 })

/-- Handles are added to those that are there. -/
def add (d : Desk) (nics : List Nic) : Desk := { d with nics := d.nics ++ nics }

/-- Something is done to the site that cannot fail. -/
def change (d : Desk) (f : Site → Site) : Except Failure Report × Desk :=
  (.ok .nothing, { d with site := f d.site })

/-- One operation: its result, and the desk after it. A handle that is not there answers
    nothing. -/
def perform (d : Desk) : Operation → Except Failure Report × Desk
  | .demand c demand => d.drive (demand.act c)
  | .interfaces c =>
    match d.drive c.interfaces with
    | (.ok nics, after) => (.ok (.list (nics.map Nic.mac)), after.add nics)
    | (.error failure, after) => (.error failure, after)
  | .interface c mac =>
    let made := (Nic.ofMac c mac).drive d.site
    (.ok (.text (some made.1.mac)), Desk.add ⟨made.2, d.nics⟩ [made.1])
  | .question index question =>
    match d.nics[index]? with
    | some n => d.drive (question.act n)
    | none => (.ok .nothing, d)
  | .setFlag flag => d.change (fun s => s.setFlag flag)
  | .setVariable name value => d.change (fun s => s.setVariable name value)

/-- Operations one after another: their results, and the desk after the last. -/
def work (d : Desk) : List Operation → List (Except Failure Report) × Desk
  | [] => ([], d)
  | o :: os =>
    let (result, after) := d.perform o
    let (results, last) := after.work os
    (result :: results, last)

theorem work_append (d : Desk) (first second : List Operation) :
    d.work (first ++ second) =
      ((d.work first).1 ++ ((d.work first).2.work second).1,
        ((d.work first).2.work second).2) := by
  induction first generalizing d with
  | nil => rfl
  | cons o os ih => simp only [List.cons_append, work, ih]

end Desk

end Imds
