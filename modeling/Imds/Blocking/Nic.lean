import Imds.Blocking.Client
import Imds.Nic

/-!
# Network Interfaces on the Calling Thread

A handle on an interface for a thread that waits. It knows its path from the moment
it is made. The listing of its keys is fetched on first use and kept; so are
attributes that are single values, also when the service turned out not to have one.
A failure leaves what is kept as it was.

Two locks guard what a handle keeps. The one of the listing is held from the look at
the listing until there is one, so that a second thread waits for the fetch of the
first; a fetch that fails gives the lock back with the listing still missing, and
whoever waited tries again. The lock of the attributes is held for a look or for a
store and never while something is fetched.

## Main definitions

* `Blocking.Nic`: A client, a hardware address, a path and the number of a handle.
* `Blocking.whileLocked`: Something done under the lock of a listing.
* `Blocking.Nic.availableKeys`: The keys the interface exposes.
* `Blocking.Nic.value`, `Blocking.Nic.lines`: The value of a key, whole or as lines.
* `Blocking.interfaces`: The interfaces of the instance.
-/

namespace Imds

namespace Blocking

/-- A handle on one network interface. -/
structure Nic where
  /-- The client that fetches for it. -/
  client : Client
  /-- The hardware address. -/
  mac : String
  /-- Where its part of the tree is. -/
  path : String
  /-- What it keeps, by number. -/
  handle : Nat

/-- Lists something under the lock of a listing, which is given back however that ends. What
    was listed is kept. -/
def whileLocked (handle : Nat) (a : Direct (List String)) : Direct (List String) :=
  ExceptT.mk do
    let listed ← a.outcome
    Plan.leave handle listed.toOption
    pure listed

namespace Nic

/-- A handle on the interface of a hardware address. -/
def ofMac (client : Client) (mac : String) : Plan Nic := do
  let handle ← Plan.attach
  return ⟨client, mac, metadataRoot ++ "/network/interfaces/macs/" ++ mac ++ "/", handle⟩

/-- The keys the interface exposes, fetched on first use. -/
def availableKeys (n : Nic) : Direct (List String) := do
  if let some keys ← Plan.enter n.handle then
    return keys
  whileLocked n.handle do
    return (← fetchLines n.client n.path).getD []

/-- Whether the interface exposes a key. -/
def hasKey (n : Nic) (key : String) : Direct Bool := do
  return (← n.availableKeys).any (fun k => k == key)

/-- The value of a key, absent when the interface does not expose it. -/
def value (n : Nic) (key : String) : Direct (Option String) := do
  if let some value ← Plan.recollect n.handle key then
    return value
  if !(← n.hasKey key) then
    return none
  let value ← fetchDocument n.client (n.path ++ key)
  Plan.remember n.handle key value
  return value

/-- The lines of a key, none when the interface does not expose it. -/
def lines (n : Nic) (key : String) : Direct (List String) := do
  if !(← n.hasKey key) then
    return []
  return (← fetchLines n.client (n.path ++ key)).getD []

/-- A named value. -/
def scalar (n : Nic) : NicScalar → Direct (Option String)
  | .ownerId => n.value "owner-id"
  | .profile => n.value "profile"
  | .hostname => n.value "local-hostname"
  | .publicHostname => n.value "public-hostname"
  | .subnetIpv4CidrBlock => n.value "subnet-ipv4-cidr-block"
  | .subnetId => n.value "subnet-id"
  | .vpcIpv4CidrBlock => n.value "vpc-ipv4-cidr-block"
  | .vpcId => n.value "vpc-id"

/-- A named list. -/
def listing (n : Nic) : NicListing → Direct (List String)
  | .localIpv4s => n.lines "local-ipv4s"
  | .publicIpv4s => n.lines "public-ipv4s"
  | .securityGroups => n.lines "security-groups"
  | .securityGroupIds => n.lines "security-group-ids"

/-- The private addresses behind a public one. They are fetched without a look at the
    keys. -/
def associations (n : Nic) (address : String) : Direct (List String) := do
  return (← fetchLines n.client (n.path ++ "ipv4-associations/" ++ address)).getD []

end Nic

/-- The interfaces of the instance, in the order of the listing. -/
def interfaces (c : Client) : Direct (List Nic) := do
  let macs ← several c "network/interfaces/macs/"
  ((macs.map macOfLine).filter (fun mac => mac ≠ "")).mapM (fun mac => Nic.ofMac c mac)

end Blocking

end Imds
