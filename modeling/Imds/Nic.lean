import Imds.Catalog

/-!
# Network Interfaces

An interface is a handle on the part of the tree below one hardware address.
What it exposes differs from interface to interface, so a handle fetches the
listing of its keys once, on first use, and answers for every other key by
itself. Attributes that are single values are remembered, also when the service
turned out not to have a value.

The listing is fetched by one caller at a time. A caller that finds it missing
gets the right to fetch it and gives the right back afterwards, with the listing
if the fetch succeeded; a failed fetch leaves everything as it was, and the next
caller tries again. A listing that the service does not have is an empty one.

A remembered value is looked for first. It is answered without looking at the
switch, since nothing is fetched.

## Main definitions

* `Nic`: A client, a hardware address and the number of a record.
* `Nic.availableKeys`: The keys the interface exposes.
* `Nic.value`, `Nic.lines`: The value of a key, whole or as lines.
* `Nic.associations`: The private addresses behind a public one.
* `NicScalar`, `NicListing`: The keys that have names.
* `Client.interfaces`: The interfaces of the instance.
-/

namespace Imds

/-- A handle on one network interface. -/
structure Nic where
  /-- The client that fetches for it. -/
  client : Client
  /-- The hardware address. -/
  mac : String
  /-- What is known of it, by number. -/
  record : Nat

/-- The keys that hold a single value and have a name. -/
inductive NicScalar where
  | ownerId
  | profile
  | hostname
  | publicHostname
  | subnetIpv4CidrBlock
  | subnetId
  | vpcIpv4CidrBlock
  | vpcId
  deriving DecidableEq

/-- The key of a named value. -/
def NicScalar.key : NicScalar → String
  | ownerId => "owner-id"
  | profile => "profile"
  | hostname => "local-hostname"
  | publicHostname => "public-hostname"
  | subnetIpv4CidrBlock => "subnet-ipv4-cidr-block"
  | subnetId => "subnet-id"
  | vpcIpv4CidrBlock => "vpc-ipv4-cidr-block"
  | vpcId => "vpc-id"

/-- The keys that hold a list and have a name. -/
inductive NicListing where
  | localIpv4s
  | publicIpv4s
  | securityGroups
  | securityGroupIds
  deriving DecidableEq

/-- The key of a named list. -/
def NicListing.key : NicListing → String
  | localIpv4s => "local-ipv4s"
  | publicIpv4s => "public-ipv4s"
  | securityGroups => "security-groups"
  | securityGroupIds => "security-group-ids"

namespace Nic

/-- Where the part of the tree below a hardware address is. -/
def pathOf (mac : String) : String := metadataRoot ++ "/network/interfaces/macs/" ++ mac ++ "/"

/-- Where the part of the tree of an interface is. -/
def path (n : Nic) : String := pathOf n.mac

/-- Where the private addresses behind a public one are. -/
def associationPath (n : Nic) (address : String) : String :=
  n.path ++ "ipv4-associations/" ++ address

/-- A handle on the interface of a hardware address. -/
def ofMac (client : Client) (mac : String) : Plan Nic := do
  let record ← Plan.attach
  pure ⟨client, mac, record⟩

/-- The keys the interface exposes, fetched on first use. -/
def availableKeys (n : Nic) : Act (List String) := do
  match ← Plan.enter n.record with
  | some keys => pure keys
  | none =>
    match ← (n.client.fetchLines n.path).outcome.act with
    | .ok lines =>
      Plan.leave n.record (some (lines.getD []))
      pure (lines.getD [])
    | .error failure =>
      Plan.leave n.record none
      throw failure

/-- The value of a key, absent when the interface does not expose it. -/
def value (n : Nic) (key : String) : Act (Option String) := do
  match ← Plan.recollect n.record key with
  | some value => pure value
  | none =>
    let keys ← n.availableKeys
    if key ∈ keys then
      let value ← n.client.fetchDocument (n.path ++ key)
      Plan.remember n.record key value
      pure value
    else pure none

/-- The lines of a key, none when the interface does not expose it. -/
def lines (n : Nic) (key : String) : Act (List String) := do
  let keys ← n.availableKeys
  if key ∈ keys then
    let lines ← n.client.fetchLines (n.path ++ key)
    pure (lines.getD [])
  else pure []

/-- A named value. -/
def scalar (n : Nic) (v : NicScalar) : Act (Option String) := n.value v.key

/-- A named list. -/
def listing (n : Nic) (l : NicListing) : Act (List String) := n.lines l.key

/-- The private addresses behind a public one. They are fetched without a look
    at the keys. -/
def associations (n : Nic) (address : String) : Act (List String) := do
  let lines ← n.client.fetchLines (n.associationPath address)
  pure (lines.getD [])

end Nic

/-- The hardware address in a line of a listing: trimmed of blanks, then of
    slashes at the end. -/
def macOfLine (line : String) : String := Text.trimSlashes (Text.trimBlank line)

/-- The hardware addresses in the lines of a listing. -/
def macsOfLines (lines : List String) : List String :=
  (lines.map macOfLine).filter (fun mac => mac ≠ "")

/-- The interfaces of the instance, in the order of the listing. -/
def Client.interfaces (c : Client) : Act (List Nic) := do
  let lines ← c.listing .interfaceMacs
  (macsOfLines lines).mapM (fun mac => (Nic.ofMac c mac : Plan Nic))

end Imds
