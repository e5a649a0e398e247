import Imds.Blocking.World
import Imds.Catalog

/-!
# Fetching on the Calling Thread

The operations of a client for a thread that waits for each of them. They use the
settings, the requests and the readings of answers that clients have anyway. What is
their own is the order of things: when the switch is looked at, when the cache is,
which request comes after which, under which path a value is found, and what is kept
in the end.

Channels and caches have the numbers that they have everywhere, so a thread and a
task can use one cache, and either can step in between two queries of the other.

## Main definitions

* `Blocking.passGate`, `Blocking.baseOf`: The switch and the base address.
* `Blocking.attempt`: One attempt to read a path.
* `Blocking.retry`: Attempts until one settles.
* `Blocking.fetchItems`, `Blocking.fetchLines`, `Blocking.fetchDocument`: Uncached
  readings.
* `Blocking.fetchValueWith`, `Blocking.fetchValue`: A single value, cached.
* `Blocking.scalar`, `Blocking.listing`: What the service knows, by name.
* `Blocking.blockDevices`: The mapping of block devices.
-/

namespace Imds

namespace Blocking

/-- Whether metadata is off now. -/
def isDisabled : Gate → Direct Bool
  | .environment => do
    let value ← Plan.setting Gate.disabledVariable
    Act.ofExcept (Gate.read value)
  | .flag => Plan.flag

/-- Fails when metadata is off, or when the switch cannot be read. -/
def passGate (g : Gate) : Direct Unit := do
  if ← isDisabled g then throw Failure.disabled

/-- The base address now. -/
def baseOf : Address → Direct String
  | .fixed base => pure base
  | .environment => do
    match Address.explicit (← Plan.setting Address.endpointVariable) with
    | some base => pure base
    | none =>
      let mode ← Plan.setting Address.modeVariable
      Act.ofExcept (Address.ofMode mode)
  | .provided name _ answer => do
    match answer (← Plan.setting name) with
    | .ok base => pure base
    | .error complaint => throw (Failure.configuration complaint)

/-- Asks for a session token through a channel. -/
def acquireToken (channel : Nat) (base : String) (lifetime : Nat) : Direct (Option String) := do
  let outcome ← Plan.send channel (.forToken base lifetime)
  Act.ofExcept (Client.ofTokenOutcome outcome)

/-- One attempt to read a path: a token of its own, then the read. -/
def attempt (c : Client) (base path : String) : Plan (Verdict (Option String)) := do
  match ← (acquireToken c.channel base c.settings.lifetime).outcome with
  | .error failure => pure (.fatal failure)
  | .ok token =>
    let outcome ← Plan.send c.channel (.forPath base path token)
    pure (Client.ofReadOutcome outcome)

/-- Attempts with a number of them left, until one settles, one fails for good, or none
    is left. The thread sleeps between two. -/
def retry {m : Type → Type} [Monad m] {α : Type} (b : Backoff) (sleep : Duration → m Unit)
    (attempt : m (Verdict α)) : Nat → ExceptT Failure m α
  | 0 => throw .unreachable
  | left + 1 => do
    match ← attempt with
    | .settled value => return value
    | .fatal failure => throw failure
    | .again cause =>
      if left = 0 then
        throw (.exhausted b.attempts cause)
      else
        sleep (b.pause (left + 1))
        retry b sleep attempt left

/-- The body of a path as items, with retries. -/
def fetchItems (c : Client) (path : String) (attempts : Nat) (whole : Bool) :
    Direct (Option (List String)) := do
  passGate c.settings.gate
  let base ← baseOf c.settings.address
  let backoff := { c.settings.backoff with attempts := attempts }
  let body ← retry backoff Plan.pause (attempt c base path) backoff.attempts
  return body.map (Client.items whole)

/-- A single value. The cache answers unless the fetch is forced; a value that was
    fetched is kept. -/
def fetchValueWith (c : Client) (path : String) (force : Bool) (attempts : Nat) :
    Direct (Option String) := do
  passGate c.settings.gate
  if !force then
    if let some value ← Plan.lookup c.settings.cache path then
      return some value
  let value := (← fetchItems c path attempts true).bind List.head?
  if let some text := value then
    Plan.store c.settings.cache path text
  return value

/-- A single value, with the usual number of attempts. -/
def fetchValue (c : Client) (path : String) : Direct (Option String) :=
  fetchValueWith c path false c.settings.backoff.attempts

/-- The lines of a path. -/
def fetchLines (c : Client) (path : String) : Direct (Option (List String)) :=
  fetchItems c path c.settings.backoff.attempts false

/-- The lines of a path, with a number of attempts. -/
def fetchLinesWith (c : Client) (path : String) (attempts : Nat) :
    Direct (Option (List String)) :=
  fetchItems c path attempts false

/-- A whole document, uncached. -/
def fetchDocument (c : Client) (path : String) : Direct (Option String) := do
  return (← fetchItems c path c.settings.backoff.attempts true).bind List.head?

/-- Closes the channel of a client and of its clones. -/
def close (c : Client) : Plan Unit := Plan.shut c.channel

/-- Forgets every cached value. -/
def clearCache (c : Client) : Plan Unit := Plan.clear c.settings.cache

/-- A single value below the root of the metadata. -/
def single (c : Client) (key : String) : Direct (Option String) :=
  fetchValue c (metadataRoot ++ "/" ++ key)

/-- A listing below the root of the metadata, empty when the service has none. -/
def several (c : Client) (key : String) : Direct (List String) := do
  return (← fetchLines c (metadataRoot ++ "/" ++ key)).getD []

/-- A single value. -/
def scalar (c : Client) : Scalar → Direct (Option String)
  | .amiId => single c "ami-id"
  | .amiLaunchIndex => single c "ami-launch-index"
  | .amiManifestPath => single c "ami-manifest-path"
  | .instanceAction => single c "instance-action"
  | .instanceId => single c "instance-id"
  | .instanceType => single c "instance-type"
  | .localHostname => single c "local-hostname"
  | .macAddress => single c "mac"
  | .privateIpAddress => single c "local-ipv4"
  | .availabilityZone => single c "placement/availability-zone"
  | .publicKey => single c "public-keys/0/openssh-key"
  | .ramdiskId => single c "ramdisk-id"
  | .reservationId => single c "reservation-id"
  | .instanceSignature => fetchValue c (dynamicRoot ++ "instance-identity/signature")

/-- A listing. -/
def listing (c : Client) : Listing → Direct (List String)
  | .ancestorAmiIds => several c "ancestor-ami-ids"
  | .productCodes => several c "product-codes"
  | .securityGroups => several c "security-groups"
  | .blockDeviceNames => several c "block-device-mapping"
  | .interfaceMacs => several c "network/interfaces/macs/"

/-- The identity document as it is. -/
def identityDocument (c : Client) : Direct (Option String) :=
  fetchDocument c (dynamicRoot ++ "instance-identity/document")

/-- The region of the instance, absent when the document does not name it. -/
def region (c : Client) : Direct (Option String) := do
  return (← identityDocument c).bind Identity.regionOf

/-- The fields of the identity document. -/
def description (c : Client) : Direct (Option Identity.Document) := do
  return (← identityDocument c).bind Identity.Document.ofText?

/-- The data that was supplied when the instance was launched. -/
def userData (c : Client) : Direct (Option String) := fetchDocument c userDataPath

/-- The devices in the lines of a listing, added to a mapping one after the other. -/
def addDevices (c : Client) (mapping : Table String String) :
    List String → Direct (Table String String)
  | [] => pure mapping
  | line :: lines => do
    let device := Text.trimBlank line
    if device = "" then
      addDevices c mapping lines
    else
      match ← fetchDocument c (metadataRoot ++ "/block-device-mapping/" ++ device) with
      | some value => addDevices c (mapping.insert device value) lines
      | none => addDevices c mapping lines

/-- The mapping of block devices. -/
def blockDevices (c : Client) : Direct (Table String String) := do
  addDevices c Table.empty (← several c "block-device-mapping")

end Blocking

end Imds
