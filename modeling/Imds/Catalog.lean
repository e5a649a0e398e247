import Imds.Client
import Imds.Identity
import Imds.Table

/-!
# What the Service Knows

The metadata tree by name. Most of it is single values, each under a path of its
own, which do not change while the instance lives and are therefore cached. A
few are listings; a listing that the service does not have is empty. The
identity document and the user data are documents and are fetched afresh each
time, and so are the region and the description of the instance, which are read
from the identity document.

The mapping of block devices takes several fetches: a listing of names, and a
document for each name. Names are trimmed and blank lines are passed over. A
device without a value is left out, and a name that comes twice ends up with the
last value that was found for it. The first failure ends the whole mapping.

## Main definitions

* `Scalar`, `Scalar.path`: The single values.
* `Listing`, `Listing.path`: The listings.
* `Client.scalar`, `Client.listing`: Fetching them.
* `Client.identityDocument`, `Client.region`, `Client.description`,
  `Client.userData`: Documents and what is read from them.
* `Client.blockDevices`: The mapping of block devices.
-/

namespace Imds

/-- The root of the metadata of the instance. -/
def metadataRoot : String := "/latest/meta-data"

/-- The root of data that the service computes. -/
def dynamicRoot : String := "/latest/dynamic/"

/-- Where the user data is. -/
def userDataPath : String := "/latest/user-data/"

/-- The single values. -/
inductive Scalar where
  | amiId
  | amiLaunchIndex
  | amiManifestPath
  | instanceAction
  | instanceId
  | instanceType
  | localHostname
  | macAddress
  | privateIpAddress
  | availabilityZone
  | publicKey
  | ramdiskId
  | reservationId
  | instanceSignature
  deriving DecidableEq

/-- Where a single value is. -/
def Scalar.path : Scalar → String
  | amiId => metadataRoot ++ "/ami-id"
  | amiLaunchIndex => metadataRoot ++ "/ami-launch-index"
  | amiManifestPath => metadataRoot ++ "/ami-manifest-path"
  | instanceAction => metadataRoot ++ "/instance-action"
  | instanceId => metadataRoot ++ "/instance-id"
  | instanceType => metadataRoot ++ "/instance-type"
  | localHostname => metadataRoot ++ "/local-hostname"
  | macAddress => metadataRoot ++ "/mac"
  | privateIpAddress => metadataRoot ++ "/local-ipv4"
  | availabilityZone => metadataRoot ++ "/placement/availability-zone"
  | publicKey => metadataRoot ++ "/public-keys/0/openssh-key"
  | ramdiskId => metadataRoot ++ "/ramdisk-id"
  | reservationId => metadataRoot ++ "/reservation-id"
  | instanceSignature => dynamicRoot ++ "instance-identity/signature"

/-- The listings. -/
inductive Listing where
  | ancestorAmiIds
  | productCodes
  | securityGroups
  | blockDeviceNames
  | interfaceMacs
  deriving DecidableEq

/-- Where a listing is. -/
def Listing.path : Listing → String
  | ancestorAmiIds => metadataRoot ++ "/ancestor-ami-ids"
  | productCodes => metadataRoot ++ "/product-codes"
  | securityGroups => metadataRoot ++ "/security-groups"
  | blockDeviceNames => metadataRoot ++ "/block-device-mapping"
  | interfaceMacs => metadataRoot ++ "/network/interfaces/macs/"

/-- Where the identity document is. -/
def identityPath : String := dynamicRoot ++ "instance-identity/document"

/-- Where the value of a block device is. -/
def devicePath (device : String) : String := metadataRoot ++ "/block-device-mapping/" ++ device

/-- The names in the lines of a listing: trimmed, without those that are
    blank. -/
def deviceNames (lines : List String) : List String :=
  (lines.map Text.trimBlank).filter (fun name => name ≠ "")

namespace Client

/-- A single value. -/
def scalar (c : Client) (v : Scalar) : Act (Option String) := c.fetchValue v.path

/-- A listing, empty when the service has none. -/
def listing (c : Client) (l : Listing) : Act (List String) := do
  let lines ← c.fetchLines l.path
  pure (lines.getD [])

/-- The identity document as it is. -/
def identityDocument (c : Client) : Act (Option String) := c.fetchDocument identityPath

/-- The region of the instance, absent when the document does not name it. -/
def region (c : Client) : Act (Option String) := do
  let document ← c.identityDocument
  pure (document.bind Identity.regionOf)

/-- The fields of the identity document. -/
def description (c : Client) : Act (Option Identity.Document) := do
  let document ← c.identityDocument
  pure (document.bind Identity.Document.ofText?)

/-- The data that was supplied when the instance was launched. -/
def userData (c : Client) : Act (Option String) := c.fetchDocument userDataPath

/-- A mapping with one more device, if the device has a value. -/
def addDevice (c : Client) (mapping : Table String String) (device : String) :
    Act (Table String String) := do
  match ← c.fetchDocument (devicePath device) with
  | some value => pure (mapping.insert device value)
  | none => pure mapping

/-- The mapping of block devices. -/
def blockDevices (c : Client) : Act (Table String String) := do
  let lines ← c.listing .blockDeviceNames
  (deviceNames lines).foldlM c.addDevice Table.empty

end Client

end Imds
