import Imds.Json.Value

/-!
# Instance Identity Documents

The service describes the instance in a document. Reading it is forgiving where
reading the text is strict: a text that is not an object is no document, but
within an object every field is looked up by itself, and one that is missing or
has the wrong shape is absent and does not spoil the others. Of a list the texts
are kept and everything else is passed over.

The region can also be had by itself. `regionOf` asks for that one member of
whatever the text is and leaves the other fields alone.

## Main definitions

* `Document`: The fields of a document.
* `Document.ofJson?`, `Document.ofText?`: Reading.
* `regionOf`: The region alone.
* `Document.toText`: Writing.

## Theorems

* `textField_eq_some_iff`, `textsField_eq_some_iff`: When a field is present.
-/

namespace Imds

namespace Identity

/-- The fields of an instance identity document. -/
structure Document where
  pendingTime : Option String
  instanceType : Option String
  imageId : Option String
  instanceId : Option String
  billingProducts : Option (List String)
  architecture : Option String
  accountId : Option String
  kernelId : Option String
  ramdiskId : Option String
  region : Option String
  version : Option String
  availabilityZone : Option String
  privateIp : Option String
  devpayProductCodes : Option (List String)
  marketplaceProductCodes : Option (List String)
  deriving DecidableEq

/-- A member that is a text. -/
def textField (v : Json) (name : String) : Option String := (v.member? name).bind Json.text?

/-- The texts of a member that is a list. -/
def textsField (v : Json) (name : String) : Option (List String) :=
  ((v.member? name).bind Json.items?).map (fun items => items.filterMap Json.text?)

namespace Document

/-- The document that an object describes. -/
def ofJson? : Json → Option Document
  | .object members =>
    let v := Json.object members
    some {
      pendingTime := textField v "pendingTime"
      instanceType := textField v "instanceType"
      imageId := textField v "imageId"
      instanceId := textField v "instanceId"
      billingProducts := textsField v "billingProducts"
      architecture := textField v "architecture"
      accountId := textField v "accountId"
      kernelId := textField v "kernelId"
      ramdiskId := textField v "ramdiskId"
      region := textField v "region"
      version := textField v "version"
      availabilityZone := textField v "availabilityZone"
      privateIp := textField v "privateIp"
      devpayProductCodes := textsField v "devpayProductCodes"
      marketplaceProductCodes := textsField v "marketplaceProductCodes" }
  | _ => none

/-- The document that a text describes. -/
def ofText? (s : String) : Option Document := (Json.ofText? s).bind ofJson?

end Document

/-- The region that a text names, whatever else it holds. -/
def regionOf (s : String) : Option String := (Json.ofText? s).bind (fun v => textField v "region")

theorem textField_eq_some_iff {v : Json} {name t : String} :
    textField v name = some t ↔ v.member? name = some (.text t) := by
  simp only [textField, Option.bind_eq_some_iff]
  constructor
  · rintro ⟨w, hw, ht⟩
    cases w <;> simp_all [Json.text?]
  · exact fun h => ⟨_, h, rfl⟩

theorem textsField_eq_some_iff {v : Json} {name : String} {ts : List String} :
    textsField v name = some ts ↔
      ∃ items, v.member? name = some (.list items) ∧ ts = items.filterMap Json.text? := by
  simp only [textsField, Option.map_eq_some_iff, Option.bind_eq_some_iff]
  constructor
  · rintro ⟨items, ⟨w, hw, hitems⟩, rfl⟩
    cases w <;> simp_all [Json.items?]
  · rintro ⟨items, h, rfl⟩
    exact ⟨items, ⟨_, h, rfl⟩, rfl⟩

/-- A text as a value. -/
def writeText (s : String) : List Char := Json.Quoted.encode s.toList

/-- Pieces with commas between them. -/
def commaSeparated : List (List Char) → List Char
  | [] => []
  | [piece] => piece
  | piece :: next :: rest => piece ++ ',' :: commaSeparated (next :: rest)

/-- A list of texts as a value. -/
def writeTexts (ts : List String) : List Char := '[' :: (commaSeparated (ts.map writeText) ++ [']'])

/-- A field as a value, absent ones as `null`. -/
def writeField {α : Type} (write : α → List Char) : Option α → List Char
  | none => "null".toList
  | some a => write a

/-- A member of the document. -/
def writeMember (name : String) (value : List Char) : List Char := writeText name ++ ':' :: value

namespace Document

/-- The members of a document as they are written, in order. -/
def members (d : Document) : List (List Char) :=
  [writeMember "pendingTime" (writeField writeText d.pendingTime),
    writeMember "instanceType" (writeField writeText d.instanceType),
    writeMember "imageId" (writeField writeText d.imageId),
    writeMember "instanceId" (writeField writeText d.instanceId),
    writeMember "billingProducts" (writeField writeTexts d.billingProducts),
    writeMember "architecture" (writeField writeText d.architecture),
    writeMember "accountId" (writeField writeText d.accountId),
    writeMember "kernelId" (writeField writeText d.kernelId),
    writeMember "ramdiskId" (writeField writeText d.ramdiskId),
    writeMember "region" (writeField writeText d.region),
    writeMember "version" (writeField writeText d.version),
    writeMember "availabilityZone" (writeField writeText d.availabilityZone),
    writeMember "privateIp" (writeField writeText d.privateIp),
    writeMember "devpayProductCodes" (writeField writeTexts d.devpayProductCodes),
    writeMember "marketplaceProductCodes" (writeField writeTexts d.marketplaceProductCodes)]

/-- A document as a text: an object with all fields in order, no blanks between
    the tokens, and `null` for an absent field. -/
def toText (d : Document) : String :=
  String.ofList ('\x7b' :: (commaSeparated d.members ++ ['\x7d']))

end Document

end Identity

end Imds
