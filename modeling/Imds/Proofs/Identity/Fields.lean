import Imds.Proofs.Blocking.Agreement
import Imds.Proofs.Identity.Written

/-!
# Documents Are Read Field by Field

What a text says about the instance is found field by field. A field looks at one name and,
of the members of this name, at the last one. It does not matter to it what the other members
are, how often its own name comes before, or in which order all of them stand.

Fifteen fields are spelled out where an object is read. Here they are one list of shapes
beside the names of the rule, and a field is what its shape makes of the object. Whatever
holds of the two shapes then holds of all fields.

The region is had in two ways, by itself and as a field of the whole. The two part ways on a
text that is a value but not an object. There is no document then, and the region that is
asked for by itself is not there either, since only objects have members. So both operations
of a client are one reading of one document.

## Main definitions

* `Json.IsLast`: The last member of a name.
* `Shape`, `Shape.read`: How a field is read.
* `Field.Tells`: A field holds what the last member of its name says.

## Theorems

* `lastMember_eq_some_iff`: What is found under a name is its last member.
* `entries_ofJson?`: The fields of an object, by name and shape.
* `lookup_entries`: A field depends on the last member of its name and on nothing else.
* `regionOf_eq`: The region by itself is that of the document.
* `documents_are_read_field_by_field`: All of it, for texts and for clients.
-/

namespace Imds

namespace Json

/-- A value is that of the last member of a name. -/
def IsLast (name : String) (v : Json) (members : List (String × Json)) : Prop :=
  ∃ before after, members = before ++ (name, v) :: after ∧ ∀ m ∈ after, m.1 ≠ name

/-- What is found under a name is its last member. -/
theorem lastMember_eq_some_iff {name : String} {v : Json} {members : List (String × Json)} :
    lastMember name members = some v ↔ IsLast name v members := by
  constructor
  · intro h
    induction members with
    | nil => cases h
    | cons m members ih =>
        -- If a later member has the name it counts, and else this one has it.
        cases hrest : lastMember name members with
        | some w =>
            rw [lastMember, hrest, Option.some_or] at h
            rcases ih (hrest.trans h) with ⟨before, after, rfl, hafter⟩
            exact ⟨m :: before, after, rfl, hafter⟩
        | none =>
            rw [lastMember, hrest, Option.none_or] at h
            split at h
            · next hname =>
              cases h
              refine ⟨[], members, by rw [← hname]; rfl, fun m' hm hname' => ?_⟩
              -- A later member of this name would have been found.
              rcases List.append_of_mem hm with ⟨before, after, rfl⟩
              rw [lastMember_append, lastMember, if_pos hname'] at hrest
              cases hafter : lastMember name after <;> rw [hafter] at hrest <;> cases hrest
            · cases h
  · rintro ⟨before, after, rfl, hafter⟩
    rw [lastMember_append, lastMember, lastMember_eq_none hafter, Option.none_or, if_pos rfl,
      Option.some_or]

theorem lastMember_congr {name : String} {ms ns : List (String × Json)}
    (h : ∀ v, IsLast name v ms ↔ IsLast name v ns) : lastMember name ms = lastMember name ns := by
  refine Option.ext (fun v => ?_)
  rw [lastMember_eq_some_iff, lastMember_eq_some_iff, h v]

end Json

namespace Identity

/-- How a field is read. -/
inductive Shape where
  /-- As a text. -/
  | text
  /-- As a list of texts. -/
  | texts

/-- What a value holds under a name, read as a field of a shape. -/
def Shape.read (v : Json) (name : String) : Shape → Field
  | text => .text (textField v name)
  | texts => .texts (textsField v name)

/-- A field holds what the last member of its name says. It is there if this member has the
    right shape, and of a list the texts are there, in order. -/
def Field.Tells (name : String) (members : List (String × Json)) : Field → Prop
  | text value => ∀ t, value = some t ↔ Json.IsLast name (.text t) members
  | texts value => ∀ ts, value = some ts ↔
      ∃ items, Json.IsLast name (.list items) members ∧ ts = items.filterMap Json.text?

theorem tells_read (name : String) (members : List (String × Json)) (shape : Shape) :
    (shape.read (.object members) name).Tells name members := by
  cases shape with
  | text =>
      intro t
      rw [textField_eq_some_iff, Json.member?, Json.lastMember_eq_some_iff]
  | texts =>
      intro ts
      simp only [textsField_eq_some_iff, Json.member?, Json.lastMember_eq_some_iff]

theorem read_congr {name : String} {ms ns : List (String × Json)}
    (h : ∀ v, Json.IsLast name v ms ↔ Json.IsLast name v ns) (shape : Shape) :
    shape.read (.object ms) name = shape.read (.object ns) name := by
  have hmember : (Json.object ms).member? name = (Json.object ns).member? name :=
    Json.lastMember_congr h
  cases shape with
  | text => rw [Shape.read, Shape.read, textField, textField, hmember]
  | texts => rw [Shape.read, Shape.read, textsField, textsField, hmember]

namespace Document

/-- The shapes of the fields, in the order in which they are written. -/
def shapes : List Shape :=
  [.text, .text, .text, .text, .texts, .text, .text, .text, .text, .text, .text, .text, .text,
    .texts, .texts]

/-- The fields that an object has, by name and shape. -/
theorem entries_ofJson? {members : List (String × Json)} {d : Document}
    (h : ofJson? (.object members) = some d) :
    d.entries = ((fieldNames.map camelCase).zip shapes).map
      (fun f => (f.1, f.2.read (.object members) f.1)) := by
  cases h
  rw [entries, camelCase_fieldNames]
  rfl

theorem ofText?_eq_some_iff {s : String} {d : Document} :
    ofText? s = some d ↔
      ∃ members, Json.ofText? s = some (.object members) ∧ ofJson? (.object members) = some d := by
  rw [ofText?, Option.bind_eq_some_iff]
  constructor
  · rintro ⟨v, hv, hd⟩
    cases v with
    | object members => exact ⟨members, hv, hd⟩
    | _ => cases hd
  · rintro ⟨members, hv, hd⟩
    exact ⟨.object members, hv, hd⟩

/-- There is a document exactly if the text is an object, whatever the members are. -/
theorem exists_ofText?_iff {s : String} :
    (∃ d, ofText? s = some d) ↔ ∃ members, Json.ofText? s = some (.object members) := by
  constructor
  · rintro ⟨d, hd⟩
    rcases ofText?_eq_some_iff.1 hd with ⟨members, hv, -⟩
    exact ⟨members, hv⟩
  · rintro ⟨members, hv⟩
    exact ⟨_, ofText?_eq_some_iff.2 ⟨members, hv, rfl⟩⟩

variable {s s' : String} {d d' : Document} {members members' : List (String × Json)}

theorem entries_ofText? (hd : ofText? s = some d) (hv : Json.ofText? s = some (.object members)) :
    d.entries = ((fieldNames.map camelCase).zip shapes).map
      (fun f => (f.1, f.2.read (.object members) f.1)) := by
  rw [ofText?, hv, Option.bind_some] at hd
  exact entries_ofJson? hd

theorem tells_of_mem_entries (hd : ofText? s = some d)
    (hv : Json.ofText? s = some (.object members)) {e : String × Field} (he : e ∈ d.entries) :
    e.2.Tells e.1 members := by
  rw [entries_ofText? hd hv] at he
  rcases List.mem_map.1 he with ⟨f, -, rfl⟩
  exact tells_read f.1 members f.2

/-- A field depends on the last member of its name and on nothing else. -/
theorem lookup_entries (hd : ofText? s = some d) (hd' : ofText? s' = some d')
    (hv : Json.ofText? s = some (.object members))
    (hv' : Json.ofText? s' = some (.object members')) {name : String}
    (h : ∀ v, Json.IsLast name v members ↔ Json.IsLast name v members') :
    d.entries.lookup name = d'.entries.lookup name := by
  rw [entries_ofText? hd hv, entries_ofText? hd' hv']
  -- Up to the name the lists are passed over side by side.
  induction (fieldNames.map camelCase).zip shapes with
  | nil => rfl
  | cons f fs ih =>
      rw [List.map_cons, List.map_cons, List.lookup_cons, List.lookup_cons, ih]
      by_cases hname : name = f.1
      · subst hname
        rw [read_congr h f.2]
      · rw [beq_eq_false_iff_ne.2 hname]

end Document

/-- The region by itself is that of the document. A value that is no object has no members,
    so that there is neither. -/
theorem regionOf_eq (s : String) : regionOf s = (Document.ofText? s).bind Document.region := by
  rw [regionOf, Document.ofText?, Option.bind_assoc]
  cases Json.ofText? s with
  | none => rfl
  | some v => cases v <;> rfl

-- The same of a text that may be missing.
theorem bind_regionOf (body : Option String) :
    body.bind regionOf = (body.bind Document.ofText?).bind Document.region := by
  rw [Option.bind_assoc]
  exact Option.bind_congr (fun s _ => regionOf_eq s)

end Identity

/-! ### Clients -/

open Identity (Document)

/-- To ask for the region is to ask for the description and to look at its region. -/
theorem Client.region_eq (c : Client) :
    c.region = (fun d => d.bind Document.region) <$> c.description := by
  simp only [Client.region, Client.description, map_bind, map_pure, Identity.bind_regionOf]

theorem Blocking.region_eq (c : Client) :
    Blocking.region c = (fun d => d.bind Document.region) <$> Blocking.description c := by
  simp only [Blocking.region, Blocking.description, map_bind, map_pure, Identity.bind_regionOf]

-- What is asked for decides what is made of the document, and nothing else.
theorem among_region_of_document {c c' : Client} {w w' : Surroundings} {d d' : List Said}
    (h : (c.identityDocument.among w d).1 = (c'.identityDocument.among w' d').1) :
    (c.region.among w d).1 = (c'.description.among w' d').1.map
      (fun read => read.bind Document.region) := by
  have hregion : (c.region.among w d).1 =
      (c.identityDocument.among w d).1.map (fun body => body.bind Identity.regionOf) :=
    congrArg Prod.fst (Act.among_map w c.identityDocument _ d)
  have hdescription : (c'.description.among w' d').1 =
      (c'.identityDocument.among w' d').1.map (fun body => body.bind Document.ofText?) :=
    congrArg Prod.fst (Act.among_map w' c'.identityDocument _ d')
  rw [hregion, hdescription, h]
  cases (c'.identityDocument.among w' d').1 with
  | error failure => rfl
  | ok body => exact congrArg Except.ok (Identity.bind_regionOf body)

theorem Blocking.run_region_of_document {c c' : Client} {w w' : Blocking.World}
    (h : ((Blocking.identityDocument c).run w).1 = ((Blocking.identityDocument c').run w').1) :
    ((Blocking.region c).run w).1 = ((Blocking.description c').run w').1.map
      (fun read => read.bind Document.region) := by
  have hregion : ((Blocking.region c).run w).1 =
      ((Blocking.identityDocument c).run w).1.map (fun body => body.bind Identity.regionOf) := by
    rw [Blocking.region, ← map_eq_pure_bind, blocking_run_map]
  have hdescription : ((Blocking.description c').run w').1 =
      ((Blocking.identityDocument c').run w').1.map (fun body => body.bind Document.ofText?) := by
    rw [Blocking.description, ← map_eq_pure_bind, blocking_run_map]
  rw [hregion, hdescription, h]
  cases ((Blocking.identityDocument c').run w').1 with
  | error failure => rfl
  | ok body => exact congrArg Except.ok (Identity.bind_regionOf body)

/-- A text is a document exactly if it is one object, whatever its members are. A field of the
    document, under its name, holds what the last member of this name says: a text if that is a
    text, and of a list its texts in order. Two documents whose last members of a name are alike
    have the same there. The region that is read by itself is that of the document, for every
    text.

    So a client that asks for the region asks what it asks for the description, and as long as
    the identity document is the same the two do not disagree, whoever answers in between, in a
    task as well as on a thread. -/
theorem documents_are_read_field_by_field :
    (∀ s, (∃ d, Document.ofText? s = some d) ↔
      ∃ members, Json.ofText? s = some (.object members)) ∧
    (∀ s d members, Document.ofText? s = some d → Json.ofText? s = some (.object members) →
      ∀ e ∈ d.entries, e.2.Tells e.1 members) ∧
    (∀ s s' d d' members members', Document.ofText? s = some d → Document.ofText? s' = some d' →
      Json.ofText? s = some (.object members) → Json.ofText? s' = some (.object members') →
      ∀ name, (∀ v, Json.IsLast name v members ↔ Json.IsLast name v members') →
        d.entries.lookup name = d'.entries.lookup name) ∧
    (∀ s, Identity.regionOf s = (Document.ofText? s).bind Document.region) ∧
    (∀ c : Client, c.region = (fun d => d.bind Document.region) <$> c.description) ∧
    (∀ c : Client, Blocking.region c =
      (fun d => d.bind Document.region) <$> Blocking.description c) ∧
    (∀ (c c' : Client) (w w' : Surroundings) (d d' : List Said),
      (c.identityDocument.among w d).1 = (c'.identityDocument.among w' d').1 →
      (c.region.among w d).1 = (c'.description.among w' d').1.map
        (fun read => read.bind Document.region)) ∧
    ∀ (c c' : Client) (w w' : Blocking.World),
      ((Blocking.identityDocument c).run w).1 = ((Blocking.identityDocument c').run w').1 →
      ((Blocking.region c).run w).1 = ((Blocking.description c').run w').1.map
        (fun read => read.bind Document.region) :=
  ⟨fun _ => Document.exists_ofText?_iff, fun _ _ _ hd hv _ => Document.tells_of_mem_entries hd hv,
    fun _ _ _ _ _ _ hd hd' hv hv' _ => Document.lookup_entries hd hd' hv hv',
    Identity.regionOf_eq, Client.region_eq, Blocking.region_eq,
    fun _ _ _ _ _ _ => among_region_of_document,
    fun _ _ _ _ => Blocking.run_region_of_document⟩

-- The last member of a name counts, also if it has the wrong shape and one before it has not.
example :
    (Document.ofJson? (.object [("region", .text "a"), ("region", .list [.text "b"]),
      ("billingProducts", .list [.text "x", .null, .text "y"])])).map
        (fun d => (d.region, d.billingProducts)) = some (none, some ["x", "y"]) := by
  decide

end Imds
