import Imds.Identity
import Mathlib.Data.List.Forall2

/-!
# Written Documents Read Back

A document that is written and read again is the document that it was, whatever texts
are in it. Writing and reading agree on it in three layers. A character is written in one
of three ways, a short escape, a number, or itself, and each is read as that character.
Items stand in a row with commas between them, and the row is read item by item. The
members of a document have names of their own, so each field finds its member and no
other.

Nothing that is written stands alone: after a closing quotation mark comes a comma, and
after the last member a brace. So every lemma speaks of a text that somebody else goes on
with. `Reader.Reads` says it for a reader, and it has the blanks in it that are skipped
before an item, so that the lemmas on rows and members need not ask how an item begins.

The names under which fields are written follow a rule, and reading spells them out.
`entries` goes by the rule, and it is compared with the spelling once, on the list of all
names.

## Main definitions

* `Reader.Reads`: A reader takes a value off whatever begins with a text.
* `camelCase`: The rule for names.
* `Document.entries`: The fields of a document under the names of the rule.
* `Document.jsonMembers`: The object that a document is written as.

## Theorems

* `readChar_encodeChar`, `read_encode`: A character and a text read back.
* `separated_of_reads`, `readItems_of_reads`, `readMembers_of_reads`: A row reads back.
* `reads_text`, `reads_texts`, `reads_member`: Values and members read back.
* `lastMember_of_mem`: A name that comes once finds its member.
* `ofText?_toText`: A document reads back.
* `written_documents_read_back`: That, with the object that is in the text.
-/

namespace Imds

namespace Json

/-! ### Quoted texts -/

namespace Quoted

theorem hexValue_hexDigit : ∀ n, n < 16 → hexValue (hexDigit n) = some n := by decide

-- The number of a character below the space takes two digits.
theorem readUnit_byte {n : Nat} (h : n < 0x20) (rest : List Char) :
    readUnit ('0' :: '0' :: hexDigit (n / 16) :: hexDigit (n % 16) :: rest) = some (n, rest) := by
  have hhigh := hexValue_hexDigit (n / 16) (by omega)
  have hlow := hexValue_hexDigit (n % 16) (by omega)
  have hzero : hexValue '0' = some 0 := rfl
  simp only [readUnit, hzero, hhigh, hlow, Option.bind_eq_bind, Option.bind_some]
  congr 2
  omega

theorem readNumbered_byte {n : Nat} (h : n < 0x20) (rest : List Char) :
    readNumbered ('0' :: '0' :: hexDigit (n / 16) :: hexDigit (n % 16) :: rest) =
      some (Char.ofNat n, rest) := by
  -- It is not half of a pair.
  have hlow : isLow n = false := by
    simp only [isLow, Bool.and_eq_false_imp, decide_eq_true_eq]
    omega
  have hhigh : isHigh n = false := by
    simp only [isHigh, Bool.and_eq_false_imp, decide_eq_true_eq]
    omega
  simp only [readNumbered, readUnit_byte h, Option.bind_eq_bind, Option.bind_some, hlow, hhigh,
    Bool.false_eq_true, if_false]

/-- A character that was written is read, and no more than that. -/
theorem readChar_encodeChar (c : Char) (rest : List Char) :
    readChar (encodeChar c ++ rest) = some (c, rest) := by
  unfold encodeChar
  -- The escapes that have a letter of their own.
  by_cases hquote : c = '"'
  · subst hquote
    rfl
  by_cases hslash : c = '\\'
  · subst hslash
    rfl
  by_cases hback : c = '\x08'
  · subst hback
    rfl
  by_cases hfeed : c = '\x0c'
  · subst hfeed
    rfl
  by_cases hline : c = '\n'
  · subst hline
    rfl
  by_cases hreturn : c = '\r'
  · subst hreturn
    rfl
  by_cases htab : c = '\t'
  · subst htab
    rfl
  rw [if_neg hquote, if_neg hslash, if_neg hback, if_neg hfeed, if_neg hline, if_neg hreturn,
    if_neg htab]
  by_cases hlow : c.val < 0x20
  · rw [if_pos hlow]
    have hnat : c.toNat < 0x20 := hlow
    change readNumbered _ = some (c, rest)
    exact (readNumbered_byte hnat rest).trans (by rw [Char.ofNat_toNat])
  · rw [if_neg hlow]
    change readChar (c :: rest) = some (c, rest)
    simp only [readChar, if_neg hquote, if_neg hslash, if_neg hlow]

theorem readBody_of_char {before s r : List Char} {c : Char} (h : readChar s = some (c, r)) :
    readBody before s = readBody (c :: before) r := by
  rw [readBody]
  split
  · next c' r' h' =>
    rw [h] at h'
    cases h'
    rfl
  · next h' =>
    rw [h] at h'
    cases h'

theorem readBody_closing (before rest : List Char) :
    readBody before ('"' :: rest) = some (before.reverse, rest) := by
  rw [readBody]
  rfl

-- On the text, with the characters that were read before it.
theorem readBody_encoded (cs before rest : List Char) :
    readBody before (cs.flatMap encodeChar ++ '"' :: rest) = some (before.reverse ++ cs, rest) := by
  induction cs generalizing before with
  | nil =>
      rw [List.append_nil]
      exact readBody_closing before rest
  | cons c cs ih =>
      rw [List.flatMap_cons, List.append_assoc, readBody_of_char (readChar_encodeChar c _), ih,
        List.reverse_cons, List.append_assoc]
      rfl

/-- A text that was written is read, and no more than that. -/
theorem read_encode (cs rest : List Char) :
    read (encode cs ++ rest) = some (String.ofList cs, rest) := by
  change (readBody [] ((cs.flatMap encodeChar ++ ['"']) ++ rest)).map _ = _
  rw [List.append_assoc]
  change (readBody [] (cs.flatMap encodeChar ++ '"' :: rest)).map _ = _
  rw [readBody_encoded]
  rfl

-- Escapes with a letter, escapes by number, and characters that stand for themselves.
example : encode "a\"\\\n\x01\x7f😀".toList = "\"a\\\"\\\\\\n\\u0001\x7f😀\"".toList := by
  decide

end Quoted


/-! ### Rows of items -/

/-- A reader takes a value off every text that begins with this one, also if blanks are skipped
    first. -/
def Reader.Reads {α : Type} (p : Reader α) (written : List Char) (a : α) : Prop :=
  ∀ rest, p.run (skipBlank (written ++ rest)) = some (a, rest)

theorem skipBlank_cons {c : Char} (h : isBlank c = false) (s : List Char) :
    skipBlank (c :: s) = c :: s := by
  rw [skipBlank, List.dropWhile_cons_of_neg]
  rw [h]
  exact Bool.false_ne_true

namespace Reader

variable {α : Type} {p : Reader α} {closing : Char}

-- An item and the mark after it.
theorem separated_of_run {before : List α} {s r rest : List Char} {a : α} {c : Char}
    (h : p.run (skipBlank s) = some (a, r)) (hr : skipBlank r = c :: rest) :
    p.separated closing before s =
      if c = ',' then p.separated closing (a :: before) rest
      else if c = closing then some ((a :: before).reverse, rest) else none := by
  rw [separated]
  split
  · next h' =>
    rw [h] at h'
    cases h'
  · next a' r' h' =>
    rw [h] at h'
    cases h'
    split
    · next hnil =>
      rw [hr] at hnil
      cases hnil
    · next c' rest' hcons =>
      rw [hr] at hcons
      cases hcons
      rfl

/-- Items that are read are read in a row, up to the mark that closes it. -/
theorem separated_of_reads (hblank : isBlank closing = false) (hcomma : closing ≠ ',')
    {written : List (List Char)} {items : List α} (h : List.Forall₂ p.Reads written items)
    (hsome : written ≠ []) (before : List α) (rest : List Char) :
    p.separated closing before (Identity.commaSeparated written ++ closing :: rest) =
      some (before.reverse ++ items, rest) := by
  -- On the row. The last item is followed by the closing mark and every other one by a comma.
  induction h generalizing before with
  | nil => exact absurd rfl hsome
  | @cons piece a pieces as hpiece hpieces ih =>
      cases hpieces with
      | nil =>
          change p.separated closing before (piece ++ closing :: rest) = _
          rw [separated_of_run (hpiece _) (skipBlank_cons hblank rest), if_neg hcomma, if_pos rfl,
            List.reverse_cons]
      | @cons next b pieces bs hnext hmore =>
          change p.separated closing before
            ((piece ++ ',' :: Identity.commaSeparated (next :: pieces)) ++ closing :: rest) = _
          rw [List.append_assoc, List.cons_append,
            separated_of_run (hpiece _) (skipBlank_cons rfl _), if_pos rfl,
            ih (List.cons_ne_nil _ _), List.reverse_cons, List.append_assoc]
          rfl

end Reader

-- A row of items that begin with a quotation mark does so itself, so it is not taken for an empty
-- one.
theorem head_commaSeparated {written : List (List Char)} (hsome : written ≠ [])
    (hquoted : ∀ piece ∈ written, ∃ s, piece = '"' :: s) :
    ∃ s, Identity.commaSeparated written = '"' :: s := by
  cases written with
  | nil => exact absurd rfl hsome
  | cons piece pieces =>
      rcases hquoted piece List.mem_cons_self with ⟨s, rfl⟩
      cases pieces with
      | nil => exact ⟨s, rfl⟩
      | cons next pieces => exact ⟨s ++ ',' :: Identity.commaSeparated (next :: pieces), rfl⟩

section

variable {value : Reader Json} {written : List (List Char)}
  (hquoted : ∀ piece ∈ written, ∃ s, piece = '"' :: s)

include hquoted

theorem readItems_of_reads {items : List Json} (h : List.Forall₂ value.Reads written items)
    (rest : List Char) :
    readItems value (Identity.commaSeparated written ++ ']' :: rest) = some (items, rest) := by
  by_cases hsome : written = []
  · subst hsome
    cases h
    rfl
  · have hrow := Reader.separated_of_reads (rfl : isBlank ']' = false) (by decide) h hsome []
      rest
    rcases head_commaSeparated hsome hquoted with ⟨s, hs⟩
    rw [hs] at hrow ⊢
    exact hrow

theorem readMembers_of_reads {members : List (String × Json)}
    (h : List.Forall₂ (memberReader value).Reads written members) (rest : List Char) :
    readMembers value (Identity.commaSeparated written ++ '\x7d' :: rest) =
      some (members, rest) := by
  by_cases hsome : written = []
  · subst hsome
    cases h
    rfl
  · have hrow := Reader.separated_of_reads (rfl : isBlank '\x7d' = false) (by decide) h hsome []
      rest
    rcases head_commaSeparated hsome hquoted with ⟨s, hs⟩
    rw [hs] at hrow ⊢
    exact hrow

end

/-! ### Values -/

theorem reader_run_quote (depth : Nat) (s : List Char) :
    (reader depth).run ('"' :: s) = (Quoted.read ('"' :: s)).map (fun x => (text x.1, x.2)) := by
  cases depth with
  | zero => rfl
  | succ depth => rfl

theorem reads_null (depth : Nat) : (reader depth).Reads "null".toList null := by
  intro rest
  cases depth with
  | zero => rfl
  | succ depth => rfl

theorem reads_text (depth : Nat) (t : String) :
    (reader depth).Reads (Identity.writeText t) (text t) := by
  intro rest
  have hread := Quoted.read_encode t.toList rest
  change (reader depth).run ('"' :: _) = _
  rw [reader_run_quote]
  change (Quoted.read (Quoted.encode t.toList ++ rest)).map _ = _
  rw [hread, String.ofList_toList]
  rfl

theorem reads_texts (depth : Nat) (ts : List String) :
    (reader (depth + 1)).Reads (Identity.writeTexts ts) (list (ts.map text)) := by
  intro rest
  have hitems : List.Forall₂ (reader depth).Reads (ts.map Identity.writeText) (ts.map text) := by
    induction ts with
    | nil => exact .nil
    | cons t ts ih => exact .cons (reads_text depth t) ih
  have hquoted : ∀ piece ∈ ts.map Identity.writeText, ∃ s, piece = '"' :: s := by
    intro piece hpiece
    rcases List.mem_map.1 hpiece with ⟨t, -, rfl⟩
    exact ⟨_, rfl⟩
  have hread := readItems_of_reads hquoted hitems rest
  change readWithin (some (reader depth))
    ('[' :: ((Identity.commaSeparated _ ++ [']']) ++ rest)) = _
  rw [List.append_assoc]
  simp only [readWithin]
  change ((readItems (reader depth) (Identity.commaSeparated _ ++ ']' :: rest)).bind _) = _
  rw [hread]
  rfl

theorem reads_member {value : Reader Json} {written : List Char} {v : Json} (name : String)
    (h : value.Reads written v) :
    (memberReader value).Reads (Identity.writeMember name written) (name, v) := by
  intro rest
  have hname := Quoted.read_encode name.toList (':' :: (written ++ rest))
  change readMember value ((Identity.writeText name ++ ':' :: written) ++ rest) = _
  rw [List.append_assoc]
  change readMember value (Quoted.encode name.toList ++ ':' :: (written ++ rest)) = _
  simp only [readMember, hname, Option.bind_eq_bind, Option.bind_some]
  rw [skipBlank_cons rfl]
  simp only [h rest, Option.bind_some, String.ofList_toList]

theorem lastMember_eq_none {name : String} {members : List (String × Json)}
    (h : ∀ m ∈ members, m.1 ≠ name) : lastMember name members = none := by
  induction members with
  | nil => rfl
  | cons m members ih =>
      rw [lastMember, ih (fun m' hm => h m' (List.mem_cons_of_mem m hm)), Option.none_or,
        if_neg (h m List.mem_cons_self)]

-- The last member of a name is the only one if no name comes twice.
theorem lastMember_of_mem {name : String} {v : Json} {members : List (String × Json)}
    (hnodup : (members.map Prod.fst).Nodup) (h : (name, v) ∈ members) :
    lastMember name members = some v := by
  induction members with
  | nil => cases h
  | cons m members ih =>
      rw [List.map_cons, List.nodup_cons] at hnodup
      rcases m with ⟨n, w⟩
      rcases List.mem_cons.1 h with heq | hmem
      · cases heq
        -- No later member has the name.
        have hnone : lastMember name members = none :=
          lastMember_eq_none (fun m' hm hname =>
            hnodup.1 (List.mem_map.2 ⟨m', hm, hname⟩))
        rw [lastMember, hnone, Option.none_or, if_pos rfl]
      · rw [lastMember, ih hnodup.2 hmem, Option.some_or]

end Json

/-! ### Documents -/

namespace Identity

/-- Words run together. Each of them begins with a capital, and a low line parts two of them. -/
def runTogether (capital : Bool) : List Char → List Char
  | [] => []
  | c :: cs =>
    if c = '_' then runTogether true cs
    else (if capital then c.toUpper else c) :: runTogether false cs

/-- The name under which a field is written: its words run together, and the first one small. -/
def camelCase (name : String) : String :=
  match runTogether true name.toList with
  | [] => ""
  | c :: cs => String.ofList (c.toLower :: cs)

/-- What a field holds. -/
inductive Field where
  /-- A text, or nothing. -/
  | text (value : Option String)
  /-- A list of texts, or nothing. -/
  | texts (value : Option (List String))

namespace Field

/-- How a field is written. -/
def written : Field → List Char
  | text value => writeField writeText value
  | texts value => writeField writeTexts value

/-- The value that a field is. -/
def json : Field → Json
  | text (some t) => .text t
  | texts (some ts) => .list (ts.map Json.text)
  | _ => .null

theorem reads_written (depth : Nat) (f : Field) :
    (Json.reader (depth + 1)).Reads f.written f.json := by
  cases f with
  | text value =>
      cases value with
      | none => exact Json.reads_null (depth + 1)
      | some t => exact Json.reads_text (depth + 1) t
  | texts value =>
      cases value with
      | none => exact Json.reads_null (depth + 1)
      | some ts => exact Json.reads_texts depth ts

end Field

namespace Document

/-- The names of the fields as sequences of words, in the order in which they are written. -/
def fieldNames : List String :=
  ["pending_time", "instance_type", "image_id", "instance_id", "billing_products", "architecture",
    "account_id", "kernel_id", "ramdisk_id", "region", "version", "availability_zone", "private_ip",
    "devpay_product_codes", "marketplace_product_codes"]

/-- The fields of a document, in the same order. -/
def fields (d : Document) : List Field :=
  [.text d.pendingTime, .text d.instanceType, .text d.imageId, .text d.instanceId,
    .texts d.billingProducts, .text d.architecture, .text d.accountId, .text d.kernelId,
    .text d.ramdiskId, .text d.region, .text d.version, .text d.availabilityZone,
    .text d.privateIp, .texts d.devpayProductCodes, .texts d.marketplaceProductCodes]

/-- The fields of a document under the names that the rule gives them. -/
def entries (d : Document) : List (String × Field) := (fieldNames.map camelCase).zip d.fields

/-- The members of the object that a document is written as. -/
def jsonMembers (d : Document) : List (String × Json) := d.entries.map (fun e => (e.1, e.2.json))

theorem camelCase_fieldNames :
    fieldNames.map camelCase =
      ["pendingTime", "instanceType", "imageId", "instanceId", "billingProducts", "architecture",
        "accountId", "kernelId", "ramdiskId", "region", "version", "availabilityZone", "privateIp",
        "devpayProductCodes", "marketplaceProductCodes"] := by
  rfl

variable (d : Document)

-- The names that are spelled out where a document is written are those of the rule.
theorem members_eq : d.members = d.entries.map (fun e => writeMember e.1 e.2.written) := by
  rw [entries, camelCase_fieldNames]
  rfl

theorem jsonMembers_eq :
    d.jsonMembers =
      [("pendingTime", (Field.text d.pendingTime).json),
        ("instanceType", (Field.text d.instanceType).json),
        ("imageId", (Field.text d.imageId).json), ("instanceId", (Field.text d.instanceId).json),
        ("billingProducts", (Field.texts d.billingProducts).json),
        ("architecture", (Field.text d.architecture).json),
        ("accountId", (Field.text d.accountId).json), ("kernelId", (Field.text d.kernelId).json),
        ("ramdiskId", (Field.text d.ramdiskId).json), ("region", (Field.text d.region).json),
        ("version", (Field.text d.version).json),
        ("availabilityZone", (Field.text d.availabilityZone).json),
        ("privateIp", (Field.text d.privateIp).json),
        ("devpayProductCodes", (Field.texts d.devpayProductCodes).json),
        ("marketplaceProductCodes", (Field.texts d.marketplaceProductCodes).json)] := by
  rw [jsonMembers, entries, camelCase_fieldNames]
  rfl

theorem nodup_jsonMembers : (d.jsonMembers.map Prod.fst).Nodup := by
  rw [jsonMembers_eq]
  simp only [List.map_cons, List.map_nil]
  decide

/-- The text of a document is an object with its fields. -/
theorem ofText?_toText_json : Json.ofText? d.toText = some (.object d.jsonMembers) := by
  have hmembers : List.Forall₂ (Json.memberReader (Json.reader 126)).Reads d.members
      d.jsonMembers := by
    rw [members_eq, jsonMembers, List.forall₂_map_left_iff, List.forall₂_map_right_iff,
      List.forall₂_same]
    exact fun e _ => Json.reads_member e.1 (Field.reads_written 125 e.2)
  have hquoted : ∀ piece ∈ d.members, ∃ s, piece = '"' :: s := by
    intro piece hpiece
    rw [members_eq] at hpiece
    rcases List.mem_map.1 hpiece with ⟨e, -, rfl⟩
    exact ⟨_, rfl⟩
  have hread := Json.readMembers_of_reads hquoted hmembers []
  have hrun : (Json.reader Json.deepest).run ('\x7b' :: (commaSeparated d.members ++ ['\x7d'])) =
      some (.object d.jsonMembers, []) := by
    change (Json.readMembers (Json.reader 126) _).bind _ = _
    rw [hread]
    rfl
  rw [Json.ofText?, toText, String.toList_ofList, Json.ofChars?, Json.skipBlank_cons rfl, hrun]
  rfl

-- A field is found under its name, whatever it holds.
theorem textField_of_mem (name : String) (value : Option String)
    (h : (name, (Field.text value).json) ∈ d.jsonMembers) :
    textField (.object d.jsonMembers) name = value := by
  have hmember := Json.lastMember_of_mem d.nodup_jsonMembers h
  rw [textField, Json.member?, hmember]
  cases value with
  | none => rfl
  | some t => rfl

theorem textsField_of_mem (name : String) (value : Option (List String))
    (h : (name, (Field.texts value).json) ∈ d.jsonMembers) :
    textsField (.object d.jsonMembers) name = value := by
  have hmember := Json.lastMember_of_mem d.nodup_jsonMembers h
  rw [textsField, Json.member?, hmember]
  cases value with
  | none => rfl
  | some ts =>
      have htexts : (ts.map Json.text).filterMap Json.text? = ts := by
        rw [List.filterMap_map]
        exact List.filterMap_some
      exact congrArg some htexts

theorem ofJson?_object : ofJson? (.object d.jsonMembers) = some d := by
  have hrow := d.jsonMembers_eq
  simp only [ofJson?,
    d.textField_of_mem "pendingTime" d.pendingTime (by simp [hrow]),
    d.textField_of_mem "instanceType" d.instanceType (by simp [hrow]),
    d.textField_of_mem "imageId" d.imageId (by simp [hrow]),
    d.textField_of_mem "instanceId" d.instanceId (by simp [hrow]),
    d.textsField_of_mem "billingProducts" d.billingProducts (by simp [hrow]),
    d.textField_of_mem "architecture" d.architecture (by simp [hrow]),
    d.textField_of_mem "accountId" d.accountId (by simp [hrow]),
    d.textField_of_mem "kernelId" d.kernelId (by simp [hrow]),
    d.textField_of_mem "ramdiskId" d.ramdiskId (by simp [hrow]),
    d.textField_of_mem "region" d.region (by simp [hrow]),
    d.textField_of_mem "version" d.version (by simp [hrow]),
    d.textField_of_mem "availabilityZone" d.availabilityZone (by simp [hrow]),
    d.textField_of_mem "privateIp" d.privateIp (by simp [hrow]),
    d.textsField_of_mem "devpayProductCodes" d.devpayProductCodes (by simp [hrow]),
    d.textsField_of_mem "marketplaceProductCodes" d.marketplaceProductCodes (by simp [hrow])]

/-- A document that was written reads back as itself. -/
theorem ofText?_toText : ofText? d.toText = some d := by
  rw [ofText?, ofText?_toText_json, Option.bind_some, ofJson?_object]

end Document

/-- A document that is written reads back as itself, with any texts in any of its fields and any
    of its fields absent. The text is one object, whose members are the fields of the document in
    order, each under the name that the rule gives it, with null for those that are absent. So a
    document that was read from some text can be written and read again as often as one likes. -/
theorem written_documents_read_back (d : Document) :
    d.toText = String.ofList ('\x7b' :: (commaSeparated
      (d.entries.map (fun e => writeMember e.1 e.2.written)) ++ ['\x7d'])) ∧
    Json.ofText? d.toText = some (.object (d.entries.map (fun e => (e.1, e.2.json)))) ∧
    Document.ofText? d.toText = some d ∧
    ∀ (s : String) (read : Document), Document.ofText? s = some read →
      Document.ofText? read.toText = some read := by
  refine ⟨?_, d.ofText?_toText_json, d.ofText?_toText, fun _ read _ => read.ofText?_toText⟩
  rw [Document.toText, d.members_eq]

end Identity

end Imds
