import Imds.Wire.Exchange

/-!
# Bodies Within a Limit

A limit on bodies is checked twice, against the length that a response announces and against
what its pieces add up to. The two checks are one rule: a response that shows a size above
the limit is turned down with this size, and what it announces is shown first.

`Response.Exceeds` is that rule. It speaks of the pieces as they stand in the response and
not of a reader that has some of them, so that the piece with which a body crosses the limit is
found by cutting the list in two. There is at most one such cut, since the pieces before it
stay within the limit and those up to it do not. A response that exceeds no limit fits, and
then a limit makes no difference: its body is taken as a whole, and only then is it looked at
as a text. So a piece may end in the middle of a character.

Between the two checks a buffer is set aside, and that is the one thing that a limit does to a
response within it. `Response.Breaks` says when there is no such buffer. A limit for which there
is room rules it out, and so does an announced length for which there is, or none at all; but
a limit can be larger than any buffer, and then it is up to the service to announce a length that
breaks the reading.

What is carried through the pieces is the number of bytes that have arrived. Everything about
the order of the checks is said in `read_of_breaks`, `read_of_exceeds` and `read_of_fits`, and
the rest follows from these three.

## Main definitions

* `bytesIn`, `Response.body`, `Response.content`: How much the pieces hold, and what.
* `Response.Exceeds`, `Response.Fits`: A response against a limit.
* `Response.Breaks`: A response for which no buffer can be had.
* `Response.SameBut`: Responses that differ in how the body is cut into pieces.

## Theorems

* `gatherBody_of_le`, `gatherBody_of_cross`: What comes of the pieces.
* `fits_iff`: A response fits exactly if it shows no size above the limit.
* `read_of_breaks`, `read_of_exceeds`, `read_of_fits`: The three ways in which a success is read.
* `not_breaks_of_le`: A limit for which there is room.
* `read_eq_ok_iff`: When there is a text, and which.
* `bodies_are_read_within_limits`: What a channel makes of every response.
* `announced_length_breaks`: A length that no buffer has.
-/

namespace Imds

namespace Wire

/-- How many bytes some pieces hold. -/
def bytesIn : List ByteArray → Nat
  | [] => 0
  | piece :: pieces => piece.size + bytesIn pieces

namespace Response

/-- The body, put together. -/
def body (r : Response) : ByteArray := r.pieces.foldl (· ++ ·) ByteArray.empty

/-- What the body is as a text, if it arrived to its end. -/
def content (r : Response) : Except Fault String :=
  if r.complete = false then .error (.connect "connection closed before the body ended")
  else match String.fromUTF8? r.body with
    | some text => .ok text
    | none => .error .badText

/-- The status means success. -/
def IsSuccess (r : Response) : Prop := 200 ≤ r.status ∧ r.status ≤ 299

/-- A response shows a size above a limit: it announces one, or else its first pieces are the
    fewest that hold more than the limit. -/
inductive Exceeds (r : Response) (m : Nat) : Nat → Prop
  | announced (size : Nat) (h : r.announced = some size) (hsize : m < size) : Exceeds r m size
  | gathered (before : List ByteArray) (piece : ByteArray) (after : List ByteArray)
      (hannounced : ∀ size, r.announced = some size → size ≤ m)
      (hpieces : r.pieces = before ++ piece :: after) (hbefore : bytesIn before ≤ m)
      (hcross : m < bytesIn (before ++ [piece])) : Exceeds r m (bytesIn (before ++ [piece]))

/-- Neither what a response announces nor what its pieces hold is above a limit. -/
structure Fits (r : Response) (m : Nat) : Prop where
  announced : ∀ size, r.announced = some size → size ≤ m
  pieces : bytesIn r.pieces ≤ m

/-- No buffer can be had for a success: it announces no length above the limit, and more would
    have to be set aside than there is room for. -/
def Breaks (r : Response) (room : Nat) (limit : Option Nat) : Prop :=
  r.IsSuccess ∧ (∀ m size, limit = some m → r.announced = some size → size ≤ m) ∧
    room < reserved limit r.announced

/-- Two responses differ at most in how the body is cut into pieces. -/
structure SameBut (r s : Response) : Prop where
  status : s.status = r.status
  announced : s.announced = r.announced
  body : s.body = r.body
  complete : s.complete = r.complete

end Response

/-! ### Pieces -/

section Pieces

variable {m : Nat} {sofar : ByteArray} {pieces : List ByteArray}

theorem bytesIn_cons (piece : ByteArray) (pieces : List ByteArray) :
    bytesIn (piece :: pieces) = piece.size + bytesIn pieces := rfl

theorem bytesIn_append (pieces more : List ByteArray) :
    bytesIn (pieces ++ more) = bytesIn pieces + bytesIn more := by
  induction pieces with
  | nil => exact (Nat.zero_add _).symm
  | cons piece pieces ih => rw [List.cons_append, bytesIn_cons, ih, bytesIn_cons, Nat.add_assoc]

theorem bytesIn_singleton (piece : ByteArray) : bytesIn [piece] = piece.size := rfl

theorem size_foldl (sofar : ByteArray) (pieces : List ByteArray) :
    (pieces.foldl (· ++ ·) sofar).size = sofar.size + bytesIn pieces := by
  induction pieces generalizing sofar with
  | nil => rfl
  | cons piece pieces ih =>
      rw [List.foldl_cons, ih, ByteArray.size_append, bytesIn_cons, Nat.add_assoc]

/-- All pieces are taken if they stay within the limit, together with what is there. -/
theorem gatherBody_of_le (h : sofar.size + bytesIn pieces ≤ m) :
    gatherBody (some m) sofar pieces = .ok (pieces.foldl (· ++ ·) sofar) := by
  induction pieces generalizing sofar with
  | nil => rfl
  | cons piece pieces ih =>
      rw [bytesIn_cons] at h
      have hpiece : ¬ m < sofar.size + piece.size := by omega
      have hrest : (sofar ++ piece).size + bytesIn pieces ≤ m := by
        rw [ByteArray.size_append]
        omega
      simp only [gatherBody, if_neg hpiece, ih hrest, List.foldl_cons]

/-- The piece that crosses the limit is the last one that is looked at. -/
theorem gatherBody_of_cross {before after : List ByteArray} {piece : ByteArray}
    (hbefore : sofar.size + bytesIn before ≤ m)
    (hcross : m < sofar.size + bytesIn (before ++ [piece])) :
    gatherBody (some m) sofar (before ++ piece :: after) =
      .error (.tooLarge (sofar.size + bytesIn (before ++ [piece])) m) := by
  -- On the pieces before it, each of which is taken.
  induction before generalizing sofar with
  | nil =>
      rw [List.nil_append, bytesIn_singleton] at hcross
      simp only [List.nil_append, bytesIn_singleton, gatherBody, if_pos hcross]
  | cons first before ih =>
      rw [List.cons_append, bytesIn_cons] at hcross
      rw [bytesIn_cons] at hbefore
      have hfirst : ¬ m < sofar.size + first.size := by omega
      have hsize : (sofar ++ first).size = sofar.size + first.size := ByteArray.size_append
      have hrest : gatherBody (some m) (sofar ++ first) (before ++ piece :: after) =
          .error (.tooLarge ((sofar ++ first).size + bytesIn (before ++ [piece])) m) :=
        ih (by omega) (by omega)
      simp only [List.cons_append, gatherBody, if_neg hfirst, hrest, hsize, bytesIn_cons,
        Nat.add_assoc]

/-- Pieces that hold more than a limit, together with what is there, cross it with one of
    them. -/
theorem exists_cross {n : Nat} (hn : n ≤ m) (h : m < n + bytesIn pieces) :
    ∃ before piece after, pieces = before ++ piece :: after ∧ n + bytesIn before ≤ m ∧
      m < n + bytesIn (before ++ [piece]) := by
  induction pieces generalizing n with
  | nil => exact absurd h (Nat.not_lt.2 hn)
  | cons piece pieces ih =>
      rw [bytesIn_cons] at h
      by_cases hpiece : m < n + piece.size
      · refine ⟨[], piece, pieces, rfl, hn, ?_⟩
        rw [List.nil_append, bytesIn_cons]
        omega
      · rcases ih (n := n + piece.size) (by omega) (by omega) with
          ⟨before, crossing, after, rfl, hbefore, hcross⟩
        refine ⟨piece :: before, crossing, after, rfl, ?_, ?_⟩
        · rw [bytesIn_cons]
          omega
        · rw [List.cons_append, bytesIn_cons]
          omega

end Pieces

/-! ### Responses -/

section Responses

variable {r s : Response} {room m size : Nat} {limit : Option Nat} {text : String}

theorem size_body (r : Response) : r.body.size = bytesIn r.pieces := by
  rw [Response.body, size_foldl]
  exact Nat.zero_add _

theorem isSuccess_iff : isSuccess r.status = true ↔ r.IsSuccess := by
  simp [isSuccess, Response.IsSuccess]

/-- A response fits a limit exactly if it shows no size above it. -/
theorem fits_iff : r.Fits m ↔ ∀ size, ¬ r.Exceeds m size := by
  constructor
  · intro hfits size hexceeds
    cases hexceeds with
    | announced size h hsize => exact absurd (hfits.announced size h) (Nat.not_le.2 hsize)
    | gathered before piece after _ hpieces _ hcross =>
        have hle := hfits.pieces
        rw [hpieces, bytesIn_append, bytesIn_cons] at hle
        rw [bytesIn_append, bytesIn_singleton] at hcross
        omega
  · intro hnone
    have hannounced : ∀ size, r.announced = some size → size ≤ m := fun size h =>
      Nat.le_of_not_lt (fun hsize => hnone size (.announced size h hsize))
    refine ⟨hannounced, Nat.le_of_not_lt (fun hlt => ?_)⟩
    rcases exists_cross (n := 0) (Nat.zero_le m) (by rwa [Nat.zero_add]) with
      ⟨before, piece, after, hpieces, hbefore, hcross⟩
    rw [Nat.zero_add] at hbefore hcross
    exact hnone _ (.gathered before piece after hannounced hpieces hbefore hcross)

theorem exists_exceeds (h : ¬ r.Fits m) : ∃ size, r.Exceeds m size :=
  Classical.byContradiction (fun hnone => h (fits_iff.2 (fun size hsize => hnone ⟨size, hsize⟩)))

theorem announcedTooLarge_of_le
    (h : ∀ m size, limit = some m → r.announced = some size → size ≤ m) :
    announcedTooLarge limit r.announced = none := by
  cases limit with
  | none => rfl
  | some m =>
      cases hannounced : r.announced with
      | none => rfl
      | some size => exact if_neg (Nat.not_lt.2 (h m size rfl hannounced))

theorem not_breaks_none (r : Response) (room : Nat) : ¬ r.Breaks room none :=
  fun h => absurd h.2.2 (Nat.not_lt_zero room)

-- The buffer is never larger than the limit.
theorem reserved_le (m : Nat) (announced : Option Nat) : reserved (some m) announced ≤ m := by
  cases announced with
  | none => exact Nat.min_le_left m moderateBuffer
  | some size => exact Nat.min_le_right size m

/-- A limit for which there is room breaks nothing. -/
theorem not_breaks_of_le (h : ∀ m, limit = some m → m ≤ room) : ¬ r.Breaks room limit := by
  cases limit with
  | none => exact not_breaks_none r room
  | some m =>
      rintro ⟨-, -, hroom⟩
      exact absurd hroom (Nat.not_lt.2 (Nat.le_trans (reserved_le m r.announced) (h m rfl)))

theorem not_breaks_of_announced (hannounced : r.announced = some size) (hsize : m < size) :
    ¬ r.Breaks room (some m) :=
  fun h => absurd (h.2.1 m size rfl hannounced) (Nat.not_le.2 hsize)

theorem read_of_not_isSuccess (h : ¬ r.IsSuccess) :
    r.read room limit = .ended (.error (.status r.status)) := by
  rw [← isSuccess_iff, Bool.not_eq_true] at h
  simp only [Response.read, h, if_true]

theorem read_of_breaks (h : r.Breaks room limit) : r.read room limit = .broken := by
  rcases h with ⟨hsuccess, hannounced, hroom⟩
  simp only [Response.read, isSuccess_iff.2 hsuccess, Bool.true_eq_false, if_false,
    announcedTooLarge_of_le hannounced, if_pos hroom]

-- If the announced length is no objection and there is a buffer, the pieces decide.
theorem read_of_granted (hsuccess : r.IsSuccess)
    (hannounced : ∀ m size, limit = some m → r.announced = some size → size ≤ m)
    (hgranted : ¬ r.Breaks room limit) : r.read room limit = .ended (r.gather limit) := by
  have hroom : ¬ room < reserved limit r.announced :=
    fun hroom => hgranted ⟨hsuccess, hannounced, hroom⟩
  simp only [Response.read, isSuccess_iff.2 hsuccess, Bool.true_eq_false, if_false,
    announcedTooLarge_of_le hannounced, if_neg hroom]

/-- A response that shows a size above the limit is turned down with it. -/
theorem read_of_exceeds (hsuccess : r.IsSuccess) (h : r.Exceeds m size)
    (hgranted : ¬ r.Breaks room (some m)) :
    r.read room (some m) = .ended (.error (.tooLarge size m)) := by
  cases h with
  | announced size h hsize =>
      have htoo : announcedTooLarge (some m) r.announced = some (.tooLarge size m) := by
        rw [h]
        exact if_pos hsize
      simp only [Response.read, isSuccess_iff.2 hsuccess, Bool.true_eq_false, if_false, htoo]
  | gathered before piece after hannounced hpieces hbefore hcross =>
      have hgather : gatherBody (some m) ByteArray.empty (before ++ piece :: after) =
          .error (.tooLarge (ByteArray.empty.size + bytesIn (before ++ [piece])) m) :=
        gatherBody_of_cross (by rwa [ByteArray.size_empty, Nat.zero_add])
          (by rwa [ByteArray.size_empty, Nat.zero_add])
      rw [← hpieces, ByteArray.size_empty, Nat.zero_add] at hgather
      rw [read_of_granted hsuccess (fun m' size hm h => by cases hm; exact hannounced size h)
        hgranted, Response.gather, hgather]

-- If all pieces are taken, the body decides.
theorem gather_of_gathered (h : gatherBody limit ByteArray.empty r.pieces = .ok r.body) :
    r.gather limit = r.content := by
  rw [Response.gather, h]
  rfl

theorem gather_none (r : Response) : r.gather none = r.content :=
  gather_of_gathered (gatherBody_none _ _)

theorem read_none (hsuccess : r.IsSuccess) : r.read room none = .ended r.content := by
  rw [read_of_granted hsuccess (fun m size h => by cases h) (not_breaks_none r room), gather_none]

/-- A response that fits is read as if there were no limit. -/
theorem read_of_fits (hsuccess : r.IsSuccess) (h : ∀ m, limit = some m → r.Fits m)
    (hgranted : ¬ r.Breaks room limit) : r.read room limit = r.read room none := by
  cases limit with
  | none => rfl
  | some m =>
      have hfits := h m rfl
      have hgather : gatherBody (some m) ByteArray.empty r.pieces = .ok r.body :=
        gatherBody_of_le (by rw [ByteArray.size_empty, Nat.zero_add]; exact hfits.pieces)
      rw [read_none hsuccess, ← gather_of_gathered hgather]
      exact read_of_granted hsuccess
        (fun m' size hm hsize => by cases hm; exact hfits.announced size hsize) hgranted

theorem read_eq_broken_iff : r.read room limit = .broken ↔ r.Breaks room limit := by
  refine ⟨fun h => ?_, read_of_breaks⟩
  rw [Response.read] at h
  split at h
  · cases h
  · next hstatus =>
    rw [Bool.not_eq_false, isSuccess_iff] at hstatus
    split at h
    · cases h
    · next hannounced =>
      split at h
      · next hroom =>
        refine ⟨hstatus, ?_, hroom⟩
        rintro m size rfl hsize
        rw [hsize] at hannounced
        exact Nat.le_of_not_lt (fun hlt => by cases (if_pos hlt).symm.trans hannounced)
      · cases h

theorem fromUTF8?_eq_some_iff {bytes : ByteArray} :
    String.fromUTF8? bytes = some text ↔ text.toUTF8 = bytes := by
  simp only [String.fromUTF8?]
  constructor
  · intro h
    split at h
    · cases h
      rfl
    · cases h
  · rintro rfl
    exact dif_pos text.isValidUTF8

theorem read_of_no_text (hsuccess : r.IsSuccess) (hfits : ∀ m, limit = some m → r.Fits m)
    (hgranted : ¬ r.Breaks room limit) (hcomplete : r.complete = true)
    (h : ∀ text : String, text.toUTF8 ≠ r.body) : r.read room limit = .ended (.error .badText) := by
  have hnone : String.fromUTF8? r.body = none := by
    rw [Option.eq_none_iff_forall_ne_some]
    exact fun text htext => h text (fromUTF8?_eq_some_iff.1 htext)
  rw [read_of_fits hsuccess hfits hgranted, read_none hsuccess, Response.content, hcomplete, hnone]
  rfl

/-- A text comes only of a success that fits the limit, for which there is a buffer, and that is
    read to its end, and it is the one text that has these bytes. -/
theorem read_eq_ok_iff : r.read room limit = .ended (.ok text) ↔
    r.IsSuccess ∧ (∀ m, limit = some m → r.Fits m) ∧ ¬ r.Breaks room limit ∧
      r.complete = true ∧ text.toUTF8 = r.body := by
  by_cases hsuccess : r.IsSuccess
  · by_cases hbreaks : r.Breaks room limit
    · rw [read_of_breaks hbreaks]
      exact ⟨nofun, fun h => absurd hbreaks h.2.2.1⟩
    by_cases hfits : ∀ m, limit = some m → r.Fits m
    · rw [and_iff_right hsuccess, and_iff_right hfits, and_iff_right hbreaks,
        read_of_fits hsuccess hfits hbreaks, read_none hsuccess, Response.content,
        ← fromUTF8?_eq_some_iff]
      cases r.complete with
      | false => simp
      | true => cases String.fromUTF8? r.body <;> simp
    · cases limit with
      | none => exact absurd nofun hfits
      | some m =>
          have hnot : ¬ r.Fits m := fun h => hfits (fun m' hm => by cases hm; exact h)
          rcases exists_exceeds hnot with ⟨size, hsize⟩
          rw [read_of_exceeds hsuccess hsize hbreaks]
          exact ⟨nofun, fun h => absurd h.2.1 hfits⟩
  · rw [read_of_not_isSuccess hsuccess]
    exact ⟨nofun, fun h => absurd h.1 hsuccess⟩

-- Of the pieces only their sum counts for the limit, which is the size of the body.
theorem fits_iff_body : r.Fits m ↔ (∀ size, r.announced = some size → size ≤ m) ∧
    r.body.size ≤ m := by
  rw [size_body]
  exact ⟨fun h => ⟨h.announced, h.pieces⟩, fun h => ⟨h.1, h.2⟩⟩

theorem read_eq_ok_of_sameBut (h : r.SameBut s) :
    s.read room limit = .ended (.ok text) ↔ r.read room limit = .ended (.ok text) := by
  simp only [read_eq_ok_iff, fits_iff_body, Response.Breaks, Response.IsSuccess, h.status,
    h.announced, h.body, h.complete]

theorem utf8ByteSize_le (h : r.read room (some m) = .ended (.ok text)) : text.utf8ByteSize ≤ m := by
  rcases read_eq_ok_iff.1 h with ⟨-, hfits, -, -, htext⟩
  have hbody := (fits_iff_body.1 (hfits m rfl)).2
  rw [← htext] at hbody
  exact hbody

end Responses

/-- What a channel makes of every response that it gets to a request, under any limit or none, and
    with any room for buffers. A status other than success is all that counts. A length that is
    announced above the limit is turned down as it is. Then a buffer is set aside, and exactly
    if there is no room for it the reading breaks down; no limit breaks it for which there is
    room. Otherwise a response whose first pieces cross the limit is turned down with what they
    hold, and one that shows no size above the limit is read as if there were none. A body that
    arrived to its end gives the text that has its bytes, or is no text.

    So a text never has more bytes than the limit allows, and whether there is one, and which,
    does not depend on how the body is cut into pieces. -/
theorem bodies_are_read_within_limits (room : Nat) (r : Response) (limit : Option Nat) :
    (¬ r.IsSuccess → r.read room limit = .ended (.error (.status r.status))) ∧
    (r.read room limit = .broken ↔ r.Breaks room limit) ∧
    ((∀ m, limit = some m → m ≤ room) → ¬ r.Breaks room limit) ∧
    (∀ m size, r.announced = some size → m < size → ¬ r.Breaks room (some m)) ∧
    (∀ m size, r.IsSuccess → r.Exceeds m size → ¬ r.Breaks room (some m) →
      r.read room (some m) = .ended (.error (.tooLarge size m))) ∧
    (∀ m, r.Fits m ↔ ∀ size, ¬ r.Exceeds m size) ∧
    (r.IsSuccess → (∀ m, limit = some m → r.Fits m) → ¬ r.Breaks room limit →
      r.read room limit = r.read room none ∧
      (r.complete = true → (∀ text : String, text.toUTF8 ≠ r.body) →
        r.read room limit = .ended (.error .badText))) ∧
    (∀ text, r.read room limit = .ended (.ok text) ↔ r.IsSuccess ∧
      (∀ m, limit = some m → r.Fits m) ∧ ¬ r.Breaks room limit ∧ r.complete = true ∧
        text.toUTF8 = r.body) ∧
    (∀ m text, r.read room (some m) = .ended (.ok text) → text.utf8ByteSize ≤ m) ∧
    (∀ s, r.SameBut s → ∀ text,
      s.read room limit = .ended (.ok text) ↔ r.read room limit = .ended (.ok text)) ∧
    ∀ sends timeout q, sends q = true →
      exchange ⟨sends, room⟩ ⟨timeout, limit⟩ (fun _ => .response r) q = r.read room limit := by
  refine ⟨read_of_not_isSuccess, read_eq_broken_iff, not_breaks_of_le,
    fun m size => not_breaks_of_announced, fun m size => read_of_exceeds, fun m => fits_iff, ?_,
    fun text => read_eq_ok_iff, fun m text => utf8ByteSize_le,
    fun s h text => read_eq_ok_of_sameBut h, ?_⟩
  · intro hsuccess hfits hgranted
    exact ⟨read_of_fits hsuccess hfits hgranted, read_of_no_text hsuccess hfits hgranted⟩
  · intro sends timeout q hq
    rw [exchange, if_pos hq]
    rfl

-- A letter of two bytes is cut in the middle, and the body has as many bytes as the limit allows
-- and as were announced.
theorem cut_letter_is_read :
    let r : Response := ⟨200, some 3, [⟨#[0xC3]⟩, ⟨#[0xA9, 0x61]⟩], true⟩
    (r.IsSuccess ∧ r.Fits 3) ∧ r.read longestBuffer (some 3) = .ended (.ok "éa") := by
  intro r
  have hfits : r.Fits 3 := ⟨fun size h => by cases h; decide, by decide⟩
  have hsuccess : r.IsSuccess := ⟨by decide, by decide⟩
  have hlimits := bodies_are_read_within_limits longestBuffer r (some 3)
  refine ⟨⟨hsuccess, hfits⟩, (hlimits.2.2.2.2.2.2.2.1 "éa").2 ⟨hsuccess, ?_, ?_, rfl, ?_⟩⟩
  · intro m h
    cases h
    exact hfits
  · refine hlimits.2.2.1 (fun m h => ?_)
    cases h
    decide
  · decide

-- One byte is announced more than the longest buffer has, and the limit would allow it. Without
-- a limit the same response is a text, or was broken off.
theorem announced_length_breaks :
    let r : Bool → Response := fun complete =>
      ⟨200, some 0x8000000000000000, [⟨#[0x61]⟩], complete⟩
    let m := 0xFFFFFFFFFFFFFFFF
    (r true).Fits m ∧ (r false).Fits m ∧
      (r true).read longestBuffer none = .ended (.ok "a") ∧
      (r true).read longestBuffer (some m) = .broken ∧
      (r false).read longestBuffer none =
        .ended (.error (.connect "connection closed before the body ended")) ∧
      (r false).read longestBuffer (some m) = .broken := by
  intro r m
  have hpiece : bytesIn [⟨#[0x61]⟩] ≤ m := by decide
  have hfits : ∀ complete, (r complete).Fits m :=
    fun complete => ⟨fun size h => by cases h; decide, hpiece⟩
  exact ⟨hfits true, hfits false, rfl, rfl, rfl, rfl⟩

end Wire

end Imds
