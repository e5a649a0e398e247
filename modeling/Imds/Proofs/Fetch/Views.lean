import Imds.Proofs.Fetch.Conduct
import Imds.Proofs.Fetch.Outcome
import Imds.Proofs.Retry.Course

/-!
# Two Views of a Body

What a path has can be asked for as one item or line by line. The two are views of one body:
a fetch does not look at the view until it has the body, so all that it asks and hears is the
same in both, and the views differ only in what is handed over in the end.

Nothing is lost by going line by line. `LinesOf` says what the lines of a body are without
saying how it is cut: no line holds a line feed, there is one line more than there are line
feeds, and with a line feed between each two they are the body again. The last part makes the
body a function of its lines, whatever it ends or begins with.

Which body it is that a fetch hands over, or that there is none, is read off the end of what was
said. It came in answer to a read of the path, and nothing was said after it. A thread writes no
dialogue, but its world has the history of requests and the service, and there it is the
service's answer to the newest request of the history.

## Main definitions

* `Text.LinesOf`: What the lines of a body are.
* `Views`: Two results that are views of one body, or that fail or find nothing alike.
* `Blocking.fetchBody`: What a thread does before it looks at the view.
* `Blocking.JustBrought`: The newest request was a read of a path that brought something.

## Theorems

* `linesOf_splitLines`: Splitting gives the lines of a body.
* `splitLines_inj`: A body is known by its lines.
* `justBrought_of_fetchBody`, `Blocking.justBrought_of_fetchBody`: Where a value comes from.
* `views_are_of_one_body`: The two views of every fetch.
-/

namespace Imds

/-! ### Lines -/

namespace Text

/-- What the lines of a body are. -/
structure LinesOf (body : String) (lines : List String) : Prop where
  ne_nil : lines ≠ []
  unbroken : ∀ line ∈ lines, '\n' ∉ line.toList
  length_eq : lines.length = body.toList.count '\n' + 1
  joined : "\n".intercalate lines = body

theorem joined_eq_intercalate (mark : Char) (cs : List (List Char)) :
    Text.joined mark cs = [mark].intercalate cs := by
  induction cs with
  | nil => rfl
  | cons piece rest ih =>
      cases rest with
      | nil => simp [Text.joined]
      | cons next rest => rw [Text.joined, ih, List.intercalate_cons_cons, List.append_assoc,
          List.singleton_append]

/-- Joining lines is putting line feeds between them. -/
theorem joinLines_eq_intercalate (lines : List String) :
    joinLines lines = "\n".intercalate lines := by
  have hfeed : "\n".toList = ['\n'] := rfl
  rw [joinLines, joined_eq_intercalate, ← hfeed, ← String.toList_intercalate,
    String.ofList_toList]

/-- Splitting gives the lines of a body. -/
theorem linesOf_splitLines (body : String) : LinesOf body (splitLines body) where
  ne_nil := splitLines_ne_nil body
  unbroken := fun _ hline => notMem_of_mem_splitLines hline
  length_eq := length_splitLines body
  joined := by rw [← joinLines_eq_intercalate, joinLines_splitLines]

/-- A body is known by its lines. -/
theorem splitLines_inj {body body' : String} (h : splitLines body = splitLines body') :
    body = body' := by
  rw [← joinLines_splitLines body, h, joinLines_splitLines]

end Text

/-! ### Results -/

/-- Two results of a fetch: both show one body that came, the second by its lines, or both fail
    alike, or both find no value. -/
inductive Views {α : Type} (shown : String → α) (came : Option String → Prop) :
    Except Failure (Option α) → Except Failure (Option (List String)) → Prop where
  /-- Both fail. -/
  | failed (failure : Failure) : Views shown came (.error failure) (.error failure)
  /-- There is no value. -/
  | absent (hcame : came none) : Views shown came (.ok none) (.ok none)
  /-- Both show the body that came. -/
  | body (body : String) (lines : List String) (hcame : came (some body))
    (hlines : Text.LinesOf body lines) :
    Views shown came (.ok (some (shown body))) (.ok (some lines))

-- Both results are made of one.
theorem views_of_body {α : Type} {shown : String → α} {came : Option String → Prop}
    {result : Except Failure (Option String)} {first : Except Failure (Option α)}
    (hfirst : first = result.map (Option.map shown))
    (hcame : ∀ found, result = .ok found → came found) :
    Views shown came first (result.map (Option.map (Client.items false))) := by
  subst hfirst
  cases result with
  | error failure => exact .failed failure
  | ok found =>
      cases found with
      | none => exact .absent (hcame none rfl)
      | some body => exact .body body _ (hcame (some body) rfl) (Text.linesOf_splitLines body)

-- A document is the one item of the view that is not split.
theorem map_head_items (result : Except Failure (Option String)) :
    (result.map (Option.map (Client.items true))).map (fun items => items.bind List.head?) =
      result := by
  cases result with
  | error failure => rfl
  | ok body => exact congrArg Except.ok (Client.head_items_true body)

theorem eq_map_id (result : Except Failure (Option String)) :
    result = result.map (Option.map id) := by
  cases result with
  | error failure => rfl
  | ok body => exact congrArg Except.ok (congrFun Option.map_id body).symm

/-! ### Tasks -/

section Tasks

variable (c : Client) (path : String) (n : Nat) (w : Surroundings) (d : List Said)

/-- What a fetch comes to is the answer to a read of the path, and the last thing said. -/
theorem justBrought_of_fetchBody {found : Option String}
    (h : ((c.fetchBody path n).among w d).1 = .ok found) :
    JustBrought c path found ((c.fetchBody path n).among w d).2 :=
  (Plan.abides_among w (Client.tells_fetchBody path n)).brought found h

theorem views_among :
    ((c.fetchItems path n false).among w d).2 = ((c.fetchItems path n true).among w d).2 ∧
      Views (fun body => [body])
        (fun found => JustBrought c path found ((c.fetchItems path n true).among w d).2)
        ((c.fetchItems path n true).among w d).1 ((c.fetchItems path n false).among w d).1 := by
  rw [Client.fetchItems_among, Client.fetchItems_among]
  exact ⟨rfl, views_of_body rfl (fun _ => justBrought_of_fetchBody c path n w d)⟩

theorem document_among : (c.fetchDocument path).among w d =
    (c.fetchBody path c.attempts).among w d := by
  rw [Client.fetchDocument_among, Client.fetchItems_among, map_head_items]

theorem views_of_document_among :
    ((c.fetchLines path).among w d).2 = ((c.fetchDocument path).among w d).2 ∧
      Views id (fun found => JustBrought c path found ((c.fetchDocument path).among w d).2)
        ((c.fetchDocument path).among w d).1 ((c.fetchLines path).among w d).1 := by
  rw [Client.fetchLines, Client.fetchLinesWith, Client.fetchItems_among, document_among]
  exact ⟨rfl, views_of_body (eq_map_id _)
    (fun _ => justBrought_of_fetchBody c path c.attempts w d)⟩

end Tasks

/-! ### Threads -/

-- On the attempts that are left. The loop hands over a value in the state in which the attempt
-- left it.
theorem Backoff.retryFrom_eq_ok {σ α : Type} {b : Backoff} {wait : Duration → StateM σ Unit}
    {attempt : StateM σ (Verdict α)} {n : Nat} {s : σ} {value : α}
    (h : (b.retryFrom wait attempt n s).1 = .ok value) :
    ∃ start, (attempt start).1 = .settled value ∧
      (b.retryFrom wait attempt n s).2 = (attempt start).2 := by
  induction n generalizing s with
  | zero => cases h
  | succ left ih =>
      by_cases hstop : (attempt s).1.IsAgain → left = 0
      · rw [retryFrom_stop attempt hstop] at h ⊢
        exact ⟨s, Verdict.conclude_eq_ok_iff.1 h, rfl⟩
      · rcases Classical.not_imp.1 hstop with ⟨hagain, hmore⟩
        rw [retryFrom_again attempt hagain hmore] at h ⊢
        exact ih h

namespace Blocking

/-- What a thread does before it looks at the view. -/
def fetchBody (c : Client) (path : String) (n : Nat) : Direct (Option String) := do
  passGate c.settings.gate
  let base ← baseOf c.settings.address
  retry { c.settings.backoff with attempts := n } Plan.pause (attempt c base path) n

/-- The newest request was a read of a path, and it brought a value, or that there is none. -/
def JustBrought (c : Client) (path : String) (value : Option String) (w : World) : Prop :=
  ∃ base token earlier, w.posted = ⟨c.channel, .forPath base path token⟩ :: earlier ∧
    brought (w.service w.posted) = some value

section Threads

variable {c : Client} {path : String} {n : Nat} {w : World} {found : Option String}

theorem run_fetchItems (whole : Bool) : (fetchItems c path n whole).run w =
    (((fetchBody c path n).run w).1.map (Option.map (Client.items whole)),
      ((fetchBody c path n).run w).2) := by
  have hmap : fetchItems c path n whole =
      Option.map (Client.items whole) <$> fetchBody c path n := by
    simp only [fetchItems, fetchBody, map_eq_pure_bind, bind_assoc]
  rw [hmap, blocking_run_map]

theorem run_fetchDocument : (fetchDocument c path).run w =
    (fetchBody c path c.settings.backoff.attempts).run w := by
  rw [fetchDocument, ← map_eq_pure_bind, blocking_run_map, run_fetchItems, map_head_items]
  rfl

-- What succeeds went on with the result of its first part.
theorem run_bind_of_ok {α β : Type} {a : Direct α} {f : α → Direct β} {value : β}
    (h : ((a >>= f).run w).1 = .ok value) :
    ∃ x w', a.run w = (.ok x, w') ∧ (a >>= f).run w = (f x).run w' := by
  rw [run_direct_bind] at h ⊢
  cases hrun : a.run w with
  | mk result w' =>
      rw [hrun] at h
      cases result with
      | error failure => cases h
      | ok x => exact ⟨x, w', rfl, rfl⟩

-- A read that is posted and brings something is the newest request.
theorem justBrought_post {base : String} {token : Option String}
    (h : brought (World.post c.channel (.forPath base path token) w).1 = some found) :
    JustBrought c path found (World.post c.channel (.forPath base path token) w).2 := by
  rw [World.post] at h ⊢
  by_cases hshut : w.isShut c.channel = true
  · rw [if_pos hshut] at h
    cases h
  · rw [if_neg hshut] at h ⊢
    exact ⟨base, token, w.posted, rfl, h⟩

theorem justBrought_attempt {base : String}
    (h : ((attempt c base path).runIn w).1 = .settled found) :
    JustBrought c path found ((attempt c base path).runIn w).2 := by
  rw [attempt, Plan.runIn_bind] at h ⊢
  cases htoken : ((acquireToken c.channel base c.settings.lifetime).outcome.runIn w).1 with
  | error failure =>
      rw [htoken] at h
      cases h
  | ok token =>
      rw [htoken] at h
      exact justBrought_post (Client.settles_iff.1 h)

/-- What a thread fetches is the answer of the service to the newest request, which is a read of
    the path. -/
theorem justBrought_of_fetchBody (h : ((fetchBody c path n).run w).1 = .ok found) :
    JustBrought c path found ((fetchBody c path n).run w).2 := by
  rw [fetchBody] at h ⊢
  rcases run_bind_of_ok h with ⟨_, opened, -, hpass⟩
  rw [hpass] at h ⊢
  rcases run_bind_of_ok h with ⟨base, found, -, hbase⟩
  rw [hbase, Backoff.run_blocking_retry] at h ⊢
  rcases Backoff.retryFrom_eq_ok h with ⟨start, hattempt, hafter⟩
  rw [hafter]
  exact justBrought_attempt hattempt

theorem views_of_thread :
    ((fetchItems c path n false).run w).2 = ((fetchItems c path n true).run w).2 ∧
      Views (fun body => [body])
        (fun found => JustBrought c path found ((fetchItems c path n true).run w).2)
        ((fetchItems c path n true).run w).1 ((fetchItems c path n false).run w).1 := by
  rw [run_fetchItems, run_fetchItems]
  exact ⟨rfl, views_of_body rfl (fun _ => justBrought_of_fetchBody)⟩

theorem views_of_document_of_thread :
    ((fetchLines c path).run w).2 = ((fetchDocument c path).run w).2 ∧
      Views id (fun found => JustBrought c path found ((fetchDocument c path).run w).2)
        ((fetchDocument c path).run w).1 ((fetchLines c path).run w).1 := by
  rw [fetchLines, run_fetchItems, run_fetchDocument]
  exact ⟨rfl, views_of_body (eq_map_id _) (fun _ => justBrought_of_fetchBody)⟩

end Threads

end Blocking

/-- The two views of every fetch, and of the fetches of a document and of a list: all that is
    asked and answered on the way is the same, both fail alike, or the last read found nothing,
    or it brought a body, which one view shows as its only item and the other by its lines.
    The lines of different bodies are different. -/
theorem views_are_of_one_body (c : Client) (path : String) (n : Nat) :
    (∀ (w : Surroundings) (d : List Said),
      let whole := (c.fetchItems path n true).among w d
      let split := (c.fetchItems path n false).among w d
      split.2 = whole.2 ∧
        Views (fun body => [body]) (fun found => JustBrought c path found whole.2) whole.1
          split.1) ∧
    (∀ (w : Surroundings) (d : List Said),
      let document := (c.fetchDocument path).among w d
      let lines := (c.fetchLines path).among w d
      lines.2 = document.2 ∧
        Views id (fun found => JustBrought c path found document.2) document.1 lines.1) ∧
    (∀ (s : Site) (whole : Bool),
      let told := (c.fetchItems path n whole).among s.voice []
      (c.fetchItems path n whole).outcome.run s = (told.1, s.hear told.2) ∧
        (c.fetchItems path n whole).outcome.drive s = (told.1, s.hear told.2)) ∧
    (∀ w : Blocking.World,
      let whole := (Blocking.fetchItems c path n true).run w
      let split := (Blocking.fetchItems c path n false).run w
      split.2 = whole.2 ∧
        Views (fun body => [body]) (fun found => Blocking.JustBrought c path found whole.2) whole.1
          split.1) ∧
    (∀ w : Blocking.World,
      let document := (Blocking.fetchDocument c path).run w
      let lines := (Blocking.fetchLines c path).run w
      lines.2 = document.2 ∧
        Views id (fun found => Blocking.JustBrought c path found document.2) document.1 lines.1) ∧
    (∀ body body' : String,
      body ≠ body' → Client.items false body ≠ Client.items false body') := by
  refine ⟨fun w d => views_among c path n w d, fun w d => views_of_document_among c path w d,
    fun s whole => ⟨Plan.run_eq_among s _, Plan.drive_eq_among s _⟩,
    fun w => Blocking.views_of_thread, fun w => Blocking.views_of_document_of_thread, ?_⟩
  intro body body' hne heq
  exact hne (Text.splitLines_inj heq)

end Imds
