import Imds.Proofs.Fetch.Views
import Imds.Proofs.Nic.Conduct
import Imds.Proofs.Text.Stripping

/-!
# Interfaces by Their Hardware Addresses

The interfaces of an instance are listed one to a line, each with a slash behind it, and a handle
is made for each line of which something is left once it is stripped. The address of the handle
is what is left, and all that the handle reads is below this address.

What is left of a line can be nothing, or an address with something else than a blank or a slash
at either end, or an address that ends in a blank which slashes had hidden. `Addressed` goes down
the lines by their forms. Of a listing without lines of the third form it can be said without
stripping which of its lines give a handle, namely those that are not made of blanks and slashes
only, and every address is one that stripping leaves as it is. A line of the third form gives a
handle of its own, also when it is made of blanks and slashes.

A handle asks a service for the keys of its interface, for one of these keys, or for the addresses
behind another one. All of this is put behind its own address and a slash. So the form of the
address is the form of the URL, and a blank at the end of the one comes before the slash in the
other.

To make a handle is to ask for a number, for a task, and to count handles, for a thread. Neither
of them requests anything. Questions were dealt with for tasks, and a thread that answers one
does what a task does at a site that agrees with its world. There is one for each world: what a
world does not have, the clock and the right to fetch, can be made up.

## Main definitions

* `Addressed`: The addresses in the lines of a listing, said without trimming.
* `Handled`: What became of the handles when the listing came to this.
* `Question.Adds`: What a question puts behind the path of a handle.
* `Request.Below`: A request for what is below a hardware address.

## Theorems

* `addressed_iff`: Nothing else is in the lines.
* `Addressed.proper_iff`, `Addressed.eq_map`: Listings without hidden blanks.
* `handled_among`, `Blocking.handled_run`: The handles that are made.
* `below_question`, `Blocking.below_question`: The requests of a handle.
* `interfaces_are_those_listed`: Both ways of waiting.
* `slash_hides_a_blank_in_a_line`: A listing with lines of the third form.
-/

namespace Imds

open Blocking (World)

/-- The hardware addresses in the lines of a listing. A line gives one or none, as its form has
    it. -/
inductive Addressed : List String → List String → Prop where
  | nil : Addressed [] []
  | vacant {lines macs : List String} (line : String) (hline : Text.Vacant line)
      (hrest : Addressed lines macs) : Addressed (line :: lines) macs
  | tidy {lines macs : List String} (line mac : String) (hline : Text.Tidy line)
      (hmac : Text.Strips line mac) (hrest : Addressed lines macs) :
      Addressed (line :: lines) (mac :: macs)
  | ragged {lines macs : List String} (line mac : String) (hline : Text.Ragged line)
      (hmac : Text.Strips line mac) (hrest : Addressed lines macs) :
      Addressed (line :: lines) (mac :: macs)

/-- What became of the handles when the listing came to this: the failure of the listing, no
    handle if there is no listing, or one handle for each address in the lines of the body that
    came. -/
inductive Handled {ν : Type} (mac : ν → String) (came : Option String → Prop) :
    Except Failure (Option (List String)) → Except Failure (List ν) → Prop where
  | failed (failure : Failure) : Handled mac came (.error failure) (.error failure)
  | absent (hcame : came none) : Handled mac came (.ok none) (.ok [])
  | body (body : String) (lines : List String) (nics : List ν) (hcame : came (some body))
      (hlines : Text.LinesOf body lines) (hmacs : Addressed lines (nics.map mac)) :
      Handled mac came (.ok (some lines)) (.ok nics)

/-- What a question puts behind the path of a handle: nothing, for the keys, if it needs them; the
    key that is asked for; or an address, below a key of its own. -/
inductive Question.Adds (q : Question) : String → Prop where
  | keys (hneeded : q = .keys ∨ q.key?.isSome = true) : q.Adds ""
  | key {key : String} (hkey : q.key? = some key) : q.Adds key
  | associations {address : String} (hq : q = .associations address) :
      q.Adds ("ipv4-associations/" ++ address)

/-- A request for what is below a hardware address: for a token, or a read of the path of the
    handle with something behind it that the question adds. -/
inductive Request.Below (mac : String) (q : Question) (request : Request) : Prop where
  | token (base : String) (hmethod : request.method = ⟨"PUT"⟩)
      (hurl : request.url = base ++ "/latest/api/token")
  | read (base added : String) (hadded : q.Adds added) (hmethod : request.method = ⟨"GET"⟩)
      (hurl : request.url =
        base ++ "/latest/meta-data/network/interfaces/macs/" ++ mac ++ "/" ++ added)

/-! ### Lines -/

theorem macsOfLines_cons (line : String) (lines : List String) :
    macsOfLines (line :: lines) =
      if Text.strip line = "" then macsOfLines lines else Text.strip line :: macsOfLines lines := by
  rw [macsOfLines, List.map_cons, List.filter_cons]
  by_cases hempty : Text.strip line = ""
  · rw [if_pos hempty, if_neg (fun h => (of_decide_eq_true h) hempty)]
    rfl
  · rw [if_neg hempty, if_pos (decide_eq_true (p := ¬ macOfLine line = "") hempty)]
    rfl

/-- Nothing else is in the lines. -/
theorem addressed_iff {lines macs : List String} :
    Addressed lines macs ↔ macs = macsOfLines lines := by
  constructor
  · intro h
    induction h with
    | nil => rfl
    | vacant line hline hrest ih => rw [macsOfLines_cons, if_pos hline.strip_eq, ih]
    | tidy line mac hline hmac hrest ih =>
        rw [macsOfLines_cons, if_neg hline.proper_strip.ne_empty, ih, Text.strips_iff.1 hmac]
    | ragged line mac hline hmac hrest ih =>
        rw [macsOfLines_cons, if_neg hline.strip_ne_empty, ih, Text.strips_iff.1 hmac]
  · rintro rfl
    induction lines with
    | nil => exact .nil
    | cons line lines ih =>
        have hmac : Text.Strips line (Text.strip line) := Text.strips_iff.2 rfl
        rw [macsOfLines_cons]
        rcases Text.vacant_or_tidy_or_ragged line with hline | hline | hline
        · rw [if_pos hline.strip_eq]
          exact .vacant line hline ih
        · rw [if_neg hline.proper_strip.ne_empty]
          exact .tidy line _ hline hmac ih
        · rw [if_neg hline.strip_ne_empty]
          exact .ragged line _ hline hmac ih

namespace Addressed

variable {lines macs : List String}

/-- The addresses are all proper just when no line hides a blank. -/
theorem proper_iff (h : Addressed lines macs) :
    (∀ line ∈ lines, ¬ Text.Ragged line) ↔ ∀ mac ∈ macs, Text.Proper mac := by
  induction h with
  | nil => exact ⟨fun _ => List.forall_mem_nil _, fun _ => List.forall_mem_nil _⟩
  | vacant line hline hrest ih =>
      have hplain : ¬ Text.Ragged line := fun hragged => hragged.strip_ne_empty hline.strip_eq
      rw [List.forall_mem_cons, ih]
      exact and_iff_right hplain
  | tidy line mac hline hmac hrest ih =>
      have hproper := hline.proper_strip
      have hplain : ¬ Text.Ragged line := fun hragged => hragged.not_proper hproper
      rw [List.forall_mem_cons, List.forall_mem_cons, ih, Text.strips_iff.1 hmac]
      exact and_congr_left' (iff_of_true hplain hproper)
  | ragged line mac hline hmac hrest ih =>
      rw [List.forall_mem_cons, List.forall_mem_cons, Text.strips_iff.1 hmac]
      exact iff_of_false (fun h => h.1 hline) (fun h => hline.not_proper h.1)

/-- If no line hides a blank, there is one address for each line that is not bare. -/
theorem eq_map (h : Addressed lines macs) (hplain : ∀ line ∈ lines, ¬ Text.Ragged line) :
    macs = (lines.filter (fun line => !Text.isBare line)).map macOfLine := by
  induction h with
  | nil => rfl
  | vacant line hline hrest ih =>
      rw [List.filter_cons_of_neg (by rw [hline.isBare]; exact Bool.false_ne_true)]
      exact ih (List.forall_mem_cons.1 hplain).2
  | tidy line mac hline hmac hrest ih =>
      rw [List.filter_cons_of_pos (by rw [hline.isBare]; rfl), List.map_cons,
        ← ih (List.forall_mem_cons.1 hplain).2, Text.strips_iff.1 hmac]
      rfl
  | ragged line mac hline hmac hrest ih =>
      exact absurd hline (List.forall_mem_cons.1 hplain).1

-- No address is empty, so that the proper ones are those that are left as they are.
theorem proper_iff_kept (h : Addressed lines macs) {mac : String} (hmem : mac ∈ macs) :
    Text.Proper mac ↔ macOfLine mac = mac := by
  rw [addressed_iff.1 h, macsOfLines, List.mem_filter] at hmem
  rw [Text.proper_iff]
  exact and_iff_right (of_decide_eq_true hmem.2)

end Addressed

/-! ### Handles -/

-- What the handles are made of is known from the listing as it is.
theorem Handled.of_views {ν : Type} {mac : ν → String} {came : Option String → Prop}
    {document : Except Failure (Option String)} {listed : Except Failure (Option (List String))}
    {made : Except Failure (List ν)} (h : Views id came document listed)
    (hmade : made.map (List.map mac) = listed.map (fun lines => macsOfLines (lines.getD []))) :
    Handled mac came listed made := by
  cases made with
  | error failure =>
      cases h with
      | failed failure' =>
          cases hmade
          exact .failed failure
      | absent hcame => cases hmade
      | body body lines hcame hlines => cases hmade
  | ok nics =>
      cases h with
      | failed failure => cases hmade
      | absent hcame =>
          have hnone : nics.map mac = [] := Except.ok.inj hmade
          rw [List.map_eq_nil_iff.1 hnone]
          exact .absent hcame
      | body body lines hcame hlines =>
          have hmacs : nics.map mac = macsOfLines lines := Except.ok.inj hmade
          exact .body body lines nics hcame hlines (addressed_iff.2 hmacs)

section Tasks

variable {c : Client}

-- A task asks for a number for each handle, and for nothing else.
theorem abides_mapM_ofMac (macs : List String) (d : List Said) :
    (macs.mapM (fun mac => (liftM (Nic.ofMac c mac) : Act Nic))).Abides
      (fun _ query => query = .attach)
      (fun _ r => ∃ nics, r = .ok nics ∧ nics.map Nic.mac = macs ∧ ∀ n ∈ nics, n.client = c)
      d := by
  induction macs generalizing d with
  | nil => exact Act.abides_pure ⟨[], rfl, rfl, List.forall_mem_nil _⟩
  | cons mac macs ih =>
      rw [List.mapM_cons]
      refine Act.abides_bind (Act.abides_lift ⟨rfl, fun record => ?_⟩)
      refine Act.abides_bind (Plan.Abides.mono (ih _) (fun _ _ hq => hq) ?_)
      rintro e r ⟨nics, rfl, hmacs, hclient⟩
      refine ⟨⟨c, mac, record⟩ :: nics, rfl, ?_, List.forall_mem_cons.2 ⟨rfl, hclient⟩⟩
      rw [List.map_cons, hmacs]

theorem handled_among (c : Client) (w : Surroundings) (d : List Said) :
    let listed := (c.fetchLines Listing.interfaceMacs.path).among w d
    let made := c.interfaces.among w d
    Handled Nic.mac (fun found => JustBrought c Listing.interfaceMacs.path found listed.2)
        listed.1 made.1 ∧
      Since (fun query => query = .attach) listed.2 made.2 ∧
      ∀ nics, made.1 = .ok nics → ∀ n ∈ nics, n.client = c := by
  intro listed made
  have hviews := views_of_document_among c Listing.interfaceMacs.path w d
  rw [← hviews.1] at hviews
  have hlisting : (c.listing .interfaceMacs).among w d = _ :=
    Act.among_map w (c.fetchLines Listing.interfaceMacs.path) (fun lines => lines.getD []) d
  rcases hlines : (c.fetchLines Listing.interfaceMacs.path).among w d with ⟨result, e⟩
  have hlisted : listed = (result, e) := hlines
  rw [hlines] at hlisting hviews
  rw [hlisted]
  cases result with
  | error failure =>
      have hmade : made = (.error failure, e) := Act.among_bind_error hlisting
      rw [hmade]
      exact ⟨.of_views hviews.2 rfl, .refl _ e, fun _ h => by cases h⟩
  | ok lines =>
      have hmade : made = Act.among w _ e := Act.among_bind_ok hlisting
      rcases Plan.abides_among w (Plan.Abides.since (.refl _ e)
        (abides_mapM_ofMac (c := c) (macsOfLines (lines.getD [])) e)) with
        ⟨hsince, nics, hnics, hmacs, hclient⟩
      rw [hmade]
      refine ⟨.of_views hviews.2 ?_, hsince, fun nics' h => ?_⟩
      · exact (congrArg (Except.map (List.map Nic.mac)) hnics).trans (congrArg Except.ok hmacs)
      · cases hnics.symm.trans h
        exact hclient

end Tasks

/-! ### Questions -/

-- One request more went out, or none.
theorem sent_answer (query : Query) (s : Site) : (query.answer s).2.sent = s.sent ∨
    ∃ channel request, query = .send channel request ∧
      (query.answer s).2.sent = ⟨channel, request, s.now⟩ :: s.sent := by
  cases query with
  | send channel request =>
      simp only [Query.answer, Site.exchange]
      by_cases hshut : s.isShut channel
      · rw [if_pos hshut]
        exact Or.inl rfl
      · rw [if_neg hshut]
        exact Or.inr ⟨channel, request, rfl, rfl⟩
  | pause length =>
      rcases Plan.answer_pause_eq length s with ⟨time, hpause⟩
      rw [hpause]
      exact Or.inl rfl
  | enter record =>
      simp only [Query.answer]
      by_cases hkeys : (s.records record).keys.isSome
      · rw [if_pos hkeys]
        exact Or.inl rfl
      · rw [if_neg hkeys]
        exact Or.inl rfl
  | _ => exact Or.inl rfl

section Questions

variable {n : Nic} {q : Question} {request : Request}

-- The requests of the fetch of a path that a question adds something to.
theorem Request.IsFor.below {mac added : String} (h : request.IsFor (Nic.pathOf mac ++ added))
    (hadded : q.Adds added) : request.Below mac q := by
  rcases h with ⟨base, lifetime, rfl⟩ | ⟨base, token, rfl⟩
  · exact .token base rfl rfl
  · refine .read base added hadded (Request.method_forPath _ _ _) ?_
    have hpath : Nic.pathOf mac = "/latest/meta-data/network/interfaces/macs/" ++ mac ++ "/" := rfl
    rw [Request.url_forPath, hpath]
    simp only [String.append_assoc]

-- A question that needs the keys fetches only what it may.
theorem Nic.Targets.below {d : List Said} {path : String} (h : n.Targets q d path)
    (hneeded : q = .keys ∨ q.key?.isSome = true) (hfor : request.IsFor path) :
    request.Below n.mac q := by
  cases h with
  | listing hright =>
      refine Request.IsFor.below ?_ (.keys hneeded)
      rwa [String.append_empty]
  | value key keys hkey htold hlisted => exact hfor.below (.key hkey)
  | associations address hq =>
      refine Request.IsFor.below ?_ (.associations hq)
      rwa [← String.append_assoc]

-- What a question asks, without what it said before.
theorem abides_below (n : Nic) (q : Question) : (q.act n).Abides
    (fun _ query => ∀ channel request, query = .send channel request → request.Below n.mac q)
    (fun _ _ => True) [] := by
  have hkeys : q = .keys ∨ q.key?.isSome = true → (q.act n).Abides
      (fun _ query => ∀ channel request, query = .send channel request → request.Below n.mac q)
      (fun _ _ => True) [] := by
    intro hneeded
    refine Plan.Abides.mono (n.abides_question q) (fun d query hmay channel request h => ?_)
      (fun _ _ _ => trivial)
    rcases hmay.send channel request h with ⟨-, path, htarget, hfor⟩
    exact htarget.below hneeded hfor
  cases q with
  | mac => exact Act.abides_pure trivial
  | keys => exact hkeys (Or.inl rfl)
  | value key => exact hkeys (Or.inr rfl)
  | scalar v => exact hkeys (Or.inr rfl)
  | lines key => exact hkeys (Or.inr rfl)
  | listing l => exact hkeys (Or.inr rfl)
  | associations address =>
      -- The keys are not asked for.
      refine Act.abides_map (Act.abides_bind (Plan.Abides.mono
        (Client.tells_fetchItems (n.associationPath address) n.client.attempts false)
        (fun d query hasks channel request h => ?_) (fun e r _ => ?_)))
      · have hfor := hasks.2 channel request h
        rw [Nic.associationPath, Nic.path, String.append_assoc] at hfor
        exact hfor.below (.associations rfl)
      · cases r <;> exact trivial

/-- The requests of a handle, whoever answers them. -/
theorem below_question (n : Nic) (q : Question) (w : Surroundings) {x : Exchange}
    (hx : x ∈ exchanges ((q.act n).among w []).2) : x.request.Below n.mac q := by
  rcases (Plan.abides_among w (Plan.Abides.since (.refl _ []) (abides_below n q))).1 with
    ⟨said, hsaid, hall⟩
  have hdialogue : ((q.act n).among w []).2 = said := hsaid
  rw [hdialogue] at hx
  exact hall _ (mem_exchanges.1 hx) x.channel x.request rfl

-- At a site they are added to those that went out before.
theorem below_run (n : Nic) (q : Question) (s : Site) :
    ∃ more, ((q.act n).run s).2.sent = more ++ s.sent ∧ ∀ x ∈ more, x.request.Below n.mac q := by
  refine Plan.Abides.run_preserves (abides_below n q)
    (P := fun s' => ∃ more, s'.sent = more ++ s.sent ∧ ∀ x ∈ more, x.request.Below n.mac q) ?_
    ⟨[], rfl, List.forall_mem_nil _⟩
  rintro s' query hquery ⟨more, hmore, hall⟩
  rcases sent_answer query s' with hsame | ⟨channel, request, rfl, hsent⟩
  · exact ⟨more, hsame.trans hmore, hall⟩
  · refine ⟨⟨channel, request, s'.now⟩ :: more, ?_,
      List.forall_mem_cons.2 ⟨hquery channel request rfl, hall⟩⟩
    rw [hsent, hmore, List.cons_append]

/-- The request of a handle whose address is proper has one slash between this address and what
    comes behind it, and nothing else. -/
theorem Request.Below.joins {mac : String} (h : request.Below mac q) (hmac : Text.Proper mac)
    (hmethod : request.method = ⟨"GET"⟩) : ∃ base added, q.Adds added ∧
      Text.Joins (base ++ "/latest/meta-data/network/interfaces/macs/" ++ mac) added
        request.url := by
  cases h with
  | token base hput hurl =>
      exact absurd (hmethod.symm.trans hput) (by decide)
  | read base added hadded _ hurl =>
      refine ⟨base, added, hadded, ?_⟩
      rw [hurl]
      exact hmac.joins _ added

end Questions

/-! ### Threads -/

namespace Blocking

variable {c : Client}

-- A thread counts its handles, and does nothing else.
theorem run_mapM_ofMac (macs : List String) (w : World) : ∃ nics w',
    (macs.mapM (fun mac => (liftM (Nic.ofMac c mac) : Direct Nic))).run w = (.ok nics, w') ∧
      nics.map Nic.mac = macs ∧ w'.posted = w.posted ∧
      ∀ m ∈ nics, m.client = c ∧ m.path = Imds.Nic.pathOf m.mac := by
  induction macs generalizing w with
  | nil => exact ⟨[], w, rfl, rfl, rfl, List.forall_mem_nil _⟩
  | cons mac macs ih =>
      rcases ih ((Nic.ofMac c mac).runIn w).2 with ⟨nics, w', hrun, hmacs, hposted, hnics⟩
      refine ⟨((Nic.ofMac c mac).runIn w).1 :: nics, w', ?_, ?_, hposted,
        List.forall_mem_cons.2 ⟨⟨rfl, rfl⟩, hnics⟩⟩
      · rw [List.mapM_cons, run_lift_bind, run_direct_bind, hrun]
        rfl
      · rw [List.map_cons, hmacs]
        rfl

theorem handled_run (c : Client) (w : World) :
    let listed := (fetchLines c Listing.interfaceMacs.path).run w
    let made := (interfaces c).run w
    Handled Nic.mac (fun found => JustBrought c Listing.interfaceMacs.path found listed.2)
        listed.1 made.1 ∧
      made.2.posted = listed.2.posted ∧
      ∀ nics, made.1 = .ok nics →
        ∀ m ∈ nics, m.client = c ∧ m.path = Imds.Nic.pathOf m.mac := by
  intro listed made
  have hviews : ((fetchLines c Listing.interfaceMacs.path).run w).2 =
      ((fetchDocument c Listing.interfaceMacs.path).run w).2 ∧ _ := views_of_document_of_thread
  rw [← hviews.1] at hviews
  have hlisting : (several c "network/interfaces/macs/").run w = _ :=
    blocking_run_map (fetchLines c Listing.interfaceMacs.path) (fun lines => lines.getD [])
  rcases hlines : (fetchLines c Listing.interfaceMacs.path).run w with ⟨result, w'⟩
  have hlisted : listed = (result, w') := hlines
  rw [hlines] at hlisting hviews
  rw [hlisted]
  cases result with
  | error failure =>
      have hmade : made = (.error failure, w') := by
        simp only [made, interfaces, run_direct_bind, hlisting]
        rfl
      rw [hmade]
      exact ⟨.of_views hviews.2 rfl, rfl, fun _ h => by cases h⟩
  | ok lines =>
      rcases run_mapM_ofMac (c := c) (macsOfLines (lines.getD [])) w' with
        ⟨nics, last, hrun, hmacs, hposted, hnics⟩
      have hmade : made = (.ok nics, last) := by
        simp only [made, interfaces, run_direct_bind, hlisting]
        exact hrun
      rw [hmade]
      refine ⟨.of_views hviews.2 (congrArg Except.ok hmacs), hposted, fun nics' h => ?_⟩
      cases h
      exact hnics

/-- The requests of a handle that a thread has. The thread does what a task does at a site that
    agrees with its world. -/
theorem below_question {m : Nic} (hpath : m.path = Imds.Nic.pathOf m.mac) (q : Question)
    (w : World) : ∃ more, ((question m q).run w).2.posted = more ++ w.posted ∧
      ∀ x ∈ more, x.request.Below m.mac q := by
  rcases m with ⟨client, mac, path, handle⟩
  have hpath : path = Imds.Nic.pathOf mac := hpath
  subst hpath
  rcases exists_agrees w with ⟨s, hagrees⟩
  rcases matches_question ⟨client, mac, handle⟩ q s w hagrees with ⟨-, hafter⟩
  rcases below_run ⟨client, mac, handle⟩ q s with ⟨more, hmore, hall⟩
  refine ⟨more.map Sent.posted, ?_, List.forall_mem_map.2 hall⟩
  rw [hagrees.posted, ← List.map_append, ← hmore]
  exact hafter.posted

end Blocking

/-- The interfaces of an instance, whatever the service lists. A listing that fails makes the whole
    fail; otherwise there is a handle for each address in its lines, in their order, and after the
    listing nothing is requested. All addresses are fit to stand before a slash, and are left as
    they are when they are stripped again, just when no line hides a blank behind its slashes; and
    then the lines with an address are those that are not made of blanks and slashes only. What
    is requested by a handle, besides tokens, is below its address, with one slash behind this if
    it is fit for that. -/
theorem interfaces_are_those_listed (c : Client) :
    (∀ lines macs, Addressed lines macs →
      ((∀ line ∈ lines, ¬ Text.Ragged line) ↔ ∀ mac ∈ macs, Text.Proper mac) ∧
      (∀ mac ∈ macs, Text.Proper mac ↔ macOfLine mac = mac) ∧
      ((∀ line ∈ lines, ¬ Text.Ragged line) →
        macs = (lines.filter (fun line => !Text.isBare line)).map macOfLine)) ∧
    (∀ (w : Surroundings) (d : List Said),
      let listed := (c.fetchLines "/latest/meta-data/network/interfaces/macs/").among w d
      let made := c.interfaces.among w d
      Handled Nic.mac (fun found =>
          JustBrought c "/latest/meta-data/network/interfaces/macs/" found listed.2)
          listed.1 made.1 ∧
        Since (fun query => query = .attach) listed.2 made.2 ∧
        ∀ nics, made.1 = .ok nics → ∀ n ∈ nics, n.client = c) ∧
    (∀ s : Site,
      let told := c.interfaces.among s.voice []
      c.interfaces.run s = (told.1, s.hear told.2) ∧
        c.interfaces.drive s = (told.1, s.hear told.2)) ∧
    (∀ (n : Nic) (q : Question) (w : Surroundings),
      ∀ x ∈ exchanges ((q.act n).among w []).2, x.request.Below n.mac q) ∧
    (∀ w : Blocking.World,
      let listed := (Blocking.fetchLines c "/latest/meta-data/network/interfaces/macs/").run w
      let made := (Blocking.interfaces c).run w
      Handled Blocking.Nic.mac (fun found =>
          Blocking.JustBrought c "/latest/meta-data/network/interfaces/macs/" found listed.2)
          listed.1 made.1 ∧
        made.2.posted = listed.2.posted ∧
        ∀ nics, made.1 = .ok nics →
          ∀ m ∈ nics, m.client = c ∧ ∀ (q : Question) (w' : Blocking.World),
            ∃ more, ((Blocking.question m q).run w').2.posted = more ++ w'.posted ∧
              ∀ x ∈ more, x.request.Below m.mac q) ∧
    ∀ (mac : String) (q : Question) (request : Request),
      request.Below mac q → Text.Proper mac → request.method = ⟨"GET"⟩ →
        ∃ base added, q.Adds added ∧
          Text.Joins (base ++ "/latest/meta-data/network/interfaces/macs/" ++ mac) added
            request.url := by
  refine ⟨fun lines macs h => ⟨h.proper_iff, fun _ => h.proper_iff_kept, h.eq_map⟩,
    handled_among c, fun s => ⟨Plan.run_eq_among s _, Plan.drive_eq_among s _⟩,
    fun n q w x => below_question n q w, fun w => ?_, fun mac q request h => h.joins⟩
  rcases Blocking.handled_run c w with ⟨hhandled, hposted, hmade⟩
  refine ⟨hhandled, hposted, fun nics hnics m hm => ⟨(hmade nics hnics m hm).1, fun q w' => ?_⟩⟩
  exact Blocking.below_question (hmade nics hnics m hm).2 q w'

/-- A listing with lines that hide a blank. One of the addresses ends in a blank, and would be
    another one if it were stripped again; the other one comes of a line without anything but
    blanks and slashes. The blank stands in the URL of what is asked for next. -/
theorem slash_hides_a_blank_in_a_line :
    let c : Client := ⟨⟨.fixed "http://host", .flag, ⟨1, Duration.zero⟩, 21600, 0⟩, 0⟩
    let service : List Blocking.Posted → Except Fault String := fun _ => .ok "aa /\n/ /"
    let d := Desk.initial service Table.empty false (fun _ => Table.empty)
    let b := Blocking.Desk.initial service Table.empty false (fun _ => Table.empty)
    (d.perform (.interfaces c)).1 = .ok (.list ["aa ", "/ "]) ∧
      (b.perform (.interfaces c)).1 = .ok (.list ["aa ", "/ "]) ∧
      ¬ Text.Proper "aa " ∧ macOfLine "aa " = "aa" ∧ Text.isBare "/ /" = true ∧
      (d.work [.interfaces c, .question 0 .keys]).2.site.sent.head?.map (fun x => x.request.url) =
        some "http://host/latest/meta-data/network/interfaces/macs/aa /" := by
  intro c service d b
  refine ⟨?_, rfl, fun h => ?_, rfl, rfl, ?_⟩
  · simp only [Desk.perform, Desk.drive, Act.drive, Plan.drive_eq_run]
    rfl
  · cases (h.last ' ' (by decide)).1
  · simp only [Desk.work, Desk.perform, Desk.drive, Act.drive, Plan.drive_eq_run]
    decide +kernel

end Imds
