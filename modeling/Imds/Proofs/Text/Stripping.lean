import Imds.Proofs.Text.Trimming

/-!
# What Is Left of a Padded Text

Names in a listing and addresses in a setting come with blanks around them and slashes behind
them, and are put before a slash in a URL. They are stripped: the blanks on either end go first
and the slashes at the end go second, each once. To take something off can bring something else
to the end, so it has to be said when what is left is fit to stand before a slash.

The end of the text decides. Seen from there a text has blanks, slashes before these, and
something before the slashes. If that is a character of neither kind, the text is tidy, and what
is left is proper: it is there, it neither begins nor ends in a blank, and it does not end in a
slash. If it is nothing but blanks, the text is vacant and nothing is left. If it is a blank
behind other characters, the text is ragged: the blank was hidden by the slashes and is what the
rest ends in. There is no fourth case, and no text is a case of two, so that each form of a text
is the same as a property of what is left of it.

A text that is all blanks and slashes can be ragged, which is why such texts do not always
vanish.

## Main definitions

* `Cuts`, `Strips`: What is left without slashes at the end, and without blanks before that.
* `strip`: Both trims.
* `Proper`: A text that is fit to stand before a slash.
* `Tidy`, `Vacant`, `Ragged`: The forms of a text.
* `isBare`: Whether a text is made of blanks and slashes.
* `Joins`: A text put together of two with one slash between them.

## Theorems

* `strips_iff`: What is left, said without trimming.
* `vacant_or_tidy_or_ragged`: Each text has a form.
* `strip_eq_empty_iff`, `proper_strip_iff`, `blank_strip_iff`: What is left, by the form.
* `proper_iff`: The proper texts are those that stripping leaves as they are.
* `Vacant.isBare`, `Tidy.isBare`: Of texts that are not ragged, the bare ones vanish.
* `Proper.joins`: Nothing but one slash comes behind a proper text.
-/

namespace Imds

namespace Text

/-- A text is what is left of another one without the slashes at its end. -/
structure Cuts (text cut : String) : Prop where
  before : ∃ slashes, text.toList = cut.toList ++ slashes ∧ ∀ c ∈ slashes, c = '/'
  last : ∀ c, cut.toList.getLast? = some c → c ≠ '/'

/-- A text is what is left of another one without the blanks on either end, and then without
    the slashes at its end. -/
def Strips (text left : String) : Prop := ∃ trimmed, Trims text trimmed ∧ Cuts trimmed left

/-- A text without the blanks on either end, and then without the slashes at its end. -/
def strip (text : String) : String := trimSlashes (trimBlank text)

/-- A text is fit to stand before a slash. -/
structure Proper (text : String) : Prop where
  ne_empty : text ≠ ""
  first : ∀ c, text.toList.head? = some c → isBlank c = false
  last : ∀ c, text.toList.getLast? = some c → isBlank c = false ∧ c ≠ '/'

/-- Behind something there are slashes, and behind these there are blanks. -/
def Ends (text : String) (front slashes : List Char) : Prop :=
  (∀ c ∈ slashes, c = '/') ∧
    ∃ back, text.toList = front ++ slashes ++ back ∧ ∀ c ∈ back, isBlank c = true

/-- Slashes and blanks at the end are in this order, behind a character of neither kind. -/
def Tidy (text : String) : Prop :=
  ∃ front last slashes, Ends text (front ++ [last]) slashes ∧ isBlank last = false ∧ last ≠ '/'

/-- There are blanks, then slashes, then blanks, and nothing else. -/
def Vacant (text : String) : Prop :=
  ∃ front slashes, Ends text front slashes ∧ ∀ c ∈ front, isBlank c = true

/-- A blank is hidden behind the slashes at the end, and it is not one of those at the
    beginning. -/
def Ragged (text : String) : Prop :=
  ∃ front last slashes, Ends text (front ++ [last]) slashes ∧ isBlank last = true ∧
    slashes ≠ [] ∧ ∃ c ∈ front, isBlank c = false

/-- Whether a text is made of blanks and slashes. -/
def isBare (text : String) : Bool := text.toList.all (fun c => isBlank c || c == '/')

/-- A text is put together of two: the first one is there and ends neither in a blank nor in a
    slash, and the second one comes behind one slash. -/
def Joins (front rest text : String) : Prop :=
  ∃ before last, front.toList = before ++ [last] ∧ isBlank last = false ∧ last ≠ '/' ∧
    text.toList = before ++ last :: '/' :: rest.toList

/-! ### Without trimming -/

theorem isBlank_slash : isBlank '/' = false := by decide

theorem isSlash_iff {c : Char} : isSlash c = true ↔ c = '/' := beq_iff_eq

theorem cuts_trimSlashes (text : String) : Cuts text (trimSlashes text) := by
  rcases trimRight_spec isSlash text.toList with ⟨⟨slashes, htext, hslashes⟩, hlast⟩
  have hchars : (trimSlashes text).toList = trimRight isSlash text.toList := String.toList_ofList
  refine ⟨⟨slashes, ?_, fun c hc => isSlash_iff.1 (hslashes c hc)⟩, fun c hc heq => ?_⟩
  · rw [hchars]
    exact htext
  · rw [hchars] at hc
    have hnot := hlast c hc
    rw [isSlash_iff.2 heq] at hnot
    cases hnot

theorem Cuts.eq_trimSlashes {text cut : String} (h : Cuts text cut) : cut = trimSlashes text := by
  rcases h.before with ⟨slashes, htext, hslashes⟩
  rw [← String.toList_inj, trimSlashes, String.toList_ofList, htext]
  refine (trimRight_append (fun c hc => isSlash_iff.2 (hslashes c hc)) (fun c hc => ?_)).symm
  exact Bool.eq_false_iff.2 (fun hslash => h.last c hc (isSlash_iff.1 hslash))

theorem strips_iff {text left : String} : Strips text left ↔ left = strip text := by
  constructor
  · rintro ⟨trimmed, htrims, hcuts⟩
    rw [hcuts.eq_trimSlashes, htrims.eq_trimBlank, strip]
  · rintro rfl
    exact ⟨trimBlank text, trims_trimBlank text, cuts_trimSlashes _⟩

theorem trimBlank_eq_empty_iff {text : String} :
    trimBlank text = "" ↔ ∀ c ∈ text.toList, isBlank c = true := by
  constructor
  · intro h c hc
    rcases (trims_trimBlank text).between with ⟨front, back, htext, hfront, hback⟩
    rw [htext, h] at hc
    rcases List.mem_append.1 hc with hc | hc
    · exact hfront c ((List.mem_append.1 hc).resolve_right List.not_mem_nil)
    · exact hback c hc
  · intro h
    have htrims : Trims text "" := by
      refine ⟨⟨text.toList, [], ?_, h, List.forall_mem_nil _⟩, fun c hc => ?_, fun c hc => ?_⟩
      · rw [List.append_nil]
        exact (List.append_nil _).symm
      · cases hc
      · cases hc
    exact htrims.eq_trimBlank.symm

/-- What is left does not begin in a blank. -/
theorem first_strip (text : String) :
    ∀ c, (strip text).toList.head? = some c → isBlank c = false := by
  intro c hc
  rcases (cuts_trimSlashes (trimBlank text)).before with ⟨slashes, htrimmed, -⟩
  refine (trims_trimBlank text).first c ?_
  rw [htrimmed, List.head?_append]
  exact congrArg (fun first => first.or slashes.head?) hc

/-- What is left does not end in a slash. -/
theorem last_strip (text : String) : ∀ c, (strip text).toList.getLast? = some c → c ≠ '/' :=
  (cuts_trimSlashes (trimBlank text)).last

theorem trimSlashes_eq_self {text : String}
    (h : ∀ c, text.toList.getLast? = some c → c ≠ '/') : trimSlashes text = text :=
  (Cuts.eq_trimSlashes ⟨⟨[], (List.append_nil _).symm, List.forall_mem_nil _⟩, h⟩).symm

/-! ### Forms -/

-- What is dropped from the front is not the end, unless all of it is dropped.
theorem getLast?_trimLeft {p : Char → Bool} {cs : List Char} (h : ∃ c ∈ cs, p c = false) :
    (trimLeft p cs).getLast? = cs.getLast? := by
  rcases (trimLeft_spec p cs).1 with ⟨front, hcs, hfront⟩
  cases hlast : (trimLeft p cs).getLast? with
  | none =>
      rcases h with ⟨c, hc, hnot⟩
      rw [hcs, List.getLast?_eq_none_iff.1 hlast, List.append_nil] at hc
      rw [hfront c hc] at hnot
      cases hnot
  | some c =>
      rw [hcs, List.getLast?_append, hlast]
      rfl

theorem trimLeft_eq_nil {p : Char → Bool} {cs : List Char} (h : ∀ c ∈ cs, p c = true) :
    trimLeft p cs = [] := by
  rw [← List.append_nil cs]
  exact trimLeft_append h (fun c hc => by cases hc)

-- What stands before the slashes is left, but for the blanks in front of it.
theorem strip_of_ends {text : String} {front slashes : List Char} (h : Ends text front slashes)
    (hshown : slashes = [] → ∀ c, front.getLast? = some c → isBlank c = false)
    (hlast : ∀ c, front.getLast? = some c → c ≠ '/') :
    strip text = String.ofList (trimLeft isBlank front) := by
  rcases h with ⟨hslashes, back, htext, hback⟩
  rcases trimLeft_spec isBlank front with ⟨⟨blanks, hfront, hblanks⟩, hfirst⟩
  have hend : ∀ c, (trimLeft isBlank front).getLast? = some c → front.getLast? = some c := by
    intro c hc
    rw [hfront, List.getLast?_append, hc]
    rfl
  refine (strips_iff.1 ⟨String.ofList (trimLeft isBlank front ++ slashes), ⟨?_, ?_, ?_⟩,
    ⟨⟨slashes, ?_, hslashes⟩, ?_⟩⟩).symm
  · refine ⟨blanks, back, ?_, hblanks, hback⟩
    rw [String.toList_ofList, htext, ← List.append_assoc, ← hfront]
  · intro c hc
    rw [String.toList_ofList, List.head?_append] at hc
    cases hhead : (trimLeft isBlank front).head? with
    | some d =>
        rw [hhead] at hc
        cases hc
        exact hfirst c hhead
    | none =>
        rw [hhead] at hc
        rw [hslashes c (List.mem_of_mem_head? hc)]
        exact isBlank_slash
  · intro c hc
    rw [String.toList_ofList, List.getLast?_append] at hc
    cases hslash : slashes.getLast? with
    | some d =>
        rw [hslash] at hc
        cases hc
        rw [hslashes c (List.mem_of_getLast? hslash)]
        exact isBlank_slash
    | none =>
        rw [hslash] at hc
        exact hshown (List.getLast?_eq_none_iff.1 hslash) c (hend c hc)
  · rw [String.toList_ofList, String.toList_ofList]
  · intro c hc
    rw [String.toList_ofList] at hc
    exact hlast c (hend c hc)

-- If something is left, it ends where the slashes begin.
theorem getLast?_strip {text : String} {front slashes : List Char} {last : Char}
    (h : Ends text (front ++ [last]) slashes) (hshown : slashes = [] → isBlank last = false)
    (hlast : last ≠ '/') (hsome : ∃ c ∈ front ++ [last], isBlank c = false) :
    (strip text).toList.getLast? = some last := by
  have hconcat : (front ++ [last]).getLast? = some last := List.getLast?_concat
  rw [strip_of_ends h, String.toList_ofList, getLast?_trimLeft hsome, hconcat]
  · intro hnil c hc
    rw [hconcat] at hc
    cases hc
    exact hshown hnil
  · intro c hc
    rw [hconcat] at hc
    cases hc
    exact hlast

theorem Vacant.strip_eq {text : String} (h : Vacant text) : strip text = "" := by
  rcases h with ⟨front, slashes, hends, hfront⟩
  have hnone : trimLeft isBlank front = [] := trimLeft_eq_nil hfront
  cases slashes with
  | nil =>
      -- Then all of it counts as the blanks at the end.
      rcases hends with ⟨hslashes, back, htext, hback⟩
      have hall : Ends text [] [] := by
        refine ⟨hslashes, front ++ back, ?_, fun c hc => ?_⟩
        · rw [htext, List.append_nil, List.nil_append, List.nil_append]
        · exact (List.mem_append.1 hc).elim (hfront c) (hback c)
      exact strip_of_ends hall (fun _ c hc => by cases hc) (fun c hc => by cases hc)
  | cons slash slashes =>
      have hlast : ∀ c, front.getLast? = some c → c ≠ '/' := by
        intro c hc heq
        have hblank := hfront c (List.mem_of_getLast? hc)
        rw [heq, isBlank_slash] at hblank
        cases hblank
      rw [strip_of_ends hends (fun h => by cases h) hlast, hnone]

theorem Tidy.proper_strip {text : String} (h : Tidy text) : Proper (strip text) := by
  rcases h with ⟨front, last, slashes, hends, hblank, hslash⟩
  have hlast : (strip text).toList.getLast? = some last :=
    getLast?_strip hends (fun _ => hblank) hslash
      ⟨last, List.mem_append_right _ List.mem_cons_self, hblank⟩
  refine ⟨fun hempty => ?_, first_strip text, fun c hc => ?_⟩
  · rw [hempty] at hlast
    cases hlast
  · rw [hlast] at hc
    cases hc
    exact ⟨hblank, hslash⟩

theorem Ragged.getLast?_strip {text : String} (h : Ragged text) :
    ∃ c, (strip text).toList.getLast? = some c ∧ isBlank c = true := by
  rcases h with ⟨front, last, slashes, hends, hblank, hhidden, c, hc, hnot⟩
  refine ⟨last, Text.getLast?_strip hends (fun hnil => absurd hnil hhidden) (fun heq => ?_)
    ⟨c, List.mem_append_left _ hc, hnot⟩, hblank⟩
  rw [heq, isBlank_slash] at hblank
  cases hblank

theorem Ragged.strip_ne_empty {text : String} (h : Ragged text) : strip text ≠ "" := by
  intro hempty
  rcases h.getLast?_strip with ⟨c, hlast, -⟩
  rw [hempty] at hlast
  cases hlast

theorem Ragged.not_proper {text : String} (h : Ragged text) : ¬ Proper (strip text) := by
  intro hproper
  rcases h.getLast?_strip with ⟨c, hlast, hblank⟩
  rw [(hproper.last c hlast).1] at hblank
  cases hblank

/-- Each text has a form. The last character that is left decides, if one is left. -/
theorem vacant_or_tidy_or_ragged (text : String) : Vacant text ∨ Tidy text ∨ Ragged text := by
  have htrims := trims_trimBlank text
  rcases htrims.between with ⟨front, back, htext, hfront, hback⟩
  rcases (cuts_trimSlashes (trimBlank text)).before with ⟨slashes, htrimmed, hslashes⟩
  have htrimmed : (trimBlank text).toList = (strip text).toList ++ slashes := htrimmed
  have hends : Ends text (front ++ (strip text).toList) slashes := by
    refine ⟨hslashes, back, ?_, hback⟩
    rw [htext, htrimmed, ← List.append_assoc]
  rcases List.eq_nil_or_concat (strip text).toList with hnil | ⟨rest, last, hconcat⟩
  · rw [hnil, List.append_nil] at hends
    exact Or.inl ⟨front, slashes, hends, hfront⟩
  · rw [List.concat_eq_append] at hconcat
    have hlast : last ≠ '/' := last_strip text last (by rw [hconcat, List.getLast?_concat])
    rw [hconcat] at hends htrimmed
    rw [← List.append_assoc] at hends
    cases hblank : isBlank last with
    | false => exact Or.inr (Or.inl ⟨front ++ rest, last, slashes, hends, hblank, hlast⟩)
    | true =>
        refine Or.inr (Or.inr ⟨front ++ rest, last, slashes, hends, hblank, ?_, ?_⟩)
        · -- Without slashes the blank would have gone with the others.
          rintro rfl
          have hnot := htrims.last last (by
            rw [htrimmed, List.append_nil, List.getLast?_concat])
          rw [hblank] at hnot
          cases hnot
        · cases rest with
          | nil =>
              have hnot := htrims.first last (by rw [htrimmed]; rfl)
              rw [hblank] at hnot
              cases hnot
          | cons c rest =>
              exact ⟨c, List.mem_append_right _ List.mem_cons_self,
                htrims.first c (by rw [htrimmed]; rfl)⟩

/-! ### What is left -/

theorem proper_strip_iff {text : String} : Proper (strip text) ↔ Tidy text := by
  refine ⟨fun h => ?_, Tidy.proper_strip⟩
  rcases vacant_or_tidy_or_ragged text with hvacant | htidy | hragged
  · exact absurd hvacant.strip_eq h.ne_empty
  · exact htidy
  · exact absurd h hragged.not_proper

theorem strip_eq_empty_iff {text : String} : strip text = "" ↔ Vacant text := by
  refine ⟨fun h => ?_, Vacant.strip_eq⟩
  rcases vacant_or_tidy_or_ragged text with hvacant | htidy | hragged
  · exact hvacant
  · exact absurd h htidy.proper_strip.ne_empty
  · exact absurd h hragged.strip_ne_empty

theorem blank_strip_iff {text : String} :
    (∃ c, (strip text).toList.getLast? = some c ∧ isBlank c = true) ↔ Ragged text := by
  refine ⟨fun h => ?_, Ragged.getLast?_strip⟩
  rcases h with ⟨c, hlast, hblank⟩
  rcases vacant_or_tidy_or_ragged text with hvacant | htidy | hragged
  · rw [hvacant.strip_eq] at hlast
    cases hlast
  · rw [(htidy.proper_strip.last c hlast).1] at hblank
    cases hblank
  · exact hragged

theorem Proper.exists_last {text : String} (h : Proper text) :
    ∃ before last, text.toList = before ++ [last] ∧ isBlank last = false ∧ last ≠ '/' := by
  rcases List.eq_nil_or_concat text.toList with hnil | ⟨before, last, hconcat⟩
  · exact absurd (String.toList_eq_nil_iff.1 hnil) h.ne_empty
  · rw [List.concat_eq_append] at hconcat
    have hlast := h.last last (by rw [hconcat, List.getLast?_concat])
    exact ⟨before, last, hconcat, hlast.1, hlast.2⟩

/-- The proper texts are those that stripping leaves as they are, but for the empty one. -/
theorem proper_iff {text : String} : Proper text ↔ text ≠ "" ∧ strip text = text := by
  constructor
  · intro h
    -- Nothing stands before it, and nothing behind it.
    have htrims : Trims text text :=
      ⟨⟨[], [], (List.append_nil _).symm, List.forall_mem_nil _, List.forall_mem_nil _⟩, h.first,
        fun c hc => (h.last c hc).1⟩
    have hcuts : Cuts text text :=
      ⟨⟨[], (List.append_nil _).symm, List.forall_mem_nil _⟩, fun c hc => (h.last c hc).2⟩
    exact ⟨h.ne_empty, (strips_iff.1 ⟨text, htrims, hcuts⟩).symm⟩
  · rintro ⟨hne, hstrip⟩
    rcases strips_iff.2 hstrip.symm with ⟨trimmed, htrims, hcuts⟩
    rcases htrims.between with ⟨front, back, htext, -, -⟩
    rcases hcuts.before with ⟨slashes, htrimmed, -⟩
    -- Nothing can have been dropped, since nothing is missing in the end.
    have hsame : trimmed = text := by
      have hlength := congrArg List.length htext
      rw [htrimmed] at hlength
      simp only [List.length_append] at hlength
      have hnil : slashes = [] := List.eq_nil_of_length_eq_zero (by omega)
      rw [← String.toList_inj, htrimmed, hnil, List.append_nil]
    subst hsame
    exact ⟨hne, htrims.first, fun c hc => ⟨htrims.last c hc, hcuts.last c hc⟩⟩

/-! ### Bare texts -/

theorem isBare_iff {text : String} :
    isBare text = true ↔ ∀ c ∈ text.toList, isBlank c = true ∨ c = '/' := by
  rw [isBare, List.all_eq_true]
  refine forall₂_congr (fun c _ => ?_)
  rw [Bool.or_eq_true, beq_iff_eq]

theorem Vacant.isBare {text : String} (h : Vacant text) : isBare text = true := by
  rcases h with ⟨front, slashes, ⟨hslashes, back, htext, hback⟩, hfront⟩
  refine isBare_iff.2 (fun c hc => ?_)
  rw [htext] at hc
  rcases List.mem_append.1 hc with hc | hc
  · exact (List.mem_append.1 hc).imp (hfront c) (hslashes c)
  · exact Or.inl (hback c hc)

theorem Tidy.isBare {text : String} (h : Tidy text) : isBare text = false := by
  rcases h with ⟨front, last, slashes, ⟨-, back, htext, -⟩, hblank, hslash⟩
  refine Bool.eq_false_iff.2 (fun hbare => ?_)
  have hmem : last ∈ text.toList := by
    rw [htext, List.append_assoc, List.append_assoc]
    exact List.mem_append_right _ List.mem_cons_self
  rcases isBare_iff.1 hbare last hmem with hlast | hlast
  · rw [hblank] at hlast
    cases hlast
  · exact hslash hlast

/-! ### Before a slash -/

theorem Proper.joins {text : String} (h : Proper text) (before rest : String) :
    Joins (before ++ text) rest (before ++ text ++ "/" ++ rest) := by
  have hslash : "/".toList = ['/'] := rfl
  rcases h.exists_last with ⟨front, last, htext, hblank, hne⟩
  refine ⟨before.toList ++ front, last, ?_, hblank, hne, ?_⟩
  · rw [String.toList_append, htext, List.append_assoc]
  · simp only [String.toList_append, htext, hslash, List.append_assoc, List.cons_append,
      List.nil_append]

-- The text may stand at the beginning, with a path behind it.
theorem Proper.joins_path {text : String} (h : Proper text) (rest : String) :
    Joins text rest (text ++ ("/" ++ rest)) := by
  have hjoins := h.joins "" rest
  rwa [String.empty_append, String.append_assoc] at hjoins

end Text

end Imds
