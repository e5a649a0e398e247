import Imds.Proofs.Closing.Barrier
import Imds.Proofs.Fetch.Rounds
import Imds.Proofs.Text.Stripping

/-!
# Which Base a Path Is Put Behind

Every URL is a base with a path behind it, and a path begins with a slash. A base is usable if
nothing but this one slash comes between the two: it is there, no blank is at either end of it,
and no slash at its end.

The usual addresses are usable. A base that somebody gave is stripped, the blanks first and the
slashes second, so it does not begin in a blank and does not end in a slash whatever was given.
The rest depends on the form of what was given. Before it is stripped it is only looked at for
characters that are not blank, and a slash is one. So a base can be empty, namely when slashes
were all there was, and it can end in a blank, namely in one that slashes had hidden; and it is
usable in every other case.

A base is usable just when it would give itself. That the others do not has to do with the order
in which things are taken off, not with what is done to the result.

## Main definitions

* `Address.Selects`: The usual address that the second variable asks for.
* `Address.Resolves`: The base that the two variables come to, said without trimming.
* `Address.Fits`: What the first variable has to look like.

## Theorems

* `Address.resolves_iff`: Nothing else is resolved.
* `Address.Resolves.proper_iff`: Which values give a usable base.
* `Address.resolves_self_iff`: A base that gives itself.
* `joins_fetchBody`: The URLs of a fetch.
* `bases_are_usable`: All of this, for whatever finds the base.
* `slashes_hide_a_blank`: Values that do not fit.
-/

namespace Imds

namespace Address

/-- The usual address that the second variable asks for. -/
inductive Selects : Option String → Except Failure String → Prop where
  | unset : Selects none (.ok "http://169.254.169.254")
  | four {mode : String} (hmode : Text.sameFolded mode "ipv4" = true) :
      Selects (some mode) (.ok "http://169.254.169.254")
  | six {mode : String} (hmode : Text.sameFolded mode "ipv6" = true) :
      Selects (some mode) (.ok "http://[fd00:ec2::254]")
  | unknown {mode : String} (hfour : Text.sameFolded mode "ipv4" = false)
      (hsix : Text.sameFolded mode "ipv6" = false) :
      Selects (some mode) (.error (.configuration
        ("unknown AWS_EC2_METADATA_SERVICE_ENDPOINT_MODE: " ++ mode ++
          " (expected IPv4 or IPv6)")))

/-- The base that the two variables come to. The second one counts when the first one is unset
    or blank. -/
inductive Resolves : Option String → Option String → Except Failure String → Prop where
  | given {value base : String} (mode : Option String)
      (hshown : ∃ c ∈ value.toList, Text.isBlank c = false) (hstrips : Text.Strips value base) :
      Resolves (some value) mode (.ok base)
  | selected {endpoint mode : Option String} {r : Except Failure String}
      (hblank : ∀ value, endpoint = some value → ∀ c ∈ value.toList, Text.isBlank c = true)
      (hselects : Selects mode r) : Resolves endpoint mode r

/-- The first variable is unset or blank, or slashes and blanks at its end are in this order,
    behind a character of neither kind. -/
def Fits (endpoint : Option String) : Prop :=
  ∀ value, endpoint = some value →
    (∀ c ∈ value.toList, Text.isBlank c = true) ∨ Text.Tidy value

/-! ### What is resolved -/

-- No text is the name of two modes.
theorem not_four_of_six {mode : String} (h : Text.sameFolded mode "ipv6" = true) :
    Text.sameFolded mode "ipv4" = false := by
  have hnot : Text.foldedChars "ipv6".toList ≠ Text.foldedChars "ipv4".toList := by decide
  refine Bool.eq_false_iff.2 (fun hfour => hnot ?_)
  rw [← Text.sameFolded_iff.1 h, Text.sameFolded_iff.1 hfour]

theorem selects_iff {mode : Option String} {r : Except Failure String} :
    Selects mode r ↔ ofMode mode = r := by
  constructor
  · rintro (_ | hfour | hsix | ⟨hfour, hsix⟩)
    · rfl
    · rw [ofMode, if_pos hfour]
      rfl
    · rw [ofMode, if_neg (Bool.eq_false_iff.1 (not_four_of_six hsix)), if_pos hsix]
      rfl
    · rw [ofMode, if_neg (Bool.eq_false_iff.1 hfour), if_neg (Bool.eq_false_iff.1 hsix)]
      rfl
  · rintro rfl
    cases mode with
    | none => exact .unset
    | some mode =>
        rw [ofMode]
        cases hfour : Text.sameFolded mode "ipv4" with
        | true => exact .four hfour
        | false =>
            cases hsix : Text.sameFolded mode "ipv6" with
            | true => exact .six hsix
            | false => exact .unknown hfour hsix

theorem explicit_of_blank {endpoint : Option String}
    (h : ∀ value, endpoint = some value → ∀ c ∈ value.toList, Text.isBlank c = true) :
    explicit endpoint = none := by
  cases endpoint with
  | none => rfl
  | some value => exact if_pos (Text.trimBlank_eq_empty_iff.2 (h value rfl))

theorem explicit_of_shown {value : String} (h : ∃ c ∈ value.toList, Text.isBlank c = false) :
    explicit (some value) = some (Text.strip value) := by
  refine if_neg (fun hempty => ?_)
  rcases h with ⟨c, hc, hnot⟩
  rw [Text.trimBlank_eq_empty_iff.1 hempty c hc] at hnot
  cases hnot

/-- Nothing else is resolved. -/
theorem resolves_iff {endpoint mode : Option String} {r : Except Failure String} :
    Resolves endpoint mode r ↔ ofVariables endpoint mode = r := by
  constructor
  · rintro (⟨_, hshown, hstrips⟩ | ⟨hblank, hselects⟩)
    · rw [ofVariables, explicit_of_shown hshown, Text.strips_iff.1 hstrips]
    · rw [ofVariables, explicit_of_blank hblank]
      exact selects_iff.1 hselects
  · rintro rfl
    by_cases hblank : ∀ value, endpoint = some value → ∀ c ∈ value.toList, Text.isBlank c = true
    · rw [ofVariables, explicit_of_blank hblank]
      exact .selected hblank (selects_iff.2 rfl)
    · simp only [Classical.not_forall, Bool.not_eq_true] at hblank
      rcases hblank with ⟨value, rfl, c, hc, hnot⟩
      rw [ofVariables, explicit_of_shown ⟨c, hc, hnot⟩]
      exact .given mode ⟨c, hc, hnot⟩ (Text.strips_iff.2 rfl)

/-! ### What is usable -/

theorem Selects.proper {mode : Option String} {base : String} (h : Selects mode (.ok base)) :
    Text.Proper base := by
  cases h with
  | unset => exact Text.proper_iff.2 (by decide +kernel)
  | four hmode => exact Text.proper_iff.2 (by decide +kernel)
  | six hmode => exact Text.proper_iff.2 (by decide +kernel)

namespace Resolves

variable {endpoint mode : Option String} {base : String}

/-- Whatever was given, the base does not begin in a blank and does not end in a slash. -/
theorem ends (h : Resolves endpoint mode (.ok base)) :
    (∀ c, base.toList.head? = some c → Text.isBlank c = false) ∧
      ∀ c, base.toList.getLast? = some c → c ≠ '/' := by
  cases h with
  | given mode hshown hstrips =>
      rw [Text.strips_iff.1 hstrips]
      exact ⟨Text.first_strip _, Text.last_strip _⟩
  | selected hblank hselects =>
      have hproper := hselects.proper
      exact ⟨hproper.first, fun c hc => (hproper.last c hc).2⟩

/-- Which values give a usable base. -/
theorem proper_iff (h : Resolves endpoint mode (.ok base)) :
    Text.Proper base ↔ Fits endpoint := by
  cases h with
  | given mode hshown hstrips =>
      rw [Text.strips_iff.1 hstrips, Text.proper_strip_iff]
      constructor
      · rintro htidy _ ⟨⟩
        exact Or.inr htidy
      · intro hfits
        rcases hshown with ⟨c, hc, hnot⟩
        refine (hfits _ rfl).resolve_left (fun hblank => ?_)
        rw [hblank c hc] at hnot
        cases hnot
  | selected hblank hselects =>
      exact ⟨fun _ value hvalue => Or.inl (hblank value hvalue), fun _ => hselects.proper⟩

/-- What is wrong with the other ones: they are empty, or they end in a blank. -/
theorem forms {value : String} (h : Resolves (some value) mode (.ok base))
    (hshown : ∃ c ∈ value.toList, Text.isBlank c = false) :
    (base = "" ↔ Text.Vacant value) ∧
      ((∃ c, base.toList.getLast? = some c ∧ Text.isBlank c = true) ↔ Text.Ragged value) := by
  cases h with
  | given mode _ hstrips =>
      rw [Text.strips_iff.1 hstrips]
      exact ⟨Text.strip_eq_empty_iff, Text.blank_strip_iff⟩
  | selected hblank hselects =>
      rcases hshown with ⟨c, hc, hnot⟩
      rw [hblank value rfl c hc] at hnot
      cases hnot

end Resolves

/-- A base gives itself just when it is usable. -/
theorem resolves_self_iff {base : String} {mode : Option String} :
    Resolves (some base) mode (.ok base) ↔ Text.Proper base := by
  constructor
  · intro h
    cases h with
    | given mode hshown hstrips =>
        refine Text.proper_iff.2 ⟨?_, (Text.strips_iff.1 hstrips).symm⟩
        rintro rfl
        rcases hshown with ⟨c, hc, -⟩
        cases hc
    | selected hblank hselects => exact hselects.proper
  · intro h
    rcases h.exists_last with ⟨before, last, hbase, hnot, -⟩
    refine .given mode ⟨last, ?_, hnot⟩ (Text.strips_iff.2 (Text.proper_iff.1 h).2.symm)
    rw [hbase]
    exact List.mem_append_right _ List.mem_cons_self

/-! ### Where the base is looked for -/

theorem resolve_among (w : Surroundings) (d : List Said) :
    (environment.resolve.among w d).1 =
      ofVariables (w d (.setting endpointVariable))
        (w (d ++ [⟨.setting endpointVariable, w d (.setting endpointVariable)⟩])
          (.setting modeVariable)) := by
  have hasked : (liftM (Plan.setting endpointVariable) : Act (Option String)).among w d =
      (.ok (w d (.setting endpointVariable)),
        d ++ [⟨.setting endpointVariable, w d (.setting endpointVariable)⟩]) := rfl
  rw [resolve, Act.among_bind_ok hasked, ofVariables]
  cases explicit (w d (.setting endpointVariable)) with
  | some base => rfl
  | none => rfl

theorem baseOf_run (w : Blocking.World) :
    (Blocking.baseOf environment).run w =
      (ofVariables (Blocking.World.setting endpointVariable w).1
        (Blocking.World.setting modeVariable w).1, w) := by
  have hasked : (Plan.setting endpointVariable).runIn w =
      ((Blocking.World.setting endpointVariable w).1, w) := rfl
  rw [Blocking.baseOf, run_lift_bind, hasked, ofVariables]
  cases explicit (Blocking.World.setting endpointVariable w).1 with
  | some base => rfl
  | none => rfl

end Address

/-! ### What is put behind it -/

-- The URLs of a row of rounds, at a base that was found where every value fits.
theorem KeepsProtocol.joins {c : Client} {w : Surroundings} {rest : String} {budget : Nat}
    {d : List Said} (h : KeepsProtocol c ("/" ++ rest) budget w [] d)
    (haddress : c.settings.address = .environment)
    (hfits : ∀ e, Address.Fits (w e (.setting Address.endpointVariable))) {x : Exchange}
    (hx : x ∈ exchanges d) : ∃ base, Text.Proper base ∧
      (Text.Joins base "latest/api/token" x.request.url ∨ Text.Joins base rest x.request.url) := by
  rcases h with hnone |
    ⟨base, start, opened, said, init, last, -, ⟨e, -, hbase⟩, -, hexch, hfollows⟩
  · rw [hnone] at hx
    cases hx
  · have hfound := Address.resolve_among w e
    rw [← haddress, hbase] at hfound
    have hproper : Text.Proper base := (Address.resolves_iff.2 hfound.symm).proper_iff.2 (hfits e)
    have hissue : ∀ {y : Exchange}, Round.IsIssue c base y →
        Text.Joins base "latest/api/token" y.request.url := by
      intro y hy
      rw [hy.url]
      exact hproper.joins_path "latest/api/token"
    rw [hexch, hfollows.exchanges_eq] at hx
    rcases List.mem_flatMap.1 hx with ⟨r, hr, hx⟩
    have hconforms := hfollows.conforms r hr
    refine ⟨base, hproper, ?_⟩
    cases r with
    | refused issue =>
        rw [List.mem_singleton.1 hx]
        exact Or.inl (hissue hconforms.1)
    | read issue body =>
        rcases List.mem_cons.1 hx with rfl | hx
        · exact Or.inl (hissue hconforms.1)
        · rw [List.mem_singleton.1 hx, hconforms.2.2.url]
          exact Or.inr (hproper.joins_path rest)

/-- What the values of the two variables come to. A base that is resolved begins in something else
    than a blank, ends in something else than a slash, and can be given as a fixed one without a
    change. It is usable just when the first variable fits, and just when it would give itself;
    otherwise it is empty, or it ends in a blank that slashes had hidden. Behind a usable base
    nothing but one slash comes before the rest of a path. Tasks and threads that find these
    values resolve this base, and the requests of a fetch, if all the values that it is told fit,
    go to URLs that are put together like this. -/
theorem bases_are_usable (endpoint mode : Option String) :
    (∀ r, Address.Resolves endpoint mode r ↔ Address.ofVariables endpoint mode = r) ∧
    (∀ base, Address.ofVariables endpoint mode = .ok base →
      (∀ c, base.toList.head? = some c → Text.isBlank c = false) ∧
      (∀ c, base.toList.getLast? = some c → c ≠ '/') ∧
      Address.ofBase base = .fixed base ∧
      (Text.Proper base ↔ Address.Fits endpoint) ∧
      (∀ later, Text.Proper base ↔ Address.ofVariables (some base) later = .ok base) ∧
      (∀ value, endpoint = some value → (∃ c ∈ value.toList, Text.isBlank c = false) →
        (base = "" ↔ Text.Vacant value) ∧
        ((∃ c, base.toList.getLast? = some c ∧ Text.isBlank c = true) ↔ Text.Ragged value)) ∧
      (Text.Proper base → ∀ rest token lifetime,
        Text.Joins base rest (Request.forPath base ("/" ++ rest) token).url ∧
        Text.Joins base "latest/api/token" (Request.forToken base lifetime).url)) ∧
    (∀ w d, w d (.setting Address.endpointVariable) = endpoint →
      w (d ++ [⟨.setting Address.endpointVariable, endpoint⟩]) (.setting Address.modeVariable) =
        mode →
      (Address.environment.resolve.among w d).1 = Address.ofVariables endpoint mode) ∧
    (∀ s : Site, s.setting Address.endpointVariable = endpoint →
      s.setting Address.modeVariable = mode →
      Address.environment.resolve.run s = (Address.ofVariables endpoint mode, s)) ∧
    (∀ w : Blocking.World, (Blocking.World.setting Address.endpointVariable w).1 = endpoint →
      (Blocking.World.setting Address.modeVariable w).1 = mode →
      (Blocking.baseOf .environment).run w = (Address.ofVariables endpoint mode, w)) ∧
    ∀ (c : Client) (w : Surroundings) (rest : String) (force whole : Bool) (n : Nat),
      c.settings.address = .environment →
      (∀ e, Address.Fits (w e (.setting Address.endpointVariable))) →
      ∀ x, x ∈ exchanges ((c.fetchItems ("/" ++ rest) n whole).among w []).2 ∨
          x ∈ exchanges ((c.fetchValueWith ("/" ++ rest) force n).among w []).2 →
        ∃ base, Text.Proper base ∧
          (Text.Joins base "latest/api/token" x.request.url ∨
            Text.Joins base rest x.request.url) := by
  refine ⟨fun _ => Address.resolves_iff, fun base hbase => ?_, ?_, ?_, ?_, ?_⟩
  · have hresolves := Address.resolves_iff.2 hbase
    refine ⟨hresolves.ends.1, hresolves.ends.2, ?_, hresolves.proper_iff, fun later => ?_, ?_, ?_⟩
    · rw [Address.ofBase, Text.trimSlashes_eq_self hresolves.ends.2]
    · rw [← Address.resolves_iff]
      exact Address.resolves_self_iff.symm
    · rintro value rfl hshown
      exact hresolves.forms hshown
    · intro hproper rest token lifetime
      refine ⟨?_, hproper.joins_path "latest/api/token"⟩
      rw [Request.url_forPath]
      exact hproper.joins_path rest
  · rintro w d rfl rfl
    exact Address.resolve_among w d
  · rintro s rfl rfl
    exact resolve_run .environment s
  · rintro w rfl rfl
    exact Address.baseOf_run w
  · intro c w rest force whole n haddress hfits x hx
    rcases hx with hx | hx
    · rw [Client.fetchItems_among] at hx
      exact (c.keeps_fetchBody _ w n []).joins haddress hfits hx
    · exact (c.keeps_fetchValueWith _ force n w []).joins haddress hfits hx

/-- Values that do not fit: of slashes nothing is left, and the default answers when nothing is
    given; a blank that a slash had hidden stays, unless it is given again. -/
theorem slashes_hide_a_blank :
    Address.ofVariables (some "/") none = .ok "" ∧
      Address.ofVariables (some "") none = .ok "http://169.254.169.254" ∧
      Address.ofVariables (some "http://h /") none = .ok "http://h " ∧
      Address.ofVariables (some "http://h ") none = .ok "http://h" ∧
      ¬ Text.Proper "" ∧ ¬ Text.Proper "http://h " ∧
      (Request.forPath "http://h " "/latest/api/token" none).url =
        "http://h /latest/api/token" := by
  refine ⟨rfl, rfl, rfl, rfl, fun h => h.ne_empty rfl, fun h => ?_, by decide +kernel⟩
  cases (h.last ' ' (by decide)).1

end Imds
