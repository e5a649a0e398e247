import Imds.Proofs.Retry.Course
import Mathlib.Algebra.Order.Field.Power
import Mathlib.Algebra.Order.Ring.Rat
import Mathlib.Data.Nat.Cast.Order.Ring

/-!
# Pauses in Words

A pause is a product of a floor and a power of two, and each of the three has a place where a word
is left. The number of doublings is a difference that can be negative. The power of two leaves
its word at the thirty-second doubling. And the product is computed on two words, seconds and
nanoseconds, with a carry from one to the other.

`Span.pause` is the computation as a machine carries it out. Each step is on words, and a step
that leaves its word has no result unless the computation looks whether it does. `Backoff.pause`
is over numbers, where nothing is left. That the two agree says at once that no step fails
unnoticed, that no carry is lost, and that the result is in normal form.

What there is to know of the lengths of pauses is then said of numbers. A pause is monotone in the
floor and in the number of doublings, and one doubling more at most doubles it. As long as the
power fits its word and the product is a duration, a pause is the longer one of the floor and
of the floor times a power of two with an exponent that may be negative.

## Main definitions

* `Span`, `Duration.span`: A duration as two words.
* `mul64?`, `add64?`, `narrow?`: Steps that have a result only if it fits.
* `Span.factor`, `Span.sum?`, `Span.product`, `Span.pause`: The computation of a pause in words.

## Theorems

* `factor_toNat`: The power of two in a word.
* `product_span`: The product in two words.
* `max_span`: The longer of two durations in words.
* `pause_span`: The pause in words is the pause.
* `pause_le_pause`, `pause_le_double`: Pauses grow, and at most double.
* `toNanos_pause_eq_max`: The pause as it is documented.
* `pause_is_exact`: The pause, for every floor, budget and number of attempts left.
-/

namespace Imds

/-! ### Steps on words -/

/-- The product of two words if it fits. -/
def mul64? (a b : UInt64) : Option UInt64 :=
  if a.toNat * b.toNat < UInt64.size then some (a * b) else none

/-- The sum of two words if it fits. -/
def add64? (a b : UInt64) : Option UInt64 :=
  if a.toNat + b.toNat < UInt64.size then some (a + b) else none

/-- A word as a shorter one if it fits. -/
def narrow? (a : UInt64) : Option UInt32 :=
  if a.toNat < UInt32.size then some a.toUInt32 else none

/-- A duration as two words. -/
structure Span where
  /-- Whole seconds. -/
  seconds : UInt64
  /-- The rest, in nanoseconds. -/
  nanos : UInt32
  deriving DecidableEq

/-- A duration in words. -/
def Duration.span (d : Duration) : Span := ⟨UInt64.ofNat d.seconds, UInt32.ofNat d.nanos⟩

namespace Span

/-- The longest duration. -/
def longest : Span := ⟨0xFFFFFFFFFFFFFFFF, 999999999⟩

/-- The power of two for the attempts that were made: no doubling if more are left than there are,
    and the largest word if the power does not fit. -/
def factor (attempts remaining : UInt32) : UInt32 :=
  let doublings := if remaining ≤ attempts then attempts - remaining else 0
  if doublings < 32 then 1 <<< doublings else 0xFFFFFFFF

/-- The seconds of a product with those that are carried over, if they fit. -/
def sum? (seconds : UInt64) (k : UInt32) (carry : UInt64) : Option UInt64 := do
  let whole ← mul64? seconds k.toUInt64
  add64? whole carry

/-- The product of a duration and a factor. That there is no such duration is a result; a step
    that leaves its word without having been looked at is none. -/
def product (d : Span) (k : UInt32) : Option (Option Span) := do
  let total ← mul64? d.nanos.toUInt64 k.toUInt64
  let nanos ← narrow? (total % 1000000000)
  return (sum? d.seconds k (total / 1000000000)).map (fun seconds => ⟨seconds, nanos⟩)

/-- Seconds are compared first. -/
def le (d e : Span) : Bool :=
  d.seconds < e.seconds || (d.seconds == e.seconds && d.nanos ≤ e.nanos)

/-- The longer of two durations. -/
def max (d e : Span) : Span := if d.le e then e else d

/-- The pause in words, when `remaining` attempts were left. -/
def pause (attempts remaining : UInt32) (floor : Span) : Option Span :=
  (floor.product (factor attempts remaining)).map (fun d => (d.getD longest).max floor)

end Span

/-! ### Words and numbers -/

theorem exists_mul64 {a b : UInt64} (h : a.toNat * b.toNat < UInt64.size) :
    ∃ c, mul64? a b = some c ∧ c.toNat = a.toNat * b.toNat :=
  ⟨a * b, if_pos h, by rw [UInt64.toNat_mul, Nat.mod_eq_of_lt h]⟩

theorem exists_add64 {a b : UInt64} (h : a.toNat + b.toNat < UInt64.size) :
    ∃ c, add64? a b = some c ∧ c.toNat = a.toNat + b.toNat :=
  ⟨a + b, if_pos h, by rw [UInt64.toNat_add, Nat.mod_eq_of_lt h]⟩

theorem exists_narrow {a : UInt64} (h : a.toNat < UInt32.size) :
    ∃ c, narrow? a = some c ∧ c.toNat = a.toNat :=
  ⟨a.toUInt32, if_pos h, by rw [UInt64.toNat_toUInt32, Nat.mod_eq_of_lt h]⟩

theorem exists_sum (seconds carry : UInt64) (k : UInt32)
    (h : seconds.toNat * k.toNat + carry.toNat < UInt64.size) :
    ∃ c, Span.sum? seconds k carry = some c ∧ c.toNat = seconds.toNat * k.toNat + carry.toNat := by
  rcases exists_mul64 (a := seconds) (b := k.toUInt64)
    (by rw [UInt32.toNat_toUInt64]; omega) with ⟨whole, hmul, hwhole⟩
  rw [UInt32.toNat_toUInt64] at hwhole
  rcases exists_add64 (a := whole) (b := carry) (by rwa [hwhole]) with ⟨c, hadd, hc⟩
  rw [hwhole] at hc
  refine ⟨c, ?_, hc⟩
  rw [Span.sum?, hmul]
  exact hadd

-- Seconds that do not fit before anything is carried over do not fit after it.
theorem sum?_eq_none {seconds carry : UInt64} {k : UInt32}
    (h : ¬ seconds.toNat * k.toNat + carry.toNat < UInt64.size) :
    Span.sum? seconds k carry = none := by
  rw [Span.sum?]
  by_cases hwide : seconds.toNat * k.toUInt64.toNat < UInt64.size
  · rcases exists_mul64 hwide with ⟨whole, hmul, hwhole⟩
    rw [UInt32.toNat_toUInt64] at hwhole
    have hadd : add64? whole carry = none := if_neg (by rwa [hwhole])
    rw [hmul]
    exact hadd
  · rw [mul64?, if_neg hwide]
    rfl

namespace Duration

variable (d e : Duration) (k : UInt32)

theorem seconds_span : d.span.seconds.toNat = d.seconds :=
  UInt64.toNat_ofNat_of_lt' (Nat.lt_succ_of_le d.seconds_le)

theorem nanos_span : d.span.nanos.toNat = d.nanos :=
  UInt32.toNat_ofNat_of_lt' (Nat.lt_trans d.nanos_lt (by decide))

-- Words that have the numbers of a duration are the duration in words.
theorem eq_span {d : Duration} {s : Span} (hseconds : s.seconds.toNat = d.seconds)
    (hnanos : s.nanos.toNat = d.nanos) : s = d.span := by
  have hs : s.seconds = d.span.seconds :=
    UInt64.toNat_inj.1 (hseconds.trans d.seconds_span.symm)
  have hn : s.nanos = d.span.nanos := UInt32.toNat_inj.1 (hnanos.trans d.nanos_span.symm)
  cases s
  cases hs
  cases hn
  rfl

theorem longest_span : longest.span = Span.longest := by decide

/-- The product in two words: no step leaves its word unnoticed, and there is a result just as
    long as the seconds with what is carried over fit. -/
theorem product_span : d.span.product k =
    some (if d.seconds * k.toNat + d.nanos * k.toNat / nanosPerSecond ≤ mostSeconds then
      some (d.scale k.toNat).span else none) := by
  have hnanos : d.nanos < 1000000000 := d.nanos_lt
  have hk : k.toNat < 4294967296 := k.toNat_lt
  have htotal : d.nanos * k.toNat < 18446744073709551616 := by
    have hle := Nat.mul_le_mul (Nat.le_of_lt hnanos) (Nat.le_of_lt hk)
    omega
  rcases exists_mul64 (a := d.span.nanos.toUInt64) (b := k.toUInt64)
    (by rwa [UInt32.toNat_toUInt64, UInt32.toNat_toUInt64, nanos_span]) with ⟨total, hmul, hvalue⟩
  rw [UInt32.toNat_toUInt64, UInt32.toNat_toUInt64, nanos_span] at hvalue
  have hrest : (total % 1000000000).toNat = d.nanos * k.toNat % 1000000000 := by
    rw [UInt64.toNat_mod, hvalue]
    rfl
  have hcarry : (total / 1000000000).toNat = d.nanos * k.toNat / 1000000000 := by
    rw [UInt64.toNat_div, hvalue]
    rfl
  have hshort : d.nanos * k.toNat % 1000000000 < 4294967296 := by omega
  rcases exists_narrow (a := total % 1000000000) (by rwa [hrest]) with ⟨nanos, hnarrow, hnarrowed⟩
  simp only [Span.product, hmul, hnarrow, Option.bind_eq_bind, Option.bind_some]
  by_cases hfits : d.seconds * k.toNat + d.nanos * k.toNat / nanosPerSecond ≤ mostSeconds
  · have hscale : d.scale k.toNat = ⟨d.seconds * k.toNat + d.nanos * k.toNat / nanosPerSecond,
        d.nanos * k.toNat % nanosPerSecond, hfits, Nat.mod_lt _ (by decide)⟩ := dif_pos hfits
    rcases exists_sum d.span.seconds (total / 1000000000) k
      (by rw [seconds_span, hcarry]; exact Nat.lt_succ_of_le hfits) with ⟨seconds, hsum, hseconds⟩
    rw [if_pos hfits, hsum, Option.map_some]
    refine congrArg (fun s => some (some s)) (eq_span ?_ ?_)
    · rw [hscale, hseconds, seconds_span, hcarry]
      rfl
    · rw [hscale]
      exact hnarrowed.trans hrest
  · have hsum : Span.sum? d.span.seconds k (total / 1000000000) = none := by
      refine sum?_eq_none (fun hlt => hfits (Nat.le_of_lt_succ ?_))
      rwa [seconds_span, hcarry] at hlt
    rw [if_neg hfits, hsum]
    rfl

-- Where no product fits, the longest duration takes its place, in words as in numbers.
theorem scale_span : (d.span.product k).map (fun p => p.getD Span.longest) =
    some (d.scale k.toNat).span := by
  rw [product_span, Option.map_some]
  by_cases hfits : d.seconds * k.toNat + d.nanos * k.toNat / nanosPerSecond ≤ mostSeconds
  · rw [if_pos hfits, Option.getD_some]
  · have hscale : d.scale k.toNat = longest := dif_neg hfits
    rw [if_neg hfits, Option.getD_none, hscale, longest_span]

theorem le_span : d.span.le e.span = true ↔ d.toNanos ≤ e.toNanos := by
  have hd : d.nanos < 1000000000 := d.nanos_lt
  have he : e.nanos < 1000000000 := e.nanos_lt
  rw [Span.le, Bool.or_eq_true, Bool.and_eq_true, decide_eq_true_iff, decide_eq_true_iff,
    beq_iff_eq, UInt64.lt_iff_toNat_lt, UInt32.le_iff_toNat_le, ← UInt64.toNat_inj,
    seconds_span, seconds_span, nanos_span, nanos_span, toNanos, toNanos, nanosPerSecond]
  omega

/-- The longer of two durations in words. -/
theorem max_span : d.span.max e.span = (d.max e).span := by
  rw [Span.max, Duration.max]
  by_cases hle : d.toNanos ≤ e.toNanos
  · rw [if_pos hle, if_pos ((le_span d e).2 hle)]
  · rw [if_neg hle, if_neg (fun h => hle ((le_span d e).1 h))]

end Duration

/-- The power of two in a word. -/
theorem factor_toNat (attempts remaining : UInt32) :
    (Span.factor attempts remaining).toNat =
      Backoff.growth (attempts.toNat - remaining.toNat) := by
  have hdoublings : (if remaining ≤ attempts then attempts - remaining else 0).toNat =
      attempts.toNat - remaining.toNat := by
    by_cases hle : remaining ≤ attempts
    · rw [if_pos hle, UInt32.toNat_sub_of_le _ _ hle]
    · rw [if_neg hle]
      rw [UInt32.le_iff_toNat_le] at hle
      exact (Nat.sub_eq_zero_of_le (Nat.le_of_not_le hle)).symm
  rw [Span.factor, Backoff.growth, ← hdoublings]
  generalize (if remaining ≤ attempts then attempts - remaining else 0) = doublings
  by_cases hlt : doublings < 32
  · have hnat : doublings.toNat < 32 := UInt32.lt_iff_toNat_lt.1 hlt
    have hpow : Nat.pow 2 doublings.toNat ≤ Nat.pow 2 31 :=
      Nat.pow_le_pow_right (by decide) (Nat.le_of_lt_succ hnat)
    rw [if_pos hnat]
    simp only [if_pos hlt]
    rw [UInt32.toNat_shiftLeft, Nat.mod_eq_of_lt hnat, Nat.shiftLeft_eq]
    change 1 * Nat.pow 2 doublings.toNat % 4294967296 = _
    rw [Nat.one_mul, Nat.mod_eq_of_lt (Nat.lt_of_le_of_lt hpow (by decide))]
  · have hnat : ¬ doublings.toNat < 32 := fun h => hlt (UInt32.lt_iff_toNat_lt.2 h)
    rw [if_neg hnat]
    simp only [if_neg hlt]
    rfl

-- The last power of two that fits, and the first that does not.
example : Span.factor 31 0 = 0x80000000 ∧ Span.factor 32 0 = 0xFFFFFFFF := by decide

/-- The pause in words is the pause. -/
theorem pause_span (floor : Duration) (attempts remaining : UInt32) :
    Span.pause attempts remaining floor.span =
      some ((⟨attempts.toNat, floor⟩ : Backoff).pause remaining.toNat).span := by
  have hscale := floor.scale_span (Span.factor attempts remaining)
  rw [factor_toNat] at hscale
  have hmap : Span.pause attempts remaining floor.span =
      ((floor.span.product (Span.factor attempts remaining)).map
        (fun p => p.getD Span.longest)).map (fun d => d.max floor.span) := by
    rw [Option.map_map]
    rfl
  rw [hmap, hscale, Option.map_some, Duration.max_span]
  rfl

/-! ### Lengths of pauses -/

namespace Backoff

variable (b : Backoff) (remaining : Nat)

theorem growth_mono {k k' : Nat} (h : k ≤ k') : growth k ≤ growth k' := by
  induction h with
  | refl => exact Nat.le_refl _
  | step _ ih => exact Nat.le_trans ih (growth_le_succ _)

theorem growth_succ_le (k : Nat) : growth (k + 1) ≤ 2 * growth k := by
  have hpow : Nat.pow 2 (k + 1) = Nat.pow 2 k * 2 := rfl
  rw [growth_eq, growth_eq]
  omega

/-- A pause is no shorter over a larger floor or after more doublings. -/
theorem pause_le_pause {b b' : Backoff} {remaining remaining' : Nat}
    (hfloor : b.floor.toNanos ≤ b'.floor.toNanos)
    (hdoublings : b.attempts - remaining ≤ b'.attempts - remaining') :
    (b.pause remaining).toNanos ≤ (b'.pause remaining').toNanos := by
  have hproduct := Nat.mul_le_mul hfloor (growth_mono hdoublings)
  rw [toNanos_pause, toNanos_pause]
  omega

/-- One attempt less at most doubles a pause. -/
theorem pause_le_double : (b.pause remaining).toNanos ≤ 2 * (b.pause (remaining + 1)).toNanos := by
  have hdoublings : b.attempts - remaining ≤ b.attempts - (remaining + 1) + 1 := by omega
  have hgrowth := Nat.le_trans (growth_mono hdoublings) (growth_succ_le _)
  have hproduct := Nat.mul_le_mul_left b.floor.toNanos hgrowth
  rw [Nat.mul_left_comm] at hproduct
  rw [toNanos_pause, toNanos_pause]
  omega

theorem floor_le_pause : b.floor.toNanos ≤ (b.pause remaining).toNanos := by
  have hfloor := b.floor.toNanos_le_longest
  have hgrow := Nat.le_mul_of_pos_right b.floor.toNanos (growth_pos (b.attempts - remaining))
  rw [toNanos_pause]
  omega

/-- The pause as it is documented, as long as the power fits its word and the product is a
    duration. The exponent is a difference and may be negative. -/
theorem toNanos_pause_eq_max (hpower : (b.attempts : Int) - remaining ≤ 31)
    (hfits : (2 : ℚ) ^ ((b.attempts : Int) - remaining) * b.floor.toNanos ≤
      Duration.longest.toNanos) :
    ((b.pause remaining).toNanos : ℚ) =
      max (b.floor.toNanos : ℚ) (2 ^ ((b.attempts : Int) - remaining) * b.floor.toNanos) := by
  by_cases hle : remaining ≤ b.attempts
  · have hexponent : (b.attempts : Int) - remaining = ((b.attempts - remaining : Nat) : Int) := by
      omega
    rw [hexponent, zpow_natCast] at hfits ⊢
    have hproduct : Nat.pow 2 (b.attempts - remaining) * b.floor.toNanos ≤
        Duration.longest.toNanos := by
      exact_mod_cast hfits
    have hgrowth : growth (b.attempts - remaining) = Nat.pow 2 (b.attempts - remaining) :=
      if_pos (by omega)
    have hpos := Nat.le_mul_of_pos_left b.floor.toNanos (Nat.two_pow_pos (b.attempts - remaining))
    have hpause : (b.pause remaining).toNanos =
        max b.floor.toNanos (2 ^ (b.attempts - remaining) * b.floor.toNanos) := by
      rw [toNanos_pause, hgrowth, Nat.mul_comm, Nat.min_eq_right hproduct, Nat.max_eq_right hpos]
      rfl
    rw [hpause]
    push_cast
    rfl
  · have hpause : (b.pause remaining).toNanos = b.floor.toNanos := by
      have hzero : b.attempts - remaining = 0 := by omega
      have hone : growth 0 = 1 := rfl
      rw [toNanos_pause, hzero, hone, Nat.mul_one, Nat.min_eq_right b.floor.toNanos_le_longest]
    have hsmall : (2 : ℚ) ^ ((b.attempts : Int) - remaining) ≤ 1 :=
      zpow_le_one_of_nonpos₀ one_le_two (by omega)
    rw [hpause, max_eq_left (mul_le_of_le_one_left (Nat.cast_nonneg _) hsmall)]

end Backoff

/-- The pause, for every floor, every budget and every number of attempts left, more than the
    budget included. Computed in words it takes no step that leaves its word, and gives this
    duration in normal form. Its length is that of the floor times the power of two as far as a word
    goes, up to the longest duration. It is no shorter than the floor, and it is what the
    documentation says as long as the power fits and the product is a duration. More attempts
    left make it no longer and one less at most doubles it; a larger budget or a larger floor makes
    it no shorter. -/
theorem pause_is_exact (floor : Duration) (attempts remaining : UInt32) :
    let b : Backoff := ⟨attempts.toNat, floor⟩
    let pause := b.pause remaining.toNat
    let exponent : Int := (attempts.toNat : Int) - remaining.toNat
    Span.pause attempts remaining floor.span = some pause.span ∧
    pause.span.nanos.toNat < 1000000000 ∧
    pause.span.seconds.toNat * 1000000000 + pause.span.nanos.toNat = pause.toNanos ∧
    pause.toNanos = min (18446744073709551615 * 1000000000 + 999999999)
      (floor.toNanos * min (2 ^ (attempts.toNat - remaining.toNat)) 4294967295) ∧
    floor.toNanos ≤ pause.toNanos ∧
    (exponent ≤ 31 → (2 : ℚ) ^ exponent * floor.toNanos ≤ Duration.longest.toNanos →
      (pause.toNanos : ℚ) = max (floor.toNanos : ℚ) (2 ^ exponent * floor.toNanos)) ∧
    (∀ more : UInt32, remaining ≤ more → (b.pause more.toNat).toNanos ≤ pause.toNanos) ∧
    (∀ larger : UInt32, attempts ≤ larger →
      pause.toNanos ≤ (Backoff.pause ⟨larger.toNat, floor⟩ remaining.toNat).toNanos) ∧
    (∀ longer : Duration, floor.toNanos ≤ longer.toNanos →
      pause.toNanos ≤ (Backoff.pause ⟨attempts.toNat, longer⟩ remaining.toNat).toNanos) ∧
    (∀ less : UInt32, less.toNat + 1 = remaining.toNat →
      (b.pause less.toNat).toNanos ≤ 2 * pause.toNanos) ∧
    ∀ s : Span, s.nanos.toNat < 1000000000 → ∃ d : Duration, d.span = s := by
  intro b pause exponent
  refine ⟨pause_span floor attempts remaining, ?_, ?_, ?_, b.floor_le_pause _,
    b.toNanos_pause_eq_max _, fun more h => ?_, fun larger h => ?_, fun longer h => ?_,
    fun less h => ?_, fun s h => ?_⟩
  · rw [Duration.nanos_span]
    exact pause.nanos_lt
  · rw [Duration.seconds_span, Duration.nanos_span]
    rfl
  · have hlength := b.toNanos_pause remaining.toNat
    rw [Backoff.growth_eq] at hlength
    exact hlength
  · have hle := UInt32.le_iff_toNat_le.1 h
    exact Backoff.pause_le_pause (Nat.le_refl _) (Nat.sub_le_sub_left hle _)
  · have hle := UInt32.le_iff_toNat_le.1 h
    exact Backoff.pause_le_pause (Nat.le_refl _) (Nat.sub_le_sub_right hle _)
  · exact Backoff.pause_le_pause h (Nat.le_refl _)
  · have hdouble := b.pause_le_double less.toNat
    rw [h] at hdouble
    exact hdouble
  · refine ⟨⟨s.seconds.toNat, s.nanos.toNat, Nat.le_of_lt_succ s.seconds.toNat_lt, h⟩, ?_⟩
    exact (Duration.eq_span rfl rfl).symm

end Imds
