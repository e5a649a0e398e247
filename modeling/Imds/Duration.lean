/-!
# Durations

A length of time as seconds and nanoseconds, the shape in which pauses are
configured and reported. Seconds fill a 64-bit word, so there is a longest
duration, and multiplication stops there: a backoff that doubles for ever must
not come round to a short pause again.

The two parts are kept in normal form by the fields of the structure. What an
operation means is said on `toNanos`, the length as one number, where there is
no carry to think about.

## Main definitions

* `Duration`: Seconds and nanoseconds in normal form.
* `Duration.longest`: The longest duration.
* `Duration.carry`: Seconds and any number of nanoseconds in normal form.
* `Duration.scale`: Multiplication by a factor, stopping at the longest.
* `Duration.toNanos`: The length as a number of nanoseconds.
* `Duration.ofMillis`, `Duration.toMillis`: Conversion at the millisecond.
* `Duration.toTicks`: How long a timer waits, which never is more than
  `Duration.mostTicks`.

## Theorems

* `toNanos_inj`: A duration is determined by its length.
* `toNanos_le_longest`: No duration is longer than the longest.
* `toNanos_carry`: The length of seconds and nanoseconds, up to the longest.
* `toNanos_scale`: Scaling multiplies the length and stops at the longest.
* `toNanos_max`: The longer of two durations has the larger length.
* `toTicks_mono`: A longer pause is no shorter wait.
-/

namespace Imds

/-- How many nanoseconds make a second. -/
def nanosPerSecond : Nat := 1000000000

/-- How many nanoseconds make a millisecond. -/
def nanosPerMilli : Nat := 1000000

/-- The most seconds a duration has. They fill a 64-bit word. -/
def mostSeconds : Nat := 0xFFFFFFFFFFFFFFFF

/-- A length of time, in normal form. -/
structure Duration where
  /-- Whole seconds. -/
  seconds : Nat
  /-- The rest, in nanoseconds. -/
  nanos : Nat
  /-- Seconds fit into a word. -/
  seconds_le : seconds ≤ mostSeconds
  /-- The rest is less than a second. -/
  nanos_lt : nanos < nanosPerSecond
  deriving DecidableEq

namespace Duration

/-- The empty duration. -/
def zero : Duration := ⟨0, 0, by decide, by decide⟩

instance : Inhabited Duration := ⟨zero⟩

/-- The longest duration. -/
def longest : Duration := ⟨mostSeconds, nanosPerSecond - 1, by decide, by decide⟩

/-- The length as a number of nanoseconds. -/
def toNanos (d : Duration) : Nat := d.seconds * nanosPerSecond + d.nanos

/-- The duration of some seconds and any number of nanoseconds: full seconds are
    carried over, and seconds that do not fit give the longest duration. -/
def carry (s n : Nat) : Duration :=
  if h : s + n / nanosPerSecond ≤ mostSeconds then
    ⟨s + n / nanosPerSecond, n % nanosPerSecond, h, Nat.mod_lt _ (by decide)⟩
  else longest

/-- The duration of a number of nanoseconds, the longest when there are too
    many. -/
def ofNanos (n : Nat) : Duration := carry 0 n

/-- The duration of a number of milliseconds, the longest when there are too
    many. -/
def ofMillis (n : Nat) : Duration := ofNanos (n * nanosPerMilli)

/-- The number of whole milliseconds in a duration. -/
def toMillis (d : Duration) : Nat := d.toNanos / nanosPerMilli

/-- The longest wait of a timer, in milliseconds: thirty years of 365 days. -/
def mostTicks : Nat := 30 * 365 * 86400 * 1000

/-- The number of milliseconds that a timer with ticks of one millisecond waits:
    a started millisecond is waited for in full, and a pause beyond the longest
    wait ends with it. -/
def toTicks (d : Duration) : Nat :=
  min mostTicks ((d.toNanos + (nanosPerMilli - 1)) / nanosPerMilli)

/-- Multiplication by a factor, part by part. -/
def scale (d : Duration) (k : Nat) : Duration := carry (d.seconds * k) (d.nanos * k)

/-- The longer of two durations. -/
def max (d e : Duration) : Duration := if d.toNanos ≤ e.toNanos then e else d

theorem toNanos_inj {d e : Duration} (h : d.toNanos = e.toNanos) : d = e := by
  obtain ⟨s, n, hs, hn⟩ := d
  obtain ⟨t, m, ht, hm⟩ := e
  have hn' : n < 1000000000 := hn
  have hm' : m < 1000000000 := hm
  have h' : s * 1000000000 + n = t * 1000000000 + m := h
  have hst : s = t := by omega
  have hnm : n = m := by omega
  subst hst hnm
  rfl

theorem toNanos_longest :
    longest.toNanos = 0xFFFFFFFFFFFFFFFF * 1000000000 + 999999999 := rfl

theorem toNanos_le_longest (d : Duration) : d.toNanos ≤ longest.toNanos := by
  have hs : d.seconds ≤ 0xFFFFFFFFFFFFFFFF := d.seconds_le
  have hn : d.nanos < 1000000000 := d.nanos_lt
  show d.seconds * 1000000000 + d.nanos ≤ 0xFFFFFFFFFFFFFFFF * 1000000000 + 999999999
  omega

theorem toNanos_carry (s n : Nat) :
    (carry s n).toNanos = min longest.toNanos (s * nanosPerSecond + n) := by
  have hmod := Nat.div_add_mod n 1000000000
  have hlt := Nat.mod_lt n (show 1000000000 > 0 by decide)
  rw [toNanos_longest]
  show (carry s n).toNanos = min _ (s * 1000000000 + n)
  rw [carry]
  split
  · next h =>
    have h' : s + n / 1000000000 ≤ 0xFFFFFFFFFFFFFFFF := h
    show (s + n / 1000000000) * 1000000000 + n % 1000000000 = _
    omega
  · next h =>
    have h' : ¬ s + n / 1000000000 ≤ 0xFFFFFFFFFFFFFFFF := h
    rw [toNanos_longest]
    omega

theorem toNanos_ofNanos (n : Nat) : (ofNanos n).toNanos = min longest.toNanos n := by
  rw [ofNanos, toNanos_carry, Nat.zero_mul, Nat.zero_add]

theorem toNanos_scale (d : Duration) (k : Nat) :
    (d.scale k).toNanos = min longest.toNanos (d.toNanos * k) := by
  have h : d.toNanos * k = d.seconds * k * nanosPerSecond + d.nanos * k := by
    rw [toNanos, Nat.add_mul, Nat.mul_right_comm]
  rw [scale, toNanos_carry, h]

theorem toNanos_max (d e : Duration) : (d.max e).toNanos = Nat.max d.toNanos e.toNanos := by
  simp only [max]
  split
  · rw [Nat.max_eq_max, Nat.max_eq_right (by assumption)]
  · rw [Nat.max_eq_max, Nat.max_eq_left (by omega)]

theorem toTicks_mono {d e : Duration} (h : d.toNanos ≤ e.toNanos) : d.toTicks ≤ e.toTicks := by
  have hdiv :=
    Nat.div_le_div_right (c := nanosPerMilli) (Nat.add_le_add_right h (nanosPerMilli - 1))
  simp only [toTicks]
  omega

end Duration

end Imds
