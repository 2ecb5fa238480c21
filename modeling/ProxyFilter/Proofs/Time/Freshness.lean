import Mathlib.Data.Prod.Lex
import Mathlib.Order.MinMax
import ProxyFilter.Time.Instant

/-!
# Freshness as time passes

Instants are in order by their seconds, and by their nanoseconds within one second
(`Instant.le_iff`). Nanoseconds from a second on stand for a leap second, which has more of them
since the epoch than the beginning of the second after it: an instant of it may overrun one of that
second (`Instant.Overruns`), and no other instant overruns a later one (`Instant.overruns_iff`).

From the epoch on the clock keeps the order of instants at either resolution, where none overruns
the other if it counts nanoseconds (`Resolution.clock_le`), and so does an age that saturates
(`Text.saturate64_le`). So a timestamp that lets a token live did so before
(`Freshness.holds_of_le`).

Where neither the clock nor the allowed age reaches the greatest number, freshness is the comparison
of unbounded integers, each rounded down to the resolution (`Freshness.holds_iff_le`): an age that
saturates is above every allowed age, or below all of them (`Text.saturate64_le_iff`).
-/

namespace ProxyFilter

namespace Instant

/-- Seconds decide which instant comes first, and nanoseconds between those of one second. -/
def key (t : Instant) : Int ×ₗ Nat := toLex (t.seconds, t.nanos)

/-- Instants with the same seconds and nanoseconds are the same. -/
theorem key_injective : Function.Injective key := by
  rintro ⟨seconds, nanos⟩ ⟨seconds', nanos'⟩ h
  obtain ⟨rfl, rfl⟩ := Prod.mk.inj (toLex.injective h)
  rfl

/-- The order in which instants come. -/
instance : LinearOrder Instant := LinearOrder.lift' key key_injective

variable {t u : Instant}

/-- The seconds decide, and between equal ones the nanoseconds. -/
theorem le_iff : t ≤ u ↔ t.seconds < u.seconds ∨ t.seconds = u.seconds ∧ t.nanos ≤ u.nanos :=
  Prod.Lex.toLex_le_toLex

/-- Seconds do not go back. -/
theorem seconds_le (h : t ≤ u) : t.seconds ≤ u.seconds := by
  rw [le_iff] at h
  omega

/-- From the epoch on nanoseconds since the epoch are not negative. -/
theorem totalNanos_nonneg (hepoch : .epoch ≤ t) : 0 ≤ t.totalNanos := by
  have hseconds : 0 ≤ t.seconds := seconds_le hepoch
  simp only [totalNanos]
  omega

/-- The instant has more nanoseconds since the epoch than another, whose nanoseconds are below the
greatest number of sixty-four bits. -/
def Overruns (t u : Instant) : Prop := u.totalNanos < t.totalNanos ∧ u.totalNanos < Text.int64Max

instance (t u : Instant) : Decidable (t.Overruns u) :=
  inferInstanceAs (Decidable (_ ∧ _))

/-- An instant overruns a later one only from a leap second into the second right after it, and
there if it is further past the beginning of the leap second than the other is into its own. -/
theorem overruns_iff (h : t ≤ u) (ht : t.nanos < 2000000000) :
    t.Overruns u ↔ u.seconds = t.seconds + 1 ∧ u.nanos + 1000000000 < t.nanos ∧
      u.totalNanos < Text.int64Max := by
  rw [le_iff] at h
  simp only [Overruns, totalNanos]
  omega

end Instant

/-- An age that saturates is no less than one that is less. -/
theorem Text.saturate64_le {n m : Int} (h : n ≤ m) : saturate64 n ≤ saturate64 m := by
  simp only [saturate64]
  omega

variable {t u : Instant}

/-- From the epoch on the clock in nanoseconds saturates. -/
theorem Resolution.clock_nanos (hepoch : .epoch ≤ t) :
    clock .nanos t = min t.totalNanos Text.int64Max := by
  have hmin : Text.int64Min ≤ t.totalNanos :=
    le_trans (by decide) (Instant.totalNanos_nonneg hepoch)
  by_cases hmax : t.totalNanos ≤ Text.int64Max
  · rw [clock, if_pos ⟨hmin, hmax⟩, min_eq_left hmax]
  · rw [clock, if_neg fun h => hmax h.2, min_eq_right (le_of_not_ge hmax)]

/-- From the epoch on the clock does not go back, in nanoseconds where the instant does not overrun
the later one. -/
theorem Resolution.clock_le {resolution : Resolution} (hepoch : .epoch ≤ t) (h : t ≤ u)
    (hruns : resolution = .nanos → ¬ t.Overruns u) : resolution.clock t ≤ resolution.clock u := by
  cases resolution with
  | seconds => exact Instant.seconds_le h
  | nanos =>
    rw [clock_nanos hepoch, clock_nanos (le_trans hepoch h)]
    rcases not_and_or.1 (hruns rfl) with hnanos | hmax
    · exact min_le_min_right _ (not_lt.1 hnanos)
    · exact le_trans (min_le_right _ _) (le_min (not_lt.1 hmax) le_rfl)

/-- A timestamp that lets a token live lets it live before. -/
theorem Freshness.holds_of_le {rule : Freshness} {timestamp : Int} {resolution : Resolution}
    (hepoch : .epoch ≤ t) (h : t ≤ u) (hruns : resolution = .nanos → ¬ t.Overruns u)
    (hu : rule.holds timestamp resolution u = true) :
    rule.holds timestamp resolution t = true := by
  have hclock := Resolution.clock_le hepoch h hruns
  cases rule with
  | expiresAt =>
    simp only [holds, decide_eq_true_eq] at hu ⊢
    exact le_trans hclock hu
  | issuedAt maxAge =>
    simp only [holds, decide_eq_true_eq] at hu ⊢
    have hage : resolution.clock t - timestamp ≤ resolution.clock u - timestamp := by omega
    exact le_trans (Text.saturate64_le hage) hu

/-! ## Unbounded integers -/

/-- The leap seconds that an instant is in: one where its nanoseconds are a second or more. -/
def Instant.leapSeconds (t : Instant) : Nat := t.nanos / 1000000000

namespace Resolution

/-- The nanoseconds in one unit. -/
def unit : Resolution → Int
  | .seconds => 1000000000
  | .nanos => 1

/-- The whole units from the epoch to an instant, however many. A leap second is no second of its
own: it counts as the one before it. -/
def floor : Resolution → Instant → Int
  | .seconds, t => t.totalNanos / 1000000000 - t.leapSeconds
  | .nanos, t => t.totalNanos

/-- The whole units of a length of time, however many. -/
def length : Resolution → Duration → Int
  | .seconds, d => d.seconds
  | .nanos, d => d.totalNanos

/-- Outside leap seconds the nanoseconds are divided by those of a unit, rounding down. -/
theorem floor_eq (resolution : Resolution) (h : t.nanos < 1000000000) :
    resolution.floor t = t.totalNanos / resolution.unit := by
  cases resolution with
  | seconds =>
    have hleap : t.leapSeconds = 0 := Nat.div_eq_of_lt h
    simp only [floor, unit, hleap]
    omega
  | nanos => exact (Int.ediv_one _).symm

/-- A number of units is within a length of time if its nanoseconds are: what is lost by rounding
the length down is less than a unit. -/
theorem le_length_iff (resolution : Resolution) {d : Duration} (h : d.nanos < 1000000000)
    (n : Int) : n ≤ resolution.length d ↔ n * resolution.unit ≤ d.totalNanos := by
  cases resolution with
  | seconds =>
    simp only [length, unit, Duration.totalNanos]
    omega
  | nanos =>
    simp only [length, unit, Int.mul_one]

/-- The clock does not saturate where sixty-four bits hold its nanoseconds. -/
theorem clock_eq_floor (resolution : Resolution)
    (h : Text.int64Min ≤ t.totalNanos ∧ t.totalNanos ≤ Text.int64Max) :
    resolution.clock t = resolution.floor t := by
  cases resolution with
  | seconds =>
    simp only [clock, floor, Instant.totalNanos, Instant.leapSeconds]
    omega
  | nanos => exact if_pos h

/-- A length of time that sixty-four bits hold does not saturate. -/
theorem span_eq_length (resolution : Resolution) {d : Duration}
    (h : resolution.length d ≤ Text.int64Max) : resolution.span d = resolution.length d := by
  cases resolution <;> exact min_eq_left h

/-- A length of time is not negative. -/
theorem length_nonneg (resolution : Resolution) (d : Duration) : 0 ≤ resolution.length d := by
  cases resolution <;> exact Int.natCast_nonneg _

end Resolution

/-- An age that saturates compares as it would with any bound below the greatest number. -/
theorem Text.saturate64_le_iff {n bound : Int} (hnonneg : 0 ≤ bound) (hbound : bound < int64Max) :
    saturate64 n ≤ bound ↔ n ≤ bound := by
  simp only [saturate64, int64Min, int64Max] at hbound ⊢
  omega

/-- **Where sixty-four bits hold the nanoseconds of the clock, a token is good up to its timestamp
exactly if the clock, rounded down to the resolution, is not past it, and good for an age that is
below the greatest number exactly if the clock less the timestamp is at most that age, both over
unbounded integers. Rounding down is division outside leap seconds, and a leap second counts as the
second before it; the part of an age that rounding drops makes no difference.** -/
theorem Freshness.holds_iff_le {now : Instant}
    (hnow : Text.int64Min ≤ now.totalNanos ∧ now.totalNanos ≤ Text.int64Max)
    (resolution : Resolution) (timestamp : Int) :
    (expiresAt.holds timestamp resolution now = true ↔ resolution.floor now ≤ timestamp) ∧
    (∀ maxAge, resolution.length maxAge < Text.int64Max →
      ((issuedAt maxAge).holds timestamp resolution now = true ↔
        resolution.floor now - timestamp ≤ resolution.length maxAge)) ∧
    (now.nanos < 1000000000 → resolution.floor now = now.totalNanos / resolution.unit) ∧
    (∀ maxAge : Duration, maxAge.nanos < 1000000000 →
      (resolution.floor now - timestamp ≤ resolution.length maxAge ↔
        (resolution.floor now - timestamp) * resolution.unit ≤ maxAge.totalNanos)) := by
  refine ⟨?_, fun maxAge hage => ?_, resolution.floor_eq, fun maxAge hnanos => ?_⟩
  · simp only [holds, decide_eq_true_eq, resolution.clock_eq_floor hnow]
  · simp only [holds, decide_eq_true_eq, resolution.clock_eq_floor hnow,
      resolution.span_eq_length hage.le]
    exact Text.saturate64_le_iff (resolution.length_nonneg maxAge) hage
  · exact resolution.le_length_iff hnanos _

/-- Half a second before the epoch the clock stands at second -1, which is rounded down, and an age
of two and a half seconds is as good as one of two. At the last nanosecond that sixty-four bits
hold, a token that was issued before the epoch is of an age that they do not hold, and is refused
for the greatest age that the comparison is exact for. -/
theorem Freshness.holds_iff_le_extremes :
    (Text.int64Min ≤ (⟨-1, 500000000⟩ : Instant).totalNanos ∧
      (⟨-1, 500000000⟩ : Instant).totalNanos ≤ Text.int64Max) ∧
    expiresAt.holds (-1) .seconds ⟨-1, 500000000⟩ = true ∧
    expiresAt.holds (-2) .seconds ⟨-1, 500000000⟩ = false ∧
    Resolution.seconds.floor ⟨-1, 500000000⟩ = -500000000 / 1000000000 ∧
    (issuedAt ⟨2, 500000000⟩).holds (-3) .seconds ⟨-1, 500000000⟩ = true ∧
    ((-1 : Int) - -3) * 1000000000 ≤ (⟨2, 500000000⟩ : Duration).totalNanos ∧
    (Text.int64Min ≤ (⟨9223372036, 854775807⟩ : Instant).totalNanos ∧
      (⟨9223372036, 854775807⟩ : Instant).totalNanos ≤ Text.int64Max) ∧
    (issuedAt ⟨9223372036, 854775806⟩).holds (-1) .nanos ⟨9223372036, 854775807⟩ = false := by
  have hbefore : Text.int64Min ≤ (⟨-1, 500000000⟩ : Instant).totalNanos ∧
      (⟨-1, 500000000⟩ : Instant).totalNanos ≤ Text.int64Max := by decide
  have hlast : Text.int64Min ≤ (⟨9223372036, 854775807⟩ : Instant).totalNanos ∧
      (⟨9223372036, 854775807⟩ : Instant).totalNanos ≤ Text.int64Max := by decide
  have hage := ((holds_iff_le hbefore .seconds (-3)).2.1 ⟨2, 500000000⟩ (by decide)).2 (by decide)
  refine ⟨hbefore, (holds_iff_le hbefore .seconds (-1)).1.2 (by decide), ?_,
    (holds_iff_le hbefore .seconds 0).2.2.1 (by decide), hage,
    ((holds_iff_le hbefore .seconds (-3)).2.2.2 ⟨2, 500000000⟩ (by decide)).1 (by decide), hlast,
    ?_⟩
  · rw [← Bool.not_eq_true, (holds_iff_le hbefore .seconds (-2)).1]
    decide
  · rw [← Bool.not_eq_true, (holds_iff_le hlast .nanos (-1)).2.1 _ (by decide)]
    decide

end ProxyFilter
