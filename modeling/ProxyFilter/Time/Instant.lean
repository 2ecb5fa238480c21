import ProxyFilter.Text.Decimal

/-!
# Instants and freshness

An instant is a number of whole seconds since the Unix epoch and the nanoseconds past them. A token
carries a timestamp at one of two resolutions; `Freshness.holds` compares it with the clock at that
resolution, in sixty-four-bit arithmetic that saturates. A clock that nanoseconds cannot express
counts as the latest one they can.
-/

namespace ProxyFilter

/-- A moment on the clock. -/
structure Instant where
  /-- Whole seconds since the Unix epoch, rounded down. -/
  seconds : Int
  /-- Nanoseconds past the whole second. -/
  nanos : Nat
  deriving DecidableEq, Repr

namespace Instant

/-- The start of Unix time. -/
def epoch : Instant := ⟨0, 0⟩

/-- The first second of the year -262143, the earliest that the calendar knows. -/
def earliest : Int := -8334601228800

/-- The last second of the year 262142, the latest that the calendar knows. -/
def latest : Int := 8210266876799

/-- The instant so many seconds after the epoch, or the epoch where the calendar does not reach. -/
def ofUnixSeconds (n : Int) : Instant :=
  if earliest ≤ n ∧ n ≤ latest then ⟨n, 0⟩ else epoch

/-- Nanoseconds since the epoch, however many. -/
def totalNanos (t : Instant) : Int := t.seconds * 1000000000 + t.nanos

end Instant

/-- A length of time. -/
structure Duration where
  /-- Whole seconds. -/
  seconds : Nat
  /-- Nanoseconds past the whole seconds. -/
  nanos : Nat
  deriving DecidableEq, Repr

namespace Duration

/-- No time at all. -/
def zero : Duration := ⟨0, 0⟩

/-- The length in nanoseconds. -/
def totalNanos (d : Duration) : Nat := d.seconds * 1000000000 + d.nanos

end Duration

/-- The unit of a timestamp. -/
inductive Resolution
  /-- Seconds since the epoch. -/
  | seconds
  /-- Nanoseconds since the epoch. -/
  | nanos
  deriving DecidableEq, Repr

namespace Resolution

/-- The clock at this resolution, rounded down. -/
def clock : Resolution → Instant → Int
  | .seconds, t => t.seconds
  | .nanos, t =>
    let n := t.totalNanos
    if Text.int64Min ≤ n ∧ n ≤ Text.int64Max then n else Text.int64Max

/-- A length of time at this resolution, rounded down, or the longest one there is. -/
def span : Resolution → Duration → Int
  | .seconds, d => min d.seconds Text.int64Max
  | .nanos, d => min d.totalNanos Text.int64Max

end Resolution

/-- How a timestamp limits the life of a token. -/
inductive Freshness
  /-- The token is good up to its timestamp. -/
  | expiresAt
  /-- The token is good until it is older than `maxAge`. -/
  | issuedAt (maxAge : Duration)
  deriving DecidableEq, Repr

namespace Freshness

/-- A token with this timestamp is still good now. -/
def holds (rule : Freshness) (timestamp : Int) (resolution : Resolution) (now : Instant) : Bool :=
  let clock := resolution.clock now
  match rule with
  | .expiresAt => clock ≤ timestamp
  | .issuedAt maxAge => Text.saturate64 (clock - timestamp) ≤ resolution.span maxAge

end Freshness

end ProxyFilter
