import Mathlib

/-!
# Instants and durations of the Rust standard library and of chrono

An instant of `chrono::DateTime<Utc>` is a count of nanoseconds since the Unix
epoch inside the range that the crate can represent. Databases keep instants
as whole milliseconds or microseconds, rounded towards the past; a stored
millisecond count that came from an instant is itself an instant, which is why
the stored type carries the same range.
-/

namespace Wareboxes.RustTime

/-- The largest `i64`. -/
def maxI64 : ℤ := 9223372036854775807

/-- The largest `u32`. -/
def maxU32 : ℕ := 4294967295

/-- `i64::checked_add`. -/
def checkedAddI64 (left right : ℤ) : Option ℤ :=
  if -maxI64 - 1 ≤ left + right ∧ left + right ≤ maxI64 then some (left + right) else none

theorem checkedAddI64_eq_some {left right sum : ℤ} :
    checkedAddI64 left right = some sum ↔
      left + right = sum ∧ -maxI64 - 1 ≤ sum ∧ sum ≤ maxI64 := by
  unfold checkedAddI64
  split_ifs with hfits
  · constructor
    · rintro ⟨⟩
      exact ⟨rfl, hfits⟩
    · rintro ⟨rfl, -⟩
      rfl
  · constructor
    · rintro ⟨⟩
    · rintro ⟨rfl, hsum⟩
      exact absurd hsum hfits

/-- The first second of `DateTime::<Utc>::MIN_UTC`. -/
def minSeconds : ℤ := -8334601228800

/-- The last second of `DateTime::<Utc>::MAX_UTC`. -/
def maxSeconds : ℤ := 8210266876799

/-- An instant, as nanoseconds since the epoch. -/
structure DateTime where
  /-- Nanoseconds since 1970-01-01T00:00:00Z. -/
  nanos : ℤ
  /-- The instant is not before the first representable one. -/
  lower : minSeconds * 1000000000 ≤ nanos
  /-- The instant is not after the last representable one. -/
  upper : nanos ≤ maxSeconds * 1000000000 + 999999999
  deriving DecidableEq

/-- A stored instant, as whole milliseconds since the epoch. -/
structure Millis where
  /-- Milliseconds since 1970-01-01T00:00:00Z. -/
  millis : ℤ
  /-- The instant is not before the first representable one. -/
  lower : minSeconds * 1000 ≤ millis
  /-- The instant is not after the last representable one. -/
  upper : millis ≤ maxSeconds * 1000 + 999

/-- `DateTime::timestamp_millis`: the millisecond that contains the instant. -/
def DateTime.timestampMillis (instant : DateTime) : Millis :=
  ⟨instant.nanos / 1000000, by
    have := instant.lower
    omega, by
    have := instant.upper
    omega⟩

/-- `DateTime::from_timestamp_millis` on a millisecond count inside the range. -/
def Millis.toDateTime (stored : Millis) : DateTime :=
  ⟨stored.millis * 1000000, by
    have := stored.lower
    omega, by
    have := stored.upper
    omega⟩

/-- A span of `std::time::Duration`. -/
structure Duration where
  nanos : ℕ
  /-- Seconds are an unsigned 64-bit count. -/
  bounded : nanos < 18446744073709551616 * 1000000000
  deriving DecidableEq

/-- `Duration::as_millis`, rounded down. -/
def Duration.asMillis (span : Duration) : ℕ := span.nanos / 1000000

/-- `Duration::checked_mul`. -/
def Duration.checkedMul (span : Duration) (factor : ℕ) : Option Duration :=
  if h : span.nanos * factor < 18446744073709551616 * 1000000000 then
    some ⟨span.nanos * factor, h⟩
  else none

/-- `Ord::min` on spans. -/
def Duration.min (first second : Duration) : Duration :=
  if first.nanos ≤ second.nanos then first else second

/-- `Duration::ZERO`. -/
def Duration.zero : Duration := ⟨0, by decide⟩

/-- `Duration::MAX`. -/
def Duration.maximum : Duration := ⟨18446744073709551616 * 1000000000 - 1, by decide⟩

/-- `Duration::checked_add`. -/
def Duration.checkedAdd (first second : Duration) : Option Duration :=
  if h : first.nanos + second.nanos < 18446744073709551616 * 1000000000 then
    some ⟨first.nanos + second.nanos, h⟩
  else none

/-- `Duration::saturating_sub`. -/
def Duration.saturatingSub (first second : Duration) : Duration :=
  ⟨first.nanos - second.nanos, by
    have := first.bounded
    omega⟩

/-- The quotient of a span by two, rounded down. -/
def Duration.half (span : Duration) : Duration :=
  ⟨span.nanos / 2, by
    have := span.bounded
    omega⟩

theorem Duration.checkedAdd_eq_some {first second sum : Duration}
    (h : first.checkedAdd second = some sum) : sum.nanos = first.nanos + second.nanos := by
  unfold Duration.checkedAdd at h
  split at h
  · cases h
    rfl
  · cases h

/-- `DateTime::signed_duration_since` followed by `TimeDelta::to_std`: the span from an
earlier instant, and nothing when that instant is later. -/
def DateTime.since (later earlier : DateTime) : Option Duration :=
  if h : earlier.nanos ≤ later.nanos then
    some ⟨(later.nanos - earlier.nanos).toNat, by
      have := earlier.lower
      have := later.upper
      unfold minSeconds at *
      unfold maxSeconds at *
      omega⟩
  else none

theorem DateTime.since_eq_some {later earlier : DateTime} {span : Duration}
    (h : later.since earlier = some span) : earlier.nanos + span.nanos = later.nanos := by
  unfold DateTime.since at h
  split at h
  · cases h
    dsimp only
    omega
  · cases h

/-- `DateTime::to_rfc3339` and `DateTime::parse_from_rfc3339`. -/
structure Rfc3339 where
  /-- The instant that a text names. -/
  parse : String → Option DateTime
  /-- The text of an instant. -/
  format : DateTime → String
  /-- What was written is read as nothing else; years beyond four digits are not read. -/
  parse_format {instant read : DateTime} (h : parse (format instant) = some read) : read = instant

/-- `chrono::Duration::from_std` followed by `DateTime::checked_add_signed`: a span
of at most `i64::MAX` milliseconds is added when the sum is representable. -/
def DateTime.checkedAdd (instant : DateTime) (span : Duration) : Option DateTime :=
  if (span.nanos : ℤ) ≤ maxI64 * 1000000 then
    if h : instant.nanos + span.nanos ≤ maxSeconds * 1000000000 + 999999999 then
      some ⟨instant.nanos + span.nanos, by
        have := instant.lower
        omega, h⟩
    else none
  else none

/-- `DateTime::checked_add_signed`: an instant moved by some nanoseconds, when the sum is
representable. The operators `+` and `-` panic when it is not. -/
def DateTime.checkedAddSigned (instant : DateTime) (nanos : ℤ) : Option DateTime :=
  if h : minSeconds * 1000000000 ≤ instant.nanos + nanos ∧
      instant.nanos + nanos ≤ maxSeconds * 1000000000 + 999999999 then
    some ⟨instant.nanos + nanos, h.1, h.2⟩
  else none

end Wareboxes.RustTime
