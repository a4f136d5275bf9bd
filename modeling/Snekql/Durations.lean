import Mathlib.Tactic.Choose

/-!
# Durations

A duration column stores a signed number of milliseconds. Python keeps a `timedelta` as days,
seconds and microseconds, of which only the days may be negative, so a negative duration counts
upwards from the day before it. Truncation to milliseconds takes the remainder of the microseconds
away, and the stored number is a floor division of the whole.
-/

namespace Snekql.Storage

/-- `timedelta`. -/
structure Timedelta where
  days : Int
  seconds : Nat
  microseconds : Nat
  days_range : -999999999 ≤ days ∧ days ≤ 999999999
  seconds_range : seconds < 86400
  microseconds_range : microseconds < 1000000

namespace Timedelta

def total (duration : Timedelta) : Int :=
  (duration.days * 86400 + duration.seconds) * 1000000 + duration.microseconds

/-- The normalized fields of a number of microseconds; nothing where Python raises `OverflowError`. -/
def ofMicroseconds (total : Int) : Option Timedelta :=
  if days_range : -999999999 ≤ total / 86400000000 ∧ total / 86400000000 ≤ 999999999 then
    some {
      days := total / 86400000000
      seconds := (total % 86400000000 / 1000000).toNat
      microseconds := (total % 1000000).toNat
      days_range
      seconds_range := by omega
      microseconds_range := by omega }
  else none

/-- `first - second`. -/
def sub (first second : Timedelta) : Option Timedelta := ofMicroseconds (first.total - second.total)

/-- `first // second`. -/
def floordiv (first second : Timedelta) : Int := first.total.fdiv second.total

/-- `first < second`, field by field. -/
def lt (first second : Timedelta) : Bool :=
  first.days < second.days || (first.days == second.days &&
    (first.seconds < second.seconds || (first.seconds == second.seconds &&
      first.microseconds < second.microseconds)))

end Timedelta

/-- The limits of a `_BackendCodec`. -/
structure BackendCodec where
  maxTextChars : Option Nat

/-- `_SQLITE_CODEC`. -/
def sqliteCodec : BackendCodec := { maxTextChars := none }

/-- `_MARIADB_CODEC`. -/
def mariadbCodec : BackendCodec := { maxTextChars := some 255 }

/-- The storage types of a column that is not `BLOB`, as far as encoding tells them apart. -/
inductive StorageType where
  | integer
  | text (length : Option Nat)
  | other
deriving DecidableEq, Repr

/-- What the adapter of a column serializes. -/
inductive Wire where
  | integer (value : Int)
  | float (finite : Bool)
  | text (chars : List Char)
deriving DecidableEq, Repr

/-- The `ModelValidationError`s of `_encode_primitive`. -/
inductive EncodingError where
  | nonFinite
  | integerRange
  | textLength (limit : Nat)
deriving DecidableEq, Repr

/-- `timedelta(milliseconds=1)`. -/
def millisecond : Timedelta :=
  { days := 0, seconds := 0, microseconds := 1000, days_range := by decide,
    seconds_range := by decide, microseconds_range := by decide }

/-- `timedelta(microseconds=value.microseconds % 1000)`. -/
def excess (duration : Timedelta) : Timedelta :=
  { days := 0, seconds := 0, microseconds := duration.microseconds % 1000, days_range := by decide,
    seconds_range := by decide, microseconds_range := by omega }

/-- `_decode_duration_milliseconds`, of an integer. -/
def decodeDurationMilliseconds (value : Int) : Option Timedelta :=
  Timedelta.ofMicroseconds (value * 1000)

/-- `_normalize_duration_milliseconds`. -/
def normalizeDurationMilliseconds (value : Timedelta) : Option Timedelta := value.sub (excess value)

/-- `_serialize_duration_milliseconds`, of a duration. -/
def serializeDurationMilliseconds (value : Timedelta) : Int := value.floordiv millisecond

/-- `_INT64_MIN`. -/
def int64Min : Int := -9223372036854775808

/-- `_INT64_MAX`. -/
def int64Max : Int := 9223372036854775807

/-- The checks of `_encode_primitive` on the serialized value. -/
def encodePrimitive (storageType : StorageType) (codec : BackendCodec) (integerSum : Bool) :
    Wire → Except EncodingError Wire
  | .float finite => if finite then .ok (.float finite) else .error .nonFinite
  | .integer value =>
    if storageType = .integer ∧ integerSum = false ∧ ¬(int64Min ≤ value ∧ value ≤ int64Max) then
      .error .integerRange
    else .ok (.integer value)
  | .text chars =>
    match storageType, codec.maxTextChars with
    | .text length, some limit =>
      if length.all (· ≤ limit) ∧ limit < chars.length then .error (.textLength limit)
      else .ok (.text chars)
    | _, _ => .ok (.text chars)

/-- Validation of a stored integer: decoding, then truncation. -/
def decodePrimitive (value : Int) : Option Timedelta :=
  decodeDurationMilliseconds value >>= normalizeDurationMilliseconds

/-! ## Fields -/

theorem total_bounds (duration : Timedelta) :
    -999999999 * 86400000000 ≤ duration.total ∧ duration.total < 1000000000 * 86400000000 := by
  have days := duration.days_range
  have seconds := duration.seconds_range
  have microseconds := duration.microseconds_range
  simp only [Timedelta.total]
  omega

theorem total_injective {first second : Timedelta} (same : first.total = second.total) :
    first = second := by
  obtain ⟨days, seconds, microseconds, _, _, _⟩ := first
  obtain ⟨otherDays, otherSeconds, otherMicroseconds, _, _, _⟩ := second
  simp only [Timedelta.total] at same
  simp only [Timedelta.mk.injEq]
  omega

/-- Python compares the fields in the order of the whole. -/
theorem lt_iff_total (first second : Timedelta) :
    first.lt second = true ↔ first.total < second.total := by
  have seconds := first.seconds_range
  have microseconds := first.microseconds_range
  have otherSeconds := second.seconds_range
  have otherMicroseconds := second.microseconds_range
  simp only [Timedelta.lt, Timedelta.total, Bool.or_eq_true, Bool.and_eq_true, decide_eq_true_eq,
    beq_iff_eq]
  omega

/-- Every number within the range of `timedelta` is a duration. -/
theorem exists_ofMicroseconds {total : Int} (least : -999999999 * 86400000000 ≤ total)
    (greatest : total < 1000000000 * 86400000000) :
    ∃ duration, Timedelta.ofMicroseconds total = some duration ∧ duration.total = total := by
  have days_range : -999999999 ≤ total / 86400000000 ∧ total / 86400000000 ≤ 999999999 := by omega
  refine ⟨_, dif_pos days_range, ?_⟩
  simp only [Timedelta.total]
  omega

/-! ## Milliseconds -/

theorem serialize_eq (duration : Timedelta) :
    serializeDurationMilliseconds duration = duration.total / 1000 := by
  have divisor : millisecond.total = 1000 := rfl
  rw [serializeDurationMilliseconds, Timedelta.floordiv, divisor,
    Int.fdiv_eq_ediv_of_nonneg _ (by decide)]

/-- Truncation never fails, and keeps the whole milliseconds. -/
theorem exists_normalize (duration : Timedelta) :
    ∃ normalized, normalizeDurationMilliseconds duration = some normalized ∧
      normalized.total = duration.total / 1000 * 1000 := by
  have bounds := total_bounds duration
  have microseconds := duration.microseconds_range
  have removed : duration.total - (excess duration).total = duration.total / 1000 * 1000 := by
    simp only [Timedelta.total, excess]
    omega
  rw [normalizeDurationMilliseconds, Timedelta.sub, removed]
  exact exists_ofMicroseconds (by omega) (by omega)

theorem normalize_idempotent {duration normalized : Timedelta}
    (truncated : normalizeDurationMilliseconds duration = some normalized) :
    normalizeDurationMilliseconds normalized = some normalized := by
  obtain ⟨once, first, total⟩ := exists_normalize duration
  obtain rfl : once = normalized := Option.some.inj (first.symm.trans truncated)
  obtain ⟨twice, second, again⟩ := exists_normalize once
  obtain rfl : twice = once := total_injective (by omega)
  exact second

/-- No check of the encoding refuses a duration. -/
theorem encodePrimitive_serialize (storageType : StorageType) (codec : BackendCodec)
    (integerSum : Bool) (duration : Timedelta) :
    encodePrimitive storageType codec integerSum
      (.integer (serializeDurationMilliseconds duration)) =
        .ok (.integer (serializeDurationMilliseconds duration)) := by
  have bounds := total_bounds duration
  rw [encodePrimitive, serialize_eq]
  refine if_neg ?_
  rintro ⟨-, -, outside⟩
  simp only [int64Min, int64Max] at outside
  omega

/-- The encoded number is decoded to the truncation. -/
theorem decodePrimitive_serialize (duration : Timedelta) :
    decodePrimitive (serializeDurationMilliseconds duration) =
      normalizeDurationMilliseconds duration := by
  have bounds := total_bounds duration
  rw [serialize_eq]
  obtain ⟨normalized, truncated, total⟩ := exists_normalize duration
  obtain ⟨decoded, read, same⟩ := exists_ofMicroseconds
    (show -999999999 * 86400000000 ≤ duration.total / 1000 * 1000 by omega) (by omega)
  obtain rfl : decoded = normalized := total_injective (same.trans total.symm)
  rw [decodePrimitive, decodeDurationMilliseconds, read, truncated]
  exact normalize_idempotent truncated

/-- In every backend a duration is encoded within the signed 64-bit range and decoded to its
truncation. Truncation never fails and is idempotent, and the encoded numbers are ordered as the
truncated durations are. -/
theorem durations_are_ordered_milliseconds (storageType : StorageType) (codec : BackendCodec)
    (integerSum : Bool) :
    ∃ normalize : Timedelta → Timedelta,
      (∀ duration, normalizeDurationMilliseconds duration = some (normalize duration)) ∧
      (∀ duration, normalize (normalize duration) = normalize duration) ∧
      ∃ encode : Timedelta → Int,
        (∀ duration, encodePrimitive storageType codec integerSum
          (.integer (serializeDurationMilliseconds duration)) = .ok (.integer (encode duration))) ∧
        (∀ duration, int64Min ≤ encode duration ∧ encode duration ≤ int64Max) ∧
        (∀ duration, decodePrimitive (encode duration) = some (normalize duration)) ∧
        ∀ first second, encode first < encode second ↔
          (normalize first).lt (normalize second) = true := by
  choose normalize truncated total using exists_normalize
  refine ⟨normalize, truncated, ?_, serializeDurationMilliseconds, ?_, ?_, ?_, ?_⟩
  · intro duration
    have again := normalize_idempotent (truncated duration)
    exact Option.some.inj ((truncated _).symm.trans again)
  · exact encodePrimitive_serialize storageType codec integerSum
  · intro duration
    have bounds := total_bounds duration
    simp only [serialize_eq, int64Min, int64Max]
    omega
  · intro duration
    rw [decodePrimitive_serialize, truncated]
  · intro first second
    rw [lt_iff_total, total, total, serialize_eq, serialize_eq]
    omega

end Snekql.Storage
