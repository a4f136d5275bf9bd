import Snekql.Datetimes

/-!
# UTC and local datetimes

The values that are stored as text: instants in UTC, and civil datetimes without a time zone. Python's
reader of ISO texts is a parameter. Of all that it reads, only the texts that the serializers write
matter here, so it is assumed to read those.
-/

namespace Snekql.Temporal

open Snekql.Numerals

/-- A `datetime`. Its time zone, if it has one, may give it an offset in microseconds. -/
structure Stamp where
  civil : Datetime
  fold : Bool
  zone : Option (Option Int)
deriving DecidableEq, Repr

/-- `utcoffset()`. -/
def Stamp.utcoffset (stamp : Stamp) : Option Int := stamp.zone.join

def naive (civil : Datetime) : Stamp := { civil, fold := false, zone := none }

/-- A datetime in UTC. -/
def inUtc (civil : Datetime) : Stamp := { civil, fold := false, zone := some (some 0) }

/-- `astimezone(UTC).replace(fold=0)` of an aware datetime. -/
def toUtc (stamp : Stamp) (offset : Int) : Option Datetime := stamp.civil.shift (-offset)

/-- `str.removesuffix`. -/
def removesuffix (text ending : Text) : Text :=
  if ending.isSuffixOf text then text.take (text.length - ending.length) else text

/-- `DatetimeError`. -/
inductive DatetimeError where
  | notAware
  | notRepresentable
  | notCivil
  | invalidText
  | noncanonicalText
deriving DecidableEq, Repr

/-- `datetime.fromisoformat`, which reads the documented format of `isoformat`; nothing where it
raises. -/
structure IsoReader where
  fromisoformat : Text → Option Stamp
  reads_naive : ∀ civil : Datetime, fromisoformat civil.isoformat = some (naive civil)
  reads_zulu : ∀ civil : Datetime,
    fromisoformat (civil.isoformat ++ "Z".toList) = some (inUtc civil)
  reads_offset : ∀ civil : Datetime,
    fromisoformat (civil.isoformat ++ "+00:00".toList) = some (inUtc civil)

open Classical in
/-- Such a reader exists, since datetimes with different fields are written differently. -/
theorem nonempty_isoReader : Nonempty IsoReader := by
  have width := Datetime.length_isoformat
  let written : (Datetime → Text) → (Datetime → Stamp) → Text → Option Stamp :=
    fun write stamp text =>
      if found : ∃ civil, write civil = text then some (stamp found.choose) else none
  have reads : ∀ (ending : Text) (stamp : Datetime → Stamp) (civil : Datetime),
      written (fun civil => civil.isoformat ++ ending) stamp (civil.isoformat ++ ending) =
        some (stamp civil) := by
    intro ending stamp civil
    have found : ∃ other : Datetime, other.isoformat ++ ending = civil.isoformat ++ ending :=
      ⟨civil, rfl⟩
    have same : found.choose = civil :=
      Datetime.isoformat_injective (List.append_cancel_right found.choose_spec)
    simp only [written, dif_pos found, same]
  have skips : ∀ (ending other : Text) (stamp : Datetime → Stamp) (civil : Datetime),
      ending.length ≠ other.length →
        written (fun civil => civil.isoformat ++ other) stamp (civil.isoformat ++ ending) =
          none := by
    intro ending other stamp civil differs
    have absent : ¬∃ written : Datetime, written.isoformat ++ other = civil.isoformat ++ ending := by
      rintro ⟨written, same⟩
      have lengths := congrArg List.length same
      rw [List.length_append, List.length_append, width, width] at lengths
      omega
    simp only [written, dif_neg absent]
  refine ⟨⟨fun text =>
    (written (fun civil => civil.isoformat ++ []) naive text).or
      ((written (fun civil => civil.isoformat ++ "Z".toList) inUtc text).or
        (written (fun civil => civil.isoformat ++ "+00:00".toList) inUtc text)), ?_, ?_, ?_⟩⟩
  · intro civil
    have read := reads [] naive civil
    rw [List.append_nil] at read
    rw [read, Option.some_or]
  · intro civil
    rw [skips _ _ _ _ (by simp), reads, Option.none_or, Option.some_or]
  · intro civil
    rw [skips _ _ _ _ (by simp), skips _ _ _ _ (by simp), reads, Option.none_or, Option.none_or]

/-- What `_from_wire` does for both kinds of values. -/
def decodeWire {Value : Type} (reader : IsoReader) (create : Stamp → Except DatetimeError Value)
    (serialize : Value → Text) (text : Text) : Except DatetimeError Value :=
  match reader.fromisoformat text with
  | none => .error .invalidText
  | some stamp =>
    match create stamp with
    | .error _ => .error .invalidText
    | .ok instant =>
      if serialize instant ≠ text then .error .noncanonicalText else .ok instant

/-! ## UTC -/

/-- `UtcDatetime`. -/
structure UtcDatetime where
  datetime : Datetime
deriving DecidableEq, Repr

namespace UtcDatetime

/-- `__post_init__`. -/
def create (stamp : Stamp) : Except DatetimeError UtcDatetime :=
  match stamp.utcoffset with
  | none => .error .notAware
  | some offset =>
    match toUtc stamp offset with
    | none => .error .notRepresentable
    | some instant => .ok ⟨instant⟩

/-- The order of the dataclass. -/
def Less (first second : UtcDatetime) : Prop := first.datetime.Less second.datetime

/-- `_serialize`. -/
def serialize (value : UtcDatetime) : Text :=
  removesuffix (value.datetime.isoformat ++ "+00:00".toList) "+00:00".toList ++ "Z".toList

/-- `_from_wire`. -/
def fromWire (reader : IsoReader) (text : Text) : Except DatetimeError UtcDatetime :=
  decodeWire reader create serialize text

end UtcDatetime

/-! ## Local datetimes -/

/-- `LocalDatetime`. -/
structure LocalDatetime where
  datetime : Datetime
deriving DecidableEq, Repr

namespace LocalDatetime

/-- `__post_init__`. -/
def create (stamp : Stamp) : Except DatetimeError LocalDatetime :=
  if stamp.zone.isSome || stamp.fold then .error .notCivil else .ok ⟨stamp.civil⟩

/-- The order of the dataclass. -/
def Less (first second : LocalDatetime) : Prop := first.datetime.Less second.datetime

/-- `_serialize`. -/
def serialize (value : LocalDatetime) : Text := value.datetime.isoformat

/-- `_from_wire`. -/
def fromWire (reader : IsoReader) (text : Text) : Except DatetimeError LocalDatetime :=
  decodeWire reader create serialize text

end LocalDatetime

/-! ## Reading back -/

theorem removesuffix_append (text ending : Text) : removesuffix (text ++ ending) ending = text := by
  have ends : ending.isSuffixOf (text ++ ending) = true :=
    List.isSuffixOf_iff_suffix.mpr (List.suffix_append _ _)
  rw [removesuffix, if_pos ends, List.length_append, Nat.add_sub_cancel, List.take_left']
  rfl

theorem UtcDatetime.serialize_eq (value : UtcDatetime) :
    value.serialize = value.datetime.isoformat ++ "Z".toList := by
  rw [UtcDatetime.serialize, removesuffix_append]

theorem toUtc_inUtc (civil : Datetime) : toUtc (inUtc civil) 0 = some civil := by
  have same : (inUtc civil).civil = civil := rfl
  rw [toUtc, Int.neg_zero, same]
  exact civil.shift_zero

theorem UtcDatetime.create_of_toUtc {stamp : Stamp} {offset : Int} {instant : Datetime}
    (aware : stamp.utcoffset = some offset) (moved : toUtc stamp offset = some instant) :
    create stamp = .ok ⟨instant⟩ := by
  simp only [create, aware, moved]

theorem UtcDatetime.create_inUtc (civil : Datetime) : create (inUtc civil) = .ok ⟨civil⟩ :=
  create_of_toUtc rfl (toUtc_inUtc civil)

section Decoding

variable {Value : Type} {reader : IsoReader} {create : Stamp → Except DatetimeError Value}
  {serialize : Value → Text}

theorem decodeWire_serialize {value : Value} {stamp : Stamp}
    (read : reader.fromisoformat (serialize value) = some stamp)
    (created : create stamp = .ok value) :
    decodeWire reader create serialize (serialize value) = .ok value := by
  rw [decodeWire, read]
  simp only [created, ne_eq, not_true_eq_false, if_false]

/-- What is read was written. -/
theorem serialize_of_decodeWire {text : Text} {value : Value}
    (decoded : decodeWire reader create serialize text = .ok value) : serialize value = text := by
  unfold decodeWire at decoded
  split at decoded
  · cases decoded
  · split at decoded
    · cases decoded
    · split at decoded
      · cases decoded
      · rename_i canonical
        cases decoded
        exact not_not.mp canonical

/-- The reader accepts exactly the written texts. -/
theorem decodeWire_accepts_iff
    (readsBack : ∀ value, decodeWire reader create serialize (serialize value) = .ok value)
    (text : Text) :
    (∃ value, decodeWire reader create serialize text = .ok value) ↔
      ∃ value, serialize value = text := by
  constructor
  · rintro ⟨value, decoded⟩
    exact ⟨value, serialize_of_decodeWire decoded⟩
  · rintro ⟨value, rfl⟩
    exact ⟨value, readsBack value⟩

end Decoding

theorem UtcDatetime.fromWire_serialize (reader : IsoReader) (value : UtcDatetime) :
    fromWire reader value.serialize = .ok value := by
  refine decodeWire_serialize ?_ (UtcDatetime.create_inUtc value.datetime)
  rw [UtcDatetime.serialize_eq, reader.reads_zulu]

theorem LocalDatetime.fromWire_serialize (reader : IsoReader) (value : LocalDatetime) :
    fromWire reader value.serialize = .ok value :=
  decodeWire_serialize (reader.reads_naive value.datetime) rfl

/-- For instants in UTC and for local datetimes: the text of a value is read back as the value, the
reader accepts exactly the texts of values, and values are ordered as their texts are. -/
theorem temporal_texts_are_canonical (reader : IsoReader) :
    ((∀ value : UtcDatetime, UtcDatetime.fromWire reader value.serialize = .ok value) ∧
      (∀ text, (∃ value, UtcDatetime.fromWire reader text = .ok value) ↔
        ∃ value : UtcDatetime, value.serialize = text) ∧
      ∀ first second : UtcDatetime,
        first.Less second ↔ Before first.serialize second.serialize) ∧
    ((∀ value : LocalDatetime, LocalDatetime.fromWire reader value.serialize = .ok value) ∧
      (∀ text, (∃ value, LocalDatetime.fromWire reader text = .ok value) ↔
        ∃ value : LocalDatetime, value.serialize = text) ∧
      ∀ first second : LocalDatetime,
        first.Less second ↔ Before first.serialize second.serialize) := by
  constructor
  · refine ⟨UtcDatetime.fromWire_serialize reader,
      decodeWire_accepts_iff (UtcDatetime.fromWire_serialize reader), fun first second => ?_⟩
    rw [first.serialize_eq, second.serialize_eq, Datetime.isoformat_before_iff]
    rfl
  · refine ⟨LocalDatetime.fromWire_serialize reader,
      decodeWire_accepts_iff (LocalDatetime.fromWire_serialize reader), fun first second => ?_⟩
    have order := Datetime.isoformat_before_iff first.datetime second.datetime []
    rw [List.append_nil, List.append_nil] at order
    exact order.symm

end Snekql.Temporal
