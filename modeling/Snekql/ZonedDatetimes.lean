import Snekql.JsonTexts
import Snekql.Temporal

/-!
# Zoned datetimes

A datetime together with the time zone it is kept in: a named zone or a fixed offset. It is stored
as its instant in UTC and the name or the offset. The time zone database, Python's readers of JSON
and of ISO texts and the zone of the system are parameters. A zone with a name is the one that the
database loads by this name; otherwise zones are arbitrary, so a civil time may be skipped or occur
twice in them.
-/

namespace Snekql.Temporal

open Snekql.JsonTexts

/-- The `ZoneInfo` objects. A zone need not have a key, and `fromutc` fails where it overflows. -/
structure ZoneDatabase where
  Zone : Type
  key : Zone → Option Text
  utcoffset : Zone → Datetime → Bool → Option Int
  fromutc : Zone → Datetime → Option (Datetime × Bool)
  load : Text → Option Zone
  load_key : ∀ {zone name}, key zone = some name → load name = some zone

/-- A duration in microseconds that `timezone` accepts. -/
def IsOffset (offset : Int) : Prop := -86400000000 < offset ∧ offset < 86400000000

instance (offset : Int) : Decidable (IsOffset offset) :=
  inferInstanceAs (Decidable (_ ∧ _))

/-- `tzinfo` objects. -/
inductive Tzinfo (zones : ZoneDatabase) where
  | iana (zone : zones.Zone)
  | fixed (offset : Int) (valid : IsOffset offset)
  | other (offset : Option Int)

/-- A `datetime` with its `tzinfo`. -/
structure ZonedStamp (zones : ZoneDatabase) where
  civil : Datetime
  fold : Bool
  tzinfo : Option (Tzinfo zones)

variable {zones : ZoneDatabase}

/-- `utcoffset()`. -/
def ZonedStamp.utcoffset (stamp : ZonedStamp zones) : Option Int :=
  match stamp.tzinfo with
  | none => none
  | some (.iana zone) => zones.utcoffset zone stamp.civil stamp.fold
  | some (.fixed offset _) => some offset
  | some (.other offset) => offset

/-- `ZonedDatetimeError`, and the `OverflowError` of a reconstruction. -/
inductive ZonedDatetimeError where
  | notAware
  | notPersistent
  | outOfRange
  | noKey
  | notExisting
  | overflow
deriving DecidableEq, Repr

/-- `_zoned_timezone_identity`, for the zones that are accepted. -/
inductive ZoneIdentity where
  | iana (key : Text)
  | offset (microseconds : Int)
deriving DecidableEq, Repr

/-- `__post_init__`. It establishes the instant, which is `astimezone(UTC)`, and the identity of the
zone. -/
def postInit (stamp : ZonedStamp zones) :
    Except ZonedDatetimeError (Datetime × ZoneIdentity) :=
  match stamp.utcoffset with
  | none => .error .notAware
  | some offset =>
    match stamp.tzinfo with
    | none => .error .notPersistent
    | some (.other _) => .error .notPersistent
    | some (.fixed _ _) =>
      match stamp.civil.shift (-offset) with
      | none => .error .outOfRange
      | some instant => .ok (instant, .offset offset)
    | some (.iana zone) =>
      match stamp.civil.shift (-offset) with
      | none => .error .outOfRange
      | some instant =>
        match zones.key zone with
        | none => .error .noKey
        | some key =>
          if key = [] then .error .noKey
          else match zones.fromutc zone instant with
          | none => .error .overflow
          | some reconstructed =>
            if reconstructed.1 ≠ stamp.civil ∨ reconstructed.2 ≠ stamp.fold then
              .error .notExisting
            else .ok (instant, .iana key)

/-- `ZonedDatetime`. -/
structure ZonedDatetime (zones : ZoneDatabase) where
  datetime : ZonedStamp zones
  instant : Datetime
  identity : ZoneIdentity
  valid : postInit datetime = .ok (instant, identity)

namespace ZonedDatetime

def create (stamp : ZonedStamp zones) : Except ZonedDatetimeError (ZonedDatetime zones) :=
  match valid : postInit stamp with
  | .error error => .error error
  | .ok (instant, identity) => .ok ⟨stamp, instant, identity, valid⟩

/-- `__eq__`. -/
def eq (first second : ZonedDatetime zones) : Bool :=
  decide (first.instant = second.instant) && decide (first.identity = second.identity)

/-- `__hash__`, over Python's hash of tuples. -/
def hash (hashTuple : Datetime × ZoneIdentity → Int) (value : ZonedDatetime zones) : Int :=
  hashTuple (value.instant, value.identity)

end ZonedDatetime

def ZoneIdentity.kind : ZoneIdentity → Text
  | .iana _ => "iana".toList
  | .offset _ => "offset".toList

def ZoneIdentity.value : ZoneIdentity → Scalar
  | .iana key => .string key
  | .offset microseconds => .integer microseconds

def zulu (instant : Datetime) : Text :=
  removesuffix (instant.isoformat ++ "+00:00".toList) "+00:00".toList ++ "Z".toList

def wirePayload (instant : Datetime) (identity : ZoneIdentity) : List Scalar :=
  [.integer 1, .string (zulu instant), .string identity.kind, identity.value]

/-- `_serialize`. -/
def ZonedDatetime.serialize (value : ZonedDatetime zones) : Text :=
  dumps (wirePayload value.instant value.identity)

/-- Python's `==` with the wire version. -/
def isVersion : Json → Bool
  | .integer value => value == 1
  | .boolean value => value
  | .real value => value == some 1
  | _ => false

/-- What `_from_wire` calls. `systemOffset` is the offset that a naive datetime has in the zone of
the system. -/
structure Platform (zones : ZoneDatabase) where
  json : JsonReader
  iso : IsoReader
  systemOffset : Datetime → Bool → Int

/-- The zone that a payload names. -/
def payloadZone (kind value : Json) : Option (Tzinfo zones) :=
  match kind, value with
  | .string kind, .string key =>
    if kind = "iana".toList then (zones.load key).map .iana else none
  | .string kind, .integer offset =>
    if kind = "offset".toList then
      if valid : IsOffset offset then some (.fixed offset valid) else none
    else none
  | _, _ => none

/-- `fromutc`. -/
def Tzinfo.fromutc (tzinfo : Tzinfo zones) (instant : Datetime) : Option (Datetime × Bool) :=
  match tzinfo with
  | .iana zone => zones.fromutc zone instant
  | .fixed offset _ => (instant.shift offset).map fun civil => (civil, false)
  | .other _ => none

/-- `astimezone`. -/
def astimezone (platform : Platform zones) (stamp : Stamp) (tzinfo : Tzinfo zones) :
    Option (ZonedStamp zones) := do
  let offset := stamp.utcoffset.getD (platform.systemOffset stamp.civil stamp.fold)
  let instant ← stamp.civil.shift (-offset)
  let (civil, fold) ← tzinfo.fromutc instant
  some { civil, fold, tzinfo := some tzinfo }

/-- The body of `_from_wire` up to the comparison of the texts. -/
def decodePayload (platform : Platform zones) (payload : Json) : Option (ZonedDatetime zones) :=
  match payload with
  | .array [version, .string instantText, kind, value] => do
      guard (isVersion version)
      guard ("Z".toList.isSuffixOf instantText)
      let instant ← platform.iso.fromisoformat
        (removesuffix instantText "Z".toList ++ "+00:00".toList)
      let tzinfo ← payloadZone kind value
      let stamp ← astimezone platform instant tzinfo
      (ZonedDatetime.create stamp).toOption
  | _ => none

/-- `_from_wire`; nothing where it raises. -/
def ZonedDatetime.fromWire (platform : Platform zones) (text : Text) :
    Option (ZonedDatetime zones) := do
  let payload ← platform.json.loads text
  let result ← decodePayload platform payload
  if result.serialize ≠ text then none else some result

/-! ## Values -/

/-- The zones of a value, and what is known of each. -/
theorem ZonedDatetime.cases (value : ZonedDatetime zones) :
    (∃ offset valid, value.datetime.tzinfo = some (.fixed offset valid) ∧
      value.datetime.civil.shift (-offset) = some value.instant ∧
      value.identity = .offset offset) ∨
    ∃ zone key, value.datetime.tzinfo = some (.iana zone) ∧ zones.key zone = some key ∧
      zones.fromutc zone value.instant = some (value.datetime.civil, value.datetime.fold) ∧
      value.identity = .iana key := by
  obtain ⟨stamp, instant, identity, valid⟩ := value
  unfold postInit at valid
  split at valid
  · cases valid
  · rename_i offset aware
    split at valid
    · cases valid
    · cases valid
    · rename_i fixed accepted known
      split at valid
      · cases valid
      · rename_i moved
        cases valid
        have same : fixed = offset := by simpa [ZonedStamp.utcoffset, known] using aware
        subst same
        exact .inl ⟨fixed, accepted, known, moved, rfl⟩
    · rename_i zone known
      split at valid
      · cases valid
      · rename_i moved
        split at valid
        · cases valid
        · rename_i key keyed
          split at valid
          · cases valid
          · split at valid
            · cases valid
            · rename_i reconstructed existing
              split at valid
              · cases valid
              · rename_i same
                cases valid
                obtain ⟨civil, fold⟩ := not_or.mp same
                refine .inr ⟨zone, key, known, keyed, ?_, rfl⟩
                rw [existing, ← not_not.mp civil, ← not_not.mp fold]

theorem create_eq {stamp : ZonedStamp zones} {instant : Datetime} {identity : ZoneIdentity}
    (valid : postInit stamp = .ok (instant, identity)) :
    ZonedDatetime.create stamp = .ok ⟨stamp, instant, identity, valid⟩ := by
  unfold ZonedDatetime.create
  split
  · rename_i error failed
    rw [valid] at failed
    cases failed
  · rename_i other others accepted
    rw [valid] at accepted
    cases accepted
    rfl

/-- The same civil time without a fold is the same instant at a fixed offset. -/
theorem postInit_fixed {civil instant : Datetime} {offset : Int} (valid : IsOffset offset)
    (moved : civil.shift (-offset) = some instant) :
    postInit ({ civil, fold := false, tzinfo := some (.fixed offset valid) } : ZonedStamp zones) =
      .ok (instant, .offset offset) := by
  simp only [postInit, ZonedStamp.utcoffset, moved]

/-! ## Texts -/

theorem zulu_eq (instant : Datetime) : zulu instant = instant.isoformat ++ "Z".toList := by
  rw [zulu, removesuffix_append]

theorem zulu_injective {first second : Datetime} (same : zulu first = zulu second) :
    first = second := by
  rw [zulu_eq, zulu_eq] at same
  exact Datetime.isoformat_injective (List.append_cancel_right same)

theorem identity_eq {first second : ZoneIdentity} (same : first.value = second.value) :
    first = second := by
  cases first <;> cases second <;> simp_all [ZoneIdentity.value]

/-- Values are equal exactly if their texts are. -/
theorem eq_iff_serialize (json : JsonReader) (first second : ZonedDatetime zones) :
    first.eq second = true ↔ first.serialize = second.serialize := by
  simp only [ZonedDatetime.eq, Bool.and_eq_true, decide_eq_true_eq, ZonedDatetime.serialize]
  constructor
  · rintro ⟨instant, identity⟩
    rw [instant, identity]
  · intro same
    have payload := json.dumps_injective same
    simp only [wirePayload, List.cons.injEq, Scalar.string.injEq, true_and, and_true] at payload
    exact ⟨zulu_injective payload.1, identity_eq payload.2.2⟩

/-! ## Reading -/

theorem isVersion_one : isVersion (.integer 1) = true := rfl

theorem astimezone_inUtc (platform : Platform zones) (instant : Datetime) (tzinfo : Tzinfo zones) :
    astimezone platform (inUtc instant) tzinfo = (tzinfo.fromutc instant).map fun (civil, fold) =>
      { civil, fold, tzinfo := some tzinfo } := by
  have moved := toUtc_inUtc instant
  have aware : (inUtc instant).utcoffset.getD
      (platform.systemOffset (inUtc instant).civil (inUtc instant).fold) = 0 := rfl
  rw [toUtc] at moved
  rw [astimezone, aware, moved]
  simp only [Option.bind_eq_bind, Option.bind_some]
  cases tzinfo.fromutc instant with
  | none => rfl
  | some reconstructed => rfl

theorem decodePayload_written (platform : Platform zones) (instant : Datetime)
    (identity : ZoneIdentity) :
    decodePayload platform (.array ((wirePayload instant identity).map Scalar.json)) = (do
      let tzinfo ← payloadZone (.string identity.kind) identity.value.json
      let stamp ← astimezone platform (inUtc instant) tzinfo
      (ZonedDatetime.create stamp).toOption) := by
  have ends : "Z".toList.isSuffixOf (zulu instant) = true := by
    rw [zulu]
    exact List.isSuffixOf_iff_suffix.mpr (List.suffix_append _ _)
  have read : platform.iso.fromisoformat
      (removesuffix (zulu instant) "Z".toList ++ "+00:00".toList) = some (inUtc instant) := by
    rw [zulu_eq, removesuffix_append]
    exact platform.iso.reads_offset instant
  simp only [wirePayload, List.map_cons, List.map_nil, Scalar.json, decodePayload, isVersion_one,
    ends, read, guard_true, Option.pure_def, Option.bind_eq_bind, Option.bind_some]

/-- The text of a value is decoded to an equal value. -/
theorem decodePayload_value (platform : Platform zones) (value : ZonedDatetime zones) :
    ∃ read, decodePayload platform
        (.array ((wirePayload value.instant value.identity).map Scalar.json)) = some read ∧
      read.instant = value.instant ∧ read.identity = value.identity := by
  rw [decodePayload_written]
  obtain ⟨offset, valid, known, moved, identity⟩ | ⟨zone, key, known, keyed, existing, identity⟩ :=
    value.cases
  · have zone : payloadZone (.string (ZoneIdentity.offset offset).kind)
        (ZoneIdentity.offset offset).value.json =
          some (.fixed offset valid : Tzinfo zones) := by
      simp [payloadZone, ZoneIdentity.kind, ZoneIdentity.value, Scalar.json, valid]
    have back := Datetime.shift_back moved
    rw [Int.neg_neg] at back
    refine ⟨⟨_, _, _, postInit_fixed valid moved⟩, ?_, rfl, identity.symm⟩
    rw [identity, zone]
    simp only [Option.bind_eq_bind, Option.bind_some, astimezone_inUtc, Tzinfo.fromutc, back,
      Option.map_some, create_eq (postInit_fixed valid moved), Except.toOption]
  · have named : payloadZone (.string (ZoneIdentity.iana key).kind)
        (ZoneIdentity.iana key).value.json = some (.iana zone) := by
      simp [payloadZone, ZoneIdentity.kind, ZoneIdentity.value, Scalar.json, zones.load_key keyed]
    have stamp : value.datetime = ⟨value.datetime.civil, value.datetime.fold, some (.iana zone)⟩ := by
      rw [← known]
    refine ⟨value, ?_, rfl, rfl⟩
    rw [identity, named]
    simp only [Option.bind_eq_bind, Option.bind_some, astimezone_inUtc, Tzinfo.fromutc, existing,
      Option.map_some]
    rw [← stamp, create_eq value.valid]
    rfl

theorem fromWire_serialize (platform : Platform zones) (value : ZonedDatetime zones) :
    ∃ read, ZonedDatetime.fromWire platform value.serialize = some read ∧
      read.eq value = true := by
  obtain ⟨read, decoded, instant, identity⟩ := decodePayload_value platform value
  have equal : read.eq value = true := by
    rw [ZonedDatetime.eq, instant, identity, decide_eq_true rfl, decide_eq_true rfl, Bool.and_self]
  have text := (eq_iff_serialize platform.json read value).mp equal
  have loaded : platform.json.loads value.serialize =
      some (.array ((wirePayload value.instant value.identity).map Scalar.json)) :=
    platform.json.reads_array _
  refine ⟨read, ?_, equal⟩
  simp only [ZonedDatetime.fromWire, loaded, Option.bind_eq_bind, Option.bind_some, decoded, text,
    ne_eq, not_true_eq_false, if_false]

theorem serialize_of_fromWire {platform : Platform zones} {text : Text}
    {value : ZonedDatetime zones} (read : ZonedDatetime.fromWire platform text = some value) :
    value.serialize = text := by
  simp only [ZonedDatetime.fromWire, Option.bind_eq_bind, Option.bind_eq_some_iff] at read
  obtain ⟨payload, -, result, -, kept⟩ := read
  split at kept
  · cases kept
  · rename_i canonical
    cases kept
    exact not_not.mp canonical

end Snekql.Temporal
