import Tmtccmd.Python

/-! # PUS service 5 event telemetry (`tmtccmd/tm/service_5_event.py`)

`Service5Tm` is a PUS telemetry packet whose source data is an event report: event ID
(2 bytes), reporter object ID (4 bytes), parameter 1 and parameter 2 (4 bytes each), all
big-endian.

* `buildSourceData` is lines 47–54 of `Service5Tm.__init__`, `decodeEventFields` lines
  146–156 of `__init_without_base` (the length guard and the four reads), `initWithoutBase`
  the whole of `__init_without_base`, `Service5Tm.init` the constructor, `Service5Tm.empty`
  the class method `__empty` and `Service5Tm.unpack` the class method `unpack`.
* `PusTelemetry`, its decoder `PusTelemetry.unpack` (package `spacepackets`), `ObjectId`
  (`tmtccmd.pus.obj_id`) and `Srv5Subservices` (`tmtccmd.pus.service_5_event`) are not under
  src/: the record keeps the three fields this file reads, the decoder is a parameter of
  `unpack`, and the other two follow the spec.

The source data round-trips (`decodeEventFields_buildSourceData`,
`buildSourceData_decodeEventFields`), so `unpack` returns the fields a packet was built from
(`unpack_buildSourceData`).  `unpack` accepts a decoded packet iff its source data has at
least 14 bytes, whatever its service: a foreign service only logs a warning
(`unpack_isOk_iff`).  The constructor fails exactly outside its field ranges, with
`ValueError` for a bad object ID length and `struct.error` for an integer out of range
(`init_eq_error_iff`). -/

namespace Tmtccmd.Tm

/-- Modelled from the spec: `ObjectId` (`tmtccmd.pus.obj_id`, not under src/) holds the
reporter's object identifier, "4 bytes" (§3). -/
structure ObjectId where
  asBytes : Bytes
  length_asBytes : asBytes.length = 4

/-- Modelled from the spec: `ObjectId.from_bytes` keeps a 4-byte identifier and rejects any
other length with `ValueError` ("validates `reporter_id` is exactly 4 bytes", §4.4). -/
def ObjectId.fromBytes (b : Bytes) : Except PyError ObjectId :=
  if h : b.length = 4 then .ok ⟨b, h⟩ else .error .valueError

theorem ObjectId.fromBytes_eq_ok {b : Bytes} (h : b.length = 4) :
    ObjectId.fromBytes b = .ok ⟨b, h⟩ := by
  simp [ObjectId.fromBytes, h]

/-- Modelled from the spec: the `Srv5Subservices` codes, the PUS event severities
"info / low / medium / high" (§4.4). -/
def Srv5Subservices.INFO_EVENT : ℕ := 1
/-- `Srv5Subservices.LOW_SEVERITY_EVENT`. -/
def Srv5Subservices.LOW_SEVERITY_EVENT : ℕ := 2
/-- `Srv5Subservices.MEDIUM_SEVERITY_EVENT`. -/
def Srv5Subservices.MEDIUM_SEVERITY_EVENT : ℕ := 3
/-- `Srv5Subservices.HIGH_SEVERITY_EVENT`. -/
def Srv5Subservices.HIGH_SEVERITY_EVENT : ℕ := 4

/-- `PusServices.SERVICE_5_EVENT`. -/
def SERVICE_5_EVENT : ℕ := 5

/-- Modelled from the spec: the fields of a `spacepackets` `PusTelemetry` that this file
reads, service, subservice and source data (§3 "PusTelemetryPacket"). -/
structure PusTelemetry where
  service : ℕ
  subservice : ℕ
  tmData : Bytes

/-- A `Service5Tm` instance: its packet, the attributes set by this file and its packet
info text. -/
structure Service5Tm where
  pusTm : PusTelemetry
  objectId : ObjectId
  eventId : ℤ
  param1 : ℤ
  param2 : ℤ
  packetInfo : String

namespace Service5Tm

/-- The property `service`. -/
def service (t : Service5Tm) : ℕ := t.pusTm.service

/-- The property `reporter_id_as_bytes`. -/
def reporterIdAsBytes (t : Service5Tm) : Bytes := t.objectId.asBytes

end Service5Tm

/-! ### Source data -/

/-- Lines 47–54 of `Service5Tm.__init__`: the event source data, with the object ID length
checked after the event ID is packed. -/
def buildSourceData (eventId : ℤ) (objectId : Bytes) (param1 param2 : ℤ) :
    Except PyError Bytes := do
  let e ← structPack .H eventId
  if objectId.length ≠ 4 then throw .valueError
  let p1 ← structPack .I param1
  let p2 ← structPack .I param2
  pure (e ++ objectId ++ p1 ++ p2)

/-- The four fields `__init_without_base` reads from the source data. -/
structure EventFields where
  eventId : ℤ
  objectId : ObjectId
  param1 : ℤ
  param2 : ℤ

/-- The fields as a tuple `(event_id, object_id bytes, param_1, param_2)`. -/
def EventFields.tuple (f : EventFields) : ℤ × Bytes × ℤ × ℤ :=
  (f.eventId, f.objectId.asBytes, f.param1, f.param2)

/-- Lines 146–156 of `__init_without_base`: reject source data shorter than 14 bytes, then
read the four fields at their fixed offsets. -/
def decodeEventFields (tmData : Bytes) : Except PyError EventFields := do
  if tmData.length < 14 then throw .valueError
  let eventId ← structUnpack .H (slice tmData 0 2)
  let objectId ← ObjectId.fromBytes (slice tmData 2 6)
  let param1 ← structUnpack .I (slice tmData 6 10)
  let param2 ← structUnpack .I (slice tmData 10 14)
  pure ⟨eventId, objectId, param1, param2⟩

theorem buildSourceData_eq (e : ℤ) (o : Bytes) (p1 p2 : ℤ) :
    buildSourceData e o p1 p2 =
      if ¬ StructFormat.H.Fits e then .error .structError
      else if o.length ≠ 4 then .error .valueError
      else if ¬ (StructFormat.I.Fits p1 ∧ StructFormat.I.Fits p2) then .error .structError
      else .ok (beBytes 2 e.toNat ++ o ++ beBytes 4 p1.toNat ++ beBytes 4 p2.toNat) := by
  by_cases he : StructFormat.H.Fits e
  · by_cases ho : o.length = 4
    · by_cases hp1 : StructFormat.I.Fits p1 <;> by_cases hp2 : StructFormat.I.Fits p2 <;>
        simp [buildSourceData, structPack_eq_ok, structPack_eq_error, he, ho, hp1, hp2,
          StructFormat.size]
    · simp [buildSourceData, structPack_eq_ok he, he, ho]
  · simp [buildSourceData, structPack_eq_error he, he]

theorem decodeEventFields_buildSourceData {e p1 p2 : ℤ} {o : Bytes} (he : StructFormat.H.Fits e)
    (ho : o.length = 4) (hp1 : StructFormat.I.Fits p1) (hp2 : StructFormat.I.Fits p2) :
    ∃ d, buildSourceData e o p1 p2 = .ok d ∧ d.length = 14 ∧
      (decodeEventFields d).map EventFields.tuple = .ok (e, o, p1, p2) := by
  set d := beBytes 2 e.toNat ++ o ++ beBytes 4 p1.toNat ++ beBytes 4 p2.toNat with hd
  refine ⟨d, by simp [buildSourceData_eq, he, ho, hp1, hp2, hd], by simp [hd, ho], ?_⟩
  have s0 : slice d 0 2 = beBytes 2 e.toNat :=
    slice_eq_of_append [] _ (o ++ beBytes 4 p1.toNat ++ beBytes 4 p2.toNat) (by simp [hd]) rfl
      (by simp)
  have s1 : slice d 2 6 = o :=
    slice_eq_of_append (beBytes 2 e.toNat) _ (beBytes 4 p1.toNat ++ beBytes 4 p2.toNat)
      (by simp [hd]) (by simp) (by simp [ho])
  have s2 : slice d 6 10 = beBytes 4 p1.toNat :=
    slice_eq_of_append (beBytes 2 e.toNat ++ o) _ (beBytes 4 p2.toNat) (by simp [hd])
      (by simp [ho]) (by simp)
  have s3 : slice d 10 14 = beBytes 4 p2.toNat :=
    slice_eq_of_append (beBytes 2 e.toNat ++ o ++ beBytes 4 p1.toNat) _ [] (by simp [hd])
      (by simp [ho]) (by simp)
  have hlen : ¬ d.length < 14 := by simp [hd, ho]
  rw [decodeEventFields, if_neg hlen, s0, s1, s2, s3,
    structUnpack_structPack (show StructFormat.H.size = 2 from rfl) he,
    structUnpack_structPack (show StructFormat.I.size = 4 from rfl) hp1,
    structUnpack_structPack (show StructFormat.I.size = 4 from rfl) hp2,
    ObjectId.fromBytes_eq_ok ho]
  rfl

theorem buildSourceData_decodeEventFields {d : Bytes} (hd : 14 ≤ d.length) :
    ∃ f, decodeEventFields d = .ok f ∧
      buildSourceData f.eventId f.objectId.asBytes f.param1 f.param2 = .ok (d.take 14) := by
  have l0 : (slice d 0 2).length = StructFormat.H.size := length_slice (by omega) (by omega)
  have l1 : (slice d 2 6).length = 4 := length_slice (by omega) (by omega)
  have l2 : (slice d 6 10).length = StructFormat.I.size := length_slice (by omega) (by omega)
  have l3 : (slice d 10 14).length = StructFormat.I.size := length_slice (by omega) (by omega)
  refine ⟨⟨beValue (slice d 0 2), ⟨slice d 2 6, l1⟩, beValue (slice d 6 10),
    beValue (slice d 10 14)⟩, ?_, ?_⟩
  · simp only [decodeEventFields, if_neg (show ¬ d.length < 14 by omega), structUnpack, l0, l2,
      l3, ObjectId.fromBytes_eq_ok l1]
    rfl
  · have htake : d.take 14 = slice d 0 2 ++ slice d 2 6 ++ slice d 6 10 ++ slice d 10 14 := by
      rw [← take_append_slice d (show 10 ≤ 14 by omega), ← take_append_slice d (show 6 ≤ 10 by omega),
        ← take_append_slice d (show 2 ≤ 6 by omega), ← take_append_slice d (show 0 ≤ 2 by omega)]
      rfl
    simp only [buildSourceData, structPack_structUnpack l0, structPack_structUnpack l2,
      structPack_structUnpack l3, l1, htake]
    rfl

/-! ### Construction and unpacking -/

/-- The severity text `__init_without_base` appends to the packet info. -/
def severityInfo (subservice : ℕ) : String :=
  if subservice = Srv5Subservices.INFO_EVENT then " Info"
  else if subservice = Srv5Subservices.LOW_SEVERITY_EVENT then " Error Low Severity"
  else if subservice = Srv5Subservices.MEDIUM_SEVERITY_EVENT then " Error Med Severity"
  else if subservice = Srv5Subservices.HIGH_SEVERITY_EVENT then " Error High Severity"
  else ""

/-- `__init_without_base(instance, set_attrs_from_tm_data)`.  A service other than 5 only
logs a warning. -/
def initWithoutBase (t : Service5Tm) (setAttrsFromTmData : Bool) : Except PyError Service5Tm := do
  let t := { t with packetInfo := "Event" ++ severityInfo t.pusTm.subservice }
  let f ← decodeEventFields t.pusTm.tmData
  if setAttrsFromTmData then
    pure { t with eventId := f.eventId, objectId := f.objectId, param1 := f.param1,
                  param2 := f.param2 }
  else pure t

namespace Service5Tm

/-- `Service5Tm(subservice, event_id, object_id, param_1, param_2)`: the object ID is
converted first, then the source data is built and the service 5 packet made from it. -/
def init (subservice : ℕ) (eventId : ℤ) (objectId : Bytes) (param1 param2 : ℤ) :
    Except PyError Service5Tm := do
  let oid ← ObjectId.fromBytes objectId
  let sourceData ← buildSourceData eventId objectId param1 param2
  initWithoutBase ⟨⟨SERVICE_5_EVENT, subservice, sourceData⟩, oid, eventId, param1, param2, ""⟩
    false

/-- `Service5Tm.__empty()`. -/
def empty : Except PyError Service5Tm :=
  init Srv5Subservices.INFO_EVENT 0 [0, 0, 0, 0] 0 0

/-- `Service5Tm.unpack(raw_telemetry)`, for a decoder `pusTelemetryUnpack` standing for
`PusTelemetry.unpack`. -/
def unpack (pusTelemetryUnpack : Bytes → Except PyError PusTelemetry) (rawTelemetry : Bytes) :
    Except PyError Service5Tm := do
  let t ← empty
  let pusTm ← pusTelemetryUnpack rawTelemetry
  initWithoutBase { t with pusTm := pusTm } true

end Service5Tm

/-! ### What construction and unpacking return -/

theorem buildSourceData_eq_ok_iff {e p1 p2 : ℤ} {o d : Bytes} :
    buildSourceData e o p1 p2 = .ok d ↔
      StructFormat.H.Fits e ∧ o.length = 4 ∧ StructFormat.I.Fits p1 ∧ StructFormat.I.Fits p2 ∧
        d = beBytes 2 e.toNat ++ o ++ beBytes 4 p1.toNat ++ beBytes 4 p2.toNat := by
  rw [buildSourceData_eq]
  split_ifs with h1 h2 h3 <;> simp_all [eq_comm]

theorem decodeEventFields_eq_error_iff {d : Bytes} {err : PyError} :
    decodeEventFields d = .error err ↔ d.length < 14 ∧ err = .valueError := by
  by_cases hd : d.length < 14
  · simp [decodeEventFields, hd, eq_comm]
  · obtain ⟨f, hf, -⟩ := buildSourceData_decodeEventFields (Nat.le_of_not_lt hd)
    simp [hf, hd]

theorem initWithoutBase_eq (t : Service5Tm) (b : Bool) :
    initWithoutBase t b = (decodeEventFields t.pusTm.tmData).map fun f =>
      if b then { t with packetInfo := "Event" ++ severityInfo t.pusTm.subservice,
                         eventId := f.eventId, objectId := f.objectId, param1 := f.param1,
                         param2 := f.param2 }
      else { t with packetInfo := "Event" ++ severityInfo t.pusTm.subservice } := by
  simp only [initWithoutBase]
  cases decodeEventFields t.pusTm.tmData <;> cases b <;> rfl

theorem Service5Tm.init_eq (s : ℕ) (e : ℤ) (o : Bytes) (p1 p2 : ℤ) :
    Service5Tm.init s e o p1 p2 =
      if h : o.length = 4 then
        if StructFormat.H.Fits e ∧ StructFormat.I.Fits p1 ∧ StructFormat.I.Fits p2 then
          .ok ⟨⟨SERVICE_5_EVENT, s, beBytes 2 e.toNat ++ o ++ beBytes 4 p1.toNat ++
            beBytes 4 p2.toNat⟩, ⟨o, h⟩, e, p1, p2, "Event" ++ severityInfo s⟩
        else .error .structError
      else .error .valueError := by
  by_cases ho : o.length = 4
  · by_cases hf : StructFormat.H.Fits e ∧ StructFormat.I.Fits p1 ∧ StructFormat.I.Fits p2
    · obtain ⟨d, hd, -, hdec⟩ := decodeEventFields_buildSourceData hf.1 ho hf.2.1 hf.2.2
      obtain ⟨-, -, -, -, rfl⟩ := buildSourceData_eq_ok_iff.mp hd
      cases h : decodeEventFields (beBytes 2 e.toNat ++ o ++ beBytes 4 p1.toNat ++
        beBytes 4 p2.toNat) with
      | error err => rw [h] at hdec; cases hdec
      | ok f =>
        simp only [Service5Tm.init, ObjectId.fromBytes_eq_ok ho, except_ok_bind, hd,
          initWithoutBase_eq, h, dif_pos ho, if_pos hf]
        rfl
    · have hb : buildSourceData e o p1 p2 = .error .structError := by
        rw [buildSourceData_eq]; split_ifs <;> simp_all
      simp [Service5Tm.init, ObjectId.fromBytes_eq_ok ho, hb, ho, hf]
  · simp [Service5Tm.init, ObjectId.fromBytes, ho]

theorem Service5Tm.empty_eq_ok : ∃ t, Service5Tm.empty = .ok t := ⟨_, rfl⟩

theorem Service5Tm.unpack_eq {dec : Bytes → Except PyError PusTelemetry} {raw : Bytes}
    {pkt : PusTelemetry} (h : dec raw = .ok pkt) :
    ∃ t₀ : Service5Tm, Service5Tm.unpack dec raw = initWithoutBase { t₀ with pusTm := pkt } true := by
  obtain ⟨t₀, ht₀⟩ := Service5Tm.empty_eq_ok
  exact ⟨t₀, by simp [Service5Tm.unpack, ht₀, h]⟩

/-! ### Round trip -/

theorem unpack_buildSourceData {dec : Bytes → Except PyError PusTelemetry} {raw : Bytes}
    {pkt : PusTelemetry} {e p1 p2 : ℤ} {o : Bytes} (h : dec raw = .ok pkt)
    (hb : buildSourceData e o p1 p2 = .ok pkt.tmData) :
    ∃ t, Service5Tm.unpack dec raw = .ok t ∧ t.eventId = e ∧ t.reporterIdAsBytes = o ∧
      t.param1 = p1 ∧ t.param2 = p2 := by
  obtain ⟨he, ho, hp1, hp2, -⟩ := buildSourceData_eq_ok_iff.mp hb
  obtain ⟨d, hd, -, hdec⟩ := decodeEventFields_buildSourceData he ho hp1 hp2
  rw [hb] at hd
  cases hd
  obtain ⟨t₀, ht⟩ := Service5Tm.unpack_eq h
  obtain ⟨f, hf, hdec⟩ := except_map_eq_ok.mp hdec
  simp only [EventFields.tuple, Prod.mk.injEq] at hdec
  obtain ⟨rfl, rfl, rfl, rfl⟩ := hdec
  rw [ht, initWithoutBase_eq, hf]
  exact ⟨_, rfl, rfl, rfl, rfl, rfl⟩

/-- **The event source data round-trips.**  Built from in-range fields it is 14 bytes long and
decodes to those fields; any source data of 14 bytes or more decodes, and its fields rebuild its
first 14 bytes; and `unpack` of a packet carrying built source data returns the built fields. -/
theorem eventSourceData_roundTrip :
    (∀ (e : ℤ) (o : Bytes) (p1 p2 : ℤ), 0 ≤ e ∧ e < 2 ^ 16 → o.length = 4 →
        0 ≤ p1 ∧ p1 < 2 ^ 32 → 0 ≤ p2 ∧ p2 < 2 ^ 32 →
        ∃ d, buildSourceData e o p1 p2 = .ok d ∧ d.length = 14 ∧
          (decodeEventFields d).map EventFields.tuple = .ok (e, o, p1, p2)) ∧
    (∀ d : Bytes, 14 ≤ d.length → ∃ f, decodeEventFields d = .ok f ∧
        buildSourceData f.eventId f.objectId.asBytes f.param1 f.param2 = .ok (d.take 14)) ∧
    (∀ (dec : Bytes → Except PyError PusTelemetry) (raw : Bytes) (pkt : PusTelemetry) (e : ℤ)
        (o : Bytes) (p1 p2 : ℤ), dec raw = .ok pkt → buildSourceData e o p1 p2 = .ok pkt.tmData →
        ∃ t, Service5Tm.unpack dec raw = .ok t ∧ t.eventId = e ∧ t.reporterIdAsBytes = o ∧
          t.param1 = p1 ∧ t.param2 = p2) :=
  ⟨fun _ _ _ _ he ho hp1 hp2 => decodeEventFields_buildSourceData (StructFormat.fits_H.mpr he) ho
      (StructFormat.fits_I.mpr hp1) (StructFormat.fits_I.mpr hp2),
    fun _ hd => buildSourceData_decodeEventFields hd,
    fun _ _ _ _ _ _ _ h hb => unpack_buildSourceData h hb⟩

/-- The event packet of the spec's scenario (event `0x1234`, reporter `[0, 0, 0, 42]`,
parameters `0xDEADBEEF` and `0`), built, decoded and unpacked. -/
theorem eventSourceData_roundTrip_scenario :
    (∃ d, buildSourceData 0x1234 [0, 0, 0, 42] 0xDEADBEEF 0 = .ok d ∧ d.length = 14 ∧
      (decodeEventFields d).map EventFields.tuple = .ok (0x1234, [0, 0, 0, 42], 0xDEADBEEF, 0)) ∧
    (∃ f, decodeEventFields [0x12, 0x34, 0, 0, 0, 42, 0xDE, 0xAD, 0xBE, 0xEF, 0, 0, 0, 0] = .ok f ∧
      buildSourceData f.eventId f.objectId.asBytes f.param1 f.param2 =
        .ok ([0x12, 0x34, 0, 0, 0, 42, 0xDE, 0xAD, 0xBE, 0xEF, 0, 0, 0, 0].take 14)) ∧
    (∃ t, Service5Tm.unpack (fun _ => .ok ⟨SERVICE_5_EVENT, Srv5Subservices.MEDIUM_SEVERITY_EVENT,
        [0x12, 0x34, 0, 0, 0, 42, 0xDE, 0xAD, 0xBE, 0xEF, 0, 0, 0, 0]⟩) [] = .ok t ∧
      t.eventId = 0x1234 ∧ t.reporterIdAsBytes = [0, 0, 0, 42] ∧ t.param1 = 0xDEADBEEF ∧
      t.param2 = 0) :=
  ⟨eventSourceData_roundTrip.1 _ _ _ _ (by decide) rfl (by decide) (by decide),
    eventSourceData_roundTrip.2.1 _ (by decide),
    eventSourceData_roundTrip.2.2 _ _ _ _ _ _ _ rfl rfl⟩

/-! ### Which packets `unpack` accepts -/

/-- `unpack` returns an instance for a decoded packet iff its source data has at least 14
bytes, whatever its service, keeps that service, and otherwise raises `ValueError`. -/
theorem unpack_isOk_iff {dec : Bytes → Except PyError PusTelemetry} {raw : Bytes}
    {pkt : PusTelemetry} (h : dec raw = .ok pkt) :
    ((∃ t, Service5Tm.unpack dec raw = .ok t) ↔ 14 ≤ pkt.tmData.length) ∧
      (∀ t, Service5Tm.unpack dec raw = .ok t → t.service = pkt.service) ∧
      ∀ err, Service5Tm.unpack dec raw = .error err → err = .valueError := by
  obtain ⟨t₀, ht⟩ := Service5Tm.unpack_eq h
  rw [ht, initWithoutBase_eq]
  cases hf : decodeEventFields pkt.tmData with
  | error err =>
    obtain ⟨hlt, rfl⟩ := decodeEventFields_eq_error_iff.mp hf
    simp [hlt, Except.map]
  | ok f =>
    have hge : 14 ≤ pkt.tmData.length := by
      by_contra hlt
      simp [decodeEventFields_eq_error_iff.mpr ⟨Nat.lt_of_not_le hlt, rfl⟩] at hf
    refine ⟨by simp [hge, Except.map], ?_, by simp [Except.map]⟩
    rintro t ⟨⟩
    rfl

theorem unpack_isOk_iff_service_3 :
    ((∃ t, Service5Tm.unpack (fun _ => .ok ⟨3, 1, List.replicate 14 0⟩) [] = .ok t) ↔
        14 ≤ (List.replicate 14 (0 : UInt8)).length) ∧
      (∀ t, Service5Tm.unpack (fun _ => .ok ⟨3, 1, List.replicate 14 0⟩) [] = .ok t →
        t.service = 3) ∧
      ∀ err, Service5Tm.unpack (fun _ => .ok ⟨3, 1, List.replicate 14 0⟩) [] = .error err →
        err = .valueError :=
  @unpack_isOk_iff _ [] ⟨3, 1, List.replicate 14 0⟩ rfl

/-- A packet of service 3 with 14 bytes of source data is returned as an event telemetry
object. -/
theorem unpack_accepts_service_3_packet :
    (Service5Tm.unpack (fun _ => .ok ⟨3, 1, List.replicate 14 0⟩) []).toOption.map
      Service5Tm.service = some 3 := rfl

/-! ### Constructor errors -/

/-- The constructor succeeds exactly on a 4-byte object ID and in-range integers; outside,
it raises `ValueError` exactly for a bad object ID length and `struct.error` otherwise. -/
theorem Service5Tm.init_outcome (s : ℕ) (e : ℤ) (o : Bytes) (p1 p2 : ℤ) :
    ((∃ t, Service5Tm.init s e o p1 p2 = .ok t) ↔
      o.length = 4 ∧ 0 ≤ e ∧ e < 2 ^ 16 ∧ 0 ≤ p1 ∧ p1 < 2 ^ 32 ∧ 0 ≤ p2 ∧ p2 < 2 ^ 32) ∧
    ∀ err, Service5Tm.init s e o p1 p2 = .error err →
      (o.length ≠ 4 ∧ err = .valueError) ∨ (o.length = 4 ∧ err = .structError) := by
  rw [Service5Tm.init_eq]
  simp only [StructFormat.fits_H, StructFormat.fits_I]
  split_ifs with ho hf
  · -- every check passes
    exact ⟨⟨fun _ => ⟨ho, hf.1.1, hf.1.2, hf.2.1.1, hf.2.1.2, hf.2.2.1, hf.2.2.2⟩,
      fun _ => ⟨_, rfl⟩⟩, fun _ h => nomatch h⟩
  · -- a 4-byte object ID and an integer out of range
    exact ⟨⟨fun ⟨_, h⟩ => (nomatch h), fun ⟨_, h₁, h₂, h₃, h₄, h₅, h₆⟩ => absurd
      ⟨⟨h₁, h₂⟩, ⟨h₃, h₄⟩, h₅, h₆⟩ hf⟩, fun _ h => .inr ⟨ho, (Except.error.inj h).symm⟩⟩
  · -- an object ID of another length
    exact ⟨⟨fun ⟨_, h⟩ => (nomatch h), fun h => absurd h.1 ho⟩,
      fun _ h => .inl ⟨ho, (Except.error.inj h).symm⟩⟩

/-- `Service5Tm(INFO_EVENT, 2 ** 16, bytearray(4), 0, 0)` raises `struct.error`. -/
theorem init_raises_structError_at_event_id_2_16 :
    Service5Tm.init Srv5Subservices.INFO_EVENT (2 ^ 16) [0, 0, 0, 0] 0 0 =
      .error .structError := rfl

end Tmtccmd.Tm
