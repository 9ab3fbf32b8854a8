import Kiosk.Protocol.ProtocolCodec

/-! How long the body of an event can get: every byte in its longest escape, every number
at its widest. -/
namespace Kiosk.Protocol

open Library Library.KeySearch

/-- The longest escape is `\u00XX`. -/
theorem jsonEscape_length_le (input : Bytes) : (jsonEscape input).length ≤ 6 * input.length := by
  induction input with
  | nil => rfl
  | cons byte rest ih =>
    have one : (jsonEscapeByte byte).length ≤ 6 := by
      unfold jsonEscapeByte
      repeat' split
      all_goals simp [controlName]
    rw [jsonEscape, List.flatMap_cons, List.length_append, List.length_cons]
    rw [jsonEscape] at ih
    omega

theorem jsonString_length_le (input : Bytes) :
    (jsonString input).length ≤ 6 * input.length + 2 := by
  have escaped := jsonEscape_length_le input
  have quote : (text "\"").length = 1 := rfl
  rw [jsonString, List.length_append, List.length_append, quote]
  omega

theorem decimal_length_of_lt (some : 0 < digits) (below : value < 10 ^ digits) :
    (decimal value).length ≤ digits := by
  rw [decimal, List.length_map]
  exact (Nat.length_toDigits_le_iff (by decide) some).mpr below

theorem decimal32_length (value : UInt32) : (decimal value.toNat).length ≤ 10 :=
  decimal_length_of_lt (by decide) (value.toNat_lt.trans (by decide))

theorem decimal64_length (value : UInt64) : (decimal value.toNat).length ≤ 20 :=
  decimal_length_of_lt (by decide) (value.toNat_lt.trans (by decide))

theorem signedDecimal_length (value : Int32) : (signedDecimal value.toInt).length ≤ 11 := by
  have digits : (decimal value.toInt.natAbs).length ≤ 10 := by
    have low := value.le_toInt
    have high := value.toInt_lt
    exact decimal_length_of_lt (by decide) (by omega)
  have minus : (text "-").length = 1 := rfl
  unfold signedDecimal
  split
  · rw [List.length_append, minus]
    omega
  · omega

theorem quantityMember_length (name : Bytes) (quantity : OptionalQuantity) :
    (quantityMember name quantity).length ≤ (jsonString name).length + 13 := by
  cases quantity with
  | none => simp [quantityMember]
  | some value =>
    have number := signedDecimal_length value
    have comma : (text ",").length = 1 := rfl
    have colon : (text ":").length = 1 := rfl
    simp only [quantityMember, List.length_append, comma, colon]
    omega

/-- The strings of an event are within the lengths the device lets in; its numbers are
any. -/
structure KioskEvent.Sized (event : KioskEvent) : Prop where
  deviceId : event.device.deviceId.length ≤ 86
  hardwareId : event.device.hardwareId.length ≤ 32
  bootId : event.device.bootId.length ≤ 16
  eventId : event.event.eventId.length ≤ 32
  timestamp : event.time.timestampDeviceIso.length ≤ 32
  source : event.payload.source.length ≤ 6
  raw : event.payload.raw.length ≤ 128

theorem eventTypeToString_length (type : EventType) : (eventTypeToString type).length ≤ 18 := by
  cases type <;> decide

theorem timeSyncStatusToString_length (status : TimeSyncStatus) :
    (timeSyncStatusToString status).length ≤ 8 := by
  cases status <;> decide

private theorem quantityNames_length : (jsonString (text "quantity_good")).length = 15 ∧
    (jsonString (text "quantity_defect")).length = 17 ∧
      (jsonString (text "quantity_rework")).length = 17 := by
  decide

private theorem timestamp_length (event : KioskEvent) (sized : event.Sized) :
    (if event.time.syncStatus = .synced ∨ event.time.syncStatus = .stale then
      jsonString event.time.timestampDeviceIso else text "null").length ≤ 194 := by
  have bound := jsonString_length_le event.time.timestampDeviceIso
  have short := sized.timestamp
  split
  · omega
  · decide

/-- The body of a sized event leaves room in a queue slot. -/
theorem encodeEventJson_length (event : KioskEvent) (sized : event.Sized) :
    (encodeEventJson event).length ≤ 2518 := by
  have timestamp := timestamp_length event sized
  obtain ⟨nameGood, nameDefect, nameRework⟩ := quantityNames_length
  have good := quantityMember_length (text "quantity_good") event.quantityGood
  have defect := quantityMember_length (text "quantity_defect") event.quantityDefect
  have rework := quantityMember_length (text "quantity_rework") event.quantityRework
  rw [nameGood] at good
  rw [nameDefect] at defect
  rw [nameRework] at rework
  have deviceId := jsonString_length_le event.device.deviceId
  have hardwareId := jsonString_length_le event.device.hardwareId
  have bootId := jsonString_length_le event.device.bootId
  have eventId := jsonString_length_le event.event.eventId
  have source := jsonString_length_le event.payload.source
  have raw := jsonString_length_le event.payload.raw
  have type := eventTypeToString_length event.event.type
  have status := timeSyncStatusToString_length event.time.syncStatus
  have version := decimal32_length event.protocolVersion
  have deviceSeq := decimal64_length event.event.deviceSeq
  have uptime := decimal64_length event.time.uptimeMs
  have age := decimal32_length event.time.syncAgeS
  have stateVersion := decimal64_length event.context.expectedStateVersion
  have workflow := decimal32_length event.context.workflowVersion
  have bundle := decimal32_length event.context.uiBundleVersion
  have ⟨shortDevice, shortHardware, shortBoot, shortEvent, _, shortSource, shortRaw⟩ := sized
  unfold encodeEventJson
  simp only [List.length_append]
  generalize (quantityMember (text "quantity_good") event.quantityGood).length = goodLength at *
  generalize (quantityMember (text "quantity_defect") event.quantityDefect).length =
    defectLength at *
  generalize (quantityMember (text "quantity_rework") event.quantityRework).length =
    reworkLength at *
  generalize (if event.time.syncStatus = .synced ∨ event.time.syncStatus = .stale then
    jsonString event.time.timestampDeviceIso else text "null").length = timestampLength at *
  -- What is left are the literals of the document and the bounded lengths.
  simp only [text, List.length_map, String.reduceToList, List.length_cons, List.length_nil,
    Nat.reduceAdd]
  omega

end Kiosk.Protocol
