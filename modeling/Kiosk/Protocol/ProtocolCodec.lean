import Kiosk.Protocol.JsonExtract

/-! `event_types.h`, `protocol_codec.cpp`, `ids.cpp` and `sequence_reservation.h`: an
event as the device creates it and the body it is sent with. -/
namespace Kiosk.Protocol

open Library Library.KeySearch

inductive EventType where
  | scan | finishRequested | quantitySubmitted | cancelRequested
  deriving DecidableEq, Repr

def eventTypeToString : EventType → Bytes
  | .scan => text "SCAN"
  | .finishRequested => text "FINISH_REQUESTED"
  | .quantitySubmitted => text "QUANTITY_SUBMITTED"
  | .cancelRequested => text "CANCEL_REQUESTED"

inductive TimeSyncStatus where
  | unsynced | syncing | synced | stale | failed
  deriving DecidableEq, Repr

def timeSyncStatusToString : TimeSyncStatus → Bytes
  | .unsynced => text "UNSYNCED"
  | .syncing => text "SYNCING"
  | .synced => text "SYNCED"
  | .stale => text "STALE"
  | .failed => text "FAILED"

/-- `none` is absent; zero is a quantity. -/
abbrev OptionalQuantity := Option Int32

structure ScanPayload where
  source : Bytes := []
  raw : Bytes := []
  deriving DecidableEq, Repr

structure EventContext where
  expectedStateVersion : UInt64 := 0
  workflowVersion : UInt32 := 0
  uiBundleVersion : UInt32 := 0
  deriving DecidableEq, Repr

structure EventDeviceInfo where
  deviceId : Bytes := []
  hardwareId : Bytes := []
  bootId : Bytes := []
  deriving DecidableEq, Repr

structure EventInfo where
  eventId : Bytes := []
  deviceSeq : UInt64 := 0
  type : EventType := .scan
  deriving DecidableEq, Repr

structure EventTimeInfo where
  timestampDeviceIso : Bytes := []
  uptimeMs : UInt64 := 0
  syncStatus : TimeSyncStatus := .unsynced
  syncAgeS : UInt32 := 0
  deriving DecidableEq, Repr

structure KioskEvent where
  protocolVersion : UInt32 := 1
  device : EventDeviceInfo := {}
  event : EventInfo := {}
  time : EventTimeInfo := {}
  context : EventContext := {}
  payload : ScanPayload := {}
  quantityGood : OptionalQuantity := none
  quantityDefect : OptionalQuantity := none
  quantityRework : OptionalQuantity := none
  deriving DecidableEq, Repr

/-- `%d`. -/
def signedDecimal (value : Int) : Bytes :=
  if value < 0 then text "-" ++ decimal value.natAbs else decimal value.natAbs

/-- A string between quotes. -/
def jsonString (content : Bytes) : Bytes := text "\"" ++ jsonEscape content ++ text "\""

/-- Left out where absent, never null. -/
def quantityMember (name : Bytes) : OptionalQuantity → Bytes
  | none => []
  | some value => text "," ++ jsonString name ++ text ":" ++ signedDecimal value.toInt

def encodeEventJson (event : KioskEvent) : Bytes :=
  text "\x7b\"protocol_version\":" ++ decimal event.protocolVersion.toNat ++
  text ",\"device\":\x7b\"device_id\":" ++ jsonString event.device.deviceId ++
  text ",\"hardware_id\":" ++ jsonString event.device.hardwareId ++
  text ",\"boot_id\":" ++ jsonString event.device.bootId ++ text "\x7d" ++
  text ",\"event\":\x7b\"event_id\":" ++ jsonString event.event.eventId ++
  text ",\"device_seq\":" ++ decimal event.event.deviceSeq.toNat ++
  text ",\"type\":\"" ++ eventTypeToString event.event.type ++ text "\"\x7d" ++
  text ",\"time\":\x7b\"timestamp_device\":" ++
  (if event.time.syncStatus = .synced ∨ event.time.syncStatus = .stale then
    jsonString event.time.timestampDeviceIso else text "null") ++
  text ",\"uptime_ms\":" ++ decimal event.time.uptimeMs.toNat ++
  text ",\"sync_status\":\"" ++ timeSyncStatusToString event.time.syncStatus ++ text "\"" ++
  text ",\"sync_age_s\":" ++ decimal event.time.syncAgeS.toNat ++ text "\x7d" ++
  text ",\"context\":\x7b\"expected_state_version\":" ++
    decimal event.context.expectedStateVersion.toNat ++
  text ",\"workflow_version\":" ++ decimal event.context.workflowVersion.toNat ++
  text ",\"ui_bundle_version\":" ++ decimal event.context.uiBundleVersion.toNat ++ text "\x7d" ++
  text ",\"payload\":\x7b\"source\":" ++ jsonString event.payload.source ++
  text ",\"raw\":" ++ jsonString event.payload.raw ++
  quantityMember (text "quantity_good") event.quantityGood ++
  quantityMember (text "quantity_defect") event.quantityDefect ++
  quantityMember (text "quantity_rework") event.quantityRework ++ text "\x7d\x7d"

/-- The two digits of one random byte. -/
def hexByte (byte : UInt8) : Bytes := [hexDigit (byte >>> 4), hexDigit (byte &&& 15)]

/-- `espRandom i` is the byte the `i`-th call gives. -/
def generateRandomHexId (byteLength : Nat) (espRandom : Nat → UInt8) : Bytes :=
  (List.range byteLength).flatMap fun i => hexByte (espRandom i)

/-- `highWaterMark` is the value in NVS. -/
structure SequenceReservation where
  highWaterMark : UInt64 := 0
  blockSize : UInt64
  current : UInt64
  reservedCeiling : UInt64
  deriving DecidableEq, Repr

namespace SequenceReservation

def reserveNextBlock (sequence : SequenceReservation) : SequenceReservation :=
  { sequence with
    reservedCeiling := sequence.current + sequence.blockSize
    highWaterMark := sequence.current + sequence.blockSize }

/-- The constructor, which runs at every boot. -/
def load (highWaterMark blockSize : UInt64) : SequenceReservation :=
  reserveNextBlock {
    highWaterMark := highWaterMark, blockSize := blockSize
    current := highWaterMark, reservedCeiling := highWaterMark }

def next (sequence : SequenceReservation) : SequenceReservation × UInt64 :=
  let sequence :=
    if sequence.current ≥ sequence.reservedCeiling then sequence.reserveNextBlock else sequence
  ({ sequence with current := sequence.current + 1 }, sequence.current + 1)

end SequenceReservation

theorem generateRandomHexId_length (byteLength : Nat) (espRandom : Nat → UInt8) :
    (generateRandomHexId byteLength espRandom).length = 2 * byteLength := by
  simp [generateRandomHexId, hexByte, List.length_flatMap, mul_comm]

/-- An id is made of digits and the letters from `a` to `f`. -/
theorem generateRandomHexId_digits (member : letter ∈ generateRandomHexId byteLength espRandom) :
    isControl letter = false ∧ letter ≠ 0 := by
  have digit :
      ∀ value : UInt8, value < 16 → isControl (hexDigit value) = false ∧ hexDigit value ≠ 0 := by
    intro value small
    grind [isControl, hexDigit]
  obtain ⟨i, _, inside⟩ := List.mem_flatMap.mp member
  simp only [hexByte, List.mem_cons, List.not_mem_nil, or_false] at inside
  rcases inside with rfl | rfl
  · exact digit _ (highNibble_lt _)
  · exact digit _ (lowNibble_lt _)

/-! Escaping leaves no byte in a body that the record codec would change. -/

private theorem clean_append (first : Clean front) (second : Clean back) :
    Clean (front ++ back) := by
  intro byte member
  rcases List.mem_append.mp member with early | late
  · exact first byte early
  · exact second byte late

private theorem clean_text (literal : String)
    (printable : literal.toList.all (fun c => Nat.ble 32 c.toNat && Nat.ble c.toNat 255) = true) :
    Clean (text literal) := by
  intro byte member
  obtain ⟨c, inside, rfl⟩ := List.mem_map.mp member
  have range := List.all_eq_true.mp printable c inside
  simp only [Bool.and_eq_true, Nat.ble_eq] at range
  have value : c.toUInt8.toNat = c.toNat := Nat.mod_eq_of_lt (Nat.lt_succ_of_le range.2)
  have high : ¬ c.toUInt8 < 32 := by
    rw [UInt8.lt_iff_toNat_lt, value]
    simpa using range.1
  simp [isControl, high]

private theorem clean_jsonEscape (input : Bytes) : Clean (jsonEscape input) := by
  intro byte member
  obtain ⟨source, _, written⟩ := List.mem_flatMap.mp member
  have named : ∀ letter ∈ controlName source, isControl letter = false :=
    fun letter inside => (controlName_plain source inside).2.2
  grind [jsonEscapeByte, isControl]

private theorem clean_jsonString (content : Bytes) : Clean (jsonString content) :=
  have quoted : Clean (text "\"") := clean_text _ (by decide)
  clean_append (clean_append quoted (clean_jsonEscape content)) quoted

private theorem clean_decimal (value : Nat) : Clean (decimal value) := by
  intro byte member
  have digit := isDigit_of_mem_decimal member
  grind [isDigit, isControl]

private theorem clean_signedDecimal (value : Int) : Clean (signedDecimal value) := by
  unfold signedDecimal
  split
  · exact clean_append (clean_text _ (by decide)) (clean_decimal _)
  · exact clean_decimal _

private theorem clean_quantityMember (name : Bytes) (quantity : OptionalQuantity) :
    Clean (quantityMember name quantity) := by
  cases quantity with
  | none => simp [quantityMember, Clean]
  | some value =>
    exact clean_append
      (clean_append (clean_append (clean_text _ (by decide)) (clean_jsonString name))
      (clean_text _ (by decide))) (clean_signedDecimal _)

private theorem clean_names :
    (∀ type, Clean (eventTypeToString type)) ∧ ∀ status, Clean (timeSyncStatusToString status) := by
  constructor
  · intro type; cases type <;> exact clean_text _ (by decide)
  · intro status; cases status <;> exact clean_text _ (by decide)

/-- Whatever the strings of an event hold, its body has no control byte. -/
theorem encodeEventJson_clean (event : KioskEvent) : Clean (encodeEventJson event) := by
  have timestamp : Clean (if event.time.syncStatus = .synced ∨ event.time.syncStatus = .stale then
      jsonString event.time.timestampDeviceIso else text "null") := by
    split
    · exact clean_jsonString _
    · exact clean_text _ (by decide)
  unfold encodeEventJson
  repeat' apply clean_append
  all_goals first
    | exact clean_jsonEscape _
    | exact clean_decimal _
    | exact clean_quantityMember _ _
    | exact clean_names.1 _
    | exact clean_names.2 _
    | exact timestamp
    | exact clean_text _ (by decide)

end Kiosk.Protocol
