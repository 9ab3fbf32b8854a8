import Kiosk.Backend.EventServer
import Kiosk.Protocol.EventJson

/-! How `mock_backend.py` reads a body: `_read_json`, and what the handler of `/events` takes
out of it. A member of another type than the device sends counts as absent. -/
namespace Kiosk.Backend

open Library Library.KeySearch Library.JsonText Protocol

/-- `bytes.decode("utf-8")`. -/
def decodeUtf8 (raw : Bytes) : Option PyStr :=
  raw.toByteArray.utf8Decode?.map fun chars => chars.toList.map Char.toNat

/-- How a body is refused: the first is not caught, the second is answered with 400. -/
inductive ReadError where
  | unicodeDecode | jsonDecode
  deriving DecidableEq, Repr

/-- `_read_json`. -/
def readJson (raw : Bytes) : Except ReadError Json :=
  match decodeUtf8 (if raw = [] then text "\x7b\x7d" else raw) with
  | none => .error .unicodeDecode
  | some string =>
    match JsonText.read string with
    | none => .error .jsonDecode
    | some json => .ok json

def stringOf : Json → Option PyStr
  | .string content => some content
  | _ => none

def intOf : Json → Option Int
  | .int value => some value
  | _ => none

/-- `body.get(outer, {}).get(inner)`. -/
def nested (body : Json) (outer inner : String) : Option Json :=
  (body.get (codes outer)).bind fun json => json.get (codes inner)

def EventFields.ofJson (body : Json) : EventFields where
  protocolVersion := (body.get (codes "protocol_version")).bind intOf
  deviceId := (nested body "device" "device_id").bind stringOf
  hardwareId := (nested body "device" "hardware_id").bind stringOf
  eventId := (nested body "event" "event_id").bind stringOf
  type := (nested body "event" "type").bind stringOf
  expectedStateVersion := (nested body "context" "expected_state_version").bind intOf
  raw := ((nested body "payload" "raw").bind stringOf).getD []
  quantityGood := (nested body "payload" "quantity_good").bind intOf

/-- The Python of the backend, with the digest of a body's sorted dump as a parameter. -/
def python {δ : Type} (digest : Json → δ) (isdigit : PyStr → Bool) : Python Bytes δ where
  fields raw :=
    match readJson raw with
    | .ok json => .ofJson json
    | .error _ => { protocolVersion := none }
  payloadHash raw :=
    match readJson raw with
    | .ok json => digest json
    | .error _ => digest .null
  isdigit := isdigit

theorem decodeUtf8_encode (chars : List Char) :
    decodeUtf8 (utf8Encode chars) = some (chars.map Char.toNat) := by
  have bytes : (utf8Encode chars).toByteArray = chars.utf8Encode := rfl
  rw [decodeUtf8, bytes, List.utf8Decode?_utf8Encode]
  rfl

private theorem nested_eventJson (event : KioskEvent) (texts : EventTexts) :
    nested (eventJson event texts) "device" "device_id" = some (.string texts.deviceId) ∧
      nested (eventJson event texts) "device" "hardware_id" = some (.string texts.hardwareId) ∧
      nested (eventJson event texts) "event" "event_id" = some (.string texts.eventId) ∧
      nested (eventJson event texts) "event" "type" =
        some (.string ((eventTypeToString event.event.type).map UInt8.toNat)) ∧
      nested (eventJson event texts) "context" "expected_state_version" =
        some (.int event.context.expectedStateVersion.toNat) :=
  ⟨rfl, rfl, rfl, rfl, rfl⟩

/-- The quantities stand behind the line, where they are there. -/
private theorem payload_eventJson (event : KioskEvent) (texts : EventTexts) :
    nested (eventJson event texts) "payload" "raw" = some (.string texts.raw) ∧
      nested (eventJson event texts) "payload" "quantity_good" = event.quantityGood.map fun value =>
        .int value.toInt := by
  obtain ⟨_, _, _, _, _, _, good, defect, rework⟩ := event
  cases good <;> cases defect <;> cases rework <;> exact ⟨rfl, rfl⟩

/-- What the handler takes out of an event. -/
def fieldsOf (event : KioskEvent) (texts : EventTexts) : EventFields where
  protocolVersion := some event.protocolVersion.toNat
  deviceId := some texts.deviceId
  hardwareId := some texts.hardwareId
  eventId := some texts.eventId
  type := some ((eventTypeToString event.event.type).map UInt8.toNat)
  expectedStateVersion := some event.context.expectedStateVersion.toNat
  raw := texts.raw
  quantityGood := event.quantityGood.map Int32.toInt

theorem ofJson_eventJson (event : KioskEvent) (texts : EventTexts) :
    EventFields.ofJson (eventJson event texts) = fieldsOf event texts := by
  obtain ⟨deviceId, hardwareId, eventId, type, version⟩ := nested_eventJson event texts
  obtain ⟨raw, good⟩ := payload_eventJson event texts
  have protocol :
      (eventJson event texts).get (codes "protocol_version") =
      some (.int event.protocolVersion.toNat) :=
    rfl
  simp only [EventFields.ofJson, deviceId, hardwareId, eventId, type, version, raw, good,
    protocol, fieldsOf]
  cases event.quantityGood <;> rfl

private theorem encodeEventJson_ne_nil (event : KioskEvent) : encodeEventJson event ≠ [] := by
  rw [encodeEventJson_eq]
  exact List.cons_ne_nil _ _

theorem readJson_encodeEventJson {event : KioskEvent} {texts : EventTexts}
    (spelled : SpellsEvent inUtf8 event texts) :
    readJson (encodeEventJson event) = .ok (eventJson event texts) := by
  obtain ⟨written, ⟨chars, encoded, rfl⟩, denotes⟩ := carries_event inUtf8_spelling spelled
  have nothing : Blank [] := by simp [Blank]
  have read : JsonText.read (chars.map Char.toNat) = some (eventJson event texts) := by
    simpa using read_denotes denotes nothing nothing
  rw [readJson, if_neg (encodeEventJson_ne_nil event), encoded, decodeUtf8_encode]
  simp only [read]

/-- The handler takes out of the body what is in the event. -/
theorem python_fields {δ : Type} {event : KioskEvent} {texts : EventTexts} (digest : Json → δ)
    (isdigit : PyStr → Bool) (spelled : SpellsEvent inUtf8 event texts) :
    (python digest isdigit).fields (encodeEventJson event) = fieldsOf event texts := by
  have parsed := readJson_encodeEventJson spelled
  simp only [python, parsed, ofJson_eventJson]

theorem inUtf8_functional (one : inUtf8 raw first) (two : inUtf8 raw second) : first = second := by
  obtain ⟨chars, rfl, rfl⟩ := one
  obtain ⟨others, same, rfl⟩ := two
  have decoded := decodeUtf8_encode others
  rw [← same, decodeUtf8_encode] at decoded
  exact Option.some.inj decoded

theorem isUtf8_of_decode (decoded : decodeUtf8 raw = some string) : IsUtf8 raw := by
  rw [decodeUtf8, Option.map_eq_some_iff] at decoded
  obtain ⟨chars, found, rfl⟩ := decoded
  have present : raw.toByteArray.utf8Decode?.isSome := by simp [found]
  have back := @ByteArray.utf8Encode_get_utf8Decode? raw.toByteArray present
  simp only [found, Option.get_some] at back
  refine ⟨chars.toList, ?_⟩
  have bytes := congrArg (fun array => array.data.toList) back
  simpa [List.utf8Encode, utf8Encode] using bytes.symm

/-- The backend can read the body of an event exactly if the strings in it are UTF-8; it
is then the event that the handler takes out of it. -/
theorem readJson_event_iff (event : KioskEvent) :
    ((∃ json, readJson (encodeEventJson event) = .ok json) ↔ ∃ texts,
        SpellsEvent inUtf8 event texts) ∧
      ∀ texts, SpellsEvent inUtf8 event texts →
        readJson (encodeEventJson event) = .ok (eventJson event texts) ∧
          EventFields.ofJson (eventJson event texts) = fieldsOf event texts := by
  refine ⟨⟨fun ⟨json, parsed⟩ => ?_, fun ⟨texts, spelled⟩ => ⟨_, readJson_encodeEventJson spelled⟩⟩,
    fun texts spelled =>
    ⟨readJson_encodeEventJson spelled, ofJson_eventJson event texts⟩⟩
  rw [← isUtf8_event_iff]
  rw [readJson, if_neg (encodeEventJson_ne_nil event)] at parsed
  cases decoded : decodeUtf8 (encodeEventJson event) with
  | none => rw [decoded] at parsed; cases parsed
  | some string => exact isUtf8_of_decode decoded

/-- A line with a quotation mark in it. -/
theorem readJson_event_quoted :
    readJson (encodeEventJson { payload := { raw := text "WF|\"EMP\"" } }) =
      .ok (eventJson { payload := { raw := text "WF|\"EMP\"" } }
        ⟨[], [], [], [], [], [], codes "WF|\"EMP\""⟩) := by
  have spelled :
      SpellsEvent inUtf8 { payload := { raw := text "WF|\"EMP\"" } }
      ⟨[], [], [], [], [], [], codes "WF|\"EMP\""⟩ := by
    have nothing : inUtf8 [] [] := inUtf8_ascii (by simp)
    exact ⟨nothing, nothing, nothing, nothing, fun timed => absurd timed (by decide), nothing,
      inUtf8_ascii (ascii_of_all (by decide))⟩
  exact ((readJson_event_iff _).2 _ spelled).1

end Kiosk.Backend
