import Kiosk.Protocol.JsonBody

/-! The body of an event as a JSON value: what a reader finds in it, and that it tells two
events apart. -/
namespace Kiosk.Protocol

open Library Library.KeySearch Library.JsonText

/-- The strings of an event, as characters. -/
structure EventTexts where
  deviceId : Text
  hardwareId : Text
  bootId : Text
  eventId : Text
  timestampDevice : Text
  source : Text
  raw : Text
  deriving DecidableEq, Repr

/-- Whether the timestamp of an event is sent. -/
def Timed (event : KioskEvent) : Prop :=
  event.time.syncStatus = .synced ∨ event.time.syncStatus = .stale

instance (event : KioskEvent) : Decidable (Timed event) := inferInstanceAs (Decidable (_ ∨ _))

/-- The bytes of an event's strings stand for these characters. -/
structure SpellsEvent (spells : Bytes → Text → Prop) (event : KioskEvent) (texts : EventTexts) :
    Prop where
  deviceId : spells event.device.deviceId texts.deviceId
  hardwareId : spells event.device.hardwareId texts.hardwareId
  bootId : spells event.device.bootId texts.bootId
  eventId : spells event.event.eventId texts.eventId
  timestampDevice : Timed event → spells event.time.timestampDeviceIso texts.timestampDevice
  source : spells event.payload.source texts.source
  raw : spells event.payload.raw texts.raw

/-- The value of a name, as it stands in a list of members. -/
def quantityJson (name : String) (quantity : OptionalQuantity) : List (Text × Json) :=
  (quantity.map fun value => (codes name, Json.int value.toInt)).toList

/-- The value an event is sent as. -/
def eventJson (event : KioskEvent) (texts : EventTexts) : Json :=
  .object [
    (codes "protocol_version", .int event.protocolVersion.toNat),
    (codes "device", .object [
      (codes "device_id", .string texts.deviceId),
      (codes "hardware_id", .string texts.hardwareId),
      (codes "boot_id", .string texts.bootId)]),
    (codes "event", .object [
      (codes "event_id", .string texts.eventId),
      (codes "device_seq", .int event.event.deviceSeq.toNat),
      (codes "type", .string ((eventTypeToString event.event.type).map UInt8.toNat))]),
    (codes "time", .object [
      (codes "timestamp_device", if Timed event then .string texts.timestampDevice else .null),
      (codes "uptime_ms", .int event.time.uptimeMs.toNat),
      (codes "sync_status",
        .string ((timeSyncStatusToString event.time.syncStatus).map UInt8.toNat)),
      (codes "sync_age_s", .int event.time.syncAgeS.toNat)]),
    (codes "context", .object [
      (codes "expected_state_version", .int event.context.expectedStateVersion.toNat),
      (codes "workflow_version", .int event.context.workflowVersion.toNat),
      (codes "ui_bundle_version", .int event.context.uiBundleVersion.toNat)]),
    (codes "payload", .object ([
      (codes "source", .string texts.source),
      (codes "raw", .string texts.raw)] ++
      quantityJson "quantity_good" event.quantityGood ++
      quantityJson "quantity_defect" event.quantityDefect ++
      quantityJson "quantity_rework" event.quantityRework))]

/-- The timestamp member. -/
def timestampBytes (event : KioskEvent) : Bytes :=
  if event.time.syncStatus = .synced ∨ event.time.syncStatus = .stale
    then jsonString event.time.timestampDeviceIso
  else text "null"

def quantityEntry (name : String) (quantity : OptionalQuantity) : List (String × Bytes) :=
  (quantity.map fun value => (name, signedDecimal value.toInt)).toList

private theorem quantityMember_eq (name : String) (plain : jsonEscape (text name) = text name)
    (quantity : OptionalQuantity) :
    quantityMember (text name) quantity = (quantityEntry name quantity).flatMap fun member =>
      44 :: memberBytes member.1 member.2 := by
  cases quantity with
  | none => rfl
  | some value =>
    have signs : text "," = [44] ∧ text ":" = [colon] ∧ text "\"" = [quote] := by decide
    simp [quantityMember, quantityEntry, memberBytes, jsonString, plain, signs]

/-- What opens an object, a member, and a member that is an object. -/
private def opens (name : String) : Bytes := 123 :: quote :: (text name ++ [quote, colon])

private def follows (name : String) : Bytes := 44 :: quote :: (text name ++ [quote, colon])

/-- The body is the compact text of an object of objects. -/
theorem encodeEventJson_eq (event : KioskEvent) :
    encodeEventJson event = objectBytes [
      ("protocol_version", decimal event.protocolVersion.toNat),
      ("device", objectBytes [
        ("device_id", jsonString event.device.deviceId),
        ("hardware_id", jsonString event.device.hardwareId),
        ("boot_id", jsonString event.device.bootId)]),
      ("event", objectBytes [
        ("event_id", jsonString event.event.eventId),
        ("device_seq", decimal event.event.deviceSeq.toNat),
        ("type", quote :: (eventTypeToString event.event.type ++ [quote]))]),
      ("time", objectBytes [
        ("timestamp_device", timestampBytes event),
        ("uptime_ms", decimal event.time.uptimeMs.toNat),
        ("sync_status", quote :: (timeSyncStatusToString event.time.syncStatus ++ [quote])),
        ("sync_age_s", decimal event.time.syncAgeS.toNat)]),
      ("context", objectBytes [
        ("expected_state_version", decimal event.context.expectedStateVersion.toNat),
        ("workflow_version", decimal event.context.workflowVersion.toNat),
        ("ui_bundle_version", decimal event.context.uiBundleVersion.toNat)]),
      ("payload", objectBytes (("source", jsonString event.payload.source) ::
        ([("raw", jsonString event.payload.raw)] ++
        quantityEntry "quantity_good" event.quantityGood ++
        quantityEntry "quantity_defect" event.quantityDefect ++
        quantityEntry "quantity_rework" event.quantityRework)))] := by
  have good := quantityMember_eq "quantity_good" (by decide) event.quantityGood
  have defect := quantityMember_eq "quantity_defect" (by decide) event.quantityDefect
  have rework := quantityMember_eq "quantity_rework" (by decide) event.quantityRework
  have first : text "\x7b\"protocol_version\":" = opens "protocol_version" := rfl
  have device : text ",\"device\":\x7b\"device_id\":" = follows "device" ++ opens "device_id" := rfl
  have hardwareId : text ",\"hardware_id\":" = follows "hardware_id" := rfl
  have bootId : text ",\"boot_id\":" = follows "boot_id" := rfl
  have event_ : text ",\"event\":\x7b\"event_id\":" = follows "event" ++ opens "event_id" := rfl
  have deviceSeq : text ",\"device_seq\":" = follows "device_seq" := rfl
  have type_ : text ",\"type\":\"" = follows "type" ++ [quote] := rfl
  have time :
      text ",\"time\":\x7b\"timestamp_device\":" = follows "time" ++ opens "timestamp_device" :=
    rfl
  have uptime : text ",\"uptime_ms\":" = follows "uptime_ms" := rfl
  have status : text ",\"sync_status\":\"" = follows "sync_status" ++ [quote] := rfl
  have age : text ",\"sync_age_s\":" = follows "sync_age_s" := rfl
  have context :
      text ",\"context\":\x7b\"expected_state_version\":" =
      follows "context" ++ opens "expected_state_version" :=
    rfl
  have workflow : text ",\"workflow_version\":" = follows "workflow_version" := rfl
  have bundle : text ",\"ui_bundle_version\":" = follows "ui_bundle_version" := rfl
  have payload : text ",\"payload\":\x7b\"source\":" = follows "payload" ++ opens "source" := rfl
  have raw : text ",\"raw\":" = follows "raw" := rfl
  have ends : text "\x7d" = [125] ∧ text "\"\x7d" = [quote, 125] ∧ text "\"" = [quote] ∧
      text "\x7d\x7d" = [125, 125] := by
    decide
  unfold encodeEventJson
  simp only [good, defect, rework, first, device, hardwareId, bootId, event_, deviceSeq, type_,
    time, uptime,
    status, age, context, workflow, bundle, payload, raw, ends, opens, follows, objectBytes,
      memberBytes, timestampBytes,
    List.flatMap_cons, List.flatMap_nil, List.flatMap_append, List.append_assoc, List.cons_append,
      List.nil_append,
    List.append_nil]

/-- The members of a quantity, as they are written and as they are read. -/
private def quantityField (name : String) (quantity : OptionalQuantity) :
    List (String × Bytes × Json) :=
  (quantity.map fun value => (name, signedDecimal value.toInt, Json.int value.toInt)).toList

private theorem quantityField_map (name : String) (quantity : OptionalQuantity) :
    (quantityField name quantity).map (fun field => (field.1, field.2.1)) =
        quantityEntry name quantity ∧
      (quantityField name quantity).map (fun field => (codes field.1, field.2.2)) =
        quantityJson name quantity := by
  cases quantity with
  | none => exact ⟨rfl, rfl⟩
  | some value => exact ⟨rfl, rfl⟩

section Carries

variable {spells : Bytes → Text → Prop} (spelling : Spelling spells)
include spelling

private theorem carries_quantity (plain : isName name = true) (quantity : OptionalQuantity) :
    ∀ field ∈ quantityField name quantity,
      isName field.1 = true ∧ Carries spells field.2.1 field.2.2 := by
  cases quantity with
  | none => simp [quantityField]
  | some value =>
    intro field member
    obtain rfl := List.mem_singleton.mp member
    exact ⟨plain, carries_signedDecimal spelling value.toInt⟩

private theorem carries_type (type : EventType) :
    Carries spells (quote :: (eventTypeToString type ++ [quote]))
      (.string ((eventTypeToString type).map UInt8.toNat)) := by
  cases type <;> exact carries_text spelling (by decide)

private theorem carries_status (status : TimeSyncStatus) :
    Carries spells (quote :: (timeSyncStatusToString status ++ [quote]))
      (.string ((timeSyncStatusToString status).map UInt8.toNat)) := by
  cases status <;> exact carries_text spelling (by decide)

private theorem carries_timestamp
    (spelled : Timed event → spells event.time.timestampDeviceIso meant) :
    Carries spells (timestampBytes event) (if Timed event then .string meant else .null) := by
  by_cases timed : Timed event
  · have sent : timestampBytes event = jsonString event.time.timestampDeviceIso := if_pos timed
    rw [sent, if_pos timed]
    exact carries_string spelling (spelled timed)
  · have absent : timestampBytes event = text "null" := if_neg timed
    rw [absent, if_neg timed]
    exact carries_null spelling

/-- The body of an event is read as the event. -/
theorem carries_event (spelled : SpellsEvent spells event texts) :
    Carries spells (encodeEventJson event) (eventJson event texts) := by
  have device := carries_object spelling [
    ("device_id", jsonString event.device.deviceId, .string texts.deviceId),
    ("hardware_id", jsonString event.device.hardwareId, .string texts.hardwareId),
    ("boot_id", jsonString event.device.bootId, .string texts.bootId)] (by
      simp only [List.forall_mem_cons]
      exact ⟨⟨by decide, carries_string spelling spelled.deviceId⟩,
        ⟨by decide, carries_string spelling spelled.hardwareId⟩,
        ⟨by decide, carries_string spelling spelled.bootId⟩, by simp⟩)
  have occurrence := carries_object spelling [
    ("event_id", jsonString event.event.eventId, .string texts.eventId),
    ("device_seq", decimal event.event.deviceSeq.toNat, .int event.event.deviceSeq.toNat),
    ("type", quote :: (eventTypeToString event.event.type ++ [quote]),
      .string ((eventTypeToString event.event.type).map UInt8.toNat))] (by
      simp only [List.forall_mem_cons]
      exact ⟨⟨by decide, carries_string spelling spelled.eventId⟩,
        ⟨by decide, carries_decimal spelling _⟩, ⟨by decide, carries_type spelling _⟩, by simp⟩)
  have time := carries_object spelling [
    ("timestamp_device", timestampBytes event,
      if Timed event then .string texts.timestampDevice else .null),
    ("uptime_ms", decimal event.time.uptimeMs.toNat, .int event.time.uptimeMs.toNat),
    ("sync_status", quote :: (timeSyncStatusToString event.time.syncStatus ++ [quote]),
      .string ((timeSyncStatusToString event.time.syncStatus).map UInt8.toNat)),
    ("sync_age_s", decimal event.time.syncAgeS.toNat, .int event.time.syncAgeS.toNat)] (by
      simp only [List.forall_mem_cons]
      exact ⟨⟨by decide, carries_timestamp spelling spelled.timestampDevice⟩,
        ⟨by decide, carries_decimal spelling _⟩,
        ⟨by decide, carries_status spelling _⟩, ⟨by decide, carries_decimal spelling _⟩, by simp⟩)
  have context := carries_object spelling [
    ("expected_state_version", decimal event.context.expectedStateVersion.toNat,
      .int event.context.expectedStateVersion.toNat),
    ("workflow_version", decimal event.context.workflowVersion.toNat,
      .int event.context.workflowVersion.toNat),
    ("ui_bundle_version", decimal event.context.uiBundleVersion.toNat,
      .int event.context.uiBundleVersion.toNat)] (by
      simp only [List.forall_mem_cons]
      exact ⟨⟨by decide, carries_decimal spelling _⟩, ⟨by decide, carries_decimal spelling _⟩,
        ⟨by decide, carries_decimal spelling _⟩, by simp⟩)
  have payload :=
      carries_object spelling (("source", jsonString event.payload.source, .string texts.source) ::
      ([("raw", jsonString event.payload.raw, .string texts.raw)] ++
        quantityField "quantity_good" event.quantityGood ++
        quantityField "quantity_defect" event.quantityDefect ++
          quantityField "quantity_rework" event.quantityRework)) (by
      simp only [List.forall_mem_cons, List.forall_mem_append]
      exact ⟨⟨by decide, carries_string spelling spelled.source⟩,
        ⟨⟨⟨⟨by decide, carries_string spelling spelled.raw⟩, by simp⟩,
        carries_quantity spelling (by decide) _⟩, carries_quantity spelling (by decide) _⟩,
        carries_quantity spelling (by decide) _⟩)
  simp only [List.map_cons, List.map_append, List.map_nil, quantityField_map] at payload
  have whole := carries_object spelling [
    ("protocol_version", _, _), ("device", _, _), ("event", _, _), ("time", _, _),
      ("context", _, _), ("payload", _, _)] (by
      simp only [List.forall_mem_cons]
      exact ⟨⟨by decide, carries_decimal spelling event.protocolVersion.toNat⟩, ⟨by decide, device⟩,
        ⟨by decide, occurrence⟩,
        ⟨by decide, time⟩, ⟨by decide, context⟩, ⟨by decide, payload⟩, by simp⟩)
  rw [encodeEventJson_eq]
  exact whole

end Carries

/-! The body is UTF-8 exactly if the strings in it are. -/

private theorem quantityEntry_names (name : String) (plain : isName name = true)
    (quantity : OptionalQuantity) :
    ∀ field ∈ quantityEntry name quantity, isName field.1 = true := by
  cases quantity with
  | none => simp [quantityEntry]
  | some value => simpa [quantityEntry] using plain

theorem isUtf8_event_iff (event : KioskEvent) :
    IsUtf8 (encodeEventJson event) ↔ ∃ texts, SpellsEvent inUtf8 event texts := by
  constructor
  · intro whole
    rw [encodeEventJson_eq] at whole
    have parts := isUtf8_object
      (by simp only [List.forall_mem_cons]; exact ⟨by decide, by decide, by decide, by decide,
      by decide, by decide, by simp⟩) whole
    simp only [List.forall_mem_cons] at parts
    obtain ⟨_, device, occurrence, time, _, payload, _⟩ := parts
    have names := isUtf8_object
      (by simp only [List.forall_mem_cons]; exact ⟨by decide, by decide, by decide, by simp⟩) device
    have ids := isUtf8_object
      (by simp only [List.forall_mem_cons]; exact ⟨by decide, by decide, by decide, by simp⟩)
      occurrence
    have times := isUtf8_object
      (by simp only [List.forall_mem_cons]; exact ⟨by decide, by decide, by decide, by decide,
      by simp⟩) time
    have scanned := isUtf8_object (by
      simp only [List.forall_mem_cons, List.forall_mem_append]
      exact ⟨by decide,
        ⟨⟨⟨by decide, by simp⟩, quantityEntry_names _ (by decide) _⟩,
        quantityEntry_names _ (by decide) _⟩, quantityEntry_names _ (by decide) _⟩) payload
    simp only [List.forall_mem_cons, List.forall_mem_append] at names ids times scanned
    obtain ⟨deviceId, spelledDevice⟩ := exists_inUtf8 (isUtf8_of_string names.1)
    obtain ⟨hardwareId, spelledHardware⟩ := exists_inUtf8 (isUtf8_of_string names.2.1)
    obtain ⟨bootId, spelledBoot⟩ := exists_inUtf8 (isUtf8_of_string names.2.2.1)
    obtain ⟨eventId, spelledEvent⟩ := exists_inUtf8 (isUtf8_of_string ids.1)
    obtain ⟨source, spelledSource⟩ := exists_inUtf8 (isUtf8_of_string scanned.1)
    obtain ⟨raw, spelledRaw⟩ := exists_inUtf8 (isUtf8_of_string scanned.2.1.1.1.1)
    by_cases timed : Timed event
    · have sent : timestampBytes event = jsonString event.time.timestampDeviceIso := if_pos timed
      obtain ⟨timestamp, spelledTime⟩ := exists_inUtf8 (isUtf8_of_string (sent ▸ times.1))
      exact ⟨⟨deviceId, hardwareId, bootId, eventId, timestamp, source, raw⟩, spelledDevice,
        spelledHardware, spelledBoot, spelledEvent, fun _ => spelledTime, spelledSource, spelledRaw⟩
    · exact ⟨⟨deviceId, hardwareId, bootId, eventId, [], source, raw⟩, spelledDevice,
        spelledHardware, spelledBoot,
        spelledEvent, fun sent => absurd sent timed, spelledSource, spelledRaw⟩
  · intro ⟨texts, spelled⟩
    obtain ⟨_, encoded, _⟩ := carries_event inUtf8_spelling spelled
    exact isUtf8_of_spelled encoded

/-! What two events with one body have in common. -/

/-- An event without the timestamp that is not sent. -/
def KioskEvent.asSent (event : KioskEvent) : KioskEvent :=
  { event with
    time := { event.time with
      timestampDeviceIso := if Timed event then event.time.timestampDeviceIso else [] } }

/-- The strings of an event, byte by byte. -/
def bytewiseTexts (event : KioskEvent) : EventTexts where
  deviceId := event.device.deviceId.map UInt8.toNat
  hardwareId := event.device.hardwareId.map UInt8.toNat
  bootId := event.device.bootId.map UInt8.toNat
  eventId := event.event.eventId.map UInt8.toNat
  timestampDevice := event.time.timestampDeviceIso.map UInt8.toNat
  source := event.payload.source.map UInt8.toNat
  raw := event.payload.raw.map UInt8.toNat

private theorem spells_bytewise (event : KioskEvent) :
    SpellsEvent bytewise event (bytewiseTexts event) :=
  ⟨rfl, rfl, rfl, rfl, fun _ => rfl, rfl, rfl⟩

private theorem encodeEventJson_asSent (event : KioskEvent) :
    encodeEventJson event.asSent = encodeEventJson event := by
  have stamp : timestampBytes event.asSent = timestampBytes event := by
    by_cases timed : Timed event
    · have sent : timestampBytes event.asSent = jsonString event.asSent.time.timestampDeviceIso :=
        if_pos timed
      have kept : event.asSent.time.timestampDeviceIso = event.time.timestampDeviceIso :=
        if_pos timed
      have own : timestampBytes event = jsonString event.time.timestampDeviceIso := if_pos timed
      rw [sent, kept, own]
    · have silent : timestampBytes event.asSent = text "null" := if_neg timed
      have own : timestampBytes event = text "null" := if_neg timed
      rw [silent, own]
  rw [encodeEventJson_eq, encodeEventJson_eq, stamp]
  rfl

private theorem bytes_inj {one two : Bytes} (same : one.map UInt8.toNat = two.map UInt8.toNat) :
    one = two :=
  List.map_injective_iff.mpr (fun _ _ => UInt8.toNat_inj.mp) same

private theorem eventType_inj {one two : EventType}
    (same : eventTypeToString one = eventTypeToString two) : one = two := by
  revert same
  cases one <;> cases two <;> decide

private theorem status_inj {one two : TimeSyncStatus}
    (same : timeSyncStatusToString one = timeSyncStatusToString two) :
    one = two := by
  revert same
  cases one <;> cases two <;> decide

private theorem quantityJson_find (name other : String) (quantity : OptionalQuantity) :
    (quantityJson name quantity).find? (fun member => member.1 = codes other) =
      if codes name = codes other then quantity.map fun value =>
        (codes name, Json.int value.toInt) else none := by
  cases quantity with
  | none => simp [quantityJson]
  | some value => simp [quantityJson, List.find?_cons]; split <;> simp_all

private theorem quantities_inj {good good' defect defect' rework rework' : OptionalQuantity}
    (same : quantityJson "quantity_good" good ++ quantityJson "quantity_defect" defect ++
      quantityJson "quantity_rework" rework =
      quantityJson "quantity_good" good' ++ quantityJson "quantity_defect" defect' ++
        quantityJson "quantity_rework" rework') :
    good = good' ∧ defect = defect' ∧ rework = rework' := by
  have value {one two : OptionalQuantity} {name : Text}
      (equal : one.map (fun value => (name, Json.int value.toInt)) = two.map fun value =>
        (name, Json.int value.toInt)) :
      one = two := by
    refine Option.map_injective (fun first second pair => ?_) equal
    simpa [Int32.toInt_inj] using pair
  have found (name : String) := congrArg (List.find? fun member => member.1 = codes name) same
  have differ : codes "quantity_good" ≠ codes "quantity_defect" ∧
        codes "quantity_good" ≠ codes "quantity_rework" ∧
      codes "quantity_defect" ≠ codes "quantity_rework" := by decide
  simp only [List.find?_append, quantityJson_find] at found
  refine ⟨@value _ _ (codes "quantity_good") ?_, @value _ _ (codes "quantity_defect") ?_,
    @value _ _ (codes "quantity_rework") ?_⟩
  · simpa [differ, differ.1.symm, differ.2.1.symm] using found "quantity_good"
  · simpa [differ, differ.1.symm, differ.2.2.symm] using found "quantity_defect"
  · simpa [differ] using found "quantity_rework"

/-- Two events have one body exactly if they differ at most in a timestamp that is not sent. -/
theorem encodeEventJson_eq_iff (one two : KioskEvent) :
    encodeEventJson one = encodeEventJson two ↔ one.asSent = two.asSent := by
  constructor
  · intro same
    have json := (carries_event bytewise_spelling (spells_bytewise one)).agree
      (carries_event bytewise_spelling (spells_bytewise two)) same
    simp only [eventJson, bytewiseTexts, Json.object.injEq, Json.int.injEq, Json.string.injEq,
      List.cons.injEq, Prod.mk.injEq,
      true_and, and_true, List.append_assoc, List.cons_append, List.nil_append,
        Nat.cast_inj] at json
    obtain ⟨version, ⟨deviceId, hardwareId, bootId⟩, ⟨eventId, deviceSeq, type⟩,
      ⟨stamp, uptime, status, age⟩,
      ⟨stateVersion, workflow, bundle⟩, source, raw, quantities⟩ := json
    obtain ⟨good, defect, rework⟩ :=
      quantities_inj (by simpa only [List.append_assoc] using quantities)
    have statuses := status_inj (bytes_inj status)
    have timed : Timed one ↔ Timed two := by rw [Timed, Timed, statuses]
    have stamps : (if Timed one then one.time.timestampDeviceIso else []) = if Timed two
        then two.time.timestampDeviceIso else [] := by
      by_cases sent : Timed two
      · simp only [timed.mpr sent, sent, if_true, Json.string.injEq] at stamp ⊢
        exact bytes_inj stamp
      · simp only [mt timed.mp sent, sent, if_false]
    have device : one.device = two.device := by
      rw [EventDeviceInfo.mk.injEq]
      exact ⟨bytes_inj deviceId, bytes_inj hardwareId, bytes_inj bootId⟩
    have occurrence : one.event = two.event := by
      rw [EventInfo.mk.injEq]
      exact ⟨bytes_inj eventId, UInt64.toNat_inj.mp deviceSeq, eventType_inj (bytes_inj type)⟩
    have context : one.context = two.context := by
      rw [EventContext.mk.injEq]
      exact ⟨UInt64.toNat_inj.mp stateVersion, UInt32.toNat_inj.mp workflow,
        UInt32.toNat_inj.mp bundle⟩
    have payload : one.payload = two.payload := by
      rw [ScanPayload.mk.injEq]
      exact ⟨bytes_inj source, bytes_inj raw⟩
    simp only [KioskEvent.asSent, stamps, statuses, UInt32.toNat_inj.mp version,
      UInt64.toNat_inj.mp uptime,
      UInt32.toNat_inj.mp age, good, defect, rework, device, occurrence, context, payload]
  · intro same
    rw [← encodeEventJson_asSent one, ← encodeEventJson_asSent two, same]

end Kiosk.Protocol
