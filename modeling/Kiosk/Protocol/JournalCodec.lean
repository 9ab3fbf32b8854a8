import Kiosk.Protocol.JournalRecord

/-! What a journal body reads back as. The record codec is not the identity on
every record: control bytes lose their backslash, and 64-bit numbers pass through
`strtoll`. `stored` says exactly what the file holds. -/
namespace Kiosk.Protocol

open Library Library.KeySearch

/-- A 64-bit field printed by `%llu` and read by `strtoll`. -/
def stored64 (value : UInt64) : UInt64 :=
  if value.toNat < 2 ^ 63 then value else 9223372036854775807

def JournalRecord.stored (r : JournalRecord) : JournalRecord :=
  { r with
    eventId := sanitize r.eventId
    deviceSeq := stored64 r.deviceSeq
    bootId := sanitize r.bootId
    eventType := sanitize r.eventType
    payload := sanitize r.payload
    payloadHash := sanitize r.payloadHash
    expectedStateVersion := stored64 r.expectedStateVersion
    timeSyncStatus := sanitize r.timeSyncStatus
    lastErrorCode := sanitize r.lastErrorCode }

def JournalTransition.stored (t : JournalTransition) : JournalTransition :=
  { t with eventId := sanitize t.eventId, lastErrorCode := sanitize t.lastErrorCode }

/-- What `decode_journal_event` requires of a body. -/
def JournalRecord.Decodable (r : JournalRecord) : Prop :=
  r.recordVersion = 1 ∧ r.eventId ≠ [] ∧ r.eventType ≠ []

instance (r : JournalRecord) : Decidable r.Decodable := by
  unfold JournalRecord.Decodable
  infer_instance

private theorem escaped_status (status : JournalSyncStatus) :
    Escaped (journalSyncStatusToString status) := by
  have letters : ∀ status, (journalSyncStatusToString status).all isWord = true := by
    intro status; cases status <;> rfl
  exact .of_plain fun byte member =>
    have word := word_ne (List.all_eq_true.mp (letters status) byte member)
    ⟨word.1, word.2.1⟩

private theorem readString_status (status : JournalSyncStatus) (rest : Bytes) :
    readString (journalSyncStatusToString status ++ quote :: rest) =
      journalSyncStatusToString status := by
  have unchanged :
      jsonEscape (journalSyncStatusToString status) = journalSyncStatusToString status ∧
      Clean (journalSyncStatusToString status) := by
    cases status <;> decide +kernel
  have read := readString_jsonEscape (journalSyncStatusToString status) rest
  rwa [unchanged.1, sanitize_clean unchanged.2] at read

theorem journalSyncStatus_roundtrip (status : JournalSyncStatus) :
    journalSyncStatusFromString (journalSyncStatusToString status) = some status := by
  cases status <;> decide

private theorem event_formed (r : JournalRecord) : FormedBody (text "E") r.fields where
  kind := (fieldKey "E" (by decide) (by decide)).escaped
  fields := by
    intro field member
    simp only [JournalRecord.fields, List.mem_cons, List.not_mem_nil, or_false] at member
    rcases member with
      rfl | rfl | rfl | rfl | rfl | rfl | rfl | rfl | rfl | rfl | rfl | rfl | rfl | rfl
    all_goals first
      | trivial
      | exact escaped_jsonEscape _
      | exact escaped_status _

private theorem transition_formed (t : JournalTransition) : FormedBody (text "T") t.fields where
  kind := (fieldKey "T" (by decide) (by decide)).escaped
  fields := by
    intro field member
    simp only [JournalTransition.fields, List.mem_cons, List.not_mem_nil, or_false] at member
    rcases member with rfl | rfl | rfl | rfl | rfl
    all_goals first
      | trivial
      | exact escaped_jsonEscape _
      | exact escaped_status _

theorem bodyKind_event (r : JournalRecord) : journalBodyKind (encodeJournalEvent r) = .event := by
  have read : jsonExtractString (encodeJournalEvent r) (text "k") [] = text "E" :=
    extractKind_body (event_formed r) fun rest => by
      have plain := readString_jsonEscape (text "E") rest
      exact plain
  simp [journalBodyKind, read]

theorem bodyKind_transition (t : JournalTransition) :
    journalBodyKind (encodeJournalTransition t) = .transition := by
  have read : jsonExtractString (encodeJournalTransition t) (text "k") [] = text "T" :=
    extractKind_body (transition_formed t) fun rest => by
      have plain := readString_jsonEscape (text "T") rest
      exact plain
  simp [journalBodyKind, read, show text "T" ≠ text "E" by decide]

/-! One lemma for each way a field is read, stated for any field of the list. -/

section Event
variable (r : JournalRecord) {defaultText : Bytes} {defaultInt : Int}

private theorem event_string (literal : String) (nonempty : text literal ≠ [])
    (word : (text literal).all isWord = true) (notKind : text literal ≠ text "k")
    (found : r.fields.find? (fun field => field.key.bytes == text literal) =
      some ⟨fieldKey literal nonempty word, .string (jsonEscape value)⟩) :
    jsonExtractString (encodeJournalEvent r) (text literal) defaultText = sanitize value :=
  extractString_body (event_formed r) (fieldKey literal nonempty word) notKind found
    (readString_jsonEscape value)

private theorem event_number (literal : String) (nonempty : text literal ≠ [])
    (word : (text literal).all isWord = true) (notKind : text literal ≠ text "k")
    (found : r.fields.find? (fun field => field.key.bytes == text literal) =
      some ⟨fieldKey literal nonempty word, .number value⟩) :
    jsonExtractInt (encodeJournalEvent r) (text literal) defaultInt = min int64Max value :=
  extractInt_body (event_formed r) (fieldKey literal nonempty word) notKind found

private theorem event_status :
    jsonExtractString (encodeJournalEvent r) (text "sync_status") [] =
      journalSyncStatusToString r.syncStatus :=
  extractString_body (event_formed r) (fieldKey "sync_status" (by decide) (by decide))
    (by decide) rfl
    (readString_status r.syncStatus)

end Event

section Transition
variable (t : JournalTransition) {defaultText : Bytes} {defaultInt : Int}

private theorem transition_string (literal : String) (nonempty : text literal ≠ [])
    (word : (text literal).all isWord = true) (notKind : text literal ≠ text "k")
    (found : t.fields.find? (fun field => field.key.bytes == text literal) =
      some ⟨fieldKey literal nonempty word, .string (jsonEscape value)⟩) :
    jsonExtractString (encodeJournalTransition t) (text literal) defaultText = sanitize value :=
  extractString_body (transition_formed t) (fieldKey literal nonempty word) notKind found
    (readString_jsonEscape value)

private theorem transition_number (literal : String) (nonempty : text literal ≠ [])
    (word : (text literal).all isWord = true) (notKind : text literal ≠ text "k")
    (found : t.fields.find? (fun field => field.key.bytes == text literal) =
      some ⟨fieldKey literal nonempty word, .number value⟩) :
    jsonExtractInt (encodeJournalTransition t) (text literal) defaultInt = min int64Max value :=
  extractInt_body (transition_formed t) (fieldKey literal nonempty word) notKind found

private theorem transition_status :
    jsonExtractString (encodeJournalTransition t) (text "sync_status") [] =
      journalSyncStatusToString t.syncStatus :=
  extractString_body (transition_formed t) (fieldKey "sync_status" (by decide) (by decide))
    (by decide) rfl
    (readString_status t.syncStatus)

end Transition

private theorem ofInt_number32 (value : UInt32) :
    UInt32.ofInt (min int64Max value.toNat) = value := by
  have bound := value.toNat_lt
  have same : min int64Max (value.toNat : Int) = value.toNat := by unfold int64Max; omega
  have residue : ((value.toNat : Int) % 2 ^ 32).toNat = value.toNat := by omega
  rw [same, UInt32.ofInt, residue, UInt32.ofNat_toNat]

private theorem ofInt_number64 (value : UInt64) :
    UInt64.ofInt (min int64Max value.toNat) = stored64 value := by
  unfold stored64 int64Max
  by_cases small : value.toNat < 2 ^ 63
  · have same : min ((2 : Int) ^ 63 - 1) (value.toNat : Int) = value.toNat := by omega
    rw [same, if_pos small]
    have residue : ((value.toNat : Int) % 2 ^ 64).toNat = value.toNat := by omega
    rw [UInt64.ofInt, residue, UInt64.ofNat_toNat]
  · have same : min ((2 : Int) ^ 63 - 1) (value.toNat : Int) = 9223372036854775807 := by omega
    rw [same, if_neg small]
    decide

private theorem version_read (version : UInt8) :
    (min int64Max (version.toNat : Int) ≠ 1) ↔ version ≠ 1 := by
  have bound := version.toNat_lt
  have same : min int64Max (version.toNat : Int) = version.toNat := by unfold int64Max; omega
  rw [same, not_iff_not]
  constructor
  · intro one
    exact UInt8.toNat_inj.mp (by simpa using one)
  · rintro rfl; rfl

/-- A body decodes exactly when its record has version 1, an id and a type, and
then to what the record is stored as. -/
theorem decodeJournalEvent_encode (r : JournalRecord) :
    decodeJournalEvent (encodeJournalEvent r) = if r.Decodable then some r.stored else none := by
  have version :
      jsonExtractInt (encodeJournalEvent r) (text "record_version") (-1) =
      min int64Max r.recordVersion.toNat :=
    event_number r "record_version" (by decide) (by decide) (by decide) rfl
  have eventId :
      jsonExtractString (encodeJournalEvent r) (text "event_id") [] = sanitize r.eventId :=
    event_string r "event_id" (by decide) (by decide) (by decide) rfl
  have eventType :
      jsonExtractString (encodeJournalEvent r) (text "event_type") [] = sanitize r.eventType :=
    event_string r "event_type" (by decide) (by decide) (by decide) rfl
  have deviceSeq :
      jsonExtractInt (encodeJournalEvent r) (text "device_seq") 0 =
      min int64Max r.deviceSeq.toNat :=
    event_number r "device_seq" (by decide) (by decide) (by decide) rfl
  have bootId : jsonExtractString (encodeJournalEvent r) (text "boot_id") [] = sanitize r.bootId :=
    event_string r "boot_id" (by decide) (by decide) (by decide) rfl
  have payload :
      jsonExtractString (encodeJournalEvent r) (text "payload") [] = sanitize r.payload :=
    event_string r "payload" (by decide) (by decide) (by decide) rfl
  have payloadHash :
      jsonExtractString (encodeJournalEvent r) (text "payload_hash") [] = sanitize r.payloadHash :=
    event_string r "payload_hash" (by decide) (by decide) (by decide) rfl
  have expected : jsonExtractInt (encodeJournalEvent r) (text "expected_state_version") 0 =
      min int64Max r.expectedStateVersion.toNat :=
    event_number r "expected_state_version" (by decide) (by decide) (by decide) rfl
  have created : jsonExtractInt (encodeJournalEvent r) (text "created_uptime_ms") 0 =
      min int64Max r.createdUptimeMs.toNat :=
    event_number r "created_uptime_ms" (by decide) (by decide) (by decide) rfl
  have timeSync :
      jsonExtractString (encodeJournalEvent r) (text "time_sync_status") [] =
      sanitize r.timeSyncStatus :=
    event_string r "time_sync_status" (by decide) (by decide) (by decide) rfl
  have retryCount :
      jsonExtractInt (encodeJournalEvent r) (text "retry_count") 0 =
      min int64Max r.retryCount.toNat :=
    event_number r "retry_count" (by decide) (by decide) (by decide) rfl
  have lastAttempt : jsonExtractInt (encodeJournalEvent r) (text "last_attempt_uptime_ms") 0 =
      min int64Max r.lastAttemptUptimeMs.toNat :=
    event_number r "last_attempt_uptime_ms" (by decide) (by decide) (by decide) rfl
  have errorCode :
      jsonExtractString (encodeJournalEvent r) (text "last_error_code") [] =
      sanitize r.lastErrorCode :=
    event_string r "last_error_code" (by decide) (by decide) (by decide) rfl
  unfold decodeJournalEvent
  simp only [bodyKind_event, version, eventId, eventType, event_status,
    journalSyncStatus_roundtrip, deviceSeq,
    bootId, payload, payloadHash, expected, created, timeSync, retryCount, lastAttempt, errorCode,
    ofInt_number32, ofInt_number64, version_read, sanitize_eq_nil, JournalRecord.Decodable, ne_eq,
    not_true_eq_false, ↓reduceIte]
  by_cases one : r.recordVersion = 1
  · by_cases noId : r.eventId = []
    · simp [one, noId]
    · by_cases noType : r.eventType = []
      · simp [one, noId, noType]
      · have byte : UInt8.ofInt (min int64Max 1) = 1 := by decide
        simp [one, noId, noType, JournalRecord.stored, byte]
  · simp [one]

theorem decodeJournalTransition_encode (t : JournalTransition) :
    decodeJournalTransition (encodeJournalTransition t) = if t.eventId ≠ [] then some t.stored
      else none := by
  have eventId :
      jsonExtractString (encodeJournalTransition t) (text "event_id") [] = sanitize t.eventId :=
    transition_string t "event_id" (by decide) (by decide) (by decide) rfl
  have retryCount : jsonExtractInt (encodeJournalTransition t) (text "retry_count") 0 =
      min int64Max t.retryCount.toNat :=
    transition_number t "retry_count" (by decide) (by decide) (by decide) rfl
  have lastAttempt : jsonExtractInt (encodeJournalTransition t) (text "last_attempt_uptime_ms") 0 =
      min int64Max t.lastAttemptUptimeMs.toNat :=
    transition_number t "last_attempt_uptime_ms" (by decide) (by decide) (by decide) rfl
  have errorCode : jsonExtractString (encodeJournalTransition t) (text "last_error_code") [] =
      sanitize t.lastErrorCode :=
    transition_string t "last_error_code" (by decide) (by decide) (by decide) rfl
  unfold decodeJournalTransition
  simp only [bodyKind_transition, eventId, transition_status, journalSyncStatus_roundtrip,
    retryCount,
    lastAttempt, errorCode, ofInt_number32, sanitize_eq_nil, ne_eq, not_true_eq_false, ↓reduceIte]
  by_cases noId : t.eventId = []
  · simp [noId]
  · simp [noId, JournalTransition.stored]

/-- The records the codec reproduces: clean strings and numbers below 2^63. -/
structure InCodecRange (r : JournalRecord) : Prop where
  decodable : r.Decodable
  eventId : Clean r.eventId
  bootId : Clean r.bootId
  eventType : Clean r.eventType
  payload : Clean r.payload
  payloadHash : Clean r.payloadHash
  timeSyncStatus : Clean r.timeSyncStatus
  lastErrorCode : Clean r.lastErrorCode
  deviceSeq : r.deviceSeq.toNat < 2 ^ 63
  expectedStateVersion : r.expectedStateVersion.toNat < 2 ^ 63

instance (r : JournalRecord) : Decidable (InCodecRange r) :=
  decidable_of_iff
      (r.Decodable ∧ Clean r.eventId ∧ Clean r.bootId ∧ Clean r.eventType ∧ Clean r.payload ∧
      Clean r.payloadHash ∧ Clean r.timeSyncStatus ∧ Clean r.lastErrorCode ∧
        r.deviceSeq.toNat < 2 ^ 63 ∧
      r.expectedStateVersion.toNat < 2 ^ 63)
    ⟨fun ⟨a, b, c, d, e, f, g, h, i, j⟩ => ⟨a, b, c, d, e, f, g, h, i, j⟩,
      fun ⟨a, b, c, d, e, f, g, h, i, j⟩ => ⟨a, b, c, d, e, f, g, h, i, j⟩⟩

theorem stored64_eq (small : value.toNat < 2 ^ 63) : stored64 value = value := if_pos small

theorem InCodecRange.stored (range : InCodecRange r) : r.stored = r := by
  simp [JournalRecord.stored, sanitize_clean range.eventId, sanitize_clean range.bootId,
    sanitize_clean range.eventType, sanitize_clean range.payload, sanitize_clean range.payloadHash,
    sanitize_clean range.timeSyncStatus, sanitize_clean range.lastErrorCode,
    stored64_eq range.deviceSeq, stored64_eq range.expectedStateVersion]

/-! Nothing outside that range comes back unchanged: a control byte grows into five,
and `strtoll` stops at 2^63 - 1. -/

private theorem length_sanitizeByte (byte : UInt8) : 1 ≤ (sanitizeByte byte).length := by
  unfold sanitizeByte controlName
  split <;> simp

private theorem sanitizeByte_control (control : isControl byte = true) :
    (sanitizeByte byte).length = 5 := by
  simp [sanitizeByte, control, controlName]

private theorem length_sanitize (input : Bytes) : input.length ≤ (sanitize input).length := by
  induction input with
  | nil => simp [sanitize]
  | cons byte rest ih =>
    have head := length_sanitizeByte byte
    simp only [sanitize, List.flatMap_cons, List.length_append, List.length_cons] at ih ⊢
    omega

theorem sanitize_eq_iff (input : Bytes) : sanitize input = input ↔ Clean input := by
  constructor
  · intro unchanged
    induction input with
    | nil => intro byte member; simp at member
    | cons byte rest ih =>
      have sizes := congrArg List.length unchanged
      have tail := length_sanitize rest
      simp only [sanitize, List.flatMap_cons, List.length_append, List.length_cons] at sizes tail
      have plain : isControl byte = false := by
        by_contra control
        have five : (sanitizeByte byte).length = 5 := sanitizeByte_control (by simpa using control)
        omega
      have rest_unchanged : sanitize rest = rest := by
        simpa [sanitize, sanitizeByte, plain] using unchanged
      intro other member
      rcases List.mem_cons.mp member with rfl | later
      · exact plain
      · exact ih rest_unchanged other later
  · exact sanitize_clean

theorem stored64_eq_iff (value : UInt64) : stored64 value = value ↔ value.toNat < 2 ^ 63 := by
  constructor
  · intro unchanged
    by_contra large
    rw [stored64, if_neg large] at unchanged
    rw [← unchanged] at large
    exact large (by decide)
  · exact stored64_eq

theorem stored_eq_iff (r : JournalRecord) (decodable : r.Decodable) :
    r.stored = r ↔ InCodecRange r := by
  constructor
  · intro unchanged
    have same : ∀ {α : Type} (field : JournalRecord → α), field r.stored = field r := fun field =>
      congrArg field unchanged
    constructor
    · exact decodable
    · exact (sanitize_eq_iff _).mp (same JournalRecord.eventId)
    · exact (sanitize_eq_iff _).mp (same JournalRecord.bootId)
    · exact (sanitize_eq_iff _).mp (same JournalRecord.eventType)
    · exact (sanitize_eq_iff _).mp (same JournalRecord.payload)
    · exact (sanitize_eq_iff _).mp (same JournalRecord.payloadHash)
    · exact (sanitize_eq_iff _).mp (same JournalRecord.timeSyncStatus)
    · exact (sanitize_eq_iff _).mp (same JournalRecord.lastErrorCode)
    · exact (stored64_eq_iff _).mp (same JournalRecord.deviceSeq)
    · exact (stored64_eq_iff _).mp (same JournalRecord.expectedStateVersion)
  · exact InCodecRange.stored

/-- The transitions the codec reproduces. -/
structure JournalTransition.InCodecRange (t : JournalTransition) : Prop where
  named : t.eventId ≠ []
  eventId : Clean t.eventId
  lastErrorCode : Clean t.lastErrorCode

private theorem transition_stored_iff (t : JournalTransition) (named : t.eventId ≠ []) :
    t.stored = t ↔ t.InCodecRange := by
  constructor
  · intro unchanged
    constructor
    · exact named
    · exact (sanitize_eq_iff _).mp (congrArg JournalTransition.eventId unchanged)
    · exact (sanitize_eq_iff _).mp (congrArg JournalTransition.lastErrorCode unchanged)
  · intro range
    simp [JournalTransition.stored, sanitize_clean range.eventId,
      sanitize_clean range.lastErrorCode]

/-- The round trip of both bodies, for every record and every transition: a body reads
back as what was encoded exactly in the codec's range. -/
theorem journalBody_roundtrip_iff (r : JournalRecord) (t : JournalTransition) :
    (decodeJournalEvent (encodeJournalEvent r) = some r ↔ InCodecRange r) ∧
      (decodeJournalTransition (encodeJournalTransition t) = some t ↔ t.InCodecRange) := by
  constructor
  · rw [decodeJournalEvent_encode]
    by_cases decodable : r.Decodable
    · rw [if_pos decodable, Option.some.injEq]
      exact stored_eq_iff r decodable
    · rw [if_neg decodable]
      constructor
      · intro found; cases found
      · intro range; exact absurd range.decodable decodable
  · rw [decodeJournalTransition_encode]
    by_cases named : t.eventId ≠ []
    · rw [if_pos named, Option.some.injEq]
      exact transition_stored_iff t named
    · rw [if_neg named]
      constructor
      · intro found; cases found
      · intro range; exact absurd range.named named

/-- A scanned code holding the byte 1 does not read back. -/
def controlRecord : JournalRecord :=
  { recordVersion := 1, eventId := text "e1", eventType := text "SCAN", payload := [87, 70, 1] }

/-- The escape's five characters come back in that byte's place. -/
theorem controlRecord_altered :
    controlRecord.Decodable ∧
      (decodeJournalEvent (encodeJournalEvent controlRecord)).map (·.payload) =
        some ([87, 70] ++ text "u0001") ∧
      decodeJournalEvent (encodeJournalEvent controlRecord) ≠ some controlRecord := by
  have decodable : controlRecord.Decodable := by decide +kernel
  have read := decodeJournalEvent_encode controlRecord
  rw [if_pos decodable] at read
  refine ⟨decodable, ?_, ?_⟩
  · rw [read]; decide +kernel
  · rw [read]; decide +kernel

end Kiosk.Protocol
