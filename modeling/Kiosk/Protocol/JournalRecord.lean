import Kiosk.Protocol.JsonExtract

/-! `journal_record.cpp`: the two journal bodies and their decoders. -/
namespace Kiosk.Protocol

open Library Library.KeySearch

inductive JournalSyncStatus where
  | pending | inFlight | acked | rejected | conflict | humanReview
  deriving DecidableEq, Repr

def journalSyncStatusToString : JournalSyncStatus → Bytes
  | .pending => text "PENDING"
  | .inFlight => text "IN_FLIGHT"
  | .acked => text "ACKED"
  | .rejected => text "REJECTED"
  | .conflict => text "CONFLICT"
  | .humanReview => text "HUMAN_REVIEW"

def journalSyncStatusFromString (name : Bytes) : Option JournalSyncStatus :=
  if name = text "PENDING" then some .pending
  else if name = text "IN_FLIGHT" then some .inFlight
  else if name = text "ACKED" then some .acked
  else if name = text "REJECTED" then some .rejected
  else if name = text "CONFLICT" then some .conflict
  else if name = text "HUMAN_REVIEW" then some .humanReview
  else none

structure JournalRecord where
  recordVersion : UInt8 := 1
  eventId : Bytes
  deviceSeq : UInt64 := 0
  bootId : Bytes := []
  eventType : Bytes
  payload : Bytes := []
  payloadHash : Bytes := []
  expectedStateVersion : UInt64 := 0
  createdUptimeMs : UInt32 := 0
  timeSyncStatus : Bytes := []
  retryCount : UInt32 := 0
  lastAttemptUptimeMs : UInt32 := 0
  lastErrorCode : Bytes := []
  syncStatus : JournalSyncStatus := .pending
  deriving DecidableEq, Repr

structure JournalTransition where
  eventId : Bytes
  syncStatus : JournalSyncStatus := .pending
  retryCount : UInt32 := 0
  lastAttemptUptimeMs : UInt32 := 0
  lastErrorCode : Bytes := []
  deriving DecidableEq, Repr

/-- The four fields a transition overwrites. -/
def JournalRecord.transition (record : JournalRecord) (change : JournalTransition) :
    JournalRecord :=
  { record with
    syncStatus := change.syncStatus
    retryCount := change.retryCount
    lastAttemptUptimeMs := change.lastAttemptUptimeMs
    lastErrorCode := change.lastErrorCode }

/-- One `,"key":value` of a body: a quoted string, written as it stands, or a number. -/
inductive FieldValue where
  | string (content : Bytes)
  | number (value : Nat)

structure Field where
  key : Key
  value : FieldValue

def Field.text (field : Field) : Bytes :=
  Library.text ",\"" ++ field.key.bytes ++ Library.text "\":" ++
    match field.value with
    | .string content => Library.text "\"" ++ content ++ Library.text "\""
    | .number value => decimal value

/-- A body: the kind discriminator, the fields in order, the closing brace. -/
def bodyText (kind : Bytes) (fields : List Field) : Bytes :=
  text "\x7b\"k\":\"" ++ kind ++ text "\"" ++ fields.flatMap Field.text ++ text "\x7d"

def fieldKey (literal : String) (nonempty : text literal ≠ [])
    (word : (text literal).all isWord = true) :
    Key := ⟨text literal, nonempty, word⟩

def JournalRecord.fields (r : JournalRecord) : List Field := [
  ⟨fieldKey "record_version" (by decide) (by decide), .number r.recordVersion.toNat⟩,
  ⟨fieldKey "event_id" (by decide) (by decide), .string (jsonEscape r.eventId)⟩,
  ⟨fieldKey "device_seq" (by decide) (by decide), .number r.deviceSeq.toNat⟩,
  ⟨fieldKey "boot_id" (by decide) (by decide), .string (jsonEscape r.bootId)⟩,
  ⟨fieldKey "event_type" (by decide) (by decide), .string (jsonEscape r.eventType)⟩,
  ⟨fieldKey "payload" (by decide) (by decide), .string (jsonEscape r.payload)⟩,
  ⟨fieldKey "payload_hash" (by decide) (by decide), .string (jsonEscape r.payloadHash)⟩,
  ⟨fieldKey "expected_state_version" (by decide) (by decide), .number r.expectedStateVersion.toNat⟩,
  ⟨fieldKey "created_uptime_ms" (by decide) (by decide), .number r.createdUptimeMs.toNat⟩,
  ⟨fieldKey "time_sync_status" (by decide) (by decide), .string (jsonEscape r.timeSyncStatus)⟩,
  ⟨fieldKey "retry_count" (by decide) (by decide), .number r.retryCount.toNat⟩,
  ⟨fieldKey "last_attempt_uptime_ms" (by decide) (by decide), .number r.lastAttemptUptimeMs.toNat⟩,
  ⟨fieldKey "last_error_code" (by decide) (by decide), .string (jsonEscape r.lastErrorCode)⟩,
  ⟨fieldKey "sync_status" (by decide) (by decide),
    .string (journalSyncStatusToString r.syncStatus)⟩]

def JournalTransition.fields (t : JournalTransition) : List Field := [
  ⟨fieldKey "event_id" (by decide) (by decide), .string (jsonEscape t.eventId)⟩,
  ⟨fieldKey "sync_status" (by decide) (by decide),
    .string (journalSyncStatusToString t.syncStatus)⟩,
  ⟨fieldKey "retry_count" (by decide) (by decide), .number t.retryCount.toNat⟩,
  ⟨fieldKey "last_attempt_uptime_ms" (by decide) (by decide), .number t.lastAttemptUptimeMs.toNat⟩,
  ⟨fieldKey "last_error_code" (by decide) (by decide), .string (jsonEscape t.lastErrorCode)⟩]

def encodeJournalEvent (r : JournalRecord) : Bytes := bodyText (text "E") r.fields

def encodeJournalTransition (t : JournalTransition) : Bytes := bodyText (text "T") t.fields

inductive JournalBodyKind where
  | event | transition | unknown
  deriving DecidableEq, Repr

def journalBodyKind (body : Bytes) : JournalBodyKind :=
  let k := jsonExtractString body (text "k") []
  if k = text "E" then .event else if k = text "T" then .transition else .unknown

def decodeJournalEvent (body : Bytes) : Option JournalRecord :=
  if journalBodyKind body ≠ .event then none
  else
    let version := jsonExtractInt body (text "record_version") (-1)
    if version ≠ 1 then none
    else
      let eventId := jsonExtractString body (text "event_id") []
      let eventType := jsonExtractString body (text "event_type") []
      if eventId = [] then none
      else if eventType = [] then none
      else
        match journalSyncStatusFromString (jsonExtractString body (text "sync_status") []) with
        | none => none
        | some syncStatus => some {
            recordVersion := UInt8.ofInt version
            eventId := eventId
            deviceSeq := UInt64.ofInt (jsonExtractInt body (text "device_seq") 0)
            bootId := jsonExtractString body (text "boot_id") []
            eventType := eventType
            payload := jsonExtractString body (text "payload") []
            payloadHash := jsonExtractString body (text "payload_hash") []
            expectedStateVersion :=
              UInt64.ofInt (jsonExtractInt body (text "expected_state_version") 0)
            createdUptimeMs := UInt32.ofInt (jsonExtractInt body (text "created_uptime_ms") 0)
            timeSyncStatus := jsonExtractString body (text "time_sync_status") []
            retryCount := UInt32.ofInt (jsonExtractInt body (text "retry_count") 0)
            lastAttemptUptimeMs :=
              UInt32.ofInt (jsonExtractInt body (text "last_attempt_uptime_ms") 0)
            lastErrorCode := jsonExtractString body (text "last_error_code") []
            syncStatus := syncStatus }

def decodeJournalTransition (body : Bytes) : Option JournalTransition :=
  if journalBodyKind body ≠ .transition then none
  else
    let eventId := jsonExtractString body (text "event_id") []
    if eventId = [] then none
    else
      match journalSyncStatusFromString (jsonExtractString body (text "sync_status") []) with
      | none => none
      | some syncStatus => some {
          eventId := eventId
          syncStatus := syncStatus
          retryCount := UInt32.ofInt (jsonExtractInt body (text "retry_count") 0)
          lastAttemptUptimeMs :=
            UInt32.ofInt (jsonExtractInt body (text "last_attempt_uptime_ms") 0)
          lastErrorCode := jsonExtractString body (text "last_error_code") [] }

/-! Looking a field up in a rendered body. -/

def Field.pieces (field : Field) : List Piece :=
  [.bare [44], .key field.key,
    match field.value with
    | .string content => .value content
    | .number value => .bare (decimal value)]

def Field.Formed (field : Field) : Prop :=
  match field.value with
  | .string content => Escaped content
  | .number _ => True

def fieldPieces (fields : List Field) : List Piece := fields.flatMap Field.pieces ++ [.bare [125]]

private def kindKey : Key := ⟨text "k", by decide, by decide⟩

private def bodyPieces (kind : Bytes) (fields : List Field) : List Piece :=
  .bare [123] :: .key kindKey :: .value kind :: fieldPieces fields

theorem Field.text_eq (field : Field) : field.text = render field.pieces := by
  obtain ⟨key, value⟩ := field
  cases value <;>
    simp [Field.text, Field.pieces, Piece.bytes, show Library.text ",\"" = [44, 34] from rfl,
      show Library.text "\":" = [34, 58] from rfl, show Library.text "\"" = [34] from rfl]

private theorem render_append (front back : List Piece) :
    render (front ++ back) = render front ++ render back := by
  simp [render]

private theorem fieldPieces_text (fields : List Field) :
    render (fieldPieces fields) = fields.flatMap Field.text ++ [125] := by
  induction fields with
  | nil => rfl
  | cons field rest ih =>
    have split : fieldPieces (field :: rest) = field.pieces ++ fieldPieces rest := by
      simp [fieldPieces]
    rw [split, render_append, ih, List.flatMap_cons, Field.text_eq, List.append_assoc]

private theorem bodyText_eq (kind : Bytes) (fields : List Field) :
    bodyText kind fields = render (bodyPieces kind fields) := by
  simp only [bodyPieces, render_cons, fieldPieces_text, bodyText]
  simp [Piece.bytes, kindKey, show text "\x7b\"k\":\"" = [123, 34, 107, 34, 58, 34] from rfl,
    show text "\"" = [34] from rfl, show text "\x7d" = [125] from rfl,
      show text "k" = [107] from rfl]

/-- What follows a value is a comma or the closing brace. -/
private theorem fieldPieces_head (fields : List Field) :
    ∃ next rest, fieldPieces fields = .bare (next :: []) :: rest ∧ (next = 44 ∨ next = 125) := by
  cases fields with
  | nil => exact ⟨125, [], rfl, .inr rfl⟩
  | cons field rest =>
    exact ⟨44, _, by rw [fieldPieces, List.flatMap_cons, Field.pieces]; rfl, .inl rfl⟩

private theorem WellFormed.value_fields (escaped : Escaped content)
    (formed : WellFormed (fieldPieces fields)) :
    WellFormed (.value content :: fieldPieces fields) := by
  obtain ⟨next, rest, spelled, comma⟩ := fieldPieces_head fields
  rw [spelled] at formed ⊢
  refine .value escaped ?_ ?_ formed
  · rcases comma with rfl | rfl <;> decide
  · rcases comma with rfl | rfl <;> decide

private theorem punctuation_bare :
    (∀ byte ∈ ([44] : Bytes), byte ≠ quote) ∧ (∀ byte ∈ ([123] : Bytes), byte ≠ quote) ∧
      (∀ byte ∈ ([125] : Bytes), byte ≠ quote) := by
  simp [quote]

private theorem fieldPieces_formed (formed : ∀ field ∈ fields, Field.Formed field) :
    WellFormed (fieldPieces fields) := by
  induction fields with
  | nil => exact .bare punctuation_bare.2.2 .nil
  | cons field rest ih =>
    have tail := ih fun other member => formed other (by simp [member])
    have head := formed field (by simp)
    have split : fieldPieces (field :: rest) = field.pieces ++ fieldPieces rest := by
      simp [fieldPieces]
    obtain ⟨key, value⟩ := field
    rw [split]
    refine .bare punctuation_bare.1 (.key ?_)
    cases value with
    | string content => exact WellFormed.value_fields head tail
    | number value =>
      refine .bare (fun byte member => ?_) tail
      exact (digit_plain (isDigit_of_mem_decimal member)).1

private theorem bodyPieces_formed (escaped : Escaped kind)
    (formed : ∀ field ∈ fields, Field.Formed field) :
    WellFormed (bodyPieces kind fields) :=
  .bare punctuation_bare.2.1 (.key (WellFormed.value_fields escaped (fieldPieces_formed formed)))

private theorem lookup_fields (key : Key)
    (found : fields.find? (fun field => field.key.bytes == key.bytes) = some field) :
    ∃ rest, lookup key (fieldPieces fields) = some ((match field.value with
      | .string content => Piece.value content
      | .number value => .bare (decimal value)) :: fieldPieces rest) := by
  induction fields with
  | nil => simp at found
  | cons head rest ih =>
    have split : fieldPieces (head :: rest) = head.pieces ++ fieldPieces rest := by
      simp [fieldPieces]
    rw [split, Field.pieces]
    by_cases same : head.key.bytes = key.bytes
    · simp only [List.find?_cons, same, BEq.rfl, Option.some.injEq] at found
      subst field
      exact ⟨rest, by simp [lookup, same]⟩
    · have different : (head.key.bytes == key.bytes) = false := by simpa using same
      simp only [List.find?_cons, different] at found
      obtain ⟨others, next⟩ := ih found
      refine ⟨others, ?_⟩
      rw [← next]
      cases head.value <;> simp [lookup, Ne.symm same]

/-- A body whose strings are all escaped. -/
structure FormedBody (kind : Bytes) (fields : List Field) : Prop where
  kind : Escaped kind
  fields : ∀ field ∈ fields, Field.Formed field

private theorem findValueStart_body (body : FormedBody kind fields) (key : Key)
    (notKind : key.bytes ≠ text "k")
    (found : fields.find? (fun field => field.key.bytes == key.bytes) = some field) :
    ∃ rest, findValueStart (bodyText kind fields) key.bytes = some (render ((match field.value with
      | .string content => Piece.value content
      | .number value => .bare (decimal value)) :: fieldPieces rest)) := by
  obtain ⟨rest, next⟩ := lookup_fields key found
  refine ⟨rest, ?_⟩
  have searched := findAfter_render key (bodyPieces_formed body.kind body.fields)
  have different : key.bytes ≠ kindKey.bytes := notKind
  rw [findValueStart, bodyText_eq]
  change findAfter key.needle _ = _
  rw [searched]
  simp [bodyPieces, lookup, different, next]

theorem extractString_body (body : FormedBody kind fields) (key : Key)
    (notKind : key.bytes ≠ text "k")
    (found : fields.find? (fun field => field.key.bytes == key.bytes) =
      some ⟨name, .string content⟩)
    (reads : ∀ rest, readString (content ++ quote :: rest) = value) :
    jsonExtractString (bodyText kind fields) key.bytes fallback = value := by
  obtain ⟨rest, next⟩ := findValueStart_body body key notKind found
  have spelled : render (Piece.value content :: fieldPieces rest) =
      quote :: (content ++ quote :: render (fieldPieces rest)) := by simp [Piece.bytes]
  simp only at next
  rw [spelled] at next
  have kept : skipWs (quote :: (content ++ quote :: render (fieldPieces rest))) =
      quote :: (content ++ quote :: render (fieldPieces rest)) := by
    simp [skipWs, show isSpace quote = false by decide]
  simp only [jsonExtractString, next, kept]
  exact reads _

theorem extractInt_body (body : FormedBody kind fields) (key : Key) (notKind : key.bytes ≠ text "k")
    (found : fields.find? (fun field => field.key.bytes == key.bytes) =
      some ⟨name, .number value⟩) :
    jsonExtractInt (bodyText kind fields) key.bytes fallback = min int64Max value := by
  obtain ⟨rest, start⟩ := findValueStart_body body key notKind found
  obtain ⟨next, more, spelled, comma⟩ := fieldPieces_head rest
  have stops : isDigit next = false := by rcases comma with rfl | rfl <;> decide
  simp only [spelled, render_cons, Piece.bytes, List.cons_append, List.nil_append] at start
  exact jsonExtractInt_decimal start value (skipWs_decimal value _) stops

theorem extractKind_body (body : FormedBody kind fields)
    (reads : ∀ rest, readString (kind ++ quote :: rest) = value) :
    jsonExtractString (bodyText kind fields) (text "k") fallback = value := by
  have searched := findAfter_render kindKey (bodyPieces_formed body.kind body.fields)
  have start : findValueStart (bodyText kind fields) (text "k") =
      some (quote :: (kind ++ quote :: render (fieldPieces fields))) := by
    rw [findValueStart, bodyText_eq]
    change findAfter kindKey.needle _ = _
    rw [searched]
    simp [bodyPieces, lookup, Piece.bytes]
  have kept : skipWs (quote :: (kind ++ quote :: render (fieldPieces fields))) =
      quote :: (kind ++ quote :: render (fieldPieces fields)) := by
    simp [skipWs, show isSpace quote = false by decide]
  simp only [jsonExtractString, start, kept]
  exact reads _

end Kiosk.Protocol
