import Kiosk.Library.KeyedLog
import Kiosk.Protocol.JournalCodec
import Kiosk.Protocol.EventJournalCore

/-! `event_journal_index.cpp`: the in-memory index of the journal. -/
namespace Kiosk.Protocol

open Library

/-- `std::sort`: sorted by the comparison, equal elements in any order. -/
class StdSort where
  sort {α : Type} (less : α → α → Bool) (items : List α) : List α
  perm {α : Type} (less : α → α → Bool) (items : List α) : (sort less items).Perm items
  sorted {α : Type} (less : α → α → Bool) (items : List α)
    (asymm : ∀ a b, less a b = true → less b a = false)
    (negTrans : ∀ a b c, less b a = false → less c b = false → less c a = false) :
    (sort less items).Pairwise fun a b => less b a = false

/-- A sort with the contract of `std::sort`. -/
@[reducible] def StdSort.insertion : StdSort where
  sort less items := items.insertionSort fun a b => less b a = false
  perm less items := List.perm_insertionSort _ items
  sorted less items asymm negTrans := by
    have total : Std.Total fun a b => less b a = false := ⟨fun a b => by
      by_cases first : less b a = true
      · exact .inr (asymm b a first)
      · exact .inl (by simpa using first)⟩
    have trans : IsTrans _ fun a b => less b a = false := ⟨negTrans⟩
    exact List.pairwise_insertionSort _ items

inductive JournalAppendDecision where
  | ok | duplicateEvent | full
  deriving DecidableEq, Repr

structure CompactionPolicy where
  ackedRetentionCount : UInt32 := 5
  rejectedRetentionCount : UInt32 := 5
  conflictRetentionCount : UInt32 := 5
  humanReviewRetentionCount : UInt32 := 5

abbrev Records := KeyedLog.Table Bytes JournalRecord

/-- `frame_sizes_` is written and never read; it is left out. -/
structure EventJournalIndex where
  capacityBytes : UInt32
  usedBytes : UInt32 := 0
  records : Records := ∅

namespace EventJournalIndex

def find (index : EventJournalIndex) (eventId : Bytes) : Option JournalRecord :=
  index.records[eventId]?

def hasEvent (index : EventJournalIndex) (eventId : Bytes) : Bool := index.records.contains eventId

def recordCount (index : EventJournalIndex) : UInt32 := UInt32.ofNat index.records.size

def applyScannedFrame (index : EventJournalIndex) (bodyJson : Bytes) (frameSize : UInt32) :
    EventJournalIndex :=
  let index := { index with usedBytes := index.usedBytes + frameSize }
  match journalBodyKind bodyJson with
  | .event =>
    match decodeJournalEvent bodyJson with
    | none => index
    | some r =>
      -- first-seen wins on a duplicate event_id in the log itself
      if index.hasEvent r.eventId then index
      else { index with records := index.records.insert r.eventId r }
  | .transition =>
    match decodeJournalTransition bodyJson with
    | none => index
    | some t => { index with records := index.records.modify t.eventId (·.transition t) }
  | .unknown => index

def decideAppend (index : EventJournalIndex) (eventId : Bytes) (frameSize : UInt32) :
    JournalAppendDecision :=
  if index.hasEvent eventId then .duplicateEvent
  else if index.usedBytes + frameSize > index.capacityBytes then .full
  else .ok

def recordAppendedEvent (index : EventJournalIndex) (r : JournalRecord) (frameSize : UInt32) :
    EventJournalIndex :=
  { index with
    records := index.records.insert r.eventId r, usedBytes := index.usedBytes + frameSize }

def recordAppendedTransition (index : EventJournalIndex) (t : JournalTransition)
    (frameSize : UInt32) :
    EventJournalIndex :=
  { index with
    records := index.records.modify t.eventId (·.transition t)
    usedBytes := index.usedBytes + frameSize }

/-- `PENDING` or `IN_FLIGHT`. -/
def isLive (status : JournalSyncStatus) : Bool := status = .pending || status = .inFlight

def isTerminal (status : JournalSyncStatus) : Bool :=
  status = .acked || status = .rejected || status = .conflict || status = .humanReview

section Sorting
variable [StdSort]

def pendingInDeviceSeqOrder (index : EventJournalIndex) : List JournalRecord :=
  StdSort.sort (fun a b => decide (a.deviceSeq < b.deviceSeq))
    (index.records.toList.map Prod.snd |>.filter fun r => isLive r.syncStatus)

/-- `collect_and_trim`: the most recently created ids of one status. -/
def collectAndTrim (index : EventJournalIndex) (status : JournalSyncStatus) (retention : UInt32) :
    List Bytes :=
  let bucket := (index.records.toList.filter fun kv => kv.2.syncStatus = status).map
    fun kv => (kv.2.createdUptimeMs, kv.1)
  ((StdSort.sort (fun a b => decide (a.1 > b.1)) bucket).take retention.toNat).map Prod.snd

def selectRecordsToKeep (index : EventJournalIndex) (policy : CompactionPolicy) : List Bytes :=
  (index.records.toList.filter fun kv => !isTerminal kv.2.syncStatus).map Prod.fst ++
    index.collectAndTrim .acked policy.ackedRetentionCount ++
    index.collectAndTrim .rejected policy.rejectedRetentionCount ++
    index.collectAndTrim .conflict policy.conflictRetentionCount ++
    index.collectAndTrim .humanReview policy.humanReviewRetentionCount

end Sorting

/-- One round of the loop of `rebuild_after_compaction`. -/
def keepRecord (records : Records) (kept : Records × UInt32) (id : Bytes) : Records × UInt32 :=
  match records[id]? with
  | none => kept
  | some r => (kept.1.insert id r, kept.2 + frameSizeOf (encodeJournalEvent r))

def rebuildAfterCompaction (index : EventJournalIndex) (keepEventIds : List Bytes) :
    EventJournalIndex :=
  let kept := keepEventIds.foldl (keepRecord index.records) (∅, 0)
  { index with records := kept.1, usedBytes := kept.2 }

theorem isTerminal_eq (status : JournalSyncStatus) : isTerminal status = !isLive status := by
  cases status <;> rfl

section Selected
variable [StdSort] {index : EventJournalIndex}

private theorem known_of_collect (member : eventId ∈ index.collectAndTrim status retention) :
    ∃ r, index.records[eventId]? = some r := by
  obtain ⟨entry, inside, rfl⟩ := List.mem_map.mp member
  have listed := (StdSort.perm _ _).mem_iff.mp (List.mem_of_mem_take inside)
  obtain ⟨kv, filtered, rfl⟩ := List.mem_map.mp listed
  have stored := (List.mem_filter.mp filtered).1
  exact ⟨kv.2, Std.ExtTreeMap.mem_toList_iff_getElem?_eq_some.mp stored⟩

/-- Only ids of the index are kept. -/
theorem known_of_select (member : eventId ∈ index.selectRecordsToKeep policy) :
    ∃ r, index.records[eventId]? = some r := by
  simp only [selectRecordsToKeep, List.mem_append] at member
  rcases member with (((live | acked) | rejected) | conflict) | human
  · obtain ⟨kv, filtered, rfl⟩ := List.mem_map.mp live
    exact ⟨kv.2, Std.ExtTreeMap.mem_toList_iff_getElem?_eq_some.mp (List.mem_filter.mp filtered).1⟩
  · exact known_of_collect acked
  · exact known_of_collect rejected
  · exact known_of_collect conflict
  · exact known_of_collect human

/-- Every record that is not terminal is kept. -/
theorem select_of_live (known : index.records[eventId]? = some r)
    (live : isTerminal r.syncStatus = false) :
    eventId ∈ index.selectRecordsToKeep policy := by
  simp only [selectRecordsToKeep, List.mem_append]
  refine .inl (.inl
    (.inl (.inl (List.mem_map.mpr ⟨(eventId, r), List.mem_filter.mpr ⟨?_, ?_⟩, rfl⟩))))
  · exact Std.ExtTreeMap.mem_toList_iff_getElem?_eq_some.mpr known
  · simp [live]

end Selected

end EventJournalIndex

/-! The index as the table of a keyed log. -/

abbrev JournalEntry := KeyedLog.Entry Bytes JournalRecord JournalTransition

/-- What a body says, to the index. -/
def entryOf (bodyJson : Bytes) : JournalEntry :=
  match journalBodyKind bodyJson with
  | .event =>
    match decodeJournalEvent bodyJson with
    | none => .skip
    | some r => .create r.eventId r
  | .transition =>
    match decodeJournalTransition bodyJson with
    | none => .skip
    | some t => .change t.eventId t
  | .unknown => .skip

/-- The records a log of bodies stands for. -/
def replayBodies (bodies : List Bytes) : Records :=
  KeyedLog.replay JournalRecord.transition (bodies.map entryOf)

def usedBytesOf (bodies : List Bytes) : UInt32 :=
  bodies.foldl (fun used body => used + frameSizeOf body) 0

namespace EventJournalIndex

theorem applyScannedFrame_eq (index : EventJournalIndex) (bodyJson : Bytes) (frameSize : UInt32) :
    index.applyScannedFrame bodyJson frameSize =
      { index with
        usedBytes := index.usedBytes + frameSize
        records := KeyedLog.apply JournalRecord.transition index.records (entryOf bodyJson) } := by
  unfold applyScannedFrame entryOf
  cases journalBodyKind bodyJson with
  | event =>
    cases decodeJournalEvent bodyJson with
    | none => rfl
    | some r =>
      cases known : index.records.contains r.eventId <;> simp [KeyedLog.apply, hasEvent, known]
  | transition =>
    cases decodeJournalTransition bodyJson with
    | none => rfl
    | some t => rfl
  | unknown => rfl

end EventJournalIndex

theorem entryOf_event (r : JournalRecord) :
    entryOf (encodeJournalEvent r) =
      if r.Decodable then .create (sanitize r.eventId) r.stored else .skip := by
  rw [entryOf, bodyKind_event, decodeJournalEvent_encode]
  by_cases decodable : r.Decodable
  · simp [decodable, JournalRecord.stored]
  · simp [decodable]

theorem entryOf_transition (t : JournalTransition) :
    entryOf (encodeJournalTransition t) =
      if t.eventId ≠ [] then .change (sanitize t.eventId) t.stored else .skip := by
  rw [entryOf, bodyKind_transition, decodeJournalTransition_encode]
  by_cases empty : t.eventId = []
  · simp [empty]
  · simp [empty, JournalTransition.stored]

@[simp] theorem replayBodies_nil : replayBodies [] = ∅ := rfl

@[simp] theorem replayBodies_append (bodies : List Bytes) (body : Bytes) :
    replayBodies (bodies ++ [body]) =
      KeyedLog.apply JournalRecord.transition (replayBodies bodies) (entryOf body) := by
  simp [replayBodies]

@[simp] theorem usedBytesOf_append (bodies : List Bytes) (body : Bytes) :
    usedBytesOf (bodies ++ [body]) = usedBytesOf bodies + frameSizeOf body := by
  simp [usedBytesOf]

end Kiosk.Protocol
