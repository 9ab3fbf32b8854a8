import Kiosk.Storage.JournalMirror

/-! What the operations of the journal do to its index, whatever the medium does. -/
namespace Kiosk.Storage

open Library Protocol EventJournalIndex

/-- Every record stands under its own id. -/
def Filed (index : EventJournalIndex) : Prop :=
  ∀ (id : Bytes) (r : JournalRecord), index.records[id]? = some r → r.eventId = id

namespace Filed

variable {index : EventJournalIndex}

theorem event (filed : Filed index) (record : JournalRecord) (size : UInt32) :
    Filed (index.recordAppendedEvent record size) := by
  intro id r found
  rw [recordAppendedEvent, KeyedLog.lookup_insert] at found
  split at found
  · rename_i same
    cases found
    exact same
  · exact filed id r found

theorem transition (filed : Filed index) (t : JournalTransition) (size : UInt32) :
    Filed (index.recordAppendedTransition t size) := by
  intro id r found
  rw [recordAppendedTransition, KeyedLog.lookup_modify] at found
  split at found
  · obtain ⟨before, here, rfl⟩ := Option.map_eq_some_iff.mp found
    exact filed id before here
  · exact filed id r found

theorem rebuilt (filed : Filed index) (keep : List Bytes) :
    Filed (index.rebuildAfterCompaction keep) := by
  intro id r found
  rw [lookup_rebuild] at found
  split at found
  · exact filed id r found
  · cases found

theorem scanned (filed : Filed index) (bodyJson : Bytes) (size : UInt32) :
    Filed (index.applyScannedFrame bodyJson size) := by
  intro id r found
  unfold applyScannedFrame at found
  simp only at found
  split at found
  · split at found
    · exact filed id r found
    split at found
    · exact filed id r found
    · rw [KeyedLog.lookup_insert] at found
      split at found
      · rename_i same
        cases found
        exact same
      · exact filed id r found
  · split at found
    · exact filed id r found
    · rw [KeyedLog.lookup_modify] at found
      split at found
      · obtain ⟨before, here, rfl⟩ := Option.map_eq_some_iff.mp found
        exact filed id before here
      · exact filed id r found
  · exact filed id r found

theorem init (fs : Spiffs) (capacityBytes : UInt32) :
    Filed (EventJournal.init fs capacityBytes).index := by
  have empty (capacityBytes : UInt32) : Filed { capacityBytes := capacityBytes } := by
    intro id r found
    simp at found
  have scan (frames : List JournalScanFrame) (start : EventJournalIndex) (filed : Filed start) :
      Filed (frames.foldl EventJournal.recoverFrame start) := by
    induction frames generalizing start with
    | nil => exact filed
    | cons frame rest ih =>
      refine ih _ ?_
      unfold EventJournal.recoverFrame
      split
      · exact filed.scanned _ _
      · exact filed
  unfold EventJournal.init
  split
  · exact empty 0
  · exact scan _ _ (empty capacityBytes)

/-- The ids of the pending records are distinct. -/
theorem pending_nodup [StdSort] (filed : Filed index) :
    (index.pendingInDeviceSeqOrder.map JournalRecord.eventId).Nodup := by
  have keys : (index.records.toList.map Prod.fst).Nodup := by
    rw [Std.ExtTreeMap.map_fst_toList_eq_keys]
    exact Std.ExtTreeMap.nodup_keys
  have ids : (index.records.toList.map Prod.snd).map JournalRecord.eventId =
      index.records.toList.map Prod.fst := by
    rw [List.map_map]
    refine List.map_congr_left fun entry member => ?_
    exact filed entry.1 entry.2 (Std.ExtTreeMap.mem_toList_iff_getElem?_eq_some.mp member)
  have sorted := (StdSort.perm (fun a b : JournalRecord => decide (a.deviceSeq < b.deviceSeq))
    (index.records.toList.map Prod.snd |>.filter fun r => isLive r.syncStatus)).map
      JournalRecord.eventId
  refine sorted.nodup_iff.mpr ?_
  rw [← ids] at keys
  exact keys.sublist (List.filter_sublist.map _)

end Filed

namespace EventJournal

theorem appendEvent_index (j : EventJournal) (record : JournalRecord) :
    (j.appendEvent record).2 = false ∧ (j.appendEvent record).1.index = j.index ∨
      (j.appendEvent record).2 = true ∧ j.index.records[record.eventId]? = none ∧
        ∃ size, (j.appendEvent record).1.index = j.index.recordAppendedEvent record size := by
  have outcome := appendEvent_outcome j record
  generalize j.appendEvent record = result at outcome
  cases outcome with
  | refused _ => exact .inl ⟨rfl, rfl⟩
  | cut _ _ => exact .inl ⟨rfl, rfl⟩
  | written guarded _ => exact .inr ⟨rfl, decideAppend_ok guarded.2, _, rfl⟩

theorem appendTransition_index (j : EventJournal) (transition : JournalTransition) :
    (j.appendTransition transition).1.index = j.index ∨
      ∃ size, (j.appendTransition transition).1.index =
        j.index.recordAppendedTransition transition size := by
  have outcome := appendTransition_outcome j transition
  generalize j.appendTransition transition = result at outcome
  cases outcome with
  | refused _ => exact .inl rfl
  | cut _ _ => exact .inl rfl
  | written _ _ => exact .inr ⟨_, rfl⟩

private theorem finishCompaction_index (j : EventJournal) (keep : List Bytes) :
    (j.finishCompaction keep).1.index = j.index ∨
      (j.finishCompaction keep).1.index = j.index.rebuildAfterCompaction keep := by
  unfold finishCompaction
  simp only
  split
  · exact .inl rfl
  -- the live file may or may not be there to be moved aside
  split <;>
    (split
     · exact .inl rfl
     split
     · exact .inl rfl
     · exact .inr rfl)

theorem compactTick_index (j : EventJournal) :
    j.compactTick.index = j.index ∨
      j.compactTick.index = j.index.rebuildAfterCompaction j.compactionKeep := by
  unfold compactTick
  split
  · exact .inl rfl
  simp only
  split
  · exact .inl rfl
  · split
    · exact .inl rfl
    · exact finishCompaction_index _ _

/-- What a call of an incremental compaction does to the index. -/
theorem incremental_index [StdSort] (j : EventJournal) (medium : Medium) {call : JournalCall}
    (incremental : (∃ policy, call = .beginCompaction policy) ∨ call = .compactTick) :
    (j.call medium call).1.index = j.index ∨
      ∃ keep, (j.call medium call).1.index = j.index.rebuildAfterCompaction keep := by
  rcases incremental with ⟨policy, rfl⟩ | rfl
  · refine .inl ?_
    simp only [EventJournal.call, beginCompaction]
    split
    · rfl
    · split <;> rfl
  · rcases compactTick_index (j.on medium) with same | rebuilt
    · exact .inl same
    · exact .inr ⟨_, rebuilt⟩

theorem filed_appendEvent {j : EventJournal} (filed : Filed j.index) (record : JournalRecord) :
    Filed (j.appendEvent record).1.index := by
  rcases appendEvent_index j record with ⟨_, same⟩ | ⟨_, _, size, recorded⟩
  · exact same ▸ filed
  · exact recorded ▸ filed.event record size

theorem filed_appendTransition {j : EventJournal} (filed : Filed j.index)
    (transition : JournalTransition) :
    Filed (j.appendTransition transition).1.index := by
  rcases appendTransition_index j transition with same | ⟨size, recorded⟩
  · exact same ▸ filed
  · exact recorded ▸ filed.transition transition size

end EventJournal

end Kiosk.Storage
