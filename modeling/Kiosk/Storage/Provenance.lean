import Kiosk.Storage.Fidelity

/-! Where the statuses in a journal come from. Whatever a compaction or a boot makes of
the log, a status the index shows is one that some frame was written with; so what holds
of every status at the time it is written holds of every status that is ever read. -/
namespace Kiosk.Storage

open Library Protocol

section Grounds
variable (ground : Bytes → JournalSyncStatus → Prop)

/-- A body whose status had grounds. -/
inductive GroundedBody : Bytes → Prop where
  | event (record : JournalRecord) (clean : Clean record.eventId)
      (grounds : ground record.eventId record.syncStatus) :
      GroundedBody (encodeJournalEvent record)
  | transition (transition : JournalTransition) (clean : Clean transition.eventId)
      (grounds : ground transition.eventId transition.syncStatus) :
      GroundedBody (encodeJournalTransition transition)

/-- A file of whole frames, each with grounds. -/
def GroundedFile (content : Bytes) : Prop :=
  ∃ bodies, content = framesOf bodies ∧ ∀ body ∈ bodies,
    body.length < 2 ^ 32 ∧ GroundedBody ground body

def GroundedRecords (records : Records) : Prop :=
  ∀ (id : Bytes) (r : JournalRecord), records[id]? = some r →
    r.eventId = id ∧ Clean id ∧ ground id r.syncStatus

structure Grounded (j : EventJournal) : Prop where
  log : GroundedFile ground (j.fs.contentOf .dat)
  index : GroundedRecords ground j.index.records
  noOld : j.fs.files .old = none
  temp : j.compactionActive = true → GroundedFile ground (j.fs.contentOf .tmp)

end Grounds

section Bodies
variable {ground : Bytes → JournalSyncStatus → Prop} {records : Records}

theorem GroundedBody.mono {more : Bytes → JournalSyncStatus → Prop}
    (grounded : GroundedBody ground body)
    (wider : ∀ id status, ground id status → more id status) : GroundedBody more body := by
  cases grounded with
  | event record clean grounds => exact .event record clean (wider _ _ grounds)
  | transition transition clean grounds => exact .transition transition clean (wider _ _ grounds)

theorem GroundedFile.mono {more : Bytes → JournalSyncStatus → Prop}
    (grounded : GroundedFile ground content)
    (wider : ∀ id status, ground id status → more id status) : GroundedFile more content := by
  obtain ⟨bodies, frames, all⟩ := grounded
  exact ⟨bodies, frames, fun body member => ⟨(all body member).1, (all body member).2.mono wider⟩⟩

theorem GroundedFile.empty : GroundedFile ground [] := ⟨[], rfl, by simp⟩

theorem GroundedFile.append (first : GroundedFile ground front)
    (second : GroundedFile ground back) :
    GroundedFile ground (front ++ back) := by
  obtain ⟨early, framed, fine⟩ := first
  obtain ⟨late, framedLate, fineLate⟩ := second
  refine ⟨early ++ late, by rw [framed, framedLate, framesOf_append], fun body member => ?_⟩
  rcases List.mem_append.mp member with earlier | later
  · exact fine body earlier
  · exact fineLate body later

theorem GroundedFile.frame (small : body.length < 2 ^ 32) (grounded : GroundedBody ground body) :
    GroundedFile ground (frameOf body) :=
  ⟨[body], by simp [framesOf], by simpa using ⟨small, grounded⟩⟩

theorem GroundedRecords.insert (grounded : GroundedRecords ground records)
    (clean : Clean record.eventId) (grounds : ground record.eventId record.syncStatus) :
    GroundedRecords ground (records.insert record.eventId record) := by
  intro id r found
  rw [KeyedLog.lookup_insert] at found
  split at found
  · rename_i same
    cases found
    exact ⟨same, same ▸ clean, same ▸ grounds⟩
  · exact grounded id r found

theorem GroundedRecords.modify (grounded : GroundedRecords ground records) (t : JournalTransition)
    (grounds : ground t.eventId t.syncStatus) :
    GroundedRecords ground (records.modify t.eventId (·.transition t)) := by
  intro id r found
  rw [KeyedLog.lookup_modify] at found
  split at found
  · rename_i same
    obtain ⟨before, here, rfl⟩ := Option.map_eq_some_iff.mp found
    obtain ⟨filed, clean, _⟩ := grounded id before here
    exact ⟨filed, clean, same ▸ grounds⟩
  · exact grounded id r found

/-- One frame of the recovery. -/
private theorem GroundedRecords.apply (grounded : GroundedRecords ground records)
    (body : GroundedBody ground bodyJson) :
    GroundedRecords ground
      (KeyedLog.apply JournalRecord.transition records (entryOf bodyJson)) := by
  cases body with
  | event record clean grounds =>
    rw [entryOf_event]
    split
    · rw [sanitize_clean clean, KeyedLog.apply]
      split
      · exact grounded
      · have stored : record.stored.eventId = record.eventId := sanitize_clean clean
        have known : ground record.stored.eventId record.stored.syncStatus := by
          rw [stored]
          exact grounds
        have inserted := grounded.insert (stored ▸ clean) known
        rwa [stored] at inserted
    · exact grounded
  | transition transition clean grounds =>
    rw [entryOf_transition]
    split
    · rw [sanitize_clean clean]
      have stored : transition.stored.eventId = transition.eventId := sanitize_clean clean
      have changed := grounded.modify transition.stored (by rw [stored]; exact grounds)
      rwa [stored] at changed
    · exact grounded

theorem groundedRecords_replay (all : ∀ body ∈ bodies, GroundedBody ground body) :
    GroundedRecords ground (replayBodies bodies) := by
  induction bodies using List.reverseRecOn with
  | nil => exact fun id r known => by simp at known
  | append_singleton bodies body ih =>
    rw [replayBodies_append]
    exact (ih fun other member => all other (by simp [member])).apply (all body (by simp))

theorem GroundedRecords.rebuild {index : EventJournalIndex}
    (grounded : GroundedRecords ground index.records)
    (keep : List Bytes) : GroundedRecords ground (index.rebuildAfterCompaction keep).records := by
  intro id r found
  rw [lookup_rebuild] at found
  split at found
  · exact grounded id r found
  · cases found

end Bodies

namespace Grounded
open EventJournal
variable {ground : Bytes → JournalSyncStatus → Prop} {j : EventJournal}

theorem mono {more : Bytes → JournalSyncStatus → Prop} (grounded : Grounded ground j)
    (wider : ∀ id status, ground id status → more id status) : Grounded more j where
  log := grounded.log.mono wider
  index id r found := by
    obtain ⟨filed, clean, grounds⟩ := grounded.index id r found
    exact ⟨filed, clean, wider id r.syncStatus grounds⟩
  noOld := grounded.noOld
  temp active := (grounded.temp active).mono wider

theorem on (grounded : Grounded ground j) (medium : Medium) : Grounded ground (j.on medium) :=
  ⟨grounded.log, grounded.index, grounded.noOld, grounded.temp⟩

theorem start (capacityBytes : UInt32) : Grounded ground (fresh capacityBytes) := by
  have booted := init_index {} capacityBytes [] [] rfl rfl rfl rfl (by simp) (.inl rfl)
  refine ⟨.empty, ?_, rfl, ?_⟩
  · rw [fresh, booted.1]
    exact fun id r known => by simp at known
  · intro active
    simp [fresh, init] at active

/-- What is appended to the log leaves the other files alone. -/
private theorem appended {index : EventJournalIndex} (grounded : Grounded ground j)
    (appends : Spiffs.Appends j.fs after .dat (frameOf bodyJson) true)
    (body : GroundedBody ground bodyJson) (records : GroundedRecords ground index.records) :
    Grounded ground { j with fs := after, index := index } where
  log := by
    have log : after.contentOf .dat = j.fs.contentOf .dat ++ frameOf bodyJson := appends.whole
    exact log ▸ grounded.log.append (.frame appends.small body)
  index := records
  noOld := (appends.others .old (by decide)).trans grounded.noOld
  temp active := by
    have same : after.contentOf .tmp = j.fs.contentOf .tmp := by
      rw [Spiffs.contentOf, appends.others .tmp (by decide), Spiffs.contentOf]
    rw [same]
    exact grounded.temp active

theorem appendEvent (grounded : Grounded ground j) (clean : Clean record.eventId)
    (grounds : ground record.eventId record.syncStatus)
    (healthy : (j.appendEvent record).1.fs.failed = false) :
    Grounded ground (j.appendEvent record).1 := by
  have outcome := appendEvent_outcome j record
  generalize j.appendEvent record = result at outcome healthy
  cases outcome with
  | refused unguarded => exact grounded
  | cut guarded appends => exact absurd (appends.succeeds healthy) (by simp)
  | written guarded appends =>
    exact grounded.appended appends (.event record clean grounds)
      (grounded.index.insert clean grounds)

theorem appendTransition (grounded : Grounded ground j)
    (grounds : ground transition.eventId transition.syncStatus)
    (healthy : (j.appendTransition transition).1.fs.failed = false) :
    Grounded ground (j.appendTransition transition).1 := by
  have outcome := appendTransition_outcome j transition
  generalize j.appendTransition transition = result at outcome healthy
  cases outcome with
  | refused unguarded => exact grounded
  | cut guarded appends => exact absurd (appends.succeeds healthy) (by simp)
  | written guarded appends =>
    obtain ⟨record, known⟩ := hasEvent_some guarded.2
    have clean : Clean transition.eventId := (grounded.index _ _ known).2.1
    exact grounded.appended appends (.transition transition clean grounds)
      (grounded.index.modify transition grounds)

/-- Records written for a list of ids carry the statuses of the index. -/
private theorem written (grounded : Grounded ground j) (ids : List Bytes)
    (small : ∀ r ∈ recordsOf j.index ids, (encodeJournalEvent r).length < 2 ^ 32) :
    GroundedFile ground (framesOf ((recordsOf j.index ids).map encodeJournalEvent)) := by
  refine ⟨_, rfl, fun body member => ?_⟩
  obtain ⟨r, inside, rfl⟩ := List.mem_map.mp member
  obtain ⟨id, _, found⟩ := mem_recordsOf.mp inside
  obtain ⟨filed, clean, grounds⟩ := grounded.index id r found
  exact ⟨small r inside, .event r (filed ▸ clean) (filed ▸ grounds)⟩

theorem beginCompaction [StdSort] (grounded : Grounded ground j) (policy : CompactionPolicy) :
    Grounded ground (j.beginCompaction policy).1 := by
  unfold EventJournal.beginCompaction
  split
  · exact grounded
  rename_i idle
  have inactive : j.compactionActive = false := by
    cases active : j.compactionActive with
    | false => rfl
    | true => simp [active] at idle
  simp only
  split
  · exact ⟨grounded.log, grounded.index, grounded.noOld, fun active => by simp [inactive] at active⟩
  · refine ⟨?_, grounded.index, ?_, fun _ => ?_⟩
    · simpa [Spiffs.contentOf, Spiffs.remove] using grounded.log
    · simpa [Spiffs.remove] using grounded.noOld
    · simpa [Spiffs.contentOf, Spiffs.remove] using GroundedFile.empty

theorem compactTick (grounded : Grounded ground j) : Grounded ground j.compactTick := by
  unfold EventJournal.compactTick
  split
  · exact grounded
  rename_i running
  have temp := grounded.temp (by simpa using running)
  have untouched :
      ∀ other, other ≠ .tmp → (writeChunk j.index j.fs j.compactionWriteIndex j.compactionWriteIndex
      ((j.compactionKeep.drop j.compactionWriteIndex).take kCompactionRecordsPerTick)).1.files
          other =
        j.fs.files other :=
    fun other different => writeChunk_others _ _ _ _ _ different
  simp only
  split
  · rename_i after cursor result
    rw [result] at untouched
    have dat : after.files .dat = j.fs.files .dat := untouched .dat (by decide)
    have old : after.files .old = j.fs.files .old := untouched .old (by decide)
    refine ⟨?_, grounded.index, ?_, by simp⟩
    · simpa [Spiffs.contentOf, Spiffs.remove, dat] using grounded.log
    · simpa [Spiffs.remove, old] using grounded.noOld
  · rename_i after cursor result
    rw [result] at untouched
    have dat : after.contentOf .dat = j.fs.contentOf .dat := by
      rw [Spiffs.contentOf, untouched .dat (by decide), Spiffs.contentOf]
    have old : after.files .old = none := (untouched .old (by decide)).trans grounded.noOld
    obtain ⟨_, content, small, _⟩ :=
      writeChunk_written (fun id r found => (grounded.index id r found).1) _ _ _ _ le_rfl result
    have chunk : GroundedFile ground (after.contentOf .tmp) := by
      rw [content]
      exact temp.append (grounded.written _ small)
    split
    · exact ⟨dat ▸ grounded.log, grounded.index, old, fun _ => chunk⟩
    · have outcome := finishCompaction_outcome
        { j with fs := after, compactionWriteIndex := cursor } j.compactionKeep old
      generalize ({ j with fs := after, compactionWriteIndex := cursor } :
        EventJournal).finishCompaction j.compactionKeep = result at outcome
      cases outcome with
      | kept live noOld => exact ⟨live.trans dat ▸ grounded.log, grounded.index, noOld, by simp⟩
      | swapped live noOld _ => exact ⟨live ▸ chunk, grounded.index.rebuild _, noOld, by simp⟩

/-- The next boot reads the same frames. -/
theorem reboot (grounded : Grounded ground j) : Grounded ground j.reboot := by
  obtain ⟨bodies, log, all⟩ := grounded.log
  obtain ⟨index, files, _⟩ :=
    init_index { files := j.fs.files } j.index.capacityBytes bodies [] rfl rfl grounded.noOld
    (log.trans (List.append_nil _).symm) (fun body member => (all body member).1) (.inl rfl)
  obtain ⟨dat, old, _⟩ := recoverOrphans_noOld { files := j.fs.files } grounded.noOld
  refine ⟨?_, ?_, ?_, ?_⟩
  · rw [EventJournal.reboot, files, dat]
    exact grounded.log
  · rw [EventJournal.reboot, index]
    exact groundedRecords_replay fun body member => (all body member).2
  · rw [EventJournal.reboot, files, old]
  · intro active
    simp [EventJournal.reboot, init] at active

end Grounded

end Kiosk.Storage
