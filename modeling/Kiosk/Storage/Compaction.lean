import Kiosk.Storage.Recovery

/-! Incremental compaction among appends. The keep list is fixed when a compaction
begins and the temp file holds records as they were when their chunk was written:
what the journal takes in between is only safe under `Preserves`. -/
namespace Kiosk.Storage

open Library Protocol TransitionSystem EventJournalIndex

/-- A journal with the last status appended for each event. -/
structure JournalTrace where
  journal : EventJournal
  last : Bytes → Option JournalSyncStatus

/-- What a successful append adds to the history. -/
def noteAppend (last : Bytes → Option JournalSyncStatus) :
    JournalCall → Bytes → Option JournalSyncStatus
  | .appendEvent record => Function.update last record.eventId (some record.syncStatus)
  | .appendTransition transition =>
    Function.update last transition.eventId (some transition.syncStatus)
  | .compact _ => last
  | .beginCompaction _ => last
  | .compactTick => last

namespace JournalTrace

/-- A boot: the history so far is what the recovered index says. -/
def boot (fs : Spiffs) (capacityBytes : UInt32) : JournalTrace where
  journal := EventJournal.init fs capacityBytes
  last eventId :=
    ((EventJournal.init fs capacityBytes).index.find eventId).map JournalRecord.syncStatus

def step [StdSort] (trace : JournalTrace) (input : Medium × JournalCall) : JournalTrace :=
  let result := trace.journal.call input.1 input.2
  { journal := result.1, last := if result.2 then noteAppend trace.last input.2 else trace.last }

end JournalTrace

namespace EventJournal

/-- The calls of an incremental compaction and the appends among them. -/
def Incremental : JournalCall → Prop
  | .compact _ => False
  | _ => True

instance (call : JournalCall) : Decidable (Incremental call) := by
  cases call <;> (simp only [Incremental]; infer_instance)

/-- What a call may do to a journal without the swap losing it. An event has to be
readable by the recovery. While a compaction is active a new event may only come
in with a terminal status, a record already written to the temp file may not
change its status, and one that is not kept may not become live. -/
def Preserves (j : EventJournal) : JournalCall → Prop
  | .appendEvent record =>
    j.AcceptsEvent record → record.Decodable ∧ Clean record.eventId ∧
      (j.compactionActive = true → isTerminal record.syncStatus = true)
  | .appendTransition transition =>
    j.compactionActive = true →
      (transition.eventId ∈ j.compactionKeep.take j.compactionWriteIndex →
        some transition.syncStatus =
          (j.index.find transition.eventId).map JournalRecord.syncStatus) ∧
      (transition.eventId ∉ j.compactionKeep → isTerminal transition.syncStatus = true)
  | _ => True

instance (j : EventJournal) (record : JournalRecord) : Decidable (j.AcceptsEvent record) :=
  inferInstanceAs (Decidable (_ ∧ _))

instance (j : EventJournal) : (call : JournalCall) → Decidable (j.Preserves call)
  | .appendEvent record => inferInstanceAs (Decidable (j.AcceptsEvent record → _ ∧ _ ∧ (_ → _)))
  | .appendTransition _ => inferInstanceAs (Decidable (_ → (_ → _) ∧ (_ → _)))
  | .compact _ | .beginCompaction _ | .compactTick => inferInstanceAs (Decidable True)

/-- A body that one of the two encoders wrote. -/
inductive Encoded : Bytes → Prop where
  | event (record : JournalRecord) : Encoded (encodeJournalEvent record)
  | transition (transition : JournalTransition) : Encoded (encodeJournalTransition transition)

/-- Where an active compaction stands. -/
structure Compacting (j : EventJournal) : Prop where
  known : ∀ id ∈ j.compactionKeep, ∃ r, j.index.records[id]? = some r
  unkept : ∀ (id : Bytes) (r : JournalRecord), j.index.records[id]? = some r →
      id ∉ j.compactionKeep →
    isTerminal r.syncStatus = true
  temp : ∃ written : List JournalRecord,
    j.fs.contentOf .tmp = framesOf (written.map encodeJournalEvent) ∧
      written.map JournalRecord.eventId = j.compactionKeep.take j.compactionWriteIndex ∧
      ∀ r ∈ written, (r.Decodable ∧ Clean r.eventId) ∧ (encodeJournalEvent r).length < 2 ^ 32 ∧
        (j.index.records[r.eventId]?).map JournalRecord.syncStatus = some r.syncStatus

/-- The log, the index and the history agree on statuses. -/
structure Faithful (j : EventJournal) (last : Bytes → Option JournalSyncStatus) : Prop where
  log : ∃ bodies, j.fs.contentOf .dat = framesOf bodies ∧ Mirrors statusOnly bodies j.index.records
  keyed : Keyed j.index.records
  noOld : j.fs.files .old = none
  current : ∀ (id : Bytes) (r : JournalRecord), j.index.records[id]? = some r →
    last id = some r.syncStatus
  live : ∀ (id : Bytes) (status : JournalSyncStatus), last id = some status → isLive status = true →
    ∃ r, j.index.records[id]? = some r
  compacting : j.compactionActive = true → Compacting j

private theorem keyed_apply {records : Records} (keyed : Keyed records) (encoded : Encoded body) :
    Keyed (KeyedLog.apply JournalRecord.transition records (entryOf body)) := by
  cases encoded with
  | event r =>
    rw [entryOf_event]
    split
    · rename_i decodable
      have stored : r.stored.Decodable := by
        refine ⟨decodable.1, ?_, ?_⟩
        · exact fun empty => decodable.2.1 ((sanitize_eq_nil _).mp empty)
        · exact fun empty => decodable.2.2 ((sanitize_eq_nil _).mp empty)
      rw [KeyedLog.apply]
      split
      · exact keyed
      · exact keyed.event (r := r.stored) stored (clean_sanitize _)
    · exact keyed
  | transition t =>
    rw [entryOf_transition]
    split
    · exact keyed.transition t.stored
    · exact keyed

theorem keyed_replay (encoded : ∀ body ∈ bodies, Encoded body) : Keyed (replayBodies bodies) := by
  induction bodies using List.reverseRecOn with
  | nil => exact fun id r known => by simp at known
  | append_singleton bodies body ih =>
    rw [replayBodies_append]
    exact keyed_apply (ih fun other member => encoded other (by simp [member]))
      (encoded body (by simp))

private theorem Compacting.insert (compacting : Compacting j)
    (fresh : j.index.records[record.eventId]? = none)
    (terminal : isTerminal record.syncStatus = true) (temp : after.files .tmp = j.fs.files .tmp) :
    Compacting { j with fs := after, index := j.index.recordAppendedEvent record size } where
  known id kept := by
    obtain ⟨r, found⟩ := compacting.known id kept
    have other : record.eventId ≠ id := fun same => by rw [same, found] at fresh; cases fresh
    exact ⟨r, by simp [recordAppendedEvent, KeyedLog.lookup_insert, other, found]⟩
  unkept id r found outside := by
    rw [recordAppendedEvent, KeyedLog.lookup_insert] at found
    split at found
    · cases found; exact terminal
    · exact compacting.unkept id r found outside
  temp := by
    obtain ⟨written, content, ids, all⟩ := compacting.temp
    refine ⟨written, ?_, ids, fun r member => ?_⟩
    · rw [← content, Spiffs.contentOf, temp, Spiffs.contentOf]
    · obtain ⟨readable, small, status⟩ := all r member
      have other : record.eventId ≠ r.eventId :=
        fun same => by rw [← same, fresh] at status; cases status
      exact ⟨readable, small,
        by simpa [recordAppendedEvent, KeyedLog.lookup_insert, other] using status⟩

private theorem Compacting.transition {transition : JournalTransition} {record : JournalRecord}
    (compacting : Compacting j)
    (found : j.index.records[transition.eventId]? = some record)
    (same : transition.eventId ∈ j.compactionKeep.take j.compactionWriteIndex →
      transition.syncStatus = record.syncStatus)
    (terminal : transition.eventId ∉ j.compactionKeep → isTerminal transition.syncStatus = true)
    (temp : after.files .tmp = j.fs.files .tmp) :
    Compacting { j with
      fs := after, index := j.index.recordAppendedTransition transition size } where
  known id kept := by
    obtain ⟨r, here⟩ := compacting.known id kept
    rw [recordAppendedTransition, KeyedLog.lookup_modify]
    split
    · exact ⟨_, by rw [here]; rfl⟩
    · exact ⟨r, here⟩
  unkept id r here outside := by
    rw [recordAppendedTransition, KeyedLog.lookup_modify] at here
    split at here
    · rename_i equal
      subst equal
      obtain ⟨before, _, rfl⟩ := Option.map_eq_some_iff.mp here
      exact terminal outside
    · exact compacting.unkept id r here outside
  temp := by
    obtain ⟨written, content, ids, all⟩ := compacting.temp
    refine ⟨written, ?_, ids, fun r member => ?_⟩
    · rw [← content, Spiffs.contentOf, temp, Spiffs.contentOf]
    · obtain ⟨readable, small, status⟩ := all r member
      refine ⟨readable, small, ?_⟩
      rw [recordAppendedTransition, KeyedLog.lookup_modify]
      split
      · rename_i equal
        have passed : transition.eventId ∈ j.compactionKeep.take j.compactionWriteIndex := by
          rw [equal, ← ids]
          exact List.mem_map_of_mem member
        rw [← equal, found] at status
        rw [← equal, found]
        simp only [Option.map_some, Option.some.injEq] at status ⊢
        rw [← status]
        exact same passed
      · exact status

section Steps
variable {j : EventJournal} {last : Bytes → Option JournalSyncStatus}

private theorem appendEvent_faithful (faithful : Faithful j last)
    (preserves : j.Preserves (.appendEvent record))
    (healthy : (j.appendEvent record).1.fs.failed = false) :
    Faithful (j.appendEvent record).1
      (if (j.appendEvent record).2 then noteAppend last (.appendEvent record) else last) := by
  have outcome := appendEvent_outcome j record
  generalize j.appendEvent record = result at outcome healthy
  cases outcome with
  | refused unguarded => exact faithful
  | cut guarded appended => exact absurd (appended.succeeds healthy) (by simp)
  | written guarded appended =>
    obtain ⟨bodies, log, mirrors⟩ := faithful.log
    obtain ⟨decodable, clean, terminal⟩ := preserves guarded
    have fresh := decideAppend_ok guarded.2
    refine ⟨⟨bodies ++ [encodeJournalEvent record], dat_append log appended, ?_⟩, ?_, ?_, ?_,
      ?_, ?_⟩
    · exact mirrors.event fresh decodable clean rfl appended.small
    · exact faithful.keyed.event decodable clean
    · exact (appended.others .old (by decide)).trans faithful.noOld
    · intro id r found
      rw [recordAppendedEvent, KeyedLog.lookup_insert] at found
      simp only [↓reduceIte, noteAppend]
      split at found
      · rename_i same
        cases found
        rw [same, Function.update_self]
      · rename_i other
        rw [Function.update_of_ne (Ne.symm other)]
        exact faithful.current id r found
    · intro id status noted alive
      simp only [↓reduceIte, noteAppend] at noted
      rw [recordAppendedEvent, KeyedLog.lookup_insert]
      split
      · exact ⟨record, rfl⟩
      · rename_i other
        rw [Function.update_of_ne (Ne.symm other)] at noted
        exact faithful.live id status noted alive
    · exact fun active => (faithful.compacting active).insert fresh (terminal active)
        (appended.others .tmp (by decide))

private theorem appendTransition_faithful (faithful : Faithful j last)
    (preserves : j.Preserves (.appendTransition transition))
    (healthy : (j.appendTransition transition).1.fs.failed = false) :
    Faithful (j.appendTransition transition).1
      (if (j.appendTransition transition).2 then noteAppend last (.appendTransition transition)
        else last) := by
  have outcome := appendTransition_outcome j transition
  generalize j.appendTransition transition = result at outcome healthy
  cases outcome with
  | refused unguarded => exact faithful
  | cut guarded appended => exact absurd (appended.succeeds healthy) (by simp)
  | written guarded appended =>
    obtain ⟨bodies, log, mirrors⟩ := faithful.log
    obtain ⟨record, found⟩ := hasEvent_some guarded.2
    obtain ⟨same, decodable, clean⟩ := faithful.keyed _ _ found
    rw [same] at clean
    have nonempty : transition.eventId ≠ [] := by rw [← same]; exact decodable.2.1
    refine ⟨⟨bodies ++ [encodeJournalTransition transition], dat_append log appended, ?_⟩, ?_, ?_,
      ?_, ?_, ?_⟩
    · exact mirrors.transition transition nonempty clean (fun _ => rfl) appended.small
    · exact faithful.keyed.transition transition
    · exact (appended.others .old (by decide)).trans faithful.noOld
    · intro id r here
      rw [recordAppendedTransition, KeyedLog.lookup_modify] at here
      simp only [↓reduceIte, noteAppend]
      split at here
      · rename_i equal
        obtain ⟨before, _, rfl⟩ := Option.map_eq_some_iff.mp here
        rw [equal, Function.update_self]
        rfl
      · rename_i other
        rw [Function.update_of_ne (Ne.symm other)]
        exact faithful.current id r here
    · intro id status noted alive
      simp only [↓reduceIte, noteAppend] at noted
      rw [recordAppendedTransition, KeyedLog.lookup_modify]
      split
      · rename_i equal
        exact ⟨_, by rw [← equal, found]; rfl⟩
      · rename_i other
        rw [Function.update_of_ne (Ne.symm other)] at noted
        exact faithful.live id status noted alive
    · intro active
      obtain ⟨unchanged, terminal⟩ := preserves active
      refine (faithful.compacting active).transition found (fun passed => ?_) terminal
        (appended.others .tmp (by decide))
      have status := unchanged passed
      rw [EventJournalIndex.find, found] at status
      exact Option.some.inj status

private theorem beginCompaction_faithful [StdSort] (faithful : Faithful j last)
    (policy : CompactionPolicy) :
    Faithful (j.beginCompaction policy).1 last := by
  unfold beginCompaction
  split
  · exact faithful
  rename_i idle
  have inactive : j.compactionActive = false := by
    cases active : j.compactionActive with
    | false => rfl
    | true => simp [active] at idle
  simp only
  split
  · exact ⟨faithful.log, faithful.keyed, faithful.noOld, faithful.current, faithful.live,
      fun active => by simp [inactive] at active⟩
  · refine ⟨?_, faithful.keyed, ?_, faithful.current, faithful.live,
      fun _ => ⟨?_, ?_, [], ?_, by simp, by simp⟩⟩
    · simpa [Spiffs.contentOf, Spiffs.remove] using faithful.log
    · simpa [Spiffs.remove] using faithful.noOld
    · exact fun id kept => known_of_select kept
    · intro id r found outside
      by_contra alive
      exact outside (select_of_live found (by simpa using alive))
    · simp [Spiffs.contentOf, Spiffs.remove]

/-- Giving up a compaction leaves the journal as it was. -/
private theorem Faithful.abandon (faithful : Faithful j last)
    (dat : after.contentOf .dat = j.fs.contentOf .dat)
    (old : after.files .old = none) (cursor : Nat) :
    Faithful { j with
      fs := after, compactionActive := false, compactionKeep := []
      compactionWriteIndex := cursor } last := by
  refine ⟨?_, faithful.keyed, old, faithful.current, faithful.live, by simp⟩
  obtain ⟨bodies, log, mirrors⟩ := faithful.log
  exact ⟨bodies, dat.trans log, mirrors⟩

/-- The swap of a whole temp file. -/
private theorem Faithful.swap (faithful : Faithful j last) (compacting : Compacting j)
    (done : j.compactionKeep.length ≤ j.compactionWriteIndex)
    (dat : after.contentOf .dat = j.fs.contentOf .tmp) (old : after.files .old = none) :
    Faithful { j with
      fs := after
      index := j.index.rebuildAfterCompaction j.compactionKeep
      compactionActive := false
      compactionKeep := []
      compactionWriteIndex := 0 } last := by
  obtain ⟨written, content, ids, all⟩ := compacting.temp
  rw [List.take_of_length_le done] at ids
  refine ⟨⟨_, dat.trans content, ?_⟩, faithful.keyed.rebuild _, old, ?_, ?_, by simp⟩
  · refine Mirrors.rebuild (fun r member => (all r member).1) (fun r member => (all r member).2.1)
      (fun r member => ⟨?_, (all r member).2.2⟩) fun id kept _ => ?_
    · rw [← ids]; exact List.mem_map_of_mem member
    · rw [← ids] at kept
      simpa using kept
  · intro id r found
    rw [lookup_rebuild] at found
    split at found
    · exact faithful.current id r found
    · cases found
  · intro id status noted alive
    obtain ⟨r, found⟩ := faithful.live id status noted alive
    have same : status = r.syncStatus := by simpa [noted] using faithful.current id r found
    have kept : id ∈ j.compactionKeep := by
      by_contra outside
      have terminal := compacting.unkept id r found outside
      rw [isTerminal_eq, ← same, alive] at terminal
      cases terminal
    exact ⟨r, by rw [lookup_rebuild, if_pos kept, found]⟩

/-- The records of a chunk, in the order of its ids. -/
theorem recordsOf_ids (keyed : Keyed j.index.records)
    (known : ∀ id ∈ ids, ∃ r, j.index.records[id]? = some r) :
    (recordsOf j.index ids).map JournalRecord.eventId = ids := by
  induction ids with
  | nil => rfl
  | cons id rest ih =>
    obtain ⟨r, found⟩ := known id (by simp)
    have later := ih fun other member => known other (by simp [member])
    have spelled : recordsOf j.index (id :: rest) = r :: recordsOf j.index rest := by
      simp [recordsOf, EventJournalIndex.find, found]
    rw [spelled, List.map_cons, later, (keyed id r found).1]

/-- A written chunk moves the cursor over records as they stand. -/
private theorem Compacting.chunk (compacting : Compacting j) (keyed : Keyed j.index.records)
    (result : writeChunk j.index j.fs j.compactionWriteIndex j.compactionWriteIndex
      ((j.compactionKeep.drop j.compactionWriteIndex).take kCompactionRecordsPerTick) =
        (after, cursor, true)) :
    Compacting { j with fs := after, compactionWriteIndex := cursor } := by
  have known : ∀ id ∈ (j.compactionKeep.drop j.compactionWriteIndex).take kCompactionRecordsPerTick,
      ∃ r, j.index.records[id]? = some r :=
    fun id member => compacting.known id (List.mem_of_mem_drop (List.mem_of_mem_take member))
  obtain ⟨moved, content, _, small⟩ := writeChunk_true _ _ _ _ known result
  obtain ⟨written, temp, ids, all⟩ := compacting.temp
  refine ⟨compacting.known, compacting.unkept, written ++ recordsOf j.index
    ((j.compactionKeep.drop j.compactionWriteIndex).take kCompactionRecordsPerTick), ?_, ?_, ?_⟩
  · rw [content, temp, List.map_append, framesOf_append]
  · rw [List.map_append, ids, recordsOf_ids keyed known, moved, List.take_add]
    exact congrArg _ (List.prefix_iff_eq_take.mp (List.take_prefix _ _))
  · intro r member
    rcases List.mem_append.mp member with earlier | added
    · exact all r earlier
    · obtain ⟨id, _, found⟩ := mem_recordsOf.mp added
      obtain ⟨same, readable⟩ := keyed id r found
      exact ⟨readable, small r added, by rw [same, found]; rfl⟩

private theorem compactTick_faithful (faithful : Faithful j last) :
    Faithful j.compactTick last := by
  unfold compactTick
  split
  · exact faithful
  rename_i running
  have compacting := faithful.compacting (by simpa using running)
  have dat := writeChunk_others j.index j.fs j.compactionWriteIndex j.compactionWriteIndex
    ((j.compactionKeep.drop j.compactionWriteIndex).take kCompactionRecordsPerTick)
    (show JournalPath.dat ≠ .tmp by decide)
  have old := writeChunk_others j.index j.fs j.compactionWriteIndex j.compactionWriteIndex
    ((j.compactionKeep.drop j.compactionWriteIndex).take kCompactionRecordsPerTick)
    (show JournalPath.old ≠ .tmp by decide)
  simp only
  split
  · rename_i after cursor result
    rw [result] at dat old
    refine faithful.abandon ?_ ?_ cursor
    · simp only [Spiffs.contentOf, Spiffs.remove] at dat ⊢
      simp [dat]
    · simpa [Spiffs.remove, faithful.noOld] using old
  · rename_i after cursor result
    rw [result] at dat old
    have advanced := compacting.chunk faithful.keyed result
    have still : Faithful { j with fs := after, compactionWriteIndex := cursor } last := by
      refine ⟨?_, faithful.keyed, old.trans faithful.noOld, faithful.current, faithful.live,
        fun _ => advanced⟩
      obtain ⟨bodies, log, mirrors⟩ := faithful.log
      exact ⟨bodies, by rw [← log, Spiffs.contentOf, Spiffs.contentOf, dat], mirrors⟩
    split
    · exact still
    · rename_i finished
      have outcome :=
        finishCompaction_outcome { j with fs := after, compactionWriteIndex := cursor }
        j.compactionKeep still.noOld
      generalize ({ j with fs := after, compactionWriteIndex := cursor } :
        EventJournal).finishCompaction j.compactionKeep = result at outcome
      cases outcome with
      | kept live noOld => exact still.abandon live noOld 0
      | swapped live noOld temp => exact still.swap advanced (by simpa using finished) live noOld

private theorem call_faithful [StdSort] (faithful : Faithful j last) (medium : Medium)
    (call : JournalCall) (incremental : Incremental call) (preserves : j.Preserves call)
    (healthy : (j.call medium call).1.fs.failed = false) :
    Faithful (j.call medium call).1
      (if (j.call medium call).2 then noteAppend last call else last) := by
  have awake : Faithful (j.on medium) last :=
    ⟨faithful.log, faithful.keyed, faithful.noOld, faithful.current, faithful.live,
      fun active => ⟨(faithful.compacting active).known, (faithful.compacting active).unkept,
        (faithful.compacting active).temp⟩⟩
  cases call with
  | appendEvent record => exact appendEvent_faithful awake preserves healthy
  | appendTransition transition => exact appendTransition_faithful awake preserves healthy
  | compact policy => exact incremental.elim
  | beginCompaction policy =>
    have begun := beginCompaction_faithful awake policy
    rw [EventJournal.call]
    split <;> exact begun
  | compactTick =>
    exact compactTick_faithful awake

end Steps

private theorem boot_faithful (fs : Spiffs) (capacityBytes : UInt32)
    (mounts : fs.medium.mounts = true)
    (opens : fs.medium.opens = true) (noOld : fs.files .old = none)
    (content : fs.contentOf .dat = framesOf bodies)
    (small : ∀ body ∈ bodies, body.length < 2 ^ 32) (encoded : ∀ body ∈ bodies, Encoded body) :
    Faithful (JournalTrace.boot fs capacityBytes).journal
      (JournalTrace.boot fs capacityBytes).last := by
  obtain ⟨index, files, _⟩ := init_index fs capacityBytes bodies [] mounts opens noOld
    (content.trans (List.append_nil _).symm) small (.inl rfl)
  obtain ⟨dat, old, _⟩ := recoverOrphans_noOld fs noOld
  have idle : (init fs capacityBytes).compactionActive = false := by simp [init, mounts]
  refine ⟨⟨bodies, ?_, ?_⟩, ?_, ?_, ?_, ?_, ?_⟩
  · rw [JournalTrace.boot, files, dat, content]
  · rw [JournalTrace.boot, index]; exact .self _ small
  · rw [JournalTrace.boot, index]; exact keyed_replay encoded
  · rw [JournalTrace.boot, files, old]
  · intro id r found
    change (((init fs capacityBytes).index.records)[id]?).map _ = _
    rw [show (init fs capacityBytes).index.records[id]? = some r from found]
    rfl
  · intro id status noted _
    obtain ⟨r, found, _⟩ := Option.map_eq_some_iff.mp noted
    exact ⟨r, found⟩
  · intro active
    rw [JournalTrace.boot, idle] at active
    cases active

end EventJournal

namespace JournalTrace

/-- Every event whose last status is live is in the index with it and is rebuilt
with it, and nothing is rebuilt with an earlier status. -/
def KeepsLive (trace : JournalTrace) : Prop :=
  (∀ eventId status, trace.last eventId = some status → isLive status = true →
    (trace.journal.index.find eventId).map JournalRecord.syncStatus = some status ∧
      (trace.journal.reboot.index.find eventId).map JournalRecord.syncStatus = some status) ∧
  ∀ eventId r, trace.journal.reboot.index.find eventId = some r →
    trace.last eventId = some r.syncStatus

private theorem keepsLive_of_faithful {trace : JournalTrace}
    (faithful : EventJournal.Faithful trace.journal trace.last) : trace.KeepsLive := by
  obtain ⟨bodies, log, mirrors⟩ := faithful.log
  have booted :=
    EventJournal.init_index { files := trace.journal.fs.files } trace.journal.index.capacityBytes
    bodies [] rfl rfl faithful.noOld (log.trans (List.append_nil _).symm) mirrors.small (.inl rfl)
  have recovered :
      ∀ eventId, (trace.journal.reboot.index.find eventId).map JournalRecord.syncStatus =
      (trace.journal.index.find eventId).map JournalRecord.syncStatus := by
    intro eventId
    rw [EventJournal.reboot, booted.1]
    exact mirrors.lookup eventId
  refine ⟨fun eventId status noted alive => ?_, fun eventId r found => ?_⟩
  · obtain ⟨r, here⟩ := faithful.live eventId status noted alive
    have same : status = r.syncStatus := by simpa [noted] using faithful.current eventId r here
    rw [recovered, EventJournalIndex.find, here, same]
    exact ⟨rfl, rfl⟩
  · have seen := recovered eventId
    rw [found] at seen
    obtain ⟨live, here, status⟩ := Option.map_eq_some_iff.mp seen.symm
    rw [faithful.current eventId live here, status]

/-- A run whose calls all meet `Preserves` keeps every live event through any
number of compactions. -/
theorem keepsLive_of_preserves [StdSort] (fs : Spiffs) (capacityBytes : UInt32)
    (bodies : List Bytes) (mounts : fs.medium.mounts = true) (opens : fs.medium.opens = true)
    (noOld : fs.files .old = none)
    (content : fs.contentOf .dat = framesOf bodies) (small : ∀ body ∈ bodies, body.length < 2 ^ 32)
    (encoded : ∀ body ∈ bodies, EventJournal.Encoded body) (inputs : List (Medium × JournalCall))
    (along : Along step (fun trace input => (EventJournal.Incremental input.2 ∧
      (trace.step input).journal.fs.failed = false) ∧ trace.journal.Preserves input.2)
        (boot fs capacityBytes) inputs) :
    (run step (boot fs capacityBytes) inputs).KeepsLive := by
  have start := EventJournal.boot_faithful fs capacityBytes mounts opens noOld content small encoded
  refine keepsLive_of_faithful (along.invariant
    (motive := fun trace => EventJournal.Faithful trace.journal trace.last) start ?_)
  intro trace input faithful good
  exact EventJournal.call_faithful faithful input.1 input.2 good.1.1 good.2 good.1.2

/-- Two events, one of them acked, and a compaction that keeps no acked record. -/
private def begun : List (Medium × JournalCall) := [
  ({ room := 65536 }, .appendEvent { eventId := text "e1", eventType := text "SCAN" }),
  ({ room := 65536 }, .appendEvent { eventId := text "e2", eventType := text "SCAN" }),
  ({ room := 65536 }, .appendTransition { eventId := text "e2", syncStatus := .acked }),
  ({ room := 65536 }, .beginCompaction { ackedRetentionCount := 0 })]

/-- The kept event goes in flight before its chunk is written. -/
theorem keepsLive_in_flight :
    (@run _ _ (@step .insertion) (boot {} 65536) (begun ++ [
      ({ room := 65536 }, .appendTransition { eventId := text "e1", syncStatus := .inFlight }),
      ({ room := 65536 }, .compactTick)])).KeepsLive :=
  @keepsLive_of_preserves .insertion {} 65536 [] rfl rfl rfl rfl (by simp) (by simp) _
    (by decide +kernel)

/-- An event appended between the two is in neither the index nor the file after the swap. -/
theorem appended_while_active_lost :
    let inputs := begun ++ [
      ({ room := 65536 }, .appendEvent { eventId := text "e3", eventType := text "SCAN" }),
      ({ room := 65536 }, .compactTick)]
    @Along _ _ (@step .insertion) (fun trace input => EventJournal.Incremental input.2 ∧
        (@step .insertion trace input).journal.fs.failed = false) (boot {} 65536) inputs ∧
      ¬ (@run _ _ (@step .insertion) (boot {} 65536) inputs).KeepsLive := by
  intro inputs
  have facts : @Along _ _ (@step .insertion) (fun trace input => EventJournal.Incremental input.2 ∧
        (@step .insertion trace input).journal.fs.failed = false) (boot {} 65536) inputs ∧
      (@run _ _ (@step .insertion) (boot {} 65536) inputs).last (text "e3") = some .pending ∧
      (@run _ _ (@step .insertion) (boot {} 65536) inputs).journal.index.find (text "e3") =
        none := by
    decide +kernel
  refine ⟨facts.1, fun kept => ?_⟩
  have found := (kept.1 (text "e3") .pending facts.2.1 rfl).1
  rw [facts.2.2] at found
  cases found

end JournalTrace

end Kiosk.Storage
