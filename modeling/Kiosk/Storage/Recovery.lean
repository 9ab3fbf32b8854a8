import Kiosk.Library.TransitionSystem
import Kiosk.Storage.JournalMirror

/-! What the next boot rebuilds from the log is what the index holds now. -/
namespace Kiosk.Storage

open Library Protocol TransitionSystem

namespace EventJournal

/-- The journal of an empty flash. -/
def fresh (capacityBytes : UInt32) : EventJournal := init {} capacityBytes

/-- Appends and one-shot compactions, of records the codec reproduces. -/
def InRange : JournalCall → Prop
  | .appendEvent record => InCodecRange record
  | .appendTransition transition => Clean transition.lastErrorCode
  | .compact _ => True
  | .beginCompaction _ => False
  | .compactTick => False

instance : (call : JournalCall) → Decidable (InRange call)
  | .appendEvent record => inferInstanceAs (Decidable (InCodecRange record))
  | .appendTransition transition => inferInstanceAs (Decidable (Clean transition.lastErrorCode))
  | .compact _ => inferInstanceAs (Decidable True)
  | .beginCompaction _ | .compactTick => inferInstanceAs (Decidable False)

/-- Log and index agree on whole records and on the bytes used. -/
structure Recoverable (j : EventJournal) : Prop where
  log : ∃ bodies,
      j.fs.contentOf .dat = framesOf bodies ∧ Mirrors wholeRecord bodies j.index.records ∧
    usedBytesOf bodies = j.index.usedBytes
  keyed : Keyed j.index.records
  range : ∀ (id : Bytes) (r : JournalRecord), j.index.records[id]? = some r → InCodecRange r
  noOld : j.fs.files .old = none

theorem dat_append (log : before.contentOf .dat = framesOf bodies)
    (appended : Spiffs.Appends before after .dat (frameOf body) true) :
    after.contentOf .dat = framesOf (bodies ++ [body]) := by
  rw [appended.whole, log, framesOf_append, framesOf_cons, framesOf_nil, List.append_nil]

theorem InCodecRange_transition (range : InCodecRange r) (clean : Clean t.lastErrorCode) :
    InCodecRange (r.transition t) :=
  { range with lastErrorCode := clean }

private theorem appendEvent_recoverable (recoverable : Recoverable j) (range : InCodecRange record)
    (healthy : (j.appendEvent record).1.fs.failed = false) :
    Recoverable (j.appendEvent record).1 := by
  have outcome := appendEvent_outcome j record
  generalize j.appendEvent record = result at outcome healthy
  cases outcome with
  | refused unguarded => exact recoverable
  | cut guarded appended => exact absurd (appended.succeeds healthy) (by simp)
  | written guarded appended =>
    obtain ⟨bodies, log, mirrors, used⟩ := recoverable.log
    have whole : record.stored = record := range.stored
    refine ⟨⟨bodies ++ [encodeJournalEvent record], dat_append log appended, ?_, ?_⟩, ?_, ?_, ?_⟩
    · exact mirrors.event (decideAppend_ok guarded.2) range.decodable range.eventId
        (congrArg _ whole) appended.small
    · rw [usedBytesOf_append, used]; rfl
    · exact recoverable.keyed.event range.decodable range.eventId
    · intro id r known
      rw [EventJournalIndex.recordAppendedEvent, KeyedLog.lookup_insert] at known
      split at known
      · cases known; exact range
      · exact recoverable.range id r known
    · exact (appended.others .old (by decide)).trans recoverable.noOld

private theorem appendTransition_recoverable (recoverable : Recoverable j)
    (clean : Clean transition.lastErrorCode)
    (healthy : (j.appendTransition transition).1.fs.failed = false) :
    Recoverable (j.appendTransition transition).1 := by
  have outcome := appendTransition_outcome j transition
  generalize j.appendTransition transition = result at outcome healthy
  cases outcome with
  | refused unguarded => exact recoverable
  | cut guarded appended => exact absurd (appended.succeeds healthy) (by simp)
  | written guarded appended =>
    obtain ⟨bodies, log, mirrors, used⟩ := recoverable.log
    obtain ⟨r, known⟩ := hasEvent_some guarded.2
    obtain ⟨same, decodable, cleanId⟩ := recoverable.keyed _ _ known
    rw [same] at cleanId
    have nonempty : transition.eventId ≠ [] := by rw [← same]; exact decodable.2.1
    have whole : transition.stored = transition := by
      simp [JournalTransition.stored, sanitize_clean cleanId, sanitize_clean clean]
    refine ⟨⟨bodies ++ [encodeJournalTransition transition], dat_append log appended, ?_, ?_⟩,
      ?_, ?_, ?_⟩
    · exact mirrors.transition transition nonempty cleanId (fun _ => by rw [whole]) appended.small
    · rw [usedBytesOf_append, used]; rfl
    · exact recoverable.keyed.transition transition
    · intro id r known
      rw [EventJournalIndex.recordAppendedTransition, KeyedLog.lookup_modify] at known
      split at known
      · obtain ⟨before, here, rfl⟩ := Option.map_eq_some_iff.mp known
        exact InCodecRange_transition (recoverable.range _ _ here) clean
      · exact recoverable.range id r known
    · exact (appended.others .old (by decide)).trans recoverable.noOld

theorem mem_recordsOf {index : EventJournalIndex} :
    r ∈ recordsOf index keep ↔ ∃ id ∈ keep, index.records[id]? = some r := by
  simp [recordsOf, EventJournalIndex.find]

/-- A compaction that wrote the kept records mirrors the index it rebuilds. -/
theorem mirrors_recordsOf {index : EventJournalIndex} {view : RecordView α}
    (keyed : Keyed index.records)
    (keep : List Bytes) (seen : ∀ r ∈ recordsOf index keep, view.of r.stored = view.of r)
    (small : ∀ r ∈ recordsOf index keep, (encodeJournalEvent r).length < 2 ^ 32) :
    Mirrors view ((recordsOf index keep).map encodeJournalEvent)
      (index.rebuildAfterCompaction keep).records := by
  refine Mirrors.rebuild (fun r member => ?_) small (fun r member => ?_) fun id kept known => ?_
  · obtain ⟨id, _, found⟩ := mem_recordsOf.mp member
    exact (keyed id r found).2
  · obtain ⟨id, kept, found⟩ := mem_recordsOf.mp member
    have same := (keyed id r found).1
    rw [same]
    exact ⟨kept, by rw [found, Option.map_some, seen r member]⟩
  · obtain ⟨r, found⟩ := Option.ne_none_iff_exists'.mp known
    exact ⟨r, mem_recordsOf.mpr ⟨id, kept, found⟩, (keyed id r found).1⟩

private theorem fresh_recoverable (capacityBytes : UInt32) : Recoverable (fresh capacityBytes) := by
  have booted := init_index {} capacityBytes [] [] rfl rfl rfl rfl (by simp) (.inl rfl)
  refine ⟨⟨[], ?_, ?_, ?_⟩, ?_, ?_, rfl⟩
  · rfl
  · rw [fresh, booted.1]; exact .nil _
  · rw [fresh, booted.1]
  · rw [fresh, booted.1]; exact fun id r known => by simp at known
  · rw [fresh, booted.1]; exact fun id r known => by simp at known

theorem Recoverable.reboot (recoverable : Recoverable j) :
    j.reboot.index.records = j.index.records ∧ j.reboot.index.usedBytes = j.index.usedBytes := by
  obtain ⟨bodies, log, mirrors, used⟩ := recoverable.log
  have booted :=
    init_index { files := j.fs.files } j.index.capacityBytes bodies [] rfl rfl recoverable.noOld
    (log.trans (List.append_nil _).symm) mirrors.small (.inl rfl)
  rw [EventJournal.reboot, booted.1]
  refine ⟨Std.ExtTreeMap.ext_getElem? fun eventId => ?_, used⟩
  simpa [wholeRecord] using mirrors.lookup eventId

section Run
variable [StdSort]

/-- One call of a run, with what the medium does during it. -/
def step (j : EventJournal) (input : Medium × JournalCall) : EventJournal :=
  (j.call input.1 input.2).1

private theorem compact_recoverable (recoverable : Recoverable j) (policy : CompactionPolicy) :
    Recoverable (j.compact policy).1 := by
  unfold compact
  split
  · exact recoverable
  simp only
  split
  · exact recoverable
  have untouched : ∀ other, other ≠ .tmp → (writeRecords j.index (j.fs.remove .tmp)
      (j.index.selectRecordsToKeep policy)).1.files other = j.fs.files other :=
        fun other different => by
    rw [writeRecords_others _ _ _ different]
    simp [Spiffs.remove, Function.update_of_ne different]
  split
  · rename_i after result
    rw [result] at untouched
    have live : after.files .dat = j.fs.files .dat := untouched .dat (by decide)
    have old : after.files .old = j.fs.files .old := untouched .old (by decide)
    obtain ⟨bodies, log, rest⟩ := recoverable.log
    refine ⟨⟨bodies, ?_, rest⟩, recoverable.keyed, recoverable.range, ?_⟩
    · rw [← log]
      simp [Spiffs.contentOf, Spiffs.remove, live]
    · simpa [Spiffs.remove, old] using recoverable.noOld
  · rename_i after result
    rw [result] at untouched
    have live : after.files .dat = j.fs.files .dat := untouched .dat (by decide)
    obtain ⟨temp, _, small⟩ := writeRecords_true _ _ _ result
    have noOld : after.files .old = none := (untouched .old (by decide)).trans recoverable.noOld
    have outcome :=
      finishCompaction_outcome { j with fs := after } (j.index.selectRecordsToKeep policy) noOld
    generalize ({ j with fs := after } : EventJournal).finishCompaction
        (j.index.selectRecordsToKeep policy) =
      finished at outcome
    cases outcome with
    | kept dat old =>
      obtain ⟨bodies, log, rest⟩ := recoverable.log
      refine ⟨⟨bodies, dat.trans ?_, rest⟩, recoverable.keyed, recoverable.range, old⟩
      rw [← log]
      simp [Spiffs.contentOf, live]
    | swapped dat old tmp =>
      have written :
          ∀ r ∈ recordsOf j.index (j.index.selectRecordsToKeep policy), InCodecRange r := by
        intro r member
        obtain ⟨id, _, found⟩ := mem_recordsOf.mp member
        exact recoverable.range id r found
      refine ⟨⟨_, dat.trans ?_, mirrors_recordsOf recoverable.keyed _ ?_ small,
        (usedBytes_rebuild _ _).symm⟩, recoverable.keyed.rebuild _, ?_, old⟩
      · rw [temp]
        simp [Spiffs.contentOf, Spiffs.remove]
      · exact fun r member => congrArg _ (written r member).stored
      · intro id r known
        rw [lookup_rebuild] at known
        split at known
        · exact recoverable.range id r known
        · cases known

private theorem step_recoverable (recoverable : Recoverable j) (input : Medium × JournalCall)
    (range : InRange input.2) (healthy : (j.step input).fs.failed = false) :
    Recoverable (j.step input) := by
  obtain ⟨medium, call⟩ := input
  have awake : Recoverable (j.on medium) :=
    ⟨recoverable.log, recoverable.keyed, recoverable.range, recoverable.noOld⟩
  cases call with
  | appendEvent record => exact appendEvent_recoverable awake range healthy
  | appendTransition transition => exact appendTransition_recoverable awake range healthy
  | compact policy => exact compact_recoverable awake policy
  | beginCompaction policy => exact range.elim
  | compactTick => exact range.elim

theorem recoverable_along (capacityBytes : UInt32)
    (along : Along step (fun j input => InRange input.2 ∧
    (j.step input).fs.failed = false) (fresh capacityBytes) inputs) :
      Recoverable (run step (fresh capacityBytes) inputs) :=
  along.invariant (fresh_recoverable capacityBytes) fun _ input before good =>
    step_recoverable before input good.1 good.2

/-- After every run of appends and one-shot compactions from an empty journal,
without a refusal of the medium, a boot rebuilds the index as it stands. -/
theorem reboot_index (capacityBytes : UInt32) (inputs : List (Medium × JournalCall))
    (along : Along step (fun j input => InRange input.2 ∧ (j.step input).fs.failed = false)
      (fresh capacityBytes) inputs) :
    let j := run step (fresh capacityBytes) inputs
    j.reboot.index.records = j.index.records ∧ j.reboot.index.usedBytes = j.index.usedBytes :=
  (recoverable_along capacityBytes along).reboot

end Run

/-- An event, its acknowledgement, a second event, and a compaction that drops the first. -/
theorem reboot_index_compacted :
    let inputs : List (Medium × JournalCall) := [
      ({ room := 65536 }, .appendEvent { eventId := text "e1", eventType := text "SCAN" }),
      ({ room := 65536 }, .appendTransition { eventId := text "e1", syncStatus := .acked }),
      ({ room := 65536 },
        .appendEvent { eventId := text "e2", eventType := text "SCAN", deviceSeq := 2 }),
      ({ room := 65536 }, .compact { ackedRetentionCount := 0 })]
    let j := @run _ _ (@step .insertion) (fresh 65536) inputs
    j.reboot.index.records = j.index.records ∧ j.reboot.index.usedBytes = j.index.usedBytes :=
  @reboot_index .insertion 65536 _ (by decide +kernel)

end EventJournal

end Kiosk.Storage
