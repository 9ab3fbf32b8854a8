import Kiosk.Storage.Capacity
import Kiosk.Storage.CompactionTicks

/-! What a compaction reclaims. A swap leaves one event frame for each surviving record;
a compaction that finds nothing to drop rewrites nothing, and its transitions stay. -/
namespace Kiosk.Storage

open Library Protocol TransitionSystem EventJournalIndex Budget

/-- The frame overhead and the encoded event of each record. -/
def liveSize (index : EventJournalIndex) : Nat :=
  (index.records.toList.map fun kv => recordSize kv.2).sum

private theorem find_of_mem {index : EventJournalIndex} (member : kv ∈ index.records.toList) :
    index.find kv.1 = some kv.2 :=
  Std.ExtTreeMap.mem_toList_iff_getElem?_eq_some.mp member

theorem liveSize_eq_total (index : EventJournalIndex) :
    liveSize index = total recordSize index.find (index.records.toList.map Prod.fst) := by
  rw [liveSize, total, List.map_map]
  refine congrArg List.sum (List.map_congr_left fun kv member => ?_)
  rw [Function.comp_apply, cost, find_of_mem member]
  rfl

/-- The records left by a rebuild weigh what the kept ids weighed. -/
theorem liveSize_rebuild (index : EventJournalIndex) (once : keep.Nodup) :
    liveSize (index.rebuildAfterCompaction keep) = total recordSize index.find keep := by
  have looked (id : Bytes) :
      (index.rebuildAfterCompaction keep).find id = if id ∈ keep then index.find id else none :=
    lookup_rebuild index keep id
  have keys : ((index.rebuildAfterCompaction keep).records.toList.map Prod.fst).Perm
      (keep.filter fun id => (index.find id).isSome) := by
    have distinct : ((index.rebuildAfterCompaction keep).records.toList.map Prod.fst).Nodup := by
      rw [Std.ExtTreeMap.map_fst_toList_eq_keys]
      exact Std.ExtTreeMap.nodup_keys
    rw [List.perm_ext_iff_of_nodup distinct (once.filter _)]
    intro id
    rw [List.mem_filter, List.mem_map]
    constructor
    · rintro ⟨kv, member, rfl⟩
      have found := find_of_mem member
      rw [looked] at found
      split at found
      · rename_i kept
        exact ⟨kept, by simp [found]⟩
      · cases found
    · rintro ⟨kept, known⟩
      obtain ⟨r, found⟩ := Option.isSome_iff_exists.mp known
      have here : (index.rebuildAfterCompaction keep).find id = some r :=
        (looked id).trans ((if_pos kept).trans found)
      exact ⟨(id, r), Std.ExtTreeMap.mem_toList_iff_getElem?_eq_some.mpr here, rfl⟩
  have same : total recordSize (index.rebuildAfterCompaction keep).find
        (keep.filter fun id => (index.find id).isSome) =
      total recordSize index.find (keep.filter fun id => (index.find id).isSome) := by
    refine total_congr fun id member => ?_
    rw [cost, cost, looked id, if_pos (List.mem_filter.mp member).1]
  rw [liveSize_eq_total, total_perm keys, same, total_known]

namespace EventJournal
open Spiffs

/-- The journal is down to its live records: its log is events only, and both the log
and the account are their size. -/
structure Reclaimed (j : EventJournal) : Prop where
  events : ∃ written : List JournalRecord,
    j.fs.contentOf .dat = framesOf (written.map encodeJournalEvent)
  length : (j.fs.contentOf .dat).length = liveSize j.index
  used : j.index.usedBytes.toNat = liveSize j.index

/-! The swap. -/

/-- A swap puts the temp file in the place of the log and rebuilds the index. -/
theorem finishCompaction_swap (j : EventJournal) (keep : List Bytes)
    (done : (j.finishCompaction keep).2 = true) :
    (j.finishCompaction keep).1.index = j.index.rebuildAfterCompaction keep ∧
      (j.finishCompaction keep).1.fs.contentOf .dat = j.fs.contentOf .tmp := by
  have aside :
      ∀ fs, (if j.fs.fileExists .dat then j.fs.rename .dat .old else (j.fs, true)) = (fs, true) →
      fs.contentOf .tmp = j.fs.contentOf .tmp := by
    intro fs moved
    split at moved
    · unfold rename at moved
      split at moved
      · split at moved
        · cases moved
          simp [contentOf, Function.update_of_ne]
        · cases moved
      · cases moved
    · cases moved
      rfl
  unfold finishCompaction at done ⊢
  simp only at done ⊢
  split at done
  · cases done
  rename_i valid
  rw [if_neg valid]
  generalize (if j.fs.fileExists .dat then j.fs.rename .dat .old else (j.fs, true)) =
    first at aside done ⊢
  obtain ⟨fs, moved⟩ := first
  cases moved with
  | false => cases done
  | true =>
    have same := aside fs rfl
    simp only [Bool.not_true, Bool.false_eq_true, ↓reduceIte] at done ⊢
    cases swapped : fs.rename .tmp .dat with
    | mk after ok =>
      rw [swapped] at done
      cases ok with
      | false => cases done
      | true =>
        refine ⟨rfl, ?_⟩
        rw [← same]
        unfold rename at swapped
        split at swapped
        · rename_i content here free
          split at swapped
          · cases swapped
            simp [contentOf, remove, here]
          · cases swapped
        · cases swapped

/-- Every successful write of the loop ends within what a file holds. -/
theorem writeRecords_fits (index : EventJournalIndex) (fs : Spiffs) (ids : List Bytes)
    (fits : (fs.contentOf .tmp).length ≤ maxFileBytes)
    (done : writeRecords index fs ids = (after, true)) :
    (after.contentOf .tmp).length ≤ maxFileBytes := by
  induction ids generalizing fs with
  | nil =>
    cases done
    exact fits
  | cons id rest ih =>
    rw [writeRecords] at done
    cases found : index.find id with
    | none =>
      rw [found] at done
      exact ih fs fits done
    | some r =>
      have appended := appendJournalFrame_appends fs .tmp (encodeJournalEvent r)
      rw [found] at done
      simp only at done
      cases result : fs.appendJournalFrame .tmp (encodeJournalEvent r) with
      | mk middle ok =>
        rw [result] at done appended
        cases ok with
        | false => cases done
        | true =>
          refine ih middle ?_ done
          rw [appended.whole]
          exact appended.fits rfl (by simp [frameOf])

/-- What a journal is after a swap of a temp file of events: reclaimed exactly when the
file weighs what the kept records weigh now. -/
private theorem swapped_reclaimed {j : EventJournal} {written : List JournalRecord}
    (index : EventJournalIndex) (once : keep.Nodup)
    (rebuilt : j.index = index.rebuildAfterCompaction keep)
    (content : j.fs.contentOf .dat = framesOf (written.map encodeJournalEvent))
    (fits : (j.fs.contentOf .dat).length ≤ maxFileBytes) :
    j.Reclaimed ↔ (j.fs.contentOf .dat).length = total recordSize index.find keep := by
  have live : liveSize j.index = total recordSize index.find keep := by
    rw [rebuilt, liveSize_rebuild index once]
  rw [maxFileBytes] at fits
  constructor
  · intro reclaimed
    rw [reclaimed.length, live]
  · intro weighed
    refine ⟨⟨written, content⟩, weighed.trans live.symm, ?_⟩
    rw [live, rebuilt, usedBytes_rebuild, usedBytesOf_toNat _ (by rw [recordsOf_total]; omega),
      recordsOf_total]

private theorem framesOf_records (index : EventJournalIndex) (ids : List Bytes) :
    (framesOf ((recordsOf index ids).map encodeJournalEvent)).length =
      total recordSize index.find ids := by
  rw [← recordsOf_total, framesOf, List.length_flatMap]

/-! The one-shot compaction. -/

section Selecting
variable [StdSort]

/-- The policy drops something. -/
def Drops (j : EventJournal) (policy : CompactionPolicy) : Prop :=
  (j.index.selectRecordsToKeep policy).length ≠ j.index.recordCount.toNat

/-- A compaction that returned true reclaimed the transitions, or had nothing to drop
and left the journal as it was. -/
theorem compact_reclaimed_iff (j : EventJournal) (policy : CompactionPolicy)
    (returned : (j.compact policy).2 = true) :
    (j.compact policy).1.Reclaimed ↔ j.Drops policy ∨ j.Reclaimed := by
  by_cases drops : j.Drops policy
  · refine iff_of_true ?_ (.inl drops)
    have ready : j.initOk = true := by
      by_contra unready
      rw [compact, if_pos (by simpa using unready)] at returned
      cases returned
    rw [compact, if_neg (by simp [ready])] at returned ⊢
    simp only [if_neg drops] at returned ⊢
    cases wrote : writeRecords j.index (j.fs.remove .tmp) (j.index.selectRecordsToKeep policy) with
    | mk after ok =>
      rw [wrote] at returned
      cases ok with
      | false => cases returned
      | true =>
        have empty : (j.fs.remove .tmp).contentOf .tmp = [] := by simp [contentOf, remove]
        obtain ⟨content, _⟩ := writeRecords_true j.index (j.fs.remove .tmp) _ wrote
        have fits := writeRecords_fits j.index (j.fs.remove .tmp) _ (by simp [empty]) wrote
        rw [empty, List.nil_append] at content
        obtain ⟨index, dat⟩ :=
          finishCompaction_swap { j with fs := after } (j.index.selectRecordsToKeep policy) returned
        refine (swapped_reclaimed j.index select_nodup index (dat.trans content)
          (by rw [dat]; exact fits)).mpr ?_
        rw [dat, content, framesOf_records]
  · have skipped : (j.compact policy).1 = j := by
      rw [compact]
      split
      · rfl
      · simp only [Drops, not_not] at drops
        simp only [if_pos drops]
    rw [skipped]
    simp [drops]

end Selecting

/-! The incremental compaction. -/

/-- The next tick ends the compaction, and its swap goes through. -/
def Swaps (j : EventJournal) : Prop :=
  j.compactionActive = true ∧
    ∃ after cursor,
      writeChunk j.index j.fs j.compactionWriteIndex j.compactionWriteIndex j.nextChunk =
          (after, cursor, true) ∧
        j.compactionKeep.length ≤ cursor ∧
        ({ j with fs := after, compactionWriteIndex := cursor }.finishCompaction
          j.compactionKeep).2 = true

/-- The temp file of an active compaction holds events only. -/
def EventTemp (j : EventJournal) : Prop :=
  j.compactionActive = true → j.compactionKeep.Nodup ∧
    (∃ written : List JournalRecord,
      j.fs.contentOf .tmp = framesOf (written.map encodeJournalEvent)) ∧
    (j.fs.contentOf .tmp).length ≤ maxFileBytes

/-- The records written so far weigh what they weigh now. -/
def TempCurrent (j : EventJournal) : Prop :=
  (j.fs.contentOf .tmp).length =
    total recordSize j.index.find (j.compactionKeep.take j.compactionWriteIndex)

private theorem chunk_events {j : EventJournal} {written : List JournalRecord}
    (before : j.fs.contentOf .tmp = framesOf (written.map encodeJournalEvent))
    (fits : (j.fs.contentOf .tmp).length ≤ maxFileBytes)
    (done : writeRecords j.index j.fs ids = (after, true)) :
    after.contentOf .tmp = framesOf ((written ++ recordsOf j.index ids).map encodeJournalEvent) ∧
      (after.contentOf .tmp).length ≤ maxFileBytes := by
  obtain ⟨content, _⟩ := writeRecords_true j.index j.fs ids done
  refine ⟨?_, writeRecords_fits j.index j.fs ids fits done⟩
  rw [content, before, ← framesOf_append, ← List.map_append]

/-- A tick that swaps reclaims the transitions exactly when no record written before it
has changed its weight since. -/
theorem compactTick_reclaimed_iff (j : EventJournal) (temp : j.EventTemp) (swaps : j.Swaps) :
    j.compactTick.Reclaimed ↔ j.TempCurrent := by
  obtain ⟨active, after, cursor, wrote, passed, swapped⟩ := swaps
  obtain ⟨once, ⟨written, before⟩, fits⟩ := temp active
  have writes :=
    writeChunk_writes j.index j.fs j.compactionWriteIndex j.compactionWriteIndex j.nextChunk
  have bound := writeChunk_bound j.index j.fs j.compactionWriteIndex j.compactionWriteIndex
    j.nextChunk (Nat.le_refl _)
  rw [wrote] at writes bound
  -- the last chunk is all that was left of the list
  have rest : j.nextChunk = j.compactionKeep.drop j.compactionWriteIndex := by
    simp only [nextChunk, List.length_take, List.length_drop] at bound ⊢
    rw [List.take_of_length_le]
    rw [List.length_drop]
    omega
  obtain ⟨content, short⟩ := chunk_events before fits writes
  obtain ⟨index, dat⟩ := finishCompaction_swap
    { j with fs := after, compactionWriteIndex := cursor } j.compactionKeep swapped
  have result :
      j.compactTick = { ({ j with fs := after, compactionWriteIndex := cursor }.finishCompaction
          j.compactionKeep).1 with
        compactionActive := false, compactionKeep := [], compactionWriteIndex := 0 } := by
    rw [nextChunk] at wrote
    rw [compactTick, if_neg (by simp [active])]
    simp only [wrote, if_neg (Nat.not_lt.mpr passed)]
  have whole : total recordSize j.index.find j.compactionKeep =
      total recordSize j.index.find (j.compactionKeep.take j.compactionWriteIndex) +
        total recordSize j.index.find j.nextChunk := by
    rw [rest, ← total_append, List.take_append_drop]
  have weighed := swapped_reclaimed (j := j.compactTick) j.index once (by rw [result]; exact index)
    (by rw [result]; exact dat.trans content) (by rw [result]; exact dat ▸ short)
  rw [weighed, TempCurrent, whole]
  have length : (j.compactTick.fs.contentOf .dat).length =
      (j.fs.contentOf .tmp).length + total recordSize j.index.find j.nextChunk := by
    rw [result, before, ← framesOf_records, ← List.length_append, ← framesOf_append,
      ← List.map_append, ← content, ← dat]
  omega

/-! Runs. -/

private theorem EventTemp.rewrite {j after : EventJournal} (temp : j.EventTemp)
    (active : after.compactionActive = j.compactionActive)
    (keep : after.compactionKeep = j.compactionKeep) (content : ∃ written : List JournalRecord,
      after.fs.contentOf .tmp = framesOf (written.map encodeJournalEvent))
    (fits : (after.fs.contentOf .tmp).length ≤ maxFileBytes) : after.EventTemp := by
  intro still
  rw [keep]
  exact ⟨(temp (active.symm.trans still)).1, content, fits⟩

private theorem append_eventTemp {j : EventJournal} {result : EventJournal × Bool} {guard : Prop}
    (temp : j.EventTemp)
    (outcome : AppendOutcome j guard body recorded result) : result.1.EventTemp := by
  have same {after : Spiffs} {ok : Bool} (appended : Appends j.fs after .dat (frameOf body) ok) :
      after.contentOf .tmp = j.fs.contentOf .tmp := by
    rw [contentOf, contentOf, appended.others .tmp (by decide)]
  cases outcome with
  | refused _ => exact temp
  | cut _ appended =>
    intro active
    simp only [same appended]
    exact temp active
  | written _ appended =>
    intro active
    simp only [same appended]
    exact temp active

private theorem rename_temp (fs : Spiffs) (others : source ≠ .tmp ∧ target ≠ .tmp) :
    (fs.rename source target).1.contentOf .tmp = fs.contentOf .tmp := by
  unfold rename
  split
  · split
    · simp [contentOf, Function.update_of_ne (Ne.symm others.1),
        Function.update_of_ne (Ne.symm others.2)]
    · rfl
  · rfl

/-- The end of a compaction leaves the temp file, or none. -/
private theorem finishCompaction_temp (j : EventJournal) (keep : List Bytes) :
    (j.finishCompaction keep).1.fs.contentOf .tmp = j.fs.contentOf .tmp ∨
      (j.finishCompaction keep).1.fs.contentOf .tmp = [] := by
  have removed (fs : Spiffs) : (fs.remove .tmp).contentOf .tmp = [] := by simp [contentOf, remove]
  have aside : ∀ result : Spiffs × Bool,
      (if j.fs.fileExists .dat then j.fs.rename .dat .old else (j.fs, true)) = result →
        result.1.contentOf .tmp = j.fs.contentOf .tmp := by
    rintro ⟨fs, ok⟩ moved
    split at moved
    · have apart : JournalPath.dat ≠ .tmp ∧ JournalPath.old ≠ .tmp := by decide
      have same := rename_temp j.fs apart
      rwa [moved] at same
    · cases moved
      rfl
  unfold finishCompaction
  simp only
  split
  · exact .inr (removed j.fs)
  generalize (if j.fs.fileExists .dat then j.fs.rename .dat .old else (j.fs, true)) = first at aside
  obtain ⟨fs, moved⟩ := first
  have same : fs.contentOf .tmp = j.fs.contentOf .tmp := aside _ rfl
  simp only
  split
  · exact .inr (removed fs)
  cases swapped : fs.rename .tmp .dat with
  | mk after ok =>
    cases ok with
    | true =>
      right
      unfold rename at swapped
      split at swapped
      · split at swapped
        · cases swapped
          simp [contentOf, remove]
        · cases swapped
      · cases swapped
    | false =>
      left
      have kept : after.contentOf .tmp = fs.contentOf .tmp := by
        unfold rename at swapped
        split at swapped
        · split at swapped
          · cases swapped
          · cases swapped
            rfl
        · cases swapped
          rfl
      simp only
      split
      · rw [rename_temp after (by decide), kept, same]
      · rw [kept, same]

section Runs
variable [StdSort]

private theorem compact_eventTemp (j : EventJournal) (policy : CompactionPolicy)
    (temp : j.EventTemp) :
    (j.compact policy).1.EventTemp := by
  unfold compact
  split
  · exact temp
  simp only
  split
  · exact temp
  have empty : (j.fs.remove .tmp).contentOf .tmp = [] := by simp [contentOf, remove]
  split
  · refine temp.rewrite rfl rfl ⟨[], ?_⟩ ?_ <;> simp [contentOf, remove]
  · rename_i after wrote
    obtain ⟨content, _⟩ := writeRecords_true j.index (j.fs.remove .tmp) _ wrote
    have fits := writeRecords_fits j.index (j.fs.remove .tmp) _ (by simp [empty]) wrote
    rw [empty, List.nil_append] at content
    obtain ⟨last, shape⟩ :=
      finishCompaction_shape { j with fs := after } (j.index.selectRecordsToKeep policy)
    have left := finishCompaction_temp { j with fs := after } (j.index.selectRecordsToKeep policy)
    have active : ({ j with fs := after }.finishCompaction
          (j.index.selectRecordsToKeep policy)).1.compactionActive =
        j.compactionActive := by rcases shape with shape | shape <;> rw [shape]
    have keep : ({ j with fs := after }.finishCompaction
          (j.index.selectRecordsToKeep policy)).1.compactionKeep =
        j.compactionKeep := by rcases shape with shape | shape <;> rw [shape]
    rcases left with same | none
    · exact temp.rewrite active keep ⟨_, same.trans content⟩ (by rw [same]; exact fits)
    · exact temp.rewrite active keep ⟨[], none⟩ (by simp [none])

private theorem eventTemp_step (j : EventJournal) (input : Medium × JournalCall)
    (temp : j.EventTemp) :
    (j.step input).EventTemp := by
  obtain ⟨medium, call⟩ := input
  have awake : (j.on medium).EventTemp := temp
  cases call with
  | appendEvent record => exact append_eventTemp awake (appendEvent_outcome (j.on medium) record)
  | appendTransition transition =>
    exact append_eventTemp awake (appendTransition_outcome (j.on medium) transition)
  | compact policy => exact compact_eventTemp (j.on medium) policy awake
  | beginCompaction policy =>
    rw [step, call, beginCompaction]
    split
    · exact awake
    rename_i idle
    simp only
    split
    · intro active
      simp_all
    · intro _
      exact ⟨select_nodup, ⟨[], by simp [contentOf, remove]⟩, by simp [contentOf, remove]⟩
  | compactTick =>
    cases active : j.compactionActive with
    | false =>
      have same : (j.on medium).compactTick = j.on medium := compactTick_idle active
      rw [step, call, same]
      exact awake
    | true =>
      have outcome := compactTick_outcome (j.on medium) active
      rw [step, call]
      generalize (j.on medium).compactTick = after at outcome
      cases outcome with
      | aborted inactive _ _ =>
        intro still
        rw [inactive] at still
        cases still
      | finished _ _ => exact fun still => by cases still
      | more wrote short =>
        obtain ⟨_, ⟨written, before⟩, fits⟩ := awake active
        have writes :=
          writeChunk_writes (j.on medium).index (j.on medium).fs (j.on medium).compactionWriteIndex
          (j.on medium).compactionWriteIndex (j.on medium).nextChunk
        rw [wrote] at writes
        obtain ⟨content, bounded⟩ := chunk_events before fits writes
        exact awake.rewrite rfl rfl ⟨_, content⟩ bounded

/-- After any run of the public operations: a compaction that returned true left the
journal reclaimed exactly when there was something to drop or it was reclaimed before;
so did one that was asked for and had nothing to drop; the last tick of an incremental
one did exactly when the records written before it weigh what they weighed then. -/
theorem reclaims_iff (fs : Spiffs) (capacityBytes : UInt32) (inputs : List (Medium × JournalCall))
    (medium : Medium) :
    let j := run step (init fs capacityBytes) inputs
    (∀ policy, (j.call medium (.compact policy)).2 = true →
      ((j.call medium (.compact policy)).1.Reclaimed ↔ j.Drops policy ∨ j.Reclaimed)) ∧
    (∀ policy, j.initOk = true → j.compactionActive = false → ¬ j.Drops policy →
      ((j.call medium (.beginCompaction policy)).1.Reclaimed ↔ j.Reclaimed)) ∧
    ((j.on medium).Swaps → ((j.call medium .compactTick).1.Reclaimed ↔ j.TempCurrent)) := by
  intro j
  have temp : j.EventTemp := by
    refine run_invariant (motive := EventTemp) ?_ eventTemp_step inputs
    intro active
    rw [init_idle] at active
    cases active
  have awake : (j.on medium).Reclaimed ↔ j.Reclaimed :=
    ⟨fun reclaimed => ⟨reclaimed.events, reclaimed.length, reclaimed.used⟩,
      fun reclaimed => ⟨reclaimed.events, reclaimed.length, reclaimed.used⟩⟩
  refine ⟨fun policy returned => ?_, fun policy ready idle none => ?_, fun swaps => ?_⟩
  · have result := compact_reclaimed_iff (j.on medium) policy returned
    rwa [awake] at result
  · have guard : ¬ ((!(j.on medium).initOk || (j.on medium).compactionActive) = true) := by
      simp [on, ready, idle]
    have same : ((j.on medium).index.selectRecordsToKeep policy).length =
        (j.on medium).index.recordCount.toNat :=
      not_not.mp none
    rw [call, beginCompaction, if_neg guard]
    simp only [if_pos same]
    rw [← awake]
    exact ⟨fun reclaimed => ⟨reclaimed.events, reclaimed.length, reclaimed.used⟩,
      fun reclaimed => ⟨reclaimed.events, reclaimed.length, reclaimed.used⟩⟩
  · exact compactTick_reclaimed_iff (j.on medium) temp swaps

end Runs

/-- What the chunk of the next tick leaves. -/
private def tickChunk (j : EventJournal) : Spiffs × Nat × Bool :=
  writeChunk j.index j.fs j.compactionWriteIndex j.compactionWriteIndex j.nextChunk

private theorem swaps_of_tickChunk (active : j.compactionActive = true)
    (done : (tickChunk j).2.2 = true ∧ j.compactionKeep.length ≤ (tickChunk j).2.1 ∧
      ({ j with fs := (tickChunk j).1, compactionWriteIndex := (tickChunk j).2.1 }.finishCompaction
          j.compactionKeep).2 =
        true) :
    j.Swaps := by
  obtain ⟨wrote, reached, swapped⟩ := done
  refine ⟨active, (tickChunk j).1, (tickChunk j).2.1, ?_, reached, swapped⟩
  rw [← wrote]
  rfl

/-- A delivered event that is not kept, and one on its way. -/
private def delivered : List (Medium × JournalCall) := [
  ({ room := 65536 }, .appendEvent { eventId := text "e1", eventType := text "SCAN" }),
  ({ room := 65536 }, .appendTransition { eventId := text "e1", syncStatus := .acked }),
  ({ room := 65536 }, .appendEvent { eventId := text "e2", eventType := text "SCAN" }),
  ({ room := 65536 }, .appendTransition { eventId := text "e2", syncStatus := .inFlight }),
  ({}, .beginCompaction { ackedRetentionCount := 0 })]

/-- The tick swaps, and the log holds the event of the second record alone. -/
theorem reclaims_iff_delivered :
    let j := run (@step .insertion) (init {} 65536) delivered
    (j.on { room := 65536 }).Swaps ∧
        ((@call .insertion j { room := 65536 } .compactTick).1.Reclaimed ↔ j.TempCurrent) ∧
      j.TempCurrent := by
  intro j
  have current : j.TempCurrent := by
    rw [TempCurrent]
    decide +kernel
  have swaps : (j.on { room := 65536 }).Swaps := by
    have active : (j.on { room := 65536 }).compactionActive = true := by decide +kernel
    have facts : (tickChunk (j.on { room := 65536 })).2.2 = true ∧
        (j.on { room := 65536 }).compactionKeep.length ≤ (tickChunk (j.on { room := 65536 })).2.1 ∧
        ({ j.on { room := 65536 } with
            fs := (tickChunk (j.on { room := 65536 })).1
            compactionWriteIndex := (tickChunk (j.on { room := 65536 })).2.1 }.finishCompaction
          (j.on { room := 65536 }).compactionKeep).2 = true := by decide +kernel
    exact swaps_of_tickChunk active facts
  exact ⟨swaps, (@reclaims_iff .insertion {} 65536 delivered { room := 65536 }).2.2 swaps, current⟩

/-- An event sent twice without an answer. -/
private def retried : List (Medium × JournalCall) := [
  ({ room := 65536 }, .appendEvent { eventId := text "e1", eventType := text "SCAN" }),
  ({ room := 65536 }, .appendTransition { eventId := text "e1", syncStatus := .inFlight }),
  ({ room := 65536 }, .appendTransition { eventId := text "e1" }),
  ({ room := 65536 }, .appendTransition { eventId := text "e1", syncStatus := .inFlight }),
  ({ room := 65536 }, .appendTransition { eventId := text "e1" })]

/-- It is pending, so a compaction returns true with the four transitions still in the
log, and the incremental one does not begin. -/
theorem retried_not_reclaimed :
    let j := run (@step .insertion) (init {} 65536) retried
    let compacted := @call .insertion j {} (.compact {})
    compacted.2 = true ∧ ¬ compacted.1.Reclaimed ∧
        liveSize compacted.1.index < compacted.1.index.usedBytes.toNat ∧
      (@call .insertion j {} (.beginCompaction {})).2 = false := by
  intro j compacted
  have facts : compacted.2 = true ∧ liveSize compacted.1.index < compacted.1.index.usedBytes.toNat ∧
      (@call .insertion j {} (.beginCompaction {})).2 = false := by decide +kernel
  obtain ⟨returned, larger, refused⟩ := facts
  exact ⟨returned, fun reclaimed => absurd reclaimed.used (Nat.ne_of_gt larger), larger, refused⟩

end EventJournal

end Kiosk.Storage
