import Kiosk.Storage.EventJournal

/-! What each operation of the journal does to the files and the index. -/
namespace Kiosk.Storage

open Library Protocol

namespace Spiffs

/-- `data` was appended to `path`, wholly exactly when `ok`, and nothing else changed. -/
structure Appends (fs fs' : Spiffs) (path : JournalPath) (data : Bytes) (ok : Bool) : Prop where
  others : ∀ other, other ≠ path → fs'.files other = fs.files other
  content : ∃ written, written <+: data ∧ fs'.contentOf path = fs.contentOf path ++ written ∧
    (ok = true ↔ written = data)
  opens : fs'.medium.opens = fs.medium.opens
  failed : fs'.failed = (fs.failed || !ok)
  fits : ok = true → data ≠ [] → (fs.contentOf path ++ data).length ≤ maxFileBytes

@[simp] theorem contentOf_update (before : JournalPath → Option Bytes) (path : JournalPath)
    (content : Bytes) (flash : Medium) (refused : Bool) :
    contentOf ⟨Function.update before path (some content), flash, refused⟩ path = content := by
  simp [contentOf]

private theorem write_appends (fs : Spiffs) (path : JournalPath) (data : Bytes)
    (ok : Bool)
    (whole : ok = true ↔ fs.taken path data.length = data.length) :
    Appends fs (fs.write path data).1 path data ok where
  others other different := by simp [write, Function.update_of_ne different]
  content := by
    have bound : fs.taken path data.length ≤ data.length := Nat.min_le_left _ _
    refine ⟨data.take (fs.taken path data.length), List.take_prefix _ _, by simp [write], ?_⟩
    rw [whole, List.take_eq_self_iff]
    omega
  opens := rfl
  failed := by
    have bound : fs.taken path data.length ≤ data.length := Nat.min_le_left _ _
    have short : fs.taken path data.length < data.length ↔ ok = false := by
      rw [← Bool.not_eq_true, whole]
      omega
    cases ok <;> simp [write, short]
  fits all nonempty := by
    have taken := whole.mp all
    have positive : 0 < data.length := List.length_pos_iff.mpr nonempty
    have limit : fs.taken path data.length ≤ maxFileBytes - (fs.contentOf path).length :=
      le_trans (Nat.min_le_right _ _) (Nat.min_le_right _ _)
    rw [List.length_append]
    omega

private theorem Appends.trans (first : Appends fs middle path data true)
    (second : Appends middle last path more ok) : Appends fs last path (data ++ more) ok where
  others other different := (second.others other different).trans (first.others other different)
  content := by
    obtain ⟨written, _, before, whole⟩ := first.content
    obtain ⟨added, part, after, done⟩ := second.content
    rw [whole.mp rfl] at before
    refine ⟨data ++ added, (List.prefix_append_right_inj data).mpr part, ?_, ?_⟩
    · rw [after, before, List.append_assoc]
    · rw [done, List.append_cancel_left_eq]
  opens := second.opens.trans first.opens
  failed := by rw [second.failed, first.failed]; simp
  fits whole nonempty := by
    obtain ⟨written, _, before, done⟩ := first.content
    rw [done.mp rfl] at before
    by_cases empty : more = []
    · subst empty
      simpa using first.fits rfl (by simpa using nonempty)
    · have bound := second.fits whole empty
      rwa [before, List.append_assoc] at bound

private theorem Appends.cut (first : Appends fs middle path data false) (more : Bytes) :
    Appends fs middle path (data ++ more) false where
  others := first.others
  content := by
    obtain ⟨written, part, before, done⟩ := first.content
    have strict : written ≠ data := fun same => by simpa using done.mpr same
    refine ⟨written, part.trans (List.prefix_append data more), before, by simp, fun whole => ?_⟩
    subst whole
    have none : more = [] := by simpa using part.length_le
    subst none
    exact absurd (by simp) strict
  opens := first.opens
  failed := first.failed
  fits := by simp

private theorem writeAll_appends (fs : Spiffs) (path : JournalPath) (chunks : List Bytes) :
    Appends fs (fs.writeAll path chunks).1 path chunks.flatten (fs.writeAll path chunks).2 := by
  induction chunks generalizing fs with
  | nil =>
    exact ⟨fun _ _ => rfl, ⟨[], List.prefix_rfl, by simp [writeAll], by simp [writeAll]⟩, rfl,
      by simp [writeAll], fun _ nonempty => absurd rfl nonempty⟩
  | cons data rest ih =>
    rw [List.flatten_cons, writeAll]
    by_cases whole : (fs.write path data).2 = data.length
    · simp only [whole, ne_eq, not_true_eq_false, ↓reduceIte]
      have first := write_appends fs path data true ⟨fun _ => whole, fun _ => rfl⟩
      exact first.trans (ih _)
    · simp only [whole, ne_eq, not_false_eq_true, ↓reduceIte]
      have first := write_appends fs path data false ⟨by simp, fun all => absurd all whole⟩
      exact first.cut _

/-- One appended frame: whole when the append returned true, a strict part of it
when it returned false. -/
theorem appendJournalFrame_appends (fs : Spiffs) (path : JournalPath) (bodyJson : Bytes) :
    Appends fs (fs.appendJournalFrame path bodyJson).1 path (frameOf bodyJson)
      (fs.appendJournalFrame path bodyJson).2 := by
  unfold appendJournalFrame openForAppend
  by_cases opens : fs.medium.opens = true
  · have written := writeAll_appends
      { fs with files := Function.update fs.files path (some (fs.contentOf path)) } path
      [writeU32Le (UInt32.ofNat bodyJson.length), bodyJson, writeU32Le (crc32 bodyJson),
        [kJournalCommitMarker]]
    have spelled :
        [writeU32Le (UInt32.ofNat bodyJson.length), bodyJson, writeU32Le (crc32 bodyJson),
        [kJournalCommitMarker]].flatten = frameOf bodyJson := by simp [frameOf]
    rw [spelled] at written
    simp only [opens, ↓reduceIte, Bool.not_true, Bool.false_eq_true]
    refine ⟨fun other different => (written.others other different).trans
      (by simp [Function.update_of_ne different]), ?_, written.opens, written.failed, ?_⟩
    · have content := written.content
      rwa [contentOf_update] at content
    · have fits := written.fits
      rwa [contentOf_update] at fits
  · have shut : fs.medium.opens = false := by simpa using opens
    simp only [shut, Bool.false_eq_true, ↓reduceIte, Bool.not_false]
    refine ⟨fun _ _ => rfl, ⟨[], List.nil_prefix, by simp [contentOf], ?_⟩, rfl, by simp, by simp⟩
    simp [frameOf]

/-- An append that returned true wrote a body the frame's length field can hold. -/
theorem Appends.small (appended : Appends fs fs' path (frameOf body) true) :
    body.length < 2 ^ 32 := by
  have bound := appended.fits rfl (by simp [frameOf])
  rw [List.length_append, frameOf_length, maxFileBytes] at bound
  omega

theorem Appends.whole (appended : Appends fs fs' path data true) :
    fs'.contentOf path = fs.contentOf path ++ data := by
  obtain ⟨written, _, after, done⟩ := appended.content
  rw [after, done.mp rfl]

/-- Without a refusal of the medium an append returns true. -/
theorem Appends.succeeds (appended : Appends fs fs' path data ok) (healthy : fs'.failed = false) :
    ok = true := by
  have both := appended.failed
  rw [healthy] at both
  simpa using (Bool.or_eq_false_iff.mp both.symm).2

theorem Appends.healthy (appended : Appends fs fs' path data ok) (after : fs'.failed = false) :
    fs.failed = false := by
  have both := appended.failed
  rw [after] at both
  exact (Bool.or_eq_false_iff.mp both.symm).1

end Spiffs

namespace EventJournal
open Spiffs

/-- The three ways an append of the journal ends. -/
inductive AppendOutcome (j : EventJournal) (guard : Prop) (body : Bytes)
    (recorded : EventJournalIndex) :
    EventJournal × Bool → Prop where
  | refused (unguarded : ¬ guard) : AppendOutcome j guard body recorded (j, false)
  | cut (guarded : guard) (appended : Appends j.fs after .dat (frameOf body) false) :
      AppendOutcome j guard body recorded ({ j with fs := after }, false)
  | written (guarded : guard) (appended : Appends j.fs after .dat (frameOf body) true) :
      AppendOutcome j guard body recorded ({ j with fs := after, index := recorded }, true)

/-- `append_event` goes to the file. -/
def AcceptsEvent (j : EventJournal) (record : JournalRecord) : Prop :=
  j.initOk = true ∧
    j.index.decideAppend record.eventId (frameSizeOf (encodeJournalEvent record)) = .ok

theorem appendEvent_outcome (j : EventJournal) (record : JournalRecord) :
    AppendOutcome j (j.AcceptsEvent record) (encodeJournalEvent record)
      (j.index.recordAppendedEvent record (frameSizeOf (encodeJournalEvent record)))
        (j.appendEvent record) := by
  unfold appendEvent AcceptsEvent
  split
  · rename_i unready
    exact .refused (by simp_all)
  rename_i ready
  simp only
  split
  · rename_i decision
    exact .refused (by simp [decision])
  · rename_i decision
    exact .refused (by simp [decision])
  · rename_i decision
    have appended := appendJournalFrame_appends j.fs .dat (encodeJournalEvent record)
    split
    · rename_i after result
      rw [result] at appended
      exact .cut ⟨by simpa using ready, decision⟩ appended
    · rename_i after result
      rw [result] at appended
      exact .written ⟨by simpa using ready, decision⟩ appended

theorem appendTransition_outcome (j : EventJournal) (transition : JournalTransition) :
    AppendOutcome j (j.initOk = true ∧ j.index.hasEvent transition.eventId = true)
      (encodeJournalTransition transition)
      (j.index.recordAppendedTransition transition
        (frameSizeOf (encodeJournalTransition transition)))
      (j.appendTransition transition) := by
  unfold appendTransition
  split
  · rename_i unready
    exact .refused (by simp_all)
  rename_i ready
  split
  · rename_i unknown
    exact .refused (by simp_all)
  rename_i known
  have appended := appendJournalFrame_appends j.fs .dat (encodeJournalTransition transition)
  simp only
  split
  · rename_i after result
    rw [result] at appended
    exact .cut ⟨by simpa using ready, by simpa using known⟩ appended
  · rename_i after result
    rw [result] at appended
    exact .written ⟨by simpa using ready, by simpa using known⟩ appended

/-- The records written for a list of ids. -/
def recordsOf (index : EventJournalIndex) (ids : List Bytes) : List JournalRecord :=
  ids.filterMap index.find

theorem writeRecords_true (index : EventJournalIndex) (fs : Spiffs) (ids : List Bytes)
    (done : writeRecords index fs ids = (fs', true)) :
    fs'.contentOf .tmp =
        fs.contentOf .tmp ++ framesOf ((recordsOf index ids).map encodeJournalEvent) ∧
      (∀ other, other ≠ .tmp → fs'.files other = fs.files other) ∧
      ∀ r ∈ recordsOf index ids, (encodeJournalEvent r).length < 2 ^ 32 := by
  induction ids generalizing fs with
  | nil =>
    rw [writeRecords] at done
    cases done
    simp [recordsOf]
  | cons id rest ih =>
    rw [writeRecords] at done
    cases found : index.find id with
    | none =>
      rw [found] at done
      simpa [recordsOf, found] using ih fs done
    | some r =>
      have appended := appendJournalFrame_appends fs .tmp (encodeJournalEvent r)
      rw [found] at done
      simp only at done
      cases result : fs.appendJournalFrame .tmp (encodeJournalEvent r) with
      | mk middle ok =>
        rw [result] at done appended
        cases ok with
        | false => cases done
        | true =>
          obtain ⟨content, others, small⟩ := ih middle done
          have spelled : recordsOf index (id :: rest) = r :: recordsOf index rest := by
            simp [recordsOf, found]
          refine ⟨?_, fun other different =>
            (others other different).trans (appended.others other different), ?_⟩
          · rw [content, appended.whole, spelled]
            simp
          · rw [spelled]
            intro written member
            rcases List.mem_cons.mp member with rfl | later
            · exact appended.small
            · exact small written later

/-- A chunk of ids that are all indexed: each is written and the cursor passes it. -/
theorem writeChunk_true (index : EventJournalIndex) (fs : Spiffs) (i : Nat) (ids : List Bytes)
    (known : ∀ id ∈ ids, ∃ r, index.find id = some r)
    (done : writeChunk index fs i i ids = (fs', cursor, true)) :
    cursor = i + ids.length ∧
      fs'.contentOf .tmp =
        fs.contentOf .tmp ++ framesOf ((recordsOf index ids).map encodeJournalEvent) ∧
      (∀ other, other ≠ .tmp → fs'.files other = fs.files other) ∧
      ∀ r ∈ recordsOf index ids, (encodeJournalEvent r).length < 2 ^ 32 := by
  induction ids generalizing fs i with
  | nil =>
    rw [writeChunk] at done
    cases done
    simp [recordsOf]
  | cons id rest ih =>
    obtain ⟨r, found⟩ := known id (by simp)
    rw [writeChunk] at done
    have appended := appendJournalFrame_appends fs .tmp (encodeJournalEvent r)
    rw [found] at done
    simp only at done
    cases result : fs.appendJournalFrame .tmp (encodeJournalEvent r) with
    | mk middle ok =>
      rw [result] at done appended
      cases ok with
      | false => cases done
      | true =>
        obtain ⟨moved, content, others, small⟩ :=
          ih middle (i + 1) (fun other member => known other (by simp [member])) done
        have spelled : recordsOf index (id :: rest) = r :: recordsOf index rest := by
          simp [recordsOf, found]
        refine ⟨by simp [moved]; omega, ?_,
          fun other different =>
            (others other different).trans (appended.others other different), ?_⟩
        · rw [content, appended.whole, spelled]
          simp
        · rw [spelled]
          intro written member
          rcases List.mem_cons.mp member with rfl | later
          · exact appended.small
          · exact small written later

/-- A chunk touches only the temp file, written whole or not. -/
theorem writeChunk_others (index : EventJournalIndex) (fs : Spiffs) (i cursor : Nat)
    (ids : List Bytes) (different : other ≠ .tmp) :
    (writeChunk index fs i cursor ids).1.files other = fs.files other := by
  induction ids generalizing fs i cursor with
  | nil => rfl
  | cons id rest ih =>
    rw [writeChunk]
    cases found : index.find id with
    | none => exact ih fs _ _
    | some r =>
      have appended := appendJournalFrame_appends fs .tmp (encodeJournalEvent r)
      simp only
      cases result : fs.appendJournalFrame .tmp (encodeJournalEvent r) with
      | mk middle ok =>
        rw [result] at appended
        cases ok with
        | false => exact appended.others other different
        | true => exact (ih middle _ _).trans (appended.others other different)

theorem writeRecords_others (index : EventJournalIndex) (fs : Spiffs) (ids : List Bytes)
    (different : other ≠ .tmp) : (writeRecords index fs ids).1.files other = fs.files other := by
  induction ids generalizing fs with
  | nil => rfl
  | cons id rest ih =>
    rw [writeRecords]
    cases found : index.find id with
    | none => exact ih fs
    | some r =>
      have appended := appendJournalFrame_appends fs .tmp (encodeJournalEvent r)
      simp only
      cases result : fs.appendJournalFrame .tmp (encodeJournalEvent r) with
      | mk middle ok =>
        rw [result] at appended
        cases ok with
        | false => exact appended.others other different
        | true => exact (ih middle).trans (appended.others other different)

/-- The end of a compaction: the live journal is untouched, or it is the temp file
and the index is rebuilt. -/
inductive FinishOutcome (j : EventJournal) (keep : List Bytes) : EventJournal × Bool → Prop where
  | kept {after : Spiffs} (dat : after.contentOf .dat = j.fs.contentOf .dat)
      (old : after.files .old = none) :
      FinishOutcome j keep ({ j with fs := after }, false)
  | swapped {after : Spiffs} (dat : after.contentOf .dat = j.fs.contentOf .tmp)
      (old : after.files .old = none) (tmp : after.files .tmp = none) :
      FinishOutcome j keep
        ({ j with fs := after, index := j.index.rebuildAfterCompaction keep }, true)

theorem finishCompaction_outcome (j : EventJournal) (keep : List Bytes)
    (noOld : j.fs.files .old = none) :
    FinishOutcome j keep (j.finishCompaction keep) := by
  unfold finishCompaction
  simp only
  split
  · exact .kept (by simp [contentOf, remove]) (by simpa [remove] using noOld)
  by_cases live : j.fs.fileExists .dat = true
  · obtain ⟨content, here⟩ : ∃ content, j.fs.files .dat = some content :=
      Option.isSome_iff_exists.mp live
    simp only [live, ↓reduceIte, rename, here, noOld]
    by_cases renames : j.fs.medium.renames = true
    · simp only [renames, ↓reduceIte, Bool.not_true, Bool.false_eq_true]
      cases temp : j.fs.files .tmp with
      | none =>
        simp only [Function.update_of_ne (show JournalPath.tmp ≠ .old by decide),
          Function.update_of_ne (show JournalPath.tmp ≠ .dat by decide), temp]
        simp only [fileExists, Function.update_self, Option.isSome_some, ↓reduceIte,
          Function.update_of_ne (show JournalPath.dat ≠ .old by decide), renames]
        exact .kept (by simp [contentOf, here]) (by simp [Function.update_of_ne])
      | some written =>
        simp only [Function.update_of_ne (show JournalPath.tmp ≠ .old by decide),
          Function.update_of_ne (show JournalPath.tmp ≠ .dat by decide), temp, Function.update_self,
          Function.update_of_ne (show JournalPath.dat ≠ .old by decide)]
        exact .swapped (by simp [contentOf, remove, temp]) (by simp [remove])
          (by simp [remove, Function.update_of_ne])
    · have stuck : j.fs.medium.renames = false := by simpa using renames
      simp only [stuck, Bool.false_eq_true, ↓reduceIte, Bool.not_false]
      exact .kept (by simp [contentOf, remove]) (by simpa [remove] using noOld)
  · have missing : j.fs.files .dat = none := by
      simpa [fileExists] using live
    simp only [fileExists, missing, Option.isSome_none, Bool.false_eq_true, ↓reduceIte,
      Bool.not_true, rename]
    cases temp : j.fs.files .tmp with
    | none =>
      simp only [noOld, Option.isSome_none, Bool.false_eq_true, ↓reduceIte]
      exact .kept rfl noOld
    | some written =>
      by_cases renames : j.fs.medium.renames = true
      · simp only [renames, ↓reduceIte]
        exact .swapped (by simp [contentOf, remove, temp]) (by simp [remove])
          (by simp [remove, Function.update_of_ne])
      · have stuck : j.fs.medium.renames = false := by simpa using renames
        simp only [stuck, Bool.false_eq_true, ↓reduceIte, noOld, Option.isSome_none]
        exact .kept (by simp [contentOf, missing]) noOld

/-! Recovery of a journal whose last frame may be torn. -/

/-- Nothing, or bytes the scan stops at. -/
def Stops (tail : Bytes) : Prop :=
  tail = [] ∨ ∃ outcome, outcome ≠ .ok ∧ readFrame tail = .bad outcome

private theorem recover_okFrames (bodies : List Bytes) (offset : UInt32)
    (index : EventJournalIndex) :
    (okFrames offset bodies).foldl recoverFrame index =
      { index with
        usedBytes := bodies.foldl (fun used body => used + frameSizeOf body) index.usedBytes
        records :=
          (bodies.map entryOf).foldl (KeyedLog.apply JournalRecord.transition) index.records } := by
  induction bodies generalizing offset index with
  | nil => rfl
  | cons body bodies ih =>
    rw [okFrames, List.foldl_cons, ih]
    simp [recoverFrame, EventJournalIndex.applyScannedFrame_eq]

theorem recoverIndex_frames (fs : Spiffs) (capacityBytes : UInt32) (opens : fs.medium.opens = true)
    (content : fs.contentOf .dat = framesOf bodies ++ tail)
    (small : ∀ body ∈ bodies, body.length < 2 ^ 32) (stops : Stops tail) :
    recoverIndex fs capacityBytes =
      { capacityBytes := capacityBytes, usedBytes := usedBytesOf bodies,
        records := replayBodies bodies } := by
  have scanned : fs.scan .dat = scanJournal (framesOf bodies ++ tail) := by
    rw [← content, scan, contentOf]
    cases fs.files .dat with
    | none => rfl
    | some content => simp [opens]
  rw [recoverIndex, scanned, scanJournal_frames small, List.foldl_append, recover_okFrames]
  have quiet : ∀ index : EventJournalIndex,
      (scanLoop (tail.length + 1) (offsetAfter 0 bodies) tail).foldl recoverFrame index =
        index := by
    intro index
    rcases stops with rfl | ⟨outcome, different, read⟩
    · rfl
    · simp [scanLoop, read, recoverFrame, different]
  rw [quiet]
  rfl

theorem recoverOrphans_noOld (fs : Spiffs) (noOld : fs.files .old = none) :
    (recoverOrphans fs).contentOf .dat = fs.contentOf .dat ∧
      (recoverOrphans fs).files .old = none ∧ (recoverOrphans fs).files .tmp = none ∧
      (recoverOrphans fs).medium = fs.medium ∧ (recoverOrphans fs).failed = fs.failed := by
  unfold recoverOrphans
  simp only [fileExists, noOld, Option.isSome_none, Bool.and_false, Bool.false_eq_true, ↓reduceIte]
  by_cases temp : (fs.files .tmp).isSome = true
  · simp [temp, remove, contentOf, noOld]
  · have missing : fs.files .tmp = none := by simpa using temp
    simp [missing, noOld]

/-- The next boot of a journal without a leftover `.old`: the whole frames replayed. -/
theorem init_index (fs : Spiffs) (capacityBytes : UInt32) (bodies : List Bytes) (tail : Bytes)
    (mounts : fs.medium.mounts = true)
    (opens : fs.medium.opens = true) (noOld : fs.files .old = none)
    (content : fs.contentOf .dat = framesOf bodies ++ tail)
    (small : ∀ body ∈ bodies, body.length < 2 ^ 32) (stops : Stops tail) :
    (init fs capacityBytes).index =
        { capacityBytes := capacityBytes, usedBytes := usedBytesOf bodies,
          records := replayBodies bodies } ∧
      (init fs capacityBytes).fs = recoverOrphans fs ∧ (init fs capacityBytes).initOk = true := by
  obtain ⟨dat, _, _, medium, _⟩ := recoverOrphans_noOld fs noOld
  simp only [init, mounts, Bool.not_true, Bool.false_eq_true, ↓reduceIte, and_self, and_true]
  exact recoverIndex_frames _ _ (by rw [medium, opens]) (dat.trans content) small stops

end EventJournal

end Kiosk.Storage
