import Kiosk.Library.CrashPoints
import Kiosk.Storage.Recovery

/-! A loss of power within `compact`. Its file operations are listed in the order in
which it makes them; the next boot is paired with every point between or within them. -/
namespace Kiosk.Storage

open Library Protocol EventJournalIndex TransitionSystem CrashPoints

/-- A call of the driver that changes a file. -/
inductive FileOp where
  | remove (path : JournalPath)
  | rename (source target : JournalPath)
  | append (path : JournalPath) (bodyJson : Bytes)
  deriving DecidableEq, Repr

namespace FileOp

def apply (fs : Spiffs) : FileOp → Spiffs
  | .remove path => fs.remove path
  | .rename source target => (fs.rename source target).1
  | .append path bodyJson => (fs.appendJournalFrame path bodyJson).1

/-- A part of a frame got into the file; the other two are atomic. -/
inductive Torn (fs : Spiffs) : FileOp → Spiffs → Prop
  | append (path : JournalPath) (bodyJson part : Bytes) (cut : part <+: frameOf bodyJson) :
      Torn fs (.append path bodyJson)
        { fs with files := Function.update fs.files path (some (fs.contentOf path ++ part)) }

end FileOp

namespace EventJournal

/-- The frames written to the temp file, up to a write that fails. -/
def recordOps (index : EventJournalIndex) (fs : Spiffs) : List Bytes → List FileOp
  | [] => []
  | eventId :: rest =>
    match index.find eventId with
    | none => recordOps index fs rest
    | some r =>
      .append .tmp (encodeJournalEvent r) ::
        match fs.appendJournalFrame .tmp (encodeJournalEvent r) with
        | (_, false) => [.remove .tmp]
        | (fs, true) => recordOps index fs rest

/-- From the second rename on. -/
def arriveOps (fs : Spiffs) : List FileOp :=
  .rename .tmp .dat ::
    match fs.rename .tmp .dat with
    | (fs, false) => if fs.fileExists .old then [.rename .old .dat] else []
    | (_, true) => [.remove .old]

/-- The operations of `finish_compaction_validate_and_swap`. -/
def swapOps (fs : Spiffs) (keep : List Bytes) : List FileOp :=
  let frames := fs.scan .tmp
  let bad := (frames.filter fun frame => frame.outcome ≠ .ok).length
  if bad > 0 || frames.length ≠ keep.length || okCount frames ≠ keep.length then [.remove .tmp]
  else if fs.fileExists .dat then
    .rename .dat .old ::
      match fs.rename .dat .old with
      | (_, false) => [.remove .tmp]
      | (fs, true) => arriveOps fs
  else arriveOps fs

/-- The operations of a compaction that keeps these records. -/
def rewriteOps (j : EventJournal) (keep : List Bytes) : List FileOp :=
  .remove .tmp :: recordOps j.index (j.fs.remove .tmp) keep ++
    match writeRecords j.index (j.fs.remove .tmp) keep with
    | (_, false) => []
    | (fs, true) => swapOps fs keep

/-- The operations of `compact`. -/
def compactOps [StdSort] (j : EventJournal) (policy : CompactionPolicy) : List FileOp :=
  if !j.initOk then []
  else
    let keep := j.index.selectRecordsToKeep policy
    if keep.length = j.index.recordCount.toNat then [] else j.rewriteOps keep

private theorem recordOps_run (index : EventJournalIndex) (fs : Spiffs) (ids : List Bytes) :
    run FileOp.apply fs (recordOps index fs ids) =
      match writeRecords index fs ids with
      | (after, false) => after.remove .tmp
      | (after, true) => after := by
  induction ids generalizing fs with
  | nil => rfl
  | cons id rest ih =>
    rw [recordOps, writeRecords]
    cases found : index.find id with
    | none => exact ih fs
    | some r =>
      simp only [run_cons, FileOp.apply]
      cases result : fs.appendJournalFrame .tmp (encodeJournalEvent r) with
      | mk after ok =>
        cases ok with
        | false => rfl
        | true => exact ih after

private theorem arriveOps_run (fs : Spiffs) :
    run FileOp.apply fs (arriveOps fs) =
      match fs.rename .tmp .dat with
      | (fs, false) => if fs.fileExists .old then (fs.rename .old .dat).1 else fs
      | (fs, true) => fs.remove .old := by
  rw [arriveOps, run_cons, FileOp.apply]
  cases fs.rename .tmp .dat with
  | mk after ok =>
    cases ok with
    | false => simp only; split <;> rfl
    | true => rfl

private theorem swapOps_run (j : EventJournal) (keep : List Bytes) :
    run FileOp.apply j.fs (swapOps j.fs keep) = (j.finishCompaction keep).1.fs := by
  unfold swapOps finishCompaction
  simp only
  split
  · rfl
  split
  · rw [run_cons, FileOp.apply]
    cases moved : j.fs.rename .dat .old with
    | mk after ok =>
      cases ok with
      | false => rfl
      | true =>
        simp only [Bool.not_true, Bool.false_eq_true, ↓reduceIte]
        rw [arriveOps_run]
        cases after.rename .tmp .dat with
        | mk last done => cases done <;> rfl
  · simp only [Bool.not_true, Bool.false_eq_true, ↓reduceIte]
    rw [arriveOps_run]
    cases j.fs.rename .tmp .dat with
    | mk last done => cases done <;> rfl

/-- The listed operations are what `compact` does to the files, whatever the medium refuses. -/
theorem compactOps_run [StdSort] (j : EventJournal) (policy : CompactionPolicy) :
    run FileOp.apply j.fs (j.compactOps policy) = (j.compact policy).1.fs := by
  unfold compactOps compact
  split
  · rfl
  simp only
  split
  · rfl
  rw [rewriteOps, List.cons_append, run_cons, run_append, FileOp.apply, recordOps_run]
  cases writeRecords j.index (j.fs.remove .tmp) (j.index.selectRecordsToKeep policy) with
  | mk after done =>
    cases done with
    | false => rfl
    | true => exact swapOps_run { j with fs := after } (j.index.selectRecordsToKeep policy)

/-- A compaction leaves no file aside, and the index as it was or rebuilt. -/
theorem compact_outcome [StdSort] (j : EventJournal) (policy : CompactionPolicy)
    (noOld : j.fs.files .old = none) :
    (j.compact policy).1.fs.files .old = none ∧ ((j.compact policy).1.index = j.index ∨
      (j.compact policy).1.index =
        j.index.rebuildAfterCompaction (j.index.selectRecordsToKeep policy)) := by
  unfold compact
  split
  · exact ⟨noOld, .inl rfl⟩
  simp only
  split
  · exact ⟨noOld, .inl rfl⟩
  have untouched :
      (writeRecords j.index (j.fs.remove .tmp) (j.index.selectRecordsToKeep policy)).1.files .old =
      none := by
    rw [writeRecords_others _ _ _ (by decide)]
    simpa [Spiffs.remove] using noOld
  cases writing : writeRecords j.index (j.fs.remove .tmp) (j.index.selectRecordsToKeep policy) with
  | mk after done =>
    rw [writing] at untouched
    cases done with
    | false => exact ⟨by simpa [Spiffs.remove] using untouched, .inl rfl⟩
    | true =>
      have outcome := finishCompaction_outcome { j with fs := after }
        (j.index.selectRecordsToKeep policy) untouched
      simp only
      generalize ({ j with fs := after } : EventJournal).finishCompaction
          (j.index.selectRecordsToKeep policy) =
        finished at outcome ⊢
      cases outcome with
      | kept _ old => exact ⟨old, .inl rfl⟩
      | swapped _ old _ => exact ⟨old, .inr rfl⟩

/-! What the next boot takes for the journal. -/

/-- The live file, or the one that was moved aside for it. -/
def durable (fs : Spiffs) : Option Bytes := (fs.files .dat).or (fs.files .old)

/-- The orphan recovery leaves the durable file and no other. -/
theorem recoverOrphans_durable (fs : Spiffs) (renames : fs.medium.renames = true) :
    (recoverOrphans fs).files .dat = durable fs ∧ (recoverOrphans fs).files .tmp = none ∧
      (recoverOrphans fs).files .old = none ∧ (recoverOrphans fs).medium = fs.medium := by
  have cleaned : ∃ clean : Spiffs, (if fs.fileExists .tmp then fs.remove .tmp else fs) = clean ∧
      clean.files .tmp = none ∧ clean.files .dat = fs.files .dat ∧
        clean.files .old = fs.files .old ∧
      clean.medium = fs.medium := by
    refine ⟨_, rfl, ?_⟩
    cases temp : fs.files .tmp with
    | none => simp [Spiffs.fileExists, temp]
    | some content => simp [Spiffs.fileExists, temp, Spiffs.remove]
  obtain ⟨clean, same, tmp, dat, old, medium⟩ := cleaned
  have recovered : recoverOrphans fs =
      if !(fs.files .dat).isSome && (fs.files .old).isSome then (clean.rename .old .dat).1
      else if (fs.files .dat).isSome && (fs.files .old).isSome then clean.remove .old
      else clean := by
    rw [← same]
    rfl
  rw [recovered, durable]
  rcases live : fs.files .dat with _ | content <;> rcases aside : fs.files .old with _ | other <;>
    rw [live] at dat <;> rw [aside] at old
  · simp [dat, tmp, old, medium]
  · simp [Spiffs.rename, dat, tmp, old, medium, renames, Function.update_of_ne]
  · simp [dat, tmp, old, medium]
  · simp [Spiffs.remove, dat, tmp, medium, Function.update_of_ne]

section Crashing
variable {fs after : Spiffs}

/-- The file moved aside is moved back, or stays. -/
private theorem restored (moved : fs.files .dat = none) :
    durable (FileOp.apply fs (.rename .old .dat)) = durable fs := by
  rw [FileOp.apply]
  cases aside : fs.files .old with
  | none => simp [Spiffs.rename, aside]
  | some content =>
    by_cases renames : fs.medium.renames = true
    · simp [Spiffs.rename, aside, moved, renames, durable]
    · simp [Spiffs.rename, aside, moved, renames, durable]

/-- Only an append can be torn. -/
private theorem crash_cons (crash : Crash FileOp.apply FileOp.Torn fs (op :: rest) after)
    (atomic : ∀ path bodyJson, op ≠ .append path bodyJson) :
    after = fs ∨ Crash FileOp.apply FileOp.Torn (op.apply fs) rest after := by
  cases crash with
  | stopped => exact .inl rfl
  | during part =>
    cases part with
    | append path bodyJson => exact absurd rfl (atomic path bodyJson)
  | later beyond => exact .inr beyond

private theorem crash_nil (crash : Crash FileOp.apply FileOp.Torn fs [] after) : after = fs := by
  cases crash with
  | stopped => rfl

/-- While the temp file is written the other two are as they were. -/
private theorem recordOps_crash {index : EventJournalIndex} {ids : List Bytes}
    (crash : Crash FileOp.apply FileOp.Torn fs (recordOps index fs ids) after) :
    ∀ path, path ≠ .tmp → after.files path = fs.files path := by
  have onlyTemp (ids : List Bytes) (fs : Spiffs) : ∀ op ∈ recordOps index fs ids,
      op = .remove .tmp ∨ ∃ bodyJson, op = .append .tmp bodyJson := by
    induction ids generalizing fs with
    | nil => simp [recordOps]
    | cons id rest ih =>
      intro op member
      rw [recordOps] at member
      split at member
      · exact ih fs op member
      · rcases List.mem_cons.mp member with rfl | later
        · exact .inr ⟨_, rfl⟩
        · split at later
          · exact .inl (List.mem_singleton.mp later)
          · exact ih _ op later
  intro path different
  refine crash.invariant (motive := fun now => now.files path = fs.files path) rfl ?_ ?_
  · intro op member now same
    rcases onlyTemp ids fs op member with rfl | ⟨bodyJson, rfl⟩
    · simpa [FileOp.apply, Spiffs.remove, Function.update_of_ne different] using same
    · exact ((Spiffs.appendJournalFrame_appends now .tmp bodyJson).others path different).trans same
  · intro op member now cut same torn
    cases torn with
    | append torn bodyJson part =>
      rcases onlyTemp ids fs _ member with impossible | ⟨_, temp⟩
      · cases impossible
      · cases temp
        simpa [Function.update_of_ne different] using same

private theorem arriveOps_crash (moved : fs.files .dat = none)
    (crash : Crash FileOp.apply FileOp.Torn fs (arriveOps fs) after) :
    durable after = durable fs ∨
      (fs.rename .tmp .dat).2 = true ∧ durable after = fs.files .tmp := by
  rw [arriveOps] at crash
  rcases crash_cons crash (by simp) with rfl | crash
  · exact .inl rfl
  rw [FileOp.apply] at crash
  cases temp : fs.files .tmp with
  | none =>
    have stuck : fs.rename .tmp .dat = (fs, false) := by simp [Spiffs.rename, temp]
    rw [stuck] at crash
    refine .inl ?_
    simp only at crash
    split at crash
    · rename_i aside
      rcases crash_cons crash (by simp) with rfl | crash
      · rfl
      · rw [crash_nil crash]
        exact restored moved
    · rw [crash_nil crash]
  | some content =>
    by_cases renames : fs.medium.renames = true
    · have arrived : fs.rename .tmp .dat = ({ fs with
          files :=
            Function.update (Function.update fs.files .tmp none) .dat (some content) }, true) := by
        simp [Spiffs.rename, temp, moved, renames]
      rw [arrived] at crash ⊢
      refine .inr ⟨rfl, ?_⟩
      simp only at crash
      rcases crash_cons crash (by simp) with rfl | crash
      · simp [durable]
      · rw [crash_nil crash]
        simp [durable, FileOp.apply, Spiffs.remove, Function.update_of_ne]
    · have stuck : fs.rename .tmp .dat = ({ fs with failed := true }, false) := by
        simp [Spiffs.rename, temp, moved, renames]
      rw [stuck] at crash
      refine .inl ?_
      simp only at crash
      split at crash
      · rcases crash_cons crash (by simp) with rfl | crash
        · rfl
        · rw [crash_nil crash]
          exact @restored { fs with failed := true } moved
      · rw [crash_nil crash]
        rfl

private theorem swapOps_crash {keep : List Bytes} (noOld : fs.files .old = none)
    (crash : Crash FileOp.apply FileOp.Torn fs (swapOps fs keep) after) :
    durable after = fs.files .dat ∨ durable after = fs.files .tmp ∧ fs.files .tmp ≠ none := by
  have start : durable fs = fs.files .dat := by simp [durable, noOld]
  unfold swapOps at crash
  simp only at crash
  split at crash
  · refine .inl ?_
    rcases crash_cons crash (by simp) with rfl | crash
    · exact start
    · rw [crash_nil crash]
      simp [durable, FileOp.apply, Spiffs.remove, noOld, Function.update_of_ne]
  split at crash
  · rename_i live
    obtain ⟨content, here⟩ := Option.isSome_iff_exists.mp live
    rcases crash_cons crash (by simp) with rfl | crash
    · exact .inl start
    rw [FileOp.apply] at crash
    by_cases renames : fs.medium.renames = true
    · have moved : fs.rename .dat .old = ({ fs with
          files :=
            Function.update (Function.update fs.files .dat none) .old (some content) }, true) := by
        simp [Spiffs.rename, here, noOld, renames]
      rw [moved] at crash
      simp only at crash
      rcases arriveOps_crash (by simp [Function.update_of_ne]) crash with kept | ⟨arrived, swapped⟩
      · refine .inl (kept.trans ?_)
        simp [durable, here, Function.update_of_ne]
      · refine .inr ?_
        simp only [Function.update_of_ne (show JournalPath.tmp ≠ .old by decide),
          Function.update_of_ne (show JournalPath.tmp ≠ .dat by decide)] at swapped
        refine ⟨swapped, fun missing => ?_⟩
        simp [Spiffs.rename, missing, Function.update_of_ne] at arrived
    · have stuck : fs.rename .dat .old = ({ fs with failed := true }, false) := by
        simp [Spiffs.rename, here, noOld, renames]
      rw [stuck] at crash
      refine .inl ?_
      simp only at crash
      rcases crash_cons crash (by simp) with rfl | crash
      · exact start
      · rw [crash_nil crash]
        simp [durable, FileOp.apply, Spiffs.remove, noOld, Function.update_of_ne]
  · rename_i missing
    have missing : fs.files .dat = none := by simpa [Spiffs.fileExists] using missing
    rcases arriveOps_crash missing crash with kept | ⟨arrived, swapped⟩
    · exact .inl (kept.trans start)
    · refine .inr ⟨swapped, fun gone => ?_⟩
      simp [Spiffs.rename, gone] at arrived

private theorem rewriteOps_crash {j : EventJournal} {keep : List Bytes}
    (noOld : j.fs.files .old = none)
    (crash : Crash FileOp.apply FileOp.Torn j.fs (j.rewriteOps keep) after) :
    durable after = j.fs.files .dat ∨
      (durable after).getD [] = framesOf ((recordsOf j.index keep).map encodeJournalEvent) ∧
        ∀ r ∈ recordsOf j.index keep, (encodeJournalEvent r).length < 2 ^ 32 := by
  have untouched (now : Spiffs) (same : ∀ path, path ≠ .tmp → now.files path = j.fs.files path) :
      durable now = j.fs.files .dat := by
    rw [durable, same .dat (by decide), same .old (by decide), noOld, Option.or_none]
  have removed : ∀ path, path ≠ .tmp → (j.fs.remove .tmp).files path = j.fs.files path :=
    fun path different => by simp [Spiffs.remove, Function.update_of_ne different]
  rw [rewriteOps, List.cons_append] at crash
  rcases crash_cons crash (by simp) with rfl | crash
  · exact .inl (untouched _ fun _ _ => rfl)
  rcases crash.append with writing | swapping
  · exact .inl (untouched _ fun path different =>
      (recordOps_crash writing path different).trans (removed path different))
  rw [FileOp.apply, recordOps_run] at swapping
  generalize writing : writeRecords j.index (j.fs.remove .tmp) keep = wrote at swapping
  have others : ∀ path, path ≠ .tmp → wrote.1.files path = j.fs.files path :=
    fun path different => by
    rw [← writing]
    exact (writeRecords_others _ _ _ different).trans (removed path different)
  obtain ⟨written, done⟩ := wrote
  cases done with
  | false =>
    rw [crash_nil swapping]
    refine .inl (untouched _ fun path different => ?_)
    rw [← others path different]
    simp [Spiffs.remove, Function.update_of_ne different]
  | true =>
    obtain ⟨temp, _, small⟩ := writeRecords_true _ _ _ writing
    rcases swapOps_crash ((others .old (by decide)).trans noOld) swapping with kept | ⟨swapped, _⟩
    · exact .inl (kept.trans (others .dat (by decide)))
    · refine .inr ⟨?_, small⟩
      rw [swapped]
      change written.contentOf .tmp = _
      rw [temp]
      simp [Spiffs.contentOf, Spiffs.remove]

/-- What a crash within `compact` leaves for the next boot: the log as it was, or the kept
records. -/
theorem compactOps_crash [StdSort] {j : EventJournal} {policy : CompactionPolicy}
    (noOld : j.fs.files .old = none)
    (crash : Crash FileOp.apply FileOp.Torn j.fs (j.compactOps policy) after) :
    durable after = j.fs.files .dat ∨
      (durable after).getD [] =
          framesOf ((recordsOf j.index (j.index.selectRecordsToKeep policy)).map
          encodeJournalEvent) ∧
        ∀ r ∈ recordsOf j.index (j.index.selectRecordsToKeep policy),
          (encodeJournalEvent r).length < 2 ^ 32 := by
  have idle : durable j.fs = j.fs.files .dat := by rw [durable, noOld, Option.or_none]
  unfold compactOps at crash
  split at crash
  · exact .inl (crash_nil crash ▸ idle)
  simp only at crash
  split at crash
  · exact .inl (crash_nil crash ▸ idle)
  · exact rewriteOps_crash noOld crash

end Crashing

/-- The next boot replays the durable file. -/
private theorem init_durable {records : Records} (fs : Spiffs) (capacityBytes : UInt32)
    (mirrors : Mirrors wholeRecord bodies records)
    (content : (durable fs).getD [] = framesOf bodies) (id : Bytes) :
    (init { files := fs.files } capacityBytes).index.find id = records[id]? := by
  obtain ⟨dat, _, _, medium⟩ := recoverOrphans_durable { files := fs.files } rfl
  have log : (recoverOrphans { files := fs.files }).contentOf .dat = framesOf bodies ++ [] := by
    rw [List.append_nil, ← content, Spiffs.contentOf, dat]
    rfl
  have recovered :=
    recoverIndex_frames _ capacityBytes (by rw [medium]) log mirrors.small (.inl rfl)
  change (recoverIndex (recoverOrphans { files := fs.files }) capacityBytes).records[id]? = _
  rw [recovered]
  simpa [wholeRecord] using mirrors.lookup id

/-- Wherever a crash cuts `compact`, the next boot rebuilds all records or the kept
ones, in both cases every live one, and leaves no other file. -/
theorem compact_crash_safe [StdSort] (j : EventJournal) (policy : CompactionPolicy)
    (recoverable : Recoverable j)
    (crash : Crash FileOp.apply FileOp.Torn j.fs (j.compactOps policy) after) :
    let booted := init { files := after.files } j.index.capacityBytes
    ((∀ id, booted.index.find id = j.index.find id) ∨
      ∀ id, booted.index.find id = if id ∈ j.index.selectRecordsToKeep policy then j.index.find id
        else none) ∧
    (∀ id r, j.index.find id = some r → isLive r.syncStatus = true →
      booted.index.find id = some r) ∧
    booted.fs.files .tmp = none ∧ booted.fs.files .old = none := by
  intro booted
  have rebuilt : (∀ id, booted.index.find id = j.index.find id) ∨
      ∀ id, booted.index.find id = if id ∈ j.index.selectRecordsToKeep policy then j.index.find id
        else none := by
    obtain ⟨bodies, log, mirrors, _⟩ := recoverable.log
    rcases compactOps_crash recoverable.noOld crash with kept | ⟨swapped, small⟩
    · exact .inl (init_durable after _ mirrors (by rw [kept]; exact log))
    · refine .inr fun id => ?_
      have range :
          ∀ r ∈ recordsOf j.index (j.index.selectRecordsToKeep policy), InCodecRange r := by
        intro r member
        obtain ⟨id, _, found⟩ := mem_recordsOf.mp member
        exact recoverable.range id r found
      have written : Mirrors wholeRecord _ _ :=
        mirrors_recordsOf recoverable.keyed (j.index.selectRecordsToKeep policy)
        (fun r member => congrArg _ (range r member).stored) small
      rw [init_durable after _ written swapped, lookup_rebuild]
      rfl
  have renames := recoverOrphans_durable { files := after.files } rfl
  refine ⟨rebuilt, fun id r found alive => ?_, renames.2.1, renames.2.2.1⟩
  rcases rebuilt with all | kept
  · rw [all, found]
  · rw [kept, if_pos (select_of_live found (by rw [isTerminal_eq, alive]; rfl)), found]

/-- The power fails between the two renames of a compaction that drops an acked event. -/
theorem compact_crash_between_renames :
    let j := @run _ _ (@step .insertion) (fresh 65536) [
      ({ room := 65536 }, .appendEvent { eventId := text "e1", eventType := text "SCAN" }),
      ({ room := 65536 }, .appendTransition { eventId := text "e1", syncStatus := .acked }),
      ({ room := 65536 },
        .appendEvent { eventId := text "e2", eventType := text "SCAN", deviceSeq := 2 })]
    let after :=
      run FileOp.apply j.fs ((@compactOps .insertion j { ackedRetentionCount := 0 }).take 3)
    let booted := init { files := after.files } j.index.capacityBytes
    ((∀ id, booted.index.find id = j.index.find id) ∨
      ∀ id, booted.index.find id =
        if id ∈ @selectRecordsToKeep .insertion j.index { ackedRetentionCount := 0 }
          then j.index.find id
        else none) ∧
    (∀ id r, j.index.find id = some r → isLive r.syncStatus = true →
      booted.index.find id = some r) ∧
    booted.fs.files .tmp = none ∧ booted.fs.files .old = none :=
  @compact_crash_safe _ .insertion _ { ackedRetentionCount := 0 }
    (@recoverable_along .insertion _ 65536 (by decide +kernel)) (.of_take _ _ 3)

end EventJournal

end Kiosk.Storage
