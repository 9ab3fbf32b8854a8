import Kiosk.Library.Budget
import Kiosk.Protocol.Retention
import Kiosk.Storage.Compaction

/-! How many bytes the journal takes. `append_event` asks the capacity,
`append_transition` does not; a compaction rewrites records whose transitions the log
has already paid for. -/
namespace Kiosk.Storage

open Library Library.KeySearch Protocol TransitionSystem EventJournalIndex Budget

/-- The bytes of a record in a log. -/
def recordSize (r : JournalRecord) : Nat := (frameOf (encodeJournalEvent r)).length

section Sizes

private theorem bodyText_length (kind : Bytes) (fields : List Field) :
    (bodyText kind fields).length = kind.length + (fields.flatMap Field.text).length + 8 := by
  simp [bodyText, text]
  omega

/-- A record grows by less than the frame of the transition: its fields are written there. -/
theorem recordSize_transition (r : JournalRecord) (t : JournalTransition) :
    recordSize (r.transition t) ≤ recordSize r + (frameOf (encodeJournalTransition t)).length := by
  have changed : ((r.transition t).fields.flatMap Field.text).length =
      ((r.fields.take 10).flatMap Field.text).length +
        ((t.fields.drop 1).flatMap Field.text).length := by
    simp only [JournalRecord.fields, JournalRecord.transition, JournalTransition.fields,
      List.take_succ_cons,
      List.take_zero, List.drop_succ_cons, List.drop_zero, List.flatMap_cons, List.flatMap_nil,
        List.length_append,
      List.length_nil]
    omega
  have before : (r.fields.flatMap Field.text).length =
      ((r.fields.take 10).flatMap Field.text).length +
        ((r.fields.drop 10).flatMap Field.text).length := by
    rw [← List.length_append, ← List.flatMap_append, List.take_append_drop]
  have written : (t.fields.flatMap Field.text).length =
      ((t.fields.take 1).flatMap Field.text).length +
        ((t.fields.drop 1).flatMap Field.text).length := by
    rw [← List.length_append, ← List.flatMap_append, List.take_append_drop]
  rw [recordSize, recordSize, frameOf_length, frameOf_length, frameOf_length, encodeJournalEvent,
    encodeJournalEvent, encodeJournalTransition, bodyText_length, bodyText_length, bodyText_length]
  omega

private theorem escape_sanitize_length (input : Bytes) :
    (jsonEscape (sanitize input)).length ≤ (jsonEscape input).length := by
  have all : ∀ value : Fin 256,
      (jsonEscape (sanitizeByte (UInt8.ofFin value))).length ≤
        (jsonEscapeByte (UInt8.ofFin value)).length := by
    decide +kernel
  induction input with
  | nil => exact le_rfl
  | cons byte rest ih =>
    have head := all byte.toFin
    rw [UInt8.ofFin_toFin] at head
    simp only [jsonEscape, sanitize] at ih head ⊢
    rw [List.flatMap_cons, List.flatMap_append, List.flatMap_cons, List.length_append,
      List.length_append]
    omega

private theorem decimal_length_le {small large : Nat} (le : small ≤ large) :
    (decimal small).length ≤ (decimal large).length := by
  rw [decimal, decimal, List.length_map, List.length_map]
  have bound := (Nat.length_toDigits_le_iff (b := 10) (n := large) (by decide)
    Nat.length_toDigits_pos).mp le_rfl
  exact (Nat.length_toDigits_le_iff (by decide) Nat.length_toDigits_pos).mpr (le.trans_lt bound)

private theorem stored64_le (value : UInt64) : (stored64 value).toNat ≤ value.toNat := by
  unfold stored64
  split
  · exact le_rfl
  · rename_i large
    rw [Nat.not_lt] at large
    exact le_trans (by decide) large

private theorem string_stored_le (key : Key) (input : Bytes) :
    (Field.text ⟨key, .string (jsonEscape (sanitize input))⟩).length ≤
      (Field.text ⟨key, .string (jsonEscape input)⟩).length := by
  have shorter := escape_sanitize_length input
  simp only [Field.text, List.length_append]
  omega

private theorem number_stored_le (key : Key) (value : UInt64) :
    (Field.text ⟨key, .number (stored64 value).toNat⟩).length ≤
      (Field.text ⟨key, .number value.toNat⟩).length := by
  have shorter := decimal_length_le (stored64_le value)
  simp only [Field.text, List.length_append]
  omega

/-- What the file gives back is not larger than what was written. -/
theorem recordSize_stored (r : JournalRecord) : recordSize r.stored ≤ recordSize r := by
  rw [recordSize, recordSize, frameOf_length, frameOf_length, encodeJournalEvent,
    encodeJournalEvent, bodyText_length, bodyText_length]
  simp only [JournalRecord.fields, JournalRecord.stored, List.flatMap_cons, List.flatMap_nil,
    List.length_append]
  gcongr <;> first | exact string_stored_le _ _ | exact number_stored_le _ _

theorem transition_stored_length (t : JournalTransition) :
    (frameOf (encodeJournalTransition t.stored)).length ≤
      (frameOf (encodeJournalTransition t)).length := by
  rw [frameOf_length, frameOf_length, encodeJournalTransition, encodeJournalTransition,
    bodyText_length, bodyText_length]
  simp only [JournalTransition.fields, JournalTransition.stored, List.flatMap_cons,
    List.flatMap_nil, List.length_append]
  gcongr <;> exact string_stored_le _ _

/-- The accounted size is the size as long as it fits. -/
theorem frameSizeOf_toNat (small : (frameOf body).length < 2 ^ 32) :
    (frameSizeOf body).toNat = (frameOf body).length := by
  rw [frameOf_length] at small ⊢
  rw [frameSizeOf, kJournalFrameOverheadBytes, UInt32.toNat_add, UInt32.toNat_ofNat']
  have nine : (9 : UInt32).toNat = 9 := rfl
  omega

theorem used_add {used capacityBytes : UInt32}
    (fits : used.toNat + (frameOf body).length ≤ capacityBytes.toNat) :
    (used + frameSizeOf body).toNat = used.toNat + (frameOf body).length := by
  have bound := capacityBytes.toNat_lt
  rw [UInt32.toNat_add, frameSizeOf_toNat (by omega)]
  omega

end Sizes

namespace EventJournal

/-- Neither the account nor a file is above the capacity. -/
structure WithinCapacity (j : EventJournal) : Prop where
  used : j.index.usedBytes ≤ j.index.capacityBytes
  file : (j.fs.contentOf .dat).length ≤ j.index.capacityBytes.toNat

/-- The frame still fits the account and the file. -/
def Fits (j : EventJournal) (body : Bytes) : Prop :=
  j.index.usedBytes.toNat + (frameOf body).length ≤ j.index.capacityBytes.toNat ∧
    (j.fs.contentOf .dat).length + (frameOf body).length ≤ j.index.capacityBytes.toNat

/-- The records and a rewrite under way are paid for. -/
structure Solvent (j : EventJournal) : Prop where
  used : j.index.usedBytes.toNat ≤ j.index.capacityBytes.toNat
  files : ∀ path, (j.fs.contentOf path).length ≤ j.index.capacityBytes.toNat
  records : Within recordSize j.index.find j.index.usedBytes.toNat
  once : j.compactionKeep.Nodup
  rewrite : j.compactionActive = true → (j.fs.contentOf .tmp).length +
    total recordSize j.index.find (j.compactionKeep.drop j.compactionWriteIndex) ≤
      j.index.usedBytes.toNat

theorem Solvent.within (solvent : Solvent j) : WithinCapacity j :=
  ⟨UInt32.le_iff_toNat_le.mpr solvent.used, solvent.files .dat⟩

section Appends

variable {j : EventJournal} {index : EventJournalIndex} {after : Spiffs} {body : Bytes}

private theorem appends_files (solvent : Solvent j) (fits : j.Fits body)
    (appended : Spiffs.Appends j.fs after .dat (frameOf body) ok) (path : JournalPath) :
    (after.contentOf path).length ≤ j.index.capacityBytes.toNat := by
  by_cases live : path = .dat
  · subst live
    obtain ⟨written, part, content, _⟩ := appended.content
    have short := part.length_le
    have room := fits.2
    rw [content, List.length_append]
    omega
  · have before := solvent.files path
    rwa [Spiffs.contentOf, appended.others path live]

/-- An append that fits is paid for, if one record changes by no more than the frame. -/
private theorem append_solvent (solvent : Solvent j) (fits : j.Fits body)
    (appended : Spiffs.Appends j.fs after .dat (frameOf body) true) (key : Bytes)
    (used : index.usedBytes = j.index.usedBytes + frameSizeOf body)
    (capacity : index.capacityBytes = j.index.capacityBytes)
    (others : ∀ other, other ≠ key → index.find other = j.index.find other)
    (here : cost recordSize index.find key ≤
      cost recordSize j.index.find key + (frameOf body).length) :
    Solvent { j with fs := after, index := index } := by
  have account := used_add fits.1
  refine ⟨?_, ?_, ?_, solvent.once, ?_⟩
  · simpa only [used, capacity, account] using fits.1
  · intro path
    rw [capacity]
    exact appends_files solvent fits appended path
  · simpa only [used, account] using solvent.records.change key others here
  · intro active
    have before := solvent.rewrite active
    have grown := total_change key others here
      (solvent.once.sublist (List.drop_sublist j.compactionWriteIndex j.compactionKeep))
    have same : after.files .tmp = j.fs.files .tmp := appended.others .tmp (by decide)
    rw [Spiffs.contentOf] at before
    simp only [used, account, Spiffs.contentOf, same]
    omega

private theorem cut_solvent (solvent : Solvent j) (fits : j.Fits body)
    (appended : Spiffs.Appends j.fs after .dat (frameOf body) false) :
    Solvent { j with fs := after } := by
  have same : after.files .tmp = j.fs.files .tmp := appended.others .tmp (by decide)
  refine ⟨solvent.used, fun path => appends_files solvent fits appended path, solvent.records,
    solvent.once, fun active => ?_⟩
  have before := solvent.rewrite active
  rwa [Spiffs.contentOf, ← same] at before

theorem appendEvent_solvent (solvent : Solvent j)
    (fits : j.AcceptsEvent record → j.Fits (encodeJournalEvent record)) :
    Solvent (j.appendEvent record).1 := by
  have outcome := appendEvent_outcome j record
  generalize j.appendEvent record = result at outcome
  cases outcome with
  | refused unguarded => exact solvent
  | cut guarded appended => exact cut_solvent solvent (fits guarded) appended
  | written guarded appended =>
    refine append_solvent solvent (fits guarded) appended record.eventId rfl rfl ?_ ?_
    · intro other differ
      rw [recordAppendedEvent, EventJournalIndex.find, KeyedLog.lookup_insert,
        if_neg (Ne.symm differ)]
      rfl
    · have found :
            (j.index.recordAppendedEvent record (frameSizeOf (encodeJournalEvent record))).find
            record.eventId =
          some record := by
        rw [recordAppendedEvent, EventJournalIndex.find, KeyedLog.lookup_insert, if_pos rfl]
      rw [cost, found]
      exact Nat.le_add_left _ _

/-- A transition leaves the other records and makes its own no larger than its frame allows. -/
private theorem transition_cost (index : EventJournalIndex) (t : JournalTransition)
    (size : UInt32) :
    (∀ other, other ≠ t.eventId →
      (index.recordAppendedTransition t size).find other = index.find other) ∧
    cost recordSize (index.recordAppendedTransition t size).find t.eventId ≤
      cost recordSize index.find t.eventId + (frameOf (encodeJournalTransition t)).length := by
  constructor
  · intro other differ
    rw [recordAppendedTransition, EventJournalIndex.find, KeyedLog.lookup_modify,
      if_neg (Ne.symm differ)]
    rfl
  · have found :
        (index.recordAppendedTransition t size).find t.eventId =
        (index.find t.eventId).map (·.transition t) := by
      rw [recordAppendedTransition, EventJournalIndex.find, KeyedLog.lookup_modify, if_pos rfl]
      rfl
    rw [cost, cost, found]
    cases index.find t.eventId with
    | none => exact Nat.zero_le _
    | some r => exact recordSize_transition r t

theorem appendTransition_solvent (solvent : Solvent j)
    (fits : j.initOk = true ∧ j.index.hasEvent t.eventId = true →
      j.Fits (encodeJournalTransition t)) :
    Solvent (j.appendTransition t).1 := by
  have outcome := appendTransition_outcome j t
  generalize j.appendTransition t = result at outcome
  cases outcome with
  | refused unguarded => exact solvent
  | cut guarded appended => exact cut_solvent solvent (fits guarded) appended
  | written guarded appended =>
    obtain ⟨others, here⟩ := transition_cost j.index t (frameSizeOf (encodeJournalTransition t))
    exact append_solvent solvent (fits guarded) appended t.eventId rfl rfl others here

end Appends

section Rewrite

variable {fs : Spiffs} {limit : Nat}

private theorem remove_files (bounded : ∀ path, (fs.contentOf path).length ≤ limit)
    (removed path : JournalPath) :
    ((fs.remove removed).contentOf path).length ≤ limit := by
  have before := bounded path
  simp only [Spiffs.contentOf, Spiffs.remove, Function.update_apply] at before ⊢
  split
  · exact Nat.zero_le _
  · exact before

private theorem rename_files (bounded : ∀ path, (fs.contentOf path).length ≤ limit)
    (source target path : JournalPath) :
    ((fs.rename source target).1.contentOf path).length ≤ limit := by
  unfold Spiffs.rename
  split
  · rename_i content here free
    split
    · have moved := bounded source
      have before := bounded path
      simp only [Spiffs.contentOf, here, Function.update_apply, Option.getD_some] at before moved ⊢
      split
      · exact moved
      split
      · exact Nat.zero_le _
      · exact before
    · exact bounded path
  · exact bounded path

/-- A chunk moves what the records weigh from the list to the temp file. -/
private theorem writeChunk_paid (index : EventJournalIndex) (keep : List Bytes) (fs : Spiffs)
    (i cursor : Nat) (ids rest : List Bytes) (listed : keep.drop i = ids ++ rest)
    (behind : total recordSize index.find (keep.drop cursor) ≤
      total recordSize index.find (keep.drop i))
    (done : writeChunk index fs i cursor ids = (fs', cursor', true)) :
    (fs'.contentOf .tmp).length + total recordSize index.find (keep.drop cursor') ≤
      (fs.contentOf .tmp).length + total recordSize index.find (keep.drop i) := by
  induction ids generalizing fs i cursor with
  | nil =>
    cases done
    omega
  | cons id ids ih =>
    have tail : keep.drop (i + 1) = ids ++ rest := by
      rw [← List.tail_drop, listed, List.cons_append, List.tail_cons]
    have weight : total recordSize index.find (keep.drop i) =
        cost recordSize index.find id + total recordSize index.find (keep.drop (i + 1)) := by
      rw [listed, tail, List.cons_append, total_cons]
    rw [writeChunk] at done
    cases found : index.find id with
    | none =>
      rw [found] at done
      have nothing : cost recordSize index.find id = 0 := by rw [cost, found]; rfl
      have moved := ih fs (i + 1) cursor tail (by omega) done
      omega
    | some r =>
      have written : cost recordSize index.find id = recordSize r := by rw [cost, found]; rfl
      have appended := Spiffs.appendJournalFrame_appends fs .tmp (encodeJournalEvent r)
      rw [found] at done
      simp only at done
      cases result : fs.appendJournalFrame .tmp (encodeJournalEvent r) with
      | mk middle ok =>
        rw [result] at done appended
        cases ok with
        | false => cases done
        | true =>
          have moved := ih middle (i + 1) (i + 1) tail le_rfl done
          rw [appended.whole, List.length_append, ← recordSize] at moved
          omega

theorem usedBytesOf_toNat (bodies : List Bytes)
    (small : (bodies.map fun body => (frameOf body).length).sum < 2 ^ 32) :
    (usedBytesOf bodies).toNat = (bodies.map fun body => (frameOf body).length).sum := by
  induction bodies using List.reverseRecOn with
  | nil => rfl
  | append_singleton bodies body ih =>
    rw [List.map_append, List.sum_append, List.map_singleton, List.sum_singleton] at small ⊢
    rw [usedBytesOf_append, UInt32.toNat_add, ih (by omega), frameSizeOf_toNat (by omega),
      Nat.mod_eq_of_lt small]

theorem recordsOf_total (index : EventJournalIndex) (keep : List Bytes) :
    (((recordsOf index keep).map encodeJournalEvent).map fun body => (frameOf body).length).sum =
      total recordSize index.find keep := by
  induction keep with
  | nil => rfl
  | cons id rest ih =>
    rw [total_cons, ← ih, cost, recordsOf, recordsOf]
    cases found : index.find id with
    | none => simp [found]
    | some r => simp [found, recordSize]

/-- The rebuilt index weighs what it accounts for. -/
private theorem rebuilt_paid (index : EventJournalIndex) (keep : List Bytes) (once : keep.Nodup)
    (records : Within recordSize index.find index.usedBytes.toNat) :
    (index.rebuildAfterCompaction keep).usedBytes.toNat ≤ index.usedBytes.toNat ∧
      Within recordSize (index.rebuildAfterCompaction keep).find
        (index.rebuildAfterCompaction keep).usedBytes.toNat := by
  have paid := records keep once
  have bound := index.usedBytes.toNat_lt
  have used :
      (index.rebuildAfterCompaction keep).usedBytes.toNat = total recordSize index.find keep := by
    rw [usedBytes_rebuild, usedBytesOf_toNat _ (by rw [recordsOf_total]; omega), recordsOf_total]
  rw [used]
  refine ⟨paid, Within.restrict (fun key kept => ?_) fun key dropped => ?_⟩
  · rw [EventJournalIndex.find, lookup_rebuild, if_pos kept, EventJournalIndex.find]
  · rw [EventJournalIndex.find, lookup_rebuild, if_neg dropped]

/-- The end of a compaction pays with the rebuilt index or keeps the old one. -/
private theorem finishCompaction_solvent (solvent : Solvent j) :
    Solvent { (j.finishCompaction j.compactionKeep).1 with
      compactionActive := false, compactionKeep := [], compactionWriteIndex := 0 } := by
  have removed := fun path => remove_files solvent.files .tmp path
  have aside := fun path => rename_files solvent.files .dat .old path
  have unchanged {fs : Spiffs}
    (files : ∀ path, (fs.contentOf path).length ≤ j.index.capacityBytes.toNat) :
    Solvent { j with
      fs := fs, compactionActive := false, compactionKeep := [], compactionWriteIndex := 0 } :=
    ⟨solvent.used, files, solvent.records, List.nodup_nil, by simp⟩
  have rebuilt {fs : Spiffs}
    (files : ∀ path, (fs.contentOf path).length ≤ j.index.capacityBytes.toNat) :
      Solvent { j with
        fs := fs, index := j.index.rebuildAfterCompaction j.compactionKeep
        compactionActive := false, compactionKeep := [], compactionWriteIndex := 0 } := by
    obtain ⟨less, records⟩ := rebuilt_paid j.index j.compactionKeep solvent.once solvent.records
    exact ⟨less.trans solvent.used, files, records, List.nodup_nil, by simp⟩
  have moved : ∀ path,
        ((if j.fs.fileExists .dat then j.fs.rename .dat .old else (j.fs, true)).1.contentOf
        path).length ≤
      j.index.capacityBytes.toNat := by
    intro path
    split
    · exact aside path
    · exact solvent.files path
  unfold finishCompaction
  simp only
  split
  · exact unchanged removed
  generalize (if j.fs.fileExists .dat then j.fs.rename .dat .old else (j.fs, true)) =
    result at moved ⊢
  obtain ⟨fs, done⟩ := result
  cases done with
  | false => exact unchanged fun path => remove_files moved .tmp path
  | true =>
    have swapped := fun path => rename_files moved .tmp .dat path
    simp only [Bool.not_true, Bool.false_eq_true, ↓reduceIte]
    split
    · rename_i last result
      rw [result] at swapped
      refine unchanged fun path => ?_
      split
      · exact rename_files swapped .old .dat path
      · exact swapped path
    · rename_i last result
      rw [result] at swapped
      exact rebuilt fun path => remove_files swapped .old path

theorem beginCompaction_solvent [StdSort] (solvent : Solvent j) (policy : CompactionPolicy) :
    Solvent (j.beginCompaction policy).1 := by
  unfold beginCompaction
  split
  · exact solvent
  rename_i idle
  simp only
  split
  · refine ⟨solvent.used, solvent.files, solvent.records, List.nodup_nil, fun active => ?_⟩
    simp_all
  · refine ⟨solvent.used, fun path => remove_files solvent.files .tmp path, solvent.records,
      select_nodup, fun _ => ?_⟩
    have empty : (j.fs.remove .tmp).contentOf .tmp = [] := by simp [Spiffs.contentOf, Spiffs.remove]
    have paid := solvent.records (j.index.selectRecordsToKeep policy) select_nodup
    rw [empty, List.drop_zero, List.length_nil, Nat.zero_add]
    exact paid

theorem compactTick_solvent (solvent : Solvent j) : Solvent j.compactTick := by
  unfold compactTick
  split
  · exact solvent
  rename_i active
  have paid := solvent.rewrite (by simpa using active)
  have listed := (List.take_append_drop kCompactionRecordsPerTick
    (j.compactionKeep.drop j.compactionWriteIndex)).symm
  have others := fun other (different : other ≠ JournalPath.tmp) =>
    writeChunk_others j.index j.fs j.compactionWriteIndex
    j.compactionWriteIndex
      ((j.compactionKeep.drop j.compactionWriteIndex).take kCompactionRecordsPerTick) different
  simp only
  split
  · rename_i after cursor result
    rw [result] at others
    refine ⟨solvent.used, fun path => ?_, solvent.records, List.nodup_nil, by simp⟩
    by_cases temp : path = .tmp
    · subst temp
      simp [Spiffs.contentOf, Spiffs.remove]
    · have before := solvent.files path
      simp only [Spiffs.contentOf, Spiffs.remove, Function.update_of_ne temp] at before ⊢
      rwa [others path temp]
  · rename_i after cursor result
    have moved := writeChunk_paid j.index j.compactionKeep j.fs j.compactionWriteIndex
      j.compactionWriteIndex _ _
      listed le_rfl result
    rw [result] at others
    have advanced : Solvent { j with fs := after, compactionWriteIndex := cursor } := by
      refine ⟨solvent.used, fun path => ?_, solvent.records, solvent.once,
        fun _ => moved.trans paid⟩
      by_cases temp : path = .tmp
      · subst temp
        have limit := solvent.used
        simp only
        omega
      · have before := solvent.files path
        rwa [Spiffs.contentOf, ← others path temp] at before
    split
    · exact advanced
    · exact finishCompaction_solvent advanced

end Rewrite

section Boot

/-- The scan of a boot: each frame it accepts is paid for by its bytes. -/
private theorem scanned_paid {index : EventJournalIndex} (encoded : Encoded body)
    (records : Within recordSize index.find used) :
    Within recordSize (index.applyScannedFrame body (frameSizeOf body)).find
      (used + (frameOf body).length) := by
  have applied : (index.applyScannedFrame body (frameSizeOf body)).find =
      fun id => (KeyedLog.apply JournalRecord.transition index.records (entryOf body))[id]? := by
    rw [applyScannedFrame_eq]
    rfl
  rw [applied]
  cases encoded with
  | event r =>
    rw [entryOf_event]
    split
    · refine records.change (sanitize r.eventId) (fun other differ => ?_) ?_
      · rw [KeyedLog.lookup_create, if_neg (Ne.symm differ)]
        rfl
      · simp only [cost, KeyedLog.lookup_create, ↓reduceIte, EventJournalIndex.find]
        have less : recordSize r.stored ≤ (frameOf (encodeJournalEvent r)).length :=
          recordSize_stored r
        cases index.records[sanitize r.eventId]? with
        | none => simpa using less
        | some known => simp
    · exact records.mono (Nat.le_add_right _ _)
  | transition t =>
    rw [entryOf_transition]
    split
    · refine records.change (sanitize t.eventId) (fun other differ => ?_) ?_
      · rw [KeyedLog.lookup_change, if_neg (Ne.symm differ)]
        rfl
      · simp only [cost, KeyedLog.lookup_change, ↓reduceIte, EventJournalIndex.find]
        cases index.records[sanitize t.eventId]? with
        | none => simp
        | some r =>
          have grown := recordSize_transition r t.stored
          have less := transition_stored_length t
          simp only [Option.map_some, Option.elim_some]
          omega
    · exact records.mono (Nat.le_add_right _ _)

private theorem scanLoop_paid (fuel : Nat) (offset : UInt32) (file : Bytes)
    (index : EventJournalIndex)
    (room : index.usedBytes.toNat + file.length ≤ index.capacityBytes.toNat)
    (records : Within recordSize index.find index.usedBytes.toNat)
    (encoded : ∀ frame ∈ scanLoop fuel offset file, frame.outcome = .ok → Encoded frame.bodyJson) :
    let recovered := (scanLoop fuel offset file).foldl recoverFrame index
    recovered.capacityBytes = index.capacityBytes ∧
        recovered.usedBytes.toNat ≤ index.capacityBytes.toNat ∧
      Within recordSize recovered.find recovered.usedBytes.toNat := by
  induction fuel generalizing offset file index with
  | zero => exact ⟨rfl, by simp only [scanLoop, List.foldl_nil]; omega, records⟩
  | succ fuel ih =>
    rw [scanLoop] at encoded ⊢
    cases read : readFrame file with
    | eof => exact ⟨rfl, by simp only [List.foldl_nil]; omega, records⟩
    | bad outcome =>
      have bad := readFrame_bad read
      simp only [List.foldl_cons, List.foldl_nil, recoverFrame, bad, ↓reduceIte]
      exact ⟨trivial, by omega, records⟩
    | body body rest =>
      simp only [read, scanned_size] at encoded
      have size := readFrame_size read
      have fits : index.usedBytes.toNat + (frameOf body).length ≤ index.capacityBytes.toNat := by
        rw [frameOf_length]
        omega
      have own := encoded _ (List.mem_cons_self ..) rfl
      have account : (index.applyScannedFrame body (frameSizeOf body)).usedBytes.toNat =
          index.usedBytes.toNat + (frameOf body).length := by
        rw [applyScannedFrame_eq, ← used_add fits]
      have capacity :
          (index.applyScannedFrame body (frameSizeOf body)).capacityBytes =
          index.capacityBytes := by
        rw [applyScannedFrame_eq]
      have paid : Within recordSize (index.applyScannedFrame body (frameSizeOf body)).find
          (index.applyScannedFrame body (frameSizeOf body)).usedBytes.toNat :=
            account ▸ scanned_paid own records
      have next :=
        ih (offset + frameSizeOf body) rest (index.applyScannedFrame body (frameSizeOf body))
        (by rw [account, capacity, frameOf_length]; omega) paid
        (fun frame member => encoded frame (List.mem_cons_of_mem _ member))
      rw [capacity] at next
      simp only [List.foldl_cons, scanned_size, recoverFrame, ↓reduceIte]
      exact next

/-- The bytes a torn append left are not taken for a frame of the journal. -/
def OwnFrames (fs : Spiffs) : Prop :=
  ∀ frame ∈ (recoverOrphans fs).scan .dat, frame.outcome = .ok → Encoded frame.bodyJson

private theorem recoverOrphans_files {fs : Spiffs}
    (files : ∀ path, (fs.contentOf path).length ≤ limit) (path : JournalPath) :
    ((recoverOrphans fs).contentOf path).length ≤ limit := by
  have cleared :
      ∀ path, ((if fs.fileExists .tmp then fs.remove .tmp else fs).contentOf path).length ≤
      limit := by
    intro path
    split
    · exact remove_files files .tmp path
    · exact files path
  unfold recoverOrphans
  simp only
  split
  · exact rename_files cleared .old .dat path
  split
  · exact remove_files cleared .old path
  · exact cleared path

theorem init_solvent {fs : Spiffs} {capacityBytes : UInt32} (mounts : fs.medium.mounts = true)
    (files : ∀ path, (fs.contentOf path).length ≤ capacityBytes.toNat) (own : OwnFrames fs) :
    Solvent (init fs capacityBytes) ∧
      (init fs capacityBytes).index.capacityBytes = capacityBytes := by
  have bounded := fun path => recoverOrphans_files files path
  have empty :
      Within recordSize ({ capacityBytes := capacityBytes } : EventJournalIndex).find 0 := by
    intro keys _
    rw [Nat.le_zero, total]
    refine List.sum_eq_zero fun weight member => ?_
    obtain ⟨key, _, rfl⟩ := List.mem_map.mp member
    simp [cost, EventJournalIndex.find]
  have recovered :
        ∀ frames, (∃ fuel content,
        frames = scanLoop fuel 0 content ∧ content.length ≤ capacityBytes.toNat) →
      (∀ frame ∈ frames, frame.outcome = .ok → Encoded frame.bodyJson) →
      let index := frames.foldl recoverFrame { capacityBytes := capacityBytes }
      index.capacityBytes = capacityBytes ∧ index.usedBytes.toNat ≤ capacityBytes.toNat ∧
        Within recordSize index.find index.usedBytes.toNat := by
    rintro _ ⟨fuel, content, rfl, short⟩ encoded
    refine scanLoop_paid fuel 0 content { capacityBytes := capacityBytes } ?_ empty encoded
    simpa using short
  have frames : ∃ fuel content, (recoverOrphans fs).scan .dat = scanLoop fuel 0 content ∧
      content.length ≤ capacityBytes.toNat := by
    have short := bounded .dat
    rw [Spiffs.scan]
    rw [Spiffs.contentOf] at short
    cases here : (recoverOrphans fs).files .dat with
    | none => exact ⟨0, [], rfl, Nat.zero_le _⟩
    | some content =>
      rw [here] at short
      simp only
      split
      · exact ⟨_, content, rfl, short⟩
      · exact ⟨0, [], rfl, Nat.zero_le _⟩
  obtain ⟨capacity, used, records⟩ := recovered _ frames own
  have index : (init fs capacityBytes).index =
      ((recoverOrphans fs).scan .dat).foldl recoverFrame { capacityBytes := capacityBytes } := by
    simp [init, mounts, recoverIndex]
  have disk : (init fs capacityBytes).fs = recoverOrphans fs := by simp [init, mounts]
  refine ⟨⟨?_, ?_, ?_, ?_, ?_⟩, ?_⟩
  · rw [index, capacity]
    exact used
  · intro path
    rw [index, capacity, disk]
    exact bounded path
  · rw [index]
    exact records
  · simp [init, mounts]
  · simp [init, mounts]
  · rw [index, capacity]

end Boot

end EventJournal

/-- What the runtime does with the journal, and the boots. -/
inductive JournalInput where
  | call (medium : Medium) (call : JournalCall)
  | reboot

namespace EventJournal

section Run
variable [StdSort]

def resume (j : EventJournal) : JournalInput → EventJournal
  | .call medium call => (j.call medium call).1
  | .reboot => j.reboot

/-- Every frame that is written still fits, and a boot accepts only frames of the journal. -/
def PaysFor (j : EventJournal) : JournalInput → Prop
  | .call _ (.appendEvent record) => j.AcceptsEvent record → j.Fits (encodeJournalEvent record)
  | .call _ (.appendTransition transition) =>
    j.initOk = true ∧ j.index.hasEvent transition.eventId = true →
      j.Fits (encodeJournalTransition transition)
  | .call _ call => Incremental call
  | .reboot => OwnFrames { files := j.fs.files }

omit [StdSort] in
instance (j : EventJournal) (body : Bytes) : Decidable (j.Fits body) := by
  unfold Fits
  infer_instance

private theorem resume_solvent (solvent : Solvent j) (pays : j.PaysFor input) :
    Solvent (j.resume input) := by
  cases input with
  | reboot => exact (@init_solvent { files := j.fs.files } _ rfl solvent.files pays).1
  | call medium call =>
    have awake : Solvent (j.on medium) :=
      ⟨solvent.used, solvent.files, solvent.records, solvent.once, solvent.rewrite⟩
    cases call with
    | appendEvent record => exact appendEvent_solvent awake pays
    | appendTransition transition => exact appendTransition_solvent awake pays
    | compact policy => exact pays.elim
    | beginCompaction policy => exact beginCompaction_solvent awake policy
    | compactTick => exact compactTick_solvent awake

/-- In a run whose frames all fit when they are written, compactions and boots keep the
journal within its capacity. -/
theorem withinCapacity_of_paysFor (capacityBytes : UInt32) (inputs : List JournalInput)
    (along : Along resume PaysFor (fresh capacityBytes) inputs) :
    (run resume (fresh capacityBytes) inputs).WithinCapacity := by
  have start : Solvent (fresh capacityBytes) :=
    (init_solvent rfl (fun _ => Nat.zero_le _) (fun frame member => by cases member)).1
  exact (along.invariant start fun j input solvent pays => resume_solvent solvent pays).within

end Run

/-- One event and the transitions of its failing deliveries. -/
private def failingDeliveries (times : Nat) : List JournalInput :=
  .call { room := 65536 } (.appendEvent { eventId := text "e1", eventType := text "SCAN" }) ::
    List.replicate times (.call { room := 65536 }
      (.appendTransition { eventId := text "e1", lastErrorCode := text "TCP_CONNECT_FAIL" }))

/-- A journal that has room for the transitions, and a compaction of an acked event. -/
theorem withinCapacity_compacted :
    WithinCapacity (@run _ _ (@resume .insertion) (fresh 1024) (failingDeliveries 2 ++ [
      .call { room := 65536 } (.appendTransition { eventId := text "e1", syncStatus := .acked }),
      .call { room := 65536 } (.beginCompaction { ackedRetentionCount := 0 }),
      .call { room := 65536 } .compactTick])) := by
  refine @withinCapacity_of_paysFor .insertion 1024 _
    ⟨fun _ => ?_, fun _ => ?_, fun _ => ?_, fun _ => ?_, trivial, trivial, trivial⟩
  all_goals decide +kernel

/-- The transitions of failing deliveries alone exceed the capacity. -/
theorem deliveries_exceed_capacity :
    ¬ WithinCapacity (@run _ _ (@resume .insertion) (fresh 1024) (failingDeliveries 6)) := by
  intro within
  exact absurd within.used (by decide +kernel)

end EventJournal

end Kiosk.Storage
