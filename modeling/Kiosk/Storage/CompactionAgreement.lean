import Kiosk.Storage.CompactionTicks

/-! The incremental compaction against the one-shot one: with nothing else in between
they leave the same files and the same index. -/
namespace Kiosk.Storage

open Library Protocol TransitionSystem

namespace Spiffs

/-- Two file systems no later call can tell apart, as long as their writes fit. -/
structure Alike (fs fs' : Spiffs) : Prop where
  files : fs.files = fs'.files
  opens : fs.medium.opens = fs'.medium.opens
  renames : fs.medium.renames = fs'.medium.renames

theorem Alike.scan (alike : Alike fs fs') (path : JournalPath) : fs.scan path = fs'.scan path := by
  rw [Spiffs.scan, Spiffs.scan, alike.files, alike.opens]

theorem Alike.fileExists (alike : Alike fs fs') (path : JournalPath) :
    fs.fileExists path = fs'.fileExists path := by
  rw [Spiffs.fileExists, Spiffs.fileExists, alike.files]

theorem Alike.remove (alike : Alike fs fs') (path : JournalPath) :
    Alike (fs.remove path) (fs'.remove path) :=
  ⟨by rw [Spiffs.remove, Spiffs.remove, alike.files], alike.opens, alike.renames⟩

theorem Alike.rename (alike : Alike fs fs') (source target : JournalPath) :
    Alike (fs.rename source target).1 (fs'.rename source target).1 ∧
      (fs.rename source target).2 = (fs'.rename source target).2 := by
  rw [Spiffs.rename, Spiffs.rename, alike.files, alike.renames]
  split
  · split
    · exact ⟨⟨rfl, alike.opens, alike.renames⟩, rfl⟩
    · exact ⟨⟨rfl, alike.opens, alike.renames⟩, rfl⟩
  · exact ⟨alike, rfl⟩

/-- A file that took `data` after what it held. -/
theorem files_of_content {fs after : Spiffs}
    (others : ∀ other, other ≠ path → after.files other = fs.files other)
    (content : after.contentOf path = data) (nonempty : data ≠ []) :
    after.files = Function.update fs.files path (some data) := by
  funext other
  by_cases same : other = path
  · subst same
    rw [Function.update_self]
    rw [contentOf] at content
    cases here : after.files other with
    | none => exact absurd (by simpa [here] using content.symm) nonempty
    | some found => simpa [here] using content
  · rw [Function.update_of_ne same, others other same]

end Spiffs

namespace EventJournal
open Spiffs

/-- The end of a compaction reads only the files, the medium and the index. -/
theorem finishCompaction_alike {j j' : EventJournal} (alike : Alike j.fs j'.fs)
    (index : j.index = j'.index) (keep : List Bytes) :
    (j.finishCompaction keep).1.fs.files = (j'.finishCompaction keep).1.fs.files ∧
      (j.finishCompaction keep).1.index = (j'.finishCompaction keep).1.index := by
  rw [finishCompaction, finishCompaction, alike.scan]
  simp only
  split
  · exact ⟨(alike.remove .tmp).files, index⟩
  rw [alike.fileExists]
  have moved : Alike (if j'.fs.fileExists .dat then j.fs.rename .dat .old else (j.fs, true)).1
        (if j'.fs.fileExists .dat then j'.fs.rename .dat .old else (j'.fs, true)).1 ∧
      (if j'.fs.fileExists .dat then j.fs.rename .dat .old else (j.fs, true)).2 =
        (if j'.fs.fileExists .dat then j'.fs.rename .dat .old else (j'.fs, true)).2 := by
    split
    · exact alike.rename .dat .old
    · exact ⟨alike, rfl⟩
  generalize (if j'.fs.fileExists .dat then j.fs.rename .dat .old else (j.fs, true)) =
    first at moved
  generalize (if j'.fs.fileExists .dat then j'.fs.rename .dat .old else (j'.fs, true)) =
    first' at moved
  obtain ⟨fs, ok⟩ := first
  obtain ⟨fs', ok'⟩ := first'
  obtain ⟨moved, same⟩ := moved
  obtain rfl : ok = ok' := same
  simp only
  split
  · exact ⟨(moved.remove .tmp).files, index⟩
  have swapped := moved.rename .tmp .dat
  generalize fs.rename .tmp .dat = second at swapped
  generalize fs'.rename .tmp .dat = second' at swapped
  obtain ⟨after, done⟩ := second
  obtain ⟨after', done'⟩ := second'
  obtain ⟨swapped, same⟩ := swapped
  obtain rfl : done = done' := same
  cases done with
  | false =>
    refine ⟨?_, index⟩
    simp only [swapped.fileExists]
    split
    · exact (swapped.rename .old .dat).1.files
    · exact swapped.files
  | true => exact ⟨(swapped.remove .old).files, by rw [index]⟩

/-- The files with the temp file of a compaction that has written these records. -/
def withTemp (files : JournalPath → Option Bytes) (written : List JournalRecord) :
    JournalPath → Option Bytes :=
  Function.update files .tmp
    (if written = [] then none else some (framesOf (written.map encodeJournalEvent)))

private theorem withTemp_more {fs after : Spiffs} {files : JournalPath → Option Bytes}
    {written more : List JournalRecord} (before : fs.files = withTemp files written)
    (others : ∀ other, other ≠ .tmp → after.files other = fs.files other)
    (content : after.contentOf .tmp = fs.contentOf .tmp ++ framesOf (more.map encodeJournalEvent))
    (nonempty : more ≠ []) : after.files = withTemp files (written ++ more) := by
  have held : fs.contentOf .tmp = framesOf (written.map encodeJournalEvent) := by
    rw [contentOf, before, withTemp, Function.update_self]
    split
    · rename_i none
      simp [none]
    · rfl
  rw [held, ← framesOf_append, ← List.map_append] at content
  have long : framesOf ((written ++ more).map encodeJournalEvent) ≠ [] := by
    intro none
    have short := congrArg List.length none
    obtain ⟨r, rest, rfl⟩ := List.exists_cons_of_ne_nil nonempty
    simp [frameOf_length] at short
  rw [files_of_content others content long, before, withTemp, withTemp, Function.update_idem,
    if_neg (by simp [nonempty])]

theorem recordsOf_ne_nil (index : EventJournalIndex)
    (known : ∀ id ∈ ids, ∃ r, index.find id = some r)
    (nonempty : ids ≠ []) : recordsOf index ids ≠ [] := by
  obtain ⟨id, rest, rfl⟩ := List.exists_cons_of_ne_nil nonempty
  obtain ⟨r, found⟩ := known id (by simp)
  simp [recordsOf, found]

theorem recordsOf_append (index : EventJournalIndex) (first second : List Bytes) :
    recordsOf index (first ++ second) = recordsOf index first ++ recordsOf index second :=
  List.filterMap_append

private theorem writeAll_renames (fs : Spiffs) (path : JournalPath) (chunks : List Bytes) :
    (fs.writeAll path chunks).1.medium.renames = fs.medium.renames := by
  induction chunks generalizing fs with
  | nil => rfl
  | cons data rest ih =>
    rw [Spiffs.writeAll]
    simp only
    split
    · rfl
    · exact ih (fs.write path data).1

private theorem append_renames (fs : Spiffs) (path : JournalPath) (bodyJson : Bytes) :
    (fs.appendJournalFrame path bodyJson).1.medium.renames = fs.medium.renames := by
  unfold appendJournalFrame openForAppend
  by_cases opens : fs.medium.opens = true
  · simp only [opens, ↓reduceIte, Bool.not_true, Bool.false_eq_true]
    exact writeAll_renames _ path _
  · simp [opens]

theorem writeRecords_medium (index : EventJournalIndex) (fs : Spiffs) (ids : List Bytes) :
    (writeRecords index fs ids).1.medium.opens = fs.medium.opens ∧
      (writeRecords index fs ids).1.medium.renames = fs.medium.renames := by
  induction ids generalizing fs with
  | nil => exact ⟨rfl, rfl⟩
  | cons id rest ih =>
    rw [writeRecords]
    cases found : index.find id with
    | none => exact ih fs
    | some r =>
      have opens := (appendJournalFrame_appends fs .tmp (encodeJournalEvent r)).opens
      have renames := append_renames fs .tmp (encodeJournalEvent r)
      simp only
      generalize fs.appendJournalFrame .tmp (encodeJournalEvent r) = result at opens renames
      obtain ⟨middle, ok⟩ := result
      cases ok with
      | false => exact ⟨opens, renames⟩
      | true => exact ⟨(ih middle).1.trans opens, (ih middle).2.trans renames⟩

/-- Writing more of the records of a compaction, from where its temp file stands. -/
theorem writeRecords_withTemp {fs after : Spiffs} {files : JournalPath → Option Bytes}
    {written : List JournalRecord}
    {index : EventJournalIndex} (before : fs.files = withTemp files written)
    (known : ∀ id ∈ ids, ∃ r, index.find id = some r)
    (done : writeRecords index fs ids = (after, true)) :
    after.files = withTemp files (written ++ recordsOf index ids) := by
  by_cases empty : ids = []
  · subst empty
    cases done
    simpa [recordsOf] using before
  · obtain ⟨content, others, _⟩ := writeRecords_true index fs ids done
    exact withTemp_more before others content (recordsOf_ne_nil index known empty)

/-- What a finished compaction left: the end of a compaction whose temp file holds
every kept record. -/
def EndsLike (after : EventJournal) (files : JournalPath → Option Bytes) (index : EventJournalIndex)
    (keep : List Bytes) : Prop :=
  ∀ j : EventJournal, j.fs.files = withTemp files (recordsOf index keep) → j.index = index →
    j.fs.medium.opens = true → j.fs.medium.renames = true →
      after.fs.files = (j.finishCompaction keep).1.fs.files ∧
        after.index = (j.finishCompaction keep).1.index

theorem EndsLike.agree {base : JournalPath → Option Bytes} {index : EventJournalIndex}
    {keep : List Bytes} (first : EndsLike after base index keep)
    (second : EndsLike after' base index keep) :
    after.fs.files = after'.fs.files ∧ after.index = after'.index := by
  let j : EventJournal :=
    { fs := { files := withTemp base (recordsOf index keep) }, index := index }
  have one := first j rfl rfl rfl rfl
  have two := second j rfl rfl rfl rfl
  exact ⟨one.1.trans two.1.symm, one.2.trans two.2.symm⟩

private theorem endsLike_finish {j : EventJournal} {index : EventJournalIndex}
    (files : j.fs.files = withTemp base (recordsOf index keep))
    (indexed : j.index = index) (opens : j.fs.medium.opens = true)
    (renames : j.fs.medium.renames = true) :
    EndsLike (j.finishCompaction keep).1 base index keep := fun _ files' indexed' opens' renames' =>
  finishCompaction_alike
    ⟨files.trans files'.symm, opens.trans opens'.symm, renames.trans renames'.symm⟩
    (indexed.trans indexed'.symm) keep

section Selecting
variable [StdSort]

theorem known_of_selected (j : EventJournal) (policy : CompactionPolicy) :
    ∀ id ∈ j.index.selectRecordsToKeep policy, ∃ r, j.index.find id = some r := fun _ member =>
  EventJournalIndex.known_of_select member

theorem compact_endsLike (j : EventJournal) (policy : CompactionPolicy) (ready : j.initOk = true)
    (drops : (j.index.selectRecordsToKeep policy).length ≠ j.index.recordCount.toNat)
    (opens : j.fs.medium.opens = true) (renames : j.fs.medium.renames = true)
    (healthy : (j.compact policy).1.fs.failed = false) :
    EndsLike (j.compact policy).1 j.fs.files j.index (j.index.selectRecordsToKeep policy) := by
  rw [compact, if_neg (by simp [ready])] at healthy ⊢
  simp only [if_neg drops] at healthy ⊢
  cases written : writeRecords j.index (j.fs.remove .tmp) (j.index.selectRecordsToKeep policy) with
  | mk after ok =>
    rw [written] at healthy
    cases ok with
    | false =>
      have refused :=
        writeRecords_failed j.index (j.fs.remove .tmp) (j.index.selectRecordsToKeep policy) written
      simp [remove, refused] at healthy
    | true =>
      have empty : (j.fs.remove .tmp).files = withTemp j.fs.files [] := by simp [remove, withTemp]
      have files := writeRecords_withTemp empty (j.known_of_selected policy) written
      have medium :=
        writeRecords_medium j.index (j.fs.remove .tmp) (j.index.selectRecordsToKeep policy)
      rw [written] at medium
      exact endsLike_finish files rfl (medium.1.trans opens) (medium.2.trans renames)

end Selecting

/-- One tick, with what the medium does during it. -/
def tick (j : EventJournal) (medium : Medium) : EventJournal := (j.on medium).compactTick

/-- An active compaction after `n` ticks, each of which wrote a whole chunk. -/
structure Writing (j : EventJournal) (base : JournalPath → Option Bytes) (index : EventJournalIndex)
    (keep : List Bytes) (n : Nat) : Prop where
  active : j.compactionActive = true
  indexed : j.index = index
  kept : j.compactionKeep = keep
  cursor : j.compactionWriteIndex = kCompactionRecordsPerTick * n
  short : n = 0 ∨ kCompactionRecordsPerTick * n < keep.length
  files : j.fs.files = withTemp base (recordsOf index (keep.take (kCompactionRecordsPerTick * n)))

/-- The ticks a compaction of `k` records takes. -/
def ticksFor (k : Nat) : Nat := max 1 ((k + 9) / kCompactionRecordsPerTick)

/-- Ticks of a journal with no active compaction do nothing. -/
theorem run_idle (j : EventJournal) (mediums : List Medium) (idle : j.compactionActive = false) :
    (run tick j mediums).fs.files = j.fs.files ∧ (run tick j mediums).index = j.index ∧
      (run tick j mediums).compactionActive = false := by
  induction mediums generalizing j with
  | nil => exact ⟨rfl, rfl, idle⟩
  | cons medium rest ih =>
    have same : j.tick medium = j.on medium := compactTick_idle idle
    rw [run_cons, same]
    exact ih (j.on medium) idle

section Ticking
variable {base : JournalPath → Option Bytes} {index : EventJournalIndex}
  {keep : List Bytes} {n : Nat}

theorem Writing.on {j : EventJournal} (writing : Writing j base index keep n) (medium : Medium) :
    Writing (j.on medium) base index keep n :=
  ⟨writing.active, writing.indexed, writing.kept, writing.cursor, writing.short, writing.files⟩

theorem Writing.chunk {j : EventJournal} (writing : Writing j base index keep n) :
    j.nextChunk = (keep.drop (kCompactionRecordsPerTick * n)).take kCompactionRecordsPerTick := by
  rw [nextChunk, writing.kept, writing.cursor]

/-- What a chunk written to its end leaves. -/
private theorem Writing.wrote {j : EventJournal} {after : Spiffs} {cursor : Nat}
    (writing : Writing j base index keep n) (known : ∀ id ∈ keep, ∃ r, index.find id = some r)
    (done : writeChunk j.index j.fs j.compactionWriteIndex j.compactionWriteIndex j.nextChunk =
      (after, cursor, true)) :
    cursor = min (kCompactionRecordsPerTick * (n + 1)) keep.length ∧
      after.files = withTemp base
        (recordsOf index (keep.take (kCompactionRecordsPerTick * (n + 1)))) ∧
      after.medium.opens = j.fs.medium.opens ∧ after.medium.renames = j.fs.medium.renames := by
  have inside : ∀ id ∈ j.nextChunk, ∃ r, j.index.find id = some r := by
    intro id member
    rw [writing.chunk] at member
    rw [writing.indexed]
    exact known id (List.mem_of_mem_drop (List.mem_of_mem_take member))
  have cursorAt := (writeChunk_true _ _ _ _ inside done).1
  have writes :=
    writeChunk_writes j.index j.fs j.compactionWriteIndex j.compactionWriteIndex j.nextChunk
  rw [done] at writes
  have files := writeRecords_withTemp writing.files inside writes
  have medium := writeRecords_medium j.index j.fs j.nextChunk
  rw [writes] at medium
  refine ⟨?_, ?_, medium⟩
  · have size : j.nextChunk.length =
        min kCompactionRecordsPerTick (keep.length - kCompactionRecordsPerTick * n) := by
      rw [writing.chunk]
      simp
    have short := writing.short
    rw [cursorAt, size, writing.cursor]
    rw [kCompactionRecordsPerTick] at short ⊢
    omega
  · rw [files, writing.indexed, ← recordsOf_append, writing.chunk, Nat.mul_succ, List.take_add]

/-- A tick writes the next chunk, or ends the compaction the way the one-shot one ends. -/
private theorem Writing.next {j : EventJournal} (writing : Writing j base index keep n)
    (known : ∀ id ∈ keep, ∃ r, index.find id = some r) (opens : j.fs.medium.opens = true)
    (renames : j.fs.medium.renames = true) (healthy : j.compactTick.fs.failed = false) :
    (n + 1 < ticksFor keep.length ∧ Writing j.compactTick base index keep (n + 1)) ∨
      (ticksFor keep.length ≤ n + 1 ∧ j.compactTick.compactionActive = false ∧
        EndsLike j.compactTick base index keep) := by
  have outcome := compactTick_outcome j writing.active
  generalize j.compactTick = after at outcome healthy
  rw [ticksFor]
  cases outcome with
  | aborted _ refused _ => rw [healthy] at refused; cases refused
  | more done short =>
    obtain ⟨cursor, files, _⟩ := writing.wrote known done
    rw [writing.kept] at short
    rw [kCompactionRecordsPerTick] at cursor ⊢
    refine .inl ⟨by omega, writing.active, writing.indexed, writing.kept, ?_, .inr ?_, files⟩
    · simp only [kCompactionRecordsPerTick]
      omega
    · simp only [kCompactionRecordsPerTick]
      omega
  | finished done passed =>
    obtain ⟨cursor, files, opened, renamed⟩ := writing.wrote known done
    rw [writing.kept] at passed ⊢
    have all : keep.length ≤ kCompactionRecordsPerTick * (n + 1) := by omega
    rw [List.take_of_length_le all] at files
    refine .inr ⟨?_, rfl,
      endsLike_finish files writing.indexed (opened.trans opens) (renamed.trans renames)⟩
    rw [kCompactionRecordsPerTick] at all ⊢
    omega

/-- The ticks up to the one that ends the compaction, and those after it. -/
private theorem Writing.run {j : EventJournal} {mediums : List Medium}
    (writing : Writing j base index keep n)
    (known : ∀ id ∈ keep, ∃ r, index.find id = some r) (before : n < ticksFor keep.length)
    (along : Along EventJournal.tick
      (fun j medium => (medium.opens = true ∧ medium.renames = true) ∧
      (j.tick medium).fs.failed = false) j mediums) :
    let last := TransitionSystem.run EventJournal.tick j mediums
    if n + mediums.length < ticksFor keep.length then last.compactionActive = true
    else last.compactionActive = false ∧ EndsLike last base index keep := by
  induction mediums generalizing j n with
  | nil => simpa [before] using writing.active
  | cons medium rest ih =>
    obtain ⟨⟨⟨opens, renames⟩, healthy⟩, later⟩ := along
    rcases (writing.on medium).next known opens renames
      healthy with ⟨more, next⟩ | ⟨last, idle, ends⟩
    · have result := ih next more later
      rwa [Nat.add_assoc, Nat.add_comm 1] at result
    · obtain ⟨files, indexed, still⟩ := run_idle (j.tick medium) rest idle
      rw [TransitionSystem.run_cons, List.length_cons, if_neg (by omega), EndsLike, files, indexed]
      exact ⟨still, ends⟩

end Ticking

/-- Something to drop, ticks on a medium that refuses nothing: the compaction ends with
its ⌈k / 10⌉-th tick, an empty one with its first, and then the files and the index are
those of the one-shot compaction. -/
theorem ticks_agree_with_compact [StdSort] (j : EventJournal) (policy : CompactionPolicy)
    (ready : j.initOk = true) (idle : j.compactionActive = false)
    (drops : (j.index.selectRecordsToKeep policy).length ≠ j.index.recordCount.toNat)
    (start medium : Medium) (works : medium.opens = true ∧ medium.renames = true)
    (healthy : (j.call medium (.compact policy)).1.fs.failed = false) (mediums : List Medium)
    (along : Along tick (fun j medium => (medium.opens = true ∧ medium.renames = true) ∧
      (j.tick medium).fs.failed = false) (j.call start (.beginCompaction policy)).1 mediums) :
    let ended := run tick (j.call start (.beginCompaction policy)).1 mediums
    (ended.compactionActive = false ↔
        ticksFor (j.index.selectRecordsToKeep policy).length ≤ mediums.length) ∧
      (ended.compactionActive = false →
        ended.fs.files = (j.call medium (.compact policy)).1.fs.files ∧
          ended.index = (j.call medium (.compact policy)).1.index) := by
  intro ended
  have begun : Writing (j.call start (.beginCompaction policy)).1 j.fs.files j.index
      (j.index.selectRecordsToKeep policy) 0 := by
    have guard : ¬ ((!(j.on start).initOk || (j.on start).compactionActive) = true) := by
      simp [on, ready, idle]
    have some : ¬ ((j.on start).index.selectRecordsToKeep policy).length =
        (j.on start).index.recordCount.toNat :=
      drops
    rw [call, beginCompaction, if_neg guard]
    simp only [if_neg some]
    exact ⟨rfl, rfl, rfl, rfl, .inl rfl, by simp [withTemp, recordsOf, remove, on]⟩
  have result := begun.run (j.known_of_selected policy) (by rw [ticksFor]; omega) along
  rw [Nat.zero_add] at result
  have oneShot := compact_endsLike (j.on medium) policy ready drops works.1 works.2 healthy
  by_cases unfinished : mediums.length < ticksFor (j.index.selectRecordsToKeep policy).length
  · rw [if_pos unfinished] at result
    have active : ended.compactionActive = true := result
    exact ⟨by simp [active, unfinished], by simp [active]⟩
  · rw [if_neg unfinished] at result
    exact ⟨⟨fun _ => Nat.le_of_not_lt unfinished, fun _ => result.1⟩,
      fun _ => result.2.agree oneShot⟩

/-- A pending event and an acked one. -/
private def oneAcked : EventJournal where
  index := {
    capacityBytes := 65536
    records := ((∅ : Records).insert (text "e1")
      { eventId := text "e1", eventType := text "SCAN" }).insert (text "e2")
      { eventId := text "e2", eventType := text "SCAN", syncStatus := .acked } }
  initOk := true

theorem ticks_agree_one_acked :
    (run tick (@call .insertion oneAcked {} (.beginCompaction { ackedRetentionCount := 0 })).1
        [{}]).fs.files =
      (@call .insertion oneAcked {} (.compact { ackedRetentionCount := 0 })).1.fs.files := by
  have agree := @ticks_agree_with_compact .insertion oneAcked { ackedRetentionCount := 0 } rfl rfl
    (by decide +kernel)
    {} {} ⟨rfl, rfl⟩ (by decide +kernel) [{}] (by decide +kernel)
  dsimp only at agree
  exact (agree.2 (by decide +kernel)).1

end EventJournal

end Kiosk.Storage
