import Kiosk.Library.TransitionSystem
import Kiosk.Storage.JournalMirror

/-! The incremental compaction, tick by tick: where its cursor goes. -/
namespace Kiosk.Storage

open Library Protocol TransitionSystem

namespace EventJournal
open Spiffs

/-- The ids the next tick looks at. -/
def nextChunk (j : EventJournal) : List Bytes :=
  (j.compactionKeep.drop j.compactionWriteIndex).take kCompactionRecordsPerTick

theorem nextChunk_eq_nil (j : EventJournal) :
    j.nextChunk = [] ↔ j.compactionKeep.length ≤ j.compactionWriteIndex := by
  simp [nextChunk, kCompactionRecordsPerTick]

/-! The cursor. -/

/-- Ids that are gone are passed over in silence: nothing is written and the cursor stays. -/
theorem writeChunk_gone (index : EventJournalIndex) (fs : Spiffs) (i cursor : Nat)
    (gone : ∀ id ∈ ids, index.find id = none) :
    writeChunk index fs i cursor ids = (fs, cursor, true) := by
  induction ids generalizing i with
  | nil => rfl
  | cons id rest ih =>
    rw [writeChunk, gone id (by simp)]
    exact ih (i + 1) fun other member => gone other (by simp [member])

theorem writeChunk_le (index : EventJournalIndex) (fs : Spiffs) (i cursor : Nat) (ids : List Bytes)
    (behind : cursor ≤ i) : cursor ≤ (writeChunk index fs i cursor ids).2.1 := by
  induction ids generalizing fs i cursor with
  | nil => exact Nat.le_refl cursor
  | cons id rest ih =>
    rw [writeChunk]
    cases found : index.find id with
    | none => exact ih fs (i + 1) cursor (by omega)
    | some r =>
      simp only
      cases result : fs.appendJournalFrame .tmp (encodeJournalEvent r) with
      | mk after ok =>
        cases ok with
        | false => exact Nat.le_refl cursor
        | true => exact (Nat.le_succ_of_le behind).trans (ih after (i + 1) (i + 1) (Nat.le_refl _))

theorem writeChunk_bound (index : EventJournalIndex) (fs : Spiffs) (i cursor : Nat)
    (ids : List Bytes)
    (behind : cursor ≤ i) : (writeChunk index fs i cursor ids).2.1 ≤ i + ids.length := by
  induction ids generalizing fs i cursor with
  | nil => exact behind
  | cons id rest ih =>
    rw [writeChunk, List.length_cons]
    cases found : index.find id with
    | none =>
      have later := ih fs (i + 1) cursor (by omega)
      simp only
      omega
    | some r =>
      simp only
      cases result : fs.appendJournalFrame .tmp (encodeJournalEvent r) with
      | mk after ok =>
        cases ok with
        | false => exact behind.trans (Nat.le_add_right _ _)
        | true =>
          have later := ih after (i + 1) (i + 1) (Nat.le_refl _)
          simp only
          omega

/-- One id that is still there moves the cursor, unless the write failed. -/
theorem writeChunk_lt {id : Bytes} (index : EventJournalIndex) (fs : Spiffs) (i cursor : Nat)
    (member : id ∈ ids) (known : index.hasEvent id = true)
    (done : (writeChunk index fs i cursor ids).2.2 = true) :
    i < (writeChunk index fs i cursor ids).2.1 := by
  induction ids generalizing fs i cursor with
  | nil => cases member
  | cons head rest ih =>
    rw [writeChunk] at done ⊢
    cases found : index.find head with
    | none =>
      rw [found] at done
      have later : id ∈ rest := by
        rcases List.mem_cons.mp member with rfl | later
        · obtain ⟨r, here⟩ := hasEvent_some known
          rw [EventJournalIndex.find, here] at found
          cases found
        · exact later
      exact Nat.lt_of_succ_lt (ih fs (i + 1) cursor later done)
    | some r =>
      rw [found] at done
      simp only at done ⊢
      cases result : fs.appendJournalFrame .tmp (encodeJournalEvent r) with
      | mk after ok =>
        rw [result] at done
        cases ok with
        | false => cases done
        | true => exact writeChunk_le index after (i + 1) (i + 1) rest (Nat.le_refl _)

/-- With its last id still there the cursor passes the whole chunk. -/
theorem writeChunk_last {id : Bytes} (index : EventJournalIndex) (fs : Spiffs) (i cursor : Nat)
    (last : ids.getLast? = some id) (known : index.hasEvent id = true)
    (done : (writeChunk index fs i cursor ids).2.2 = true) :
    (writeChunk index fs i cursor ids).2.1 = i + ids.length := by
  induction ids generalizing fs i cursor with
  | nil => cases last
  | cons head rest ih =>
    have tail : rest ≠ [] → rest.getLast? = some id := by
      intro nonempty
      rwa [List.getLast?_cons_of_ne_nil nonempty] at last
    rw [writeChunk] at done ⊢
    cases found : index.find head with
    | none =>
      rw [found] at done
      have nonempty : rest ≠ [] := by
        rintro rfl
        obtain ⟨r, here⟩ := hasEvent_some known
        obtain rfl : head = id := by simpa using last
        rw [EventJournalIndex.find, here] at found
        cases found
      rw [List.length_cons, ih fs (i + 1) cursor (tail nonempty) done]
      omega
    | some r =>
      rw [found] at done
      simp only at done ⊢
      cases result : fs.appendJournalFrame .tmp (encodeJournalEvent r) with
      | mk after ok =>
        rw [result] at done
        cases ok with
        | false => cases done
        | true =>
          by_cases nonempty : rest = []
          · subst nonempty
            rfl
          · rw [List.length_cons]
            simp only
            rw [ih after (i + 1) (i + 1) (tail nonempty) done]
            omega

/-- A chunk is written the way the one-shot compaction writes its ids. -/
theorem writeChunk_writes (index : EventJournalIndex) (fs : Spiffs) (i cursor : Nat)
    (ids : List Bytes) :
    writeRecords index fs ids =
      ((writeChunk index fs i cursor ids).1, (writeChunk index fs i cursor ids).2.2) := by
  induction ids generalizing fs i cursor with
  | nil => rfl
  | cons id rest ih =>
    rw [writeRecords, writeChunk]
    cases found : index.find id with
    | none => exact ih fs (i + 1) cursor
    | some r =>
      simp only
      cases result : fs.appendJournalFrame .tmp (encodeJournalEvent r) with
      | mk after ok =>
        cases ok with
        | false => rfl
        | true => exact ih after (i + 1) (i + 1)

/-- A write that failed was refused by the medium. -/
theorem writeRecords_failed {after : Spiffs} (index : EventJournalIndex) (fs : Spiffs)
    (ids : List Bytes)
    (cut : writeRecords index fs ids = (after, false)) : after.failed = true := by
  induction ids generalizing fs with
  | nil => cases cut
  | cons id rest ih =>
    rw [writeRecords] at cut
    cases found : index.find id with
    | none =>
      rw [found] at cut
      exact ih fs cut
    | some r =>
      have appended := appendJournalFrame_appends fs .tmp (encodeJournalEvent r)
      rw [found] at cut
      simp only at cut
      cases result : fs.appendJournalFrame .tmp (encodeJournalEvent r) with
      | mk middle ok =>
        rw [result] at cut appended
        cases ok with
        | false =>
          cases cut
          simpa using appended.failed
        | true => exact ih middle cut

/-- The ways a tick of an active compaction ends. -/
inductive TickOutcome (j : EventJournal) : EventJournal → Prop where
  | aborted (inactive : after.compactionActive = false) (refused : after.fs.failed = true)
      (index : after.index = j.index) : TickOutcome j after
  | more {after : Spiffs} {cursor : Nat}
      (wrote : writeChunk j.index j.fs j.compactionWriteIndex j.compactionWriteIndex j.nextChunk =
        (after, cursor, true))
      (short : cursor < j.compactionKeep.length) :
      TickOutcome j { j with fs := after, compactionWriteIndex := cursor }
  | finished {after : Spiffs} {cursor : Nat}
      (wrote : writeChunk j.index j.fs j.compactionWriteIndex j.compactionWriteIndex j.nextChunk =
        (after, cursor, true))
      (passed : j.compactionKeep.length ≤ cursor) :
      TickOutcome j
        { ({ j with fs := after, compactionWriteIndex := cursor }.finishCompaction
          j.compactionKeep).1 with
          compactionActive := false
          compactionKeep := []
          compactionWriteIndex := 0 }

theorem compactTick_idle {j : EventJournal} (idle : j.compactionActive = false) :
    j.compactTick = j := by
  rw [compactTick, if_pos (by simp [idle])]

theorem compactTick_outcome (j : EventJournal) (active : j.compactionActive = true) :
    TickOutcome j j.compactTick := by
  rw [compactTick, if_neg (by simp [active])]
  simp only
  split
  · rename_i after cursor cut
    have writes :=
      writeChunk_writes j.index j.fs j.compactionWriteIndex j.compactionWriteIndex j.nextChunk
    rw [nextChunk, cut] at writes
    have refused : after.failed = true := writeRecords_failed _ _ _ writes
    exact .aborted rfl refused rfl
  · rename_i after cursor wrote
    split
    · rename_i short
      exact .more wrote short
    · rename_i long
      exact .finished wrote (Nat.le_of_not_lt long)

/-- A tick that ends the compaction or moves its cursor. -/
def Progresses (j after : EventJournal) : Prop :=
  after.compactionActive = false ∨ j.compactionWriteIndex < after.compactionWriteIndex

/-- A tick of an active compaction makes progress exactly when a record of its chunk is
still in the index, or no id is left. -/
theorem compactTick_progresses_iff (j : EventJournal) (active : j.compactionActive = true) :
    Progresses j j.compactTick ↔
      j.nextChunk = [] ∨ ∃ id ∈ j.nextChunk, j.index.hasEvent id = true := by
  constructor
  · intro progress
    by_contra stuck
    simp only [not_or, not_exists, not_and, Bool.not_eq_true] at stuck
    obtain ⟨nonempty, unknown⟩ := stuck
    have gone : ∀ id ∈ j.nextChunk, j.index.find id = none := by
      intro id member
      have absent := unknown id member
      rw [EventJournalIndex.hasEvent, Std.ExtTreeMap.contains_eq_isSome_getElem?] at absent
      rw [EventJournalIndex.find, ← Option.not_isSome_iff_eq_none, absent]
      exact Bool.false_ne_true
    have stays := writeChunk_gone j.index j.fs j.compactionWriteIndex j.compactionWriteIndex gone
    have short : j.compactionWriteIndex < j.compactionKeep.length := by
      by_contra long
      exact nonempty (j.nextChunk_eq_nil.mpr (Nat.le_of_not_lt long))
    unfold compactTick at progress
    rw [nextChunk] at stays
    simp [active, stays, short, Progresses] at progress
  · intro reach
    have outcome := compactTick_outcome j active
    generalize j.compactTick = after at outcome
    cases outcome with
    | aborted inactive _ _ => exact .inl inactive
    | finished _ _ => exact .inl rfl
    | more wrote short =>
      rcases reach with empty | ⟨id, member, known⟩
      · rw [empty] at wrote
        cases wrote
        exact absurd short (Nat.not_lt.mpr (j.nextChunk_eq_nil.mp empty))
      · have moved :=
          writeChunk_lt j.index j.fs j.compactionWriteIndex j.compactionWriteIndex member known
        rw [wrote] at moved
        exact .inr (moved rfl)

/-- The last id of the next chunk is still in the index. -/
def ReachesLast (j : EventJournal) : JournalCall → Prop
  | .compactTick =>
    j.compactionActive = true → ∀ last ∈ j.nextChunk.getLast?, j.index.hasEvent last = true
  | _ => True

instance (j : EventJournal) : (call : JournalCall) → Decidable (j.ReachesLast call)
  | .appendEvent _ | .appendTransition _ | .compact _ | .beginCompaction _ =>
    inferInstanceAs (Decidable True)
  | .compactTick =>
    inferInstanceAs (Decidable (_ → ∀ last ∈ j.nextChunk.getLast?, j.index.hasEvent last = true))

/-- Such a tick ends the compaction or passes a whole chunk. -/
theorem compactTick_reachesLast (j : EventJournal) (active : j.compactionActive = true)
    (reaches : j.ReachesLast .compactTick) (still : j.compactTick.compactionActive = true) :
    j.compactTick.compactionKeep = j.compactionKeep ∧
      j.compactTick.compactionWriteIndex = j.compactionWriteIndex + kCompactionRecordsPerTick ∧
      j.compactTick.compactionWriteIndex < j.compactionKeep.length := by
  have outcome := compactTick_outcome j active
  generalize j.compactTick = after at outcome still
  cases outcome with
  | aborted inactive _ _ => rw [inactive] at still; cases still
  | finished _ _ => cases still
  | more wrote short =>
    have moved : ∀ last, j.nextChunk.getLast? = some last →
        (writeChunk j.index j.fs j.compactionWriteIndex j.compactionWriteIndex j.nextChunk).2.1 =
          j.compactionWriteIndex + j.nextChunk.length := fun last ends =>
      writeChunk_last j.index j.fs j.compactionWriteIndex j.compactionWriteIndex ends
        (reaches active last ends)
        (by rw [wrote])
    have size : j.nextChunk.length =
        min kCompactionRecordsPerTick (j.compactionKeep.length - j.compactionWriteIndex) := by
      simp [nextChunk]
    rw [wrote] at moved
    cases ends : j.nextChunk.getLast? with
    | none =>
      rw [List.getLast?_eq_none_iff] at ends
      rw [ends] at wrote
      cases wrote
      exact absurd short (Nat.not_lt.mpr (j.nextChunk_eq_nil.mp ends))
    | some last =>
      have passed := moved last ends
      simp only at passed short ⊢
      refine ⟨trivial, ?_, short⟩
      omega

theorem init_idle (fs : Spiffs) (capacityBytes : UInt32) :
    (init fs capacityBytes).compactionActive = false := by
  rw [init]
  split <;> rfl

/-! What the other calls leave of an active compaction. -/

theorem finishCompaction_shape (j : EventJournal) (keep : List Bytes) :
    ∃ after, j.finishCompaction keep = ({ j with fs := after }, false) ∨
      j.finishCompaction keep =
        ({ j with fs := after, index := j.index.rebuildAfterCompaction keep }, true) := by
  unfold finishCompaction
  simp only
  split
  · exact ⟨_, .inl rfl⟩
  · split
    · split
      · exact ⟨_, .inl rfl⟩
      · split
        · exact ⟨_, .inl rfl⟩
        · exact ⟨_, .inr rfl⟩
    · split
      · exact ⟨_, .inl rfl⟩
      · split
        · exact ⟨_, .inl rfl⟩
        · exact ⟨_, .inr rfl⟩

variable [StdSort]

theorem compact_shape (j : EventJournal) (policy : CompactionPolicy) :
    ∃ after, (j.compact policy).1 = { j with fs := after } ∨
      (j.compact policy).1 =
        { j with
          fs := after
          index := j.index.rebuildAfterCompaction (j.index.selectRecordsToKeep policy) } := by
  unfold compact
  split
  · exact ⟨j.fs, .inl rfl⟩
  simp only
  split
  · exact ⟨j.fs, .inl rfl⟩
  split
  · exact ⟨_, .inl rfl⟩
  · rename_i written _
    obtain ⟨after, kept | swapped⟩ :=
      finishCompaction_shape { j with fs := written } (j.index.selectRecordsToKeep policy)
    · exact ⟨after, .inl (by rw [kept])⟩
    · exact ⟨after, .inr (by rw [swapped])⟩

end EventJournal

/-- A one-shot compaction made meanwhile drops no id the active one has still to write. -/
def EventJournal.Spares [StdSort] (j : EventJournal) : JournalCall → Prop
  | .compact policy => j.compactionActive = true →
    ∀ id ∈ j.compactionKeep.drop j.compactionWriteIndex, id ∈ j.index.selectRecordsToKeep policy
  | _ => True

/-- A journal with the ticks made since its last compaction began. -/
structure TickTrace where
  journal : EventJournal
  ticks : Nat := 0

namespace TickTrace
open EventJournal

section Runs
variable [StdSort]

def step (trace : TickTrace) (input : Medium × JournalCall) : TickTrace :=
  let result := trace.journal.call input.1 input.2
  { journal := result.1
    ticks :=
      match input.2 with
      | .beginCompaction _ => if result.2 then 0 else trace.ticks
      | .compactTick => trace.ticks + 1
      | _ => trace.ticks }

/-- An active compaction has moved a whole chunk with each of its ticks. -/
def Paced (trace : TickTrace) : Prop :=
  trace.journal.compactionActive = true →
    trace.journal.compactionWriteIndex = kCompactionRecordsPerTick * trace.ticks ∧
      (0 < trace.ticks → trace.journal.compactionWriteIndex < trace.journal.compactionKeep.length)

theorem paced_step (trace : TickTrace) (input : Medium × JournalCall) (paced : trace.Paced)
    (reaches : trace.journal.ReachesLast input.2) : (trace.step input).Paced := by
  obtain ⟨medium, call⟩ := input
  cases call with
  | appendEvent record =>
    have outcome := appendEvent_outcome (trace.journal.on medium) record
    rw [Paced, step, EventJournal.call]
    generalize (trace.journal.on medium).appendEvent record = result at outcome
    cases outcome <;> exact paced
  | appendTransition transition =>
    have outcome := appendTransition_outcome (trace.journal.on medium) transition
    rw [Paced, step, EventJournal.call]
    generalize (trace.journal.on medium).appendTransition transition = result at outcome
    cases outcome <;> exact paced
  | compact policy =>
    obtain ⟨after, kept | swapped⟩ := compact_shape (trace.journal.on medium) policy
    · rw [Paced, step, EventJournal.call, kept]
      exact paced
    · rw [Paced, step, EventJournal.call, swapped]
      exact paced
  | beginCompaction policy =>
    rw [Paced, step, EventJournal.call, EventJournal.beginCompaction]
    split
    · exact paced
    rename_i unguarded
    have idle : (trace.journal.on medium).compactionActive = false := by
      cases active : (trace.journal.on medium).compactionActive with
      | false => rfl
      | true => simp [active] at unguarded
    simp only
    split
    · intro active
      rw [idle] at active
      cases active
    · exact fun _ => ⟨rfl, by simp⟩
  | compactTick =>
    cases active : trace.journal.compactionActive with
    | false =>
      have same : (trace.journal.on medium).compactTick = trace.journal.on medium :=
        EventJournal.compactTick_idle active
      intro still
      rw [step, EventJournal.call, same] at still
      simp [EventJournal.on, active] at still
    | true =>
      intro still
      obtain ⟨keep, moved, short⟩ :=
        compactTick_reachesLast (trace.journal.on medium) active reaches still
      obtain ⟨cursor, _⟩ := paced active
      have before : (trace.journal.on medium).compactionWriteIndex =
          kCompactionRecordsPerTick * trace.ticks :=
        cursor
      refine ⟨?_, fun _ => ?_⟩
      · rw [step, EventJournal.call, moved, before]
        ring
      · rw [step, EventJournal.call, keep]
        exact short

/-- A run each of whose ticks finds the last id of its chunk in the index: every tick of
an active compaction ends it or moves its cursor, and after ⌈k / 10⌉ + 1 ticks it is over. -/
theorem compaction_progresses (fs : Spiffs) (capacityBytes : UInt32)
    (inputs : List (Medium × JournalCall))
    (along : Along step (fun trace input => trace.journal.ReachesLast input.2)
      { journal := EventJournal.init fs capacityBytes } inputs) :
    Along step (fun trace input => input.2 = .compactTick → trace.journal.compactionActive = true →
        Progresses trace.journal (trace.step input).journal)
      { journal := EventJournal.init fs capacityBytes } inputs ∧
    ∀ first, first <+: inputs →
      let trace := run step { journal := EventJournal.init fs capacityBytes } first
      trace.journal.compactionActive = true →
        trace.ticks < (trace.journal.compactionKeep.length + 9) / kCompactionRecordsPerTick +
          1 := by
  have start : Paced { journal := EventJournal.init fs capacityBytes } := by
    intro active
    rw [init_idle] at active
    cases active
  constructor
  · refine along.mono fun trace ⟨medium, call⟩ reaches tick active => ?_
    obtain rfl : call = .compactTick := tick
    rw [step, EventJournal.call]
    refine (compactTick_progresses_iff (trace.journal.on medium) active).mpr ?_
    cases ends : (trace.journal.on medium).nextChunk.getLast? with
    | none => exact .inl (List.getLast?_eq_none_iff.mp ends)
    | some last => exact .inr ⟨last, List.mem_of_getLast? ends, reaches active last ends⟩
  · rintro first ⟨rest, rfl⟩ trace active
    have paced : trace.Paced := along.prefix.invariant start paced_step
    obtain ⟨cursor, short⟩ := paced active
    rw [kCompactionRecordsPerTick] at cursor ⊢
    by_cases none : trace.ticks = 0
    · omega
    · have bound := short (by omega)
      omega

/-- The ids an active compaction has still to write are in the index. -/
private def Remaining (trace : TickTrace) : Prop :=
  trace.journal.compactionActive = true →
    ∀ id ∈ trace.journal.compactionKeep.drop trace.journal.compactionWriteIndex,
      ∃ r, trace.journal.index.records[id]? = some r

private theorem remaining_step (trace : TickTrace) (input : Medium × JournalCall)
    (remaining : trace.Remaining)
    (spares : trace.journal.Spares input.2) : (trace.step input).Remaining := by
  obtain ⟨medium, call⟩ := input
  cases call with
  | appendEvent record =>
    have outcome := appendEvent_outcome (trace.journal.on medium) record
    rw [Remaining, step, EventJournal.call]
    generalize (trace.journal.on medium).appendEvent record = result at outcome
    cases outcome with
    | refused _ => exact remaining
    | cut _ _ => exact remaining
    | written _ _ =>
      intro active id member
      obtain ⟨r, found⟩ := remaining active id member
      simp only [EventJournal.on, EventJournalIndex.recordAppendedEvent, KeyedLog.lookup_insert]
      split
      · exact ⟨record, rfl⟩
      · exact ⟨r, found⟩
  | appendTransition transition =>
    have outcome := appendTransition_outcome (trace.journal.on medium) transition
    rw [Remaining, step, EventJournal.call]
    generalize (trace.journal.on medium).appendTransition transition = result at outcome
    cases outcome with
    | refused _ => exact remaining
    | cut _ _ => exact remaining
    | written _ _ =>
      intro active id member
      obtain ⟨r, found⟩ := remaining active id member
      simp only [EventJournal.on, EventJournalIndex.recordAppendedTransition,
        KeyedLog.lookup_modify, found]
      split
      · exact ⟨r.transition transition, rfl⟩
      · exact ⟨r, rfl⟩
  | compact policy =>
    obtain ⟨after, kept | swapped⟩ := compact_shape (trace.journal.on medium) policy
    · rw [Remaining, step, EventJournal.call, kept]
      exact remaining
    · rw [Remaining, step, EventJournal.call, swapped]
      intro active id member
      obtain ⟨r, found⟩ := remaining active id member
      refine ⟨r, ?_⟩
      rw [lookup_rebuild, if_pos]
      · exact found
      · exact spares active id member
  | beginCompaction policy =>
    rw [Remaining, step, EventJournal.call, EventJournal.beginCompaction]
    split
    · exact remaining
    rename_i unguarded
    have idle : (trace.journal.on medium).compactionActive = false := by
      cases active : (trace.journal.on medium).compactionActive with
      | false => rfl
      | true => simp [active] at unguarded
    simp only
    split
    · intro active
      rw [idle] at active
      cases active
    · exact fun _ id member => EventJournalIndex.known_of_select (List.mem_of_mem_drop member)
  | compactTick =>
    cases active : trace.journal.compactionActive with
    | false =>
      have same : (trace.journal.on medium).compactTick = trace.journal.on medium :=
        EventJournal.compactTick_idle active
      rw [Remaining, step, EventJournal.call, same]
      exact remaining
    | true =>
      have outcome := compactTick_outcome (trace.journal.on medium) active
      rw [Remaining, step, EventJournal.call]
      generalize (trace.journal.on medium).compactTick = after at outcome
      cases outcome with
      | aborted inactive _ _ =>
        intro still
        rw [inactive] at still
        cases still
      | finished _ _ => exact fun still => by cases still
      | more wrote short =>
        have forward := writeChunk_le (trace.journal.on medium).index (trace.journal.on medium).fs
          (trace.journal.on medium).compactionWriteIndex
            (trace.journal.on medium).compactionWriteIndex
          (trace.journal.on medium).nextChunk (Nat.le_refl _)
        rw [wrote] at forward
        exact fun _ id member =>
          remaining active id ((List.drop_sublist_drop_left _ forward).subset member)

/-- So does a run in which no one-shot compaction drops what the active one has still to write. -/
theorem reachesLast_of_spares (fs : Spiffs) (capacityBytes : UInt32)
    (inputs : List (Medium × JournalCall))
    (along : Along step (fun trace input => trace.journal.Spares input.2)
      { journal := EventJournal.init fs capacityBytes } inputs) :
    Along step (fun trace input => trace.journal.ReachesLast input.2)
      { journal := EventJournal.init fs capacityBytes } inputs := by
  have start : Remaining { journal := EventJournal.init fs capacityBytes } := by
    intro active
    rw [init_idle] at active
    cases active
  refine along.entails start remaining_step fun trace input remaining _ => ?_
  obtain ⟨medium, call⟩ := input
  cases call with
  | compactTick =>
    intro active last ends
    obtain ⟨r, found⟩ := remaining active last (List.mem_of_mem_take (List.mem_of_getLast? ends))
    rw [EventJournalIndex.hasEvent, Std.ExtTreeMap.contains_eq_isSome_getElem?, found]
    rfl
  | _ => trivial

end Runs

/-- Three events, two of them acked, and a compaction that keeps one of the two. -/
private def keptTwo : List (Medium × JournalCall) := [
  ({ room := 65536 }, .appendEvent { eventId := text "e1", eventType := text "SCAN" }),
  ({ room := 65536 }, .appendEvent { eventId := text "e2", eventType := text "SCAN" }),
  ({ room := 65536 }, .appendEvent { eventId := text "e3", eventType := text "SCAN" }),
  ({ room := 65536 }, .appendTransition { eventId := text "e2", syncStatus := .acked }),
  ({ room := 65536 }, .appendTransition { eventId := text "e3", syncStatus := .acked }),
  ({ room := 65536 }, .beginCompaction { ackedRetentionCount := 1 })]

theorem compaction_progresses_undisturbed :
    let inputs := keptTwo ++ [({ room := 65536 }, .compactTick), ({ room := 65536 }, .compactTick)]
    @Along _ _ (@step .insertion)
        (fun trace input => input.2 = .compactTick → trace.journal.compactionActive = true →
        Progresses trace.journal (@step .insertion trace input).journal)
      { journal := EventJournal.init {} 65536 } inputs :=
  (@compaction_progresses .insertion {} 65536 _ (by decide +kernel)).1

/-- A stricter one-shot compaction in between drops the second kept id: the tick that
looks for it writes nothing, moves nothing and leaves the compaction active. -/
theorem compact_while_active_stalls :
    let trace := @run _ _ (@step .insertion) { journal := EventJournal.init {} 65536 }
      (keptTwo ++ [({ room := 65536 }, .compact { ackedRetentionCount := 0 }),
        ({ room := 65536 }, .compactTick), ({ room := 65536 }, .compactTick)])
    trace.journal.compactionActive = true ∧
      ¬ Progresses trace.journal
        (@step .insertion trace ({ room := 65536 }, .compactTick)).journal ∧
      trace.ticks = (trace.journal.compactionKeep.length + 9) / kCompactionRecordsPerTick + 1 := by
  intro trace
  have facts : trace.journal.compactionActive = true ∧
      (@step .insertion trace ({ room := 65536 }, .compactTick)).journal.compactionActive = true ∧
      trace.journal.compactionWriteIndex = 1 ∧
      (@step .insertion trace ({ room := 65536 }, .compactTick)).journal.compactionWriteIndex = 1 ∧
      trace.ticks = 2 ∧ trace.journal.compactionKeep.length = 2 := by
    decide +kernel
  obtain ⟨active, still, before, after, ticks, size⟩ := facts
  refine ⟨active, ?_, by rw [ticks, size]; rfl⟩
  rintro (ended | moved)
  · rw [still] at ended
    cases ended
  · omega

end TickTrace

end Kiosk.Storage
