import Kiosk.Storage.Compaction

/-! Appending behind a torn tail. `init` reports the tail and leaves it in the file,
and `open_for_append` goes on after it, so the scan never gets past it. -/
namespace Kiosk.Storage

open Library Protocol TransitionSystem

namespace EventJournal

/-- Part of one more frame stands behind the whole frames of the file, and the
index knows every event of those. Whatever was appended since follows the part. -/
structure Torn (j : EventJournal) (bodies : List Bytes) (torn : Bytes) : Prop where
  content : ∃ behind, j.fs.contentOf .dat = framesOf bodies ++ (torn ++ behind)
  small : ∀ body ∈ bodies, body.length < 2 ^ 32
  part : ∃ body, body.length < 2 ^ 32 ∧ torn <+: frameOf body ∧ torn ≠ frameOf body
  nonempty : torn ≠ []
  indexed : ∀ id : Bytes, (replayBodies bodies)[id]? ≠ none → j.index.records[id]? ≠ none
  noOld : j.fs.files .old = none

/-- A boot finds the tail. -/
theorem torn_of_boot (fs : Spiffs) (capacityBytes : UInt32) (mounts : fs.medium.mounts = true)
    (opens : fs.medium.opens = true) (noOld : fs.files .old = none)
    (content : fs.contentOf .dat = framesOf bodies ++ torn)
    (small : ∀ body ∈ bodies, body.length < 2 ^ 32)
    (short : body.length < 2 ^ 32) (part : torn <+: frameOf body) (strict : torn ≠ frameOf body)
    (nonempty : torn ≠ []) : Torn (init fs capacityBytes) bodies torn := by
  have stops : Stops torn :=
    .inr ⟨.incomplete, by decide, readFrame_torn short part nonempty strict⟩
  obtain ⟨index, files, _⟩ :=
    init_index fs capacityBytes bodies torn mounts opens noOld content small stops
  obtain ⟨dat, old, _⟩ := recoverOrphans_noOld fs noOld
  exact ⟨⟨[], by rw [files, dat, content, List.append_nil]⟩, small,
    ⟨body, short, part, strict⟩, nonempty,
    fun id found => by rw [index]; exact found, by rw [files, old]⟩

/-- An append that was cut leaves it in the same boot. -/
theorem torn_of_cut {j : EventJournal} {view : RecordView α}
    (log : j.fs.contentOf .dat = framesOf bodies)
    (mirrors : Mirrors view bodies j.index.records) (noOld : j.fs.files .old = none)
    (short : body.length < 2 ^ 32) (appended : Spiffs.Appends j.fs after .dat (frameOf body) false)
    (left : after.contentOf .dat = framesOf bodies ++ torn) (nonempty : torn ≠ []) :
    Torn { j with fs := after } bodies torn := by
  obtain ⟨written, part, content, whole⟩ := appended.content
  rw [log, left, List.append_cancel_left_eq] at content
  subst content
  refine ⟨⟨[], by rw [left, List.append_nil]⟩, mirrors.small, ⟨body, short, part, fun same => ?_⟩,
    nonempty, fun id found => ?_, ?_⟩
  · exact absurd (whole.mpr same) (by simp)
  · have seen := mirrors.lookup id
    intro absent
    rw [show j.index.records[id]? = none from absent] at seen
    exact found (by simpa using seen)
  · exact (appended.others .old (by decide)).trans noOld

/-- `append_event` and `append_transition`. -/
def Appending : JournalCall → Prop
  | .appendEvent _ => True
  | .appendTransition _ => True
  | _ => False

instance : (call : JournalCall) → Decidable (Appending call)
  | .appendEvent _ | .appendTransition _ => inferInstanceAs (Decidable True)
  | .compact _ | .beginCompaction _ | .compactTick => inferInstanceAs (Decidable False)

end EventJournal

/-- As `noteAppend`, for the events appended since the tear only. -/
def noteLater (last : Bytes → Option JournalSyncStatus) :
    JournalCall → Bytes → Option JournalSyncStatus
  | .appendEvent record => Function.update last record.eventId (some record.syncStatus)
  | .appendTransition transition =>
    if (last transition.eventId).isSome then
      Function.update last transition.eventId (some transition.syncStatus)
    else last
  | _ => last

namespace JournalTrace

/-- The journal found with the tail, with no event appended yet. -/
def afterTear (j : EventJournal) : JournalTrace := { journal := j, last := fun _ => none }

def laterStep [StdSort] (trace : JournalTrace) (input : Medium × JournalCall) : JournalTrace :=
  let result := trace.journal.call input.1 input.2
  { journal := result.1, last := if result.2 then noteLater trace.last input.2 else trace.last }

/-- The next boot rebuilds every event appended since the tear with its last status. -/
def KeepsLater (trace : JournalTrace) : Prop :=
  ∀ eventId status, trace.last eventId = some status →
    (trace.journal.reboot.index.find eventId).map JournalRecord.syncStatus = some status

/-- The bytes that follow the tear happen to complete its frame, CRC and marker included. -/
def Completed (trace : JournalTrace) (bodies : List Bytes) : Prop :=
  ∃ body rest, readFrame ((trace.journal.fs.contentOf .dat).drop (framesOf bodies).length) =
    .body body rest

/-- What appends keep behind a tail. -/
private structure Behind (trace : JournalTrace) (bodies : List Bytes) (torn : Bytes) : Prop where
  tear : trace.journal.Torn bodies torn
  later : ∀ (id : Bytes) (status : JournalSyncStatus), trace.last id = some status →
    (replayBodies bodies)[id]? = none

private theorem Behind.grow {trace : JournalTrace} {history : Bytes → Option JournalSyncStatus}
    (behind : Behind trace bodies torn)
    (appended : Spiffs.Appends trace.journal.fs after .dat data ok) (index : EventJournalIndex)
    (grows : ∀ id : Bytes, trace.journal.index.records[id]? ≠ none → index.records[id]? ≠ none)
    (later : ∀ (id : Bytes) (status : JournalSyncStatus),
      history id = some status → (replayBodies bodies)[id]? = none) :
    Behind { journal := { trace.journal with fs := after, index := index }, last := history }
      bodies torn := by
  obtain ⟨before, content⟩ := behind.tear.content
  obtain ⟨written, _, grown, _⟩ := appended.content
  refine ⟨⟨⟨before ++ written, ?_⟩, behind.tear.small, behind.tear.part, behind.tear.nonempty,
    fun id found => grows id (behind.tear.indexed id found), ?_⟩, later⟩
  · rw [grown, content]
    simp
  · exact (appended.others .old (by decide)).trans behind.tear.noOld

private theorem laterStep_behind [StdSort] (trace : JournalTrace) (input : Medium × JournalCall)
    (behind : Behind trace bodies torn) (appending : EventJournal.Appending input.2) :
    Behind (trace.laterStep input) bodies torn := by
  obtain ⟨medium, call⟩ := input
  have awake : Behind { journal := trace.journal.on medium, last := trace.last } bodies torn :=
    ⟨⟨behind.tear.content, behind.tear.small, behind.tear.part, behind.tear.nonempty,
      behind.tear.indexed, behind.tear.noOld⟩, behind.later⟩
  cases call with
  | appendEvent record =>
    have outcome := EventJournal.appendEvent_outcome (trace.journal.on medium) record
    rw [laterStep, EventJournal.call]
    generalize (trace.journal.on medium).appendEvent record = result at outcome
    cases outcome with
    | refused unguarded => exact awake
    | cut guarded appended => exact awake.grow appended _ (fun _ found => found) behind.later
    | written guarded appended =>
      have fresh := decideAppend_ok guarded.2
      refine awake.grow appended _ (fun id found => ?_) fun id status noted => ?_
      · rw [EventJournalIndex.recordAppendedEvent, KeyedLog.lookup_insert]
        split
        · simp
        · exact found
      · by_cases same : id = record.eventId
        · subst same
          by_contra known
          exact behind.tear.indexed _ known fresh
        · simp only [↓reduceIte, noteLater, Function.update_of_ne same] at noted
          exact behind.later id status noted
  | appendTransition transition =>
    have outcome := EventJournal.appendTransition_outcome (trace.journal.on medium) transition
    rw [laterStep, EventJournal.call]
    generalize (trace.journal.on medium).appendTransition transition = result at outcome
    cases outcome with
    | refused unguarded => exact awake
    | cut guarded appended => exact awake.grow appended _ (fun _ found => found) behind.later
    | written guarded appended =>
      refine awake.grow appended _ (fun id found => ?_) fun id status noted => ?_
      · rw [EventJournalIndex.recordAppendedTransition, KeyedLog.lookup_modify]
        split
        · simpa using found
        · exact found
      · simp only [↓reduceIte, noteLater] at noted
        split at noted
        · rename_i known
          obtain ⟨before, here⟩ := Option.isSome_iff_exists.mp known
          by_cases same : id = transition.eventId
          · subst same
            exact behind.later _ before here
          · rw [Function.update_of_ne same] at noted
            exact behind.later id status noted
        · exact behind.later id status noted
  | compact policy => exact appending.elim
  | beginCompaction policy => exact appending.elim
  | compactTick => exact appending.elim

private theorem run_behind [StdSort] (trace : JournalTrace) (behind : Behind trace bodies torn)
    (inputs : List (Medium × JournalCall))
    (appending : ∀ input ∈ inputs, EventJournal.Appending input.2) :
    Behind (run laterStep trace inputs) bodies torn := by
  induction inputs generalizing trace with
  | nil => exact behind
  | cons input rest ih =>
    exact ih _ (laterStep_behind trace input behind (appending input (by simp)))
      fun other member => appending other (by simp [member])

/-- The next boot stops at the tail again and rebuilds the frames before it. -/
theorem reboot_of_torn {trace : JournalTrace} (tear : trace.journal.Torn bodies torn)
    (notCompleted : ¬ trace.Completed bodies) :
    trace.journal.reboot.index.records = replayBodies bodies ∧
      trace.journal.reboot.Torn bodies torn := by
  obtain ⟨behind, content⟩ := tear.content
  have stops : EventJournal.Stops (torn ++ behind) := by
    cases read : readFrame (torn ++ behind) with
    | eof => exact absurd (readFrame_eof read) (by simp [tear.nonempty])
    | bad outcome => exact .inr ⟨outcome, readFrame_bad read, read⟩
    | body body rest =>
      exact absurd ⟨body, rest, by rw [content, List.drop_left, read]⟩ notCompleted
  obtain ⟨index, files, _⟩ := EventJournal.init_index { files := trace.journal.fs.files }
    trace.journal.index.capacityBytes bodies (torn ++ behind) rfl rfl tear.noOld content
      tear.small stops
  obtain ⟨dat, old, _⟩ :=
    EventJournal.recoverOrphans_noOld { files := trace.journal.fs.files } tear.noOld
  refine ⟨by rw [EventJournal.reboot, index], ⟨behind, ?_⟩, tear.small, tear.part,
    tear.nonempty, ?_, ?_⟩
  · rw [EventJournal.reboot, files, dat]
    exact content
  · rw [EventJournal.reboot, index]
    exact fun id found => found
  · rw [EventJournal.reboot, files, old]

/-- Behind a torn tail the next boot rebuilds every later event exactly when there
is none, unless the bytes of the later frames complete the torn one. -/
theorem keepsLater_iff [StdSort] (j : EventJournal) (bodies : List Bytes) (torn : Bytes)
    (tear : j.Torn bodies torn) (inputs : List (Medium × JournalCall))
    (appending : ∀ input ∈ inputs, EventJournal.Appending input.2) :
    let trace := run laterStep (afterTear j) inputs
    ((∀ eventId, trace.last eventId = none) → trace.KeepsLater) ∧
      (¬ trace.Completed bodies → (trace.KeepsLater ↔ ∀ eventId, trace.last eventId = none)) := by
  intro trace
  have vacuous : (∀ eventId, trace.last eventId = none) → trace.KeepsLater :=
    fun none eventId status noted => by rw [none eventId] at noted; cases noted
  refine ⟨vacuous, fun notCompleted => ⟨fun kept eventId => ?_, vacuous⟩⟩
  have behind : Behind trace bodies torn :=
    run_behind (afterTear j) ⟨tear, by simp [afterTear]⟩ inputs appending
  by_contra known
  obtain ⟨status, noted⟩ := Option.ne_none_iff_exists'.mp known
  have rebuilt := kept eventId status noted
  rw [EventJournalIndex.find, (reboot_of_torn behind.tear notCompleted).1,
    behind.later eventId status noted] at rebuilt
  cases rebuilt

/-- A file that holds the first byte of a frame. -/
private def oneByte : Spiffs := { files := fun path => if path = .dat then some [1] else none }

private theorem torn_oneByte : EventJournal.Torn (EventJournal.init oneByte 65536) [] [1] :=
  EventJournal.torn_of_boot oneByte 65536 rfl rfl rfl rfl (by simp)
    (show ([0] : Bytes).length < 2 ^ 32 by decide)
    (by decide +kernel) (by decide +kernel) (by simp)

private def appendOne : List (Medium × JournalCall) :=
  [({ room := 65536 }, .appendEvent { eventId := text "e1", eventType := text "SCAN" })]

theorem keepsLater_iff_oneByte :
    let trace :=
      @run _ _ (@laterStep .insertion) (afterTear (EventJournal.init oneByte 65536)) appendOne
    ((∀ eventId, trace.last eventId = none) → trace.KeepsLater) ∧
      (¬ trace.Completed [] → (trace.KeepsLater ↔ ∀ eventId, trace.last eventId = none)) :=
  @keepsLater_iff .insertion (EventJournal.init oneByte 65536) [] [1] torn_oneByte appendOne
    (by decide)

/-- One byte of a torn frame, one event appended behind it, and the next boot has no event. -/
theorem appended_behind_tear_lost :
    EventJournal.Torn (EventJournal.init oneByte 65536) [] [1] ∧
      ¬ (@run _ _ (@laterStep .insertion) (afterTear (EventJournal.init oneByte 65536))
        appendOne).KeepsLater := by
  have facts : (@run _ _ (@laterStep .insertion) (afterTear (EventJournal.init oneByte 65536))
    appendOne).last
        (text "e1") = some .pending ∧
      (@run _ _ (@laterStep .insertion) (afterTear (EventJournal.init oneByte 65536))
        appendOne).journal.reboot.index.find
        (text "e1") = none := by
    decide +kernel
  refine ⟨torn_oneByte, fun kept => ?_⟩
  have rebuilt := kept (text "e1") .pending facts.1
  rw [facts.2] at rebuilt
  cases rebuilt

end JournalTrace

end Kiosk.Storage
