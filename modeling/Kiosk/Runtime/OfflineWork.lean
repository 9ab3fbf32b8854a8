import Kiosk.Backend.LiveDelivery
import Kiosk.Runtime.RuntimeSteps
import Kiosk.Runtime.StatusAgreement
import Kiosk.Runtime.TransientFailure

/-! What becomes of the events an operator creates while the device is disconnected: they
stay in the journal, and a replay sends each with the version its device knew. -/
namespace Kiosk.Runtime

open Library Library.KeySearch Library.TransitionSystem Protocol Network Storage Backend
open Backend.EventTrace (keyOf posted Verdict Aside Delivered FirstWins)

/-- The event is in the journal, and not put aside for a human. -/
def Stands (journal : EventJournal) (eventId : Bytes) : Prop :=
  ∃ record, journal.index.find eventId = some record ∧ record.syncStatus ≠ .humanReview

section Journals
variable {journal : EventJournal}

theorem Stands.on (stands : Stands journal eventId) (medium : Medium) :
    Stands (journal.on medium) eventId :=
  stands

theorem Stands.appendTransition (stands : Stands journal eventId) (transition : JournalTransition)
    (unrefused : transition.syncStatus ≠ .humanReview) :
    Stands (journal.appendTransition transition).1 eventId := by
  obtain ⟨record, found, status⟩ := stands
  have outcome := EventJournal.appendTransition_outcome journal transition
  generalize journal.appendTransition transition = result at outcome ⊢
  cases outcome with
  | refused unguarded => exact ⟨record, found, status⟩
  | cut guarded appends => exact ⟨record, found, status⟩
  | written guarded appends =>
    have after : (journal.index.recordAppendedTransition transition
        (frameSizeOf (encodeJournalTransition transition))).find eventId =
          if transition.eventId = eventId
            then (journal.index.find eventId).map (·.transition transition)
          else journal.index.find eventId := KeyedLog.lookup_modify _ _ _ _
    rw [found] at after
    split at after
    · exact ⟨_, after, unrefused⟩
    · exact ⟨record, after, status⟩

theorem Stands.appendEvent (stands : Stands journal eventId) (record : JournalRecord)
    (unrefused : record.syncStatus ≠ .humanReview) :
    Stands (journal.appendEvent record).1 eventId := by
  obtain ⟨earlier, found, status⟩ := stands
  have outcome := EventJournal.appendEvent_outcome journal record
  generalize journal.appendEvent record = result at outcome ⊢
  cases outcome with
  | refused unguarded => exact ⟨earlier, found, status⟩
  | cut guarded appends => exact ⟨earlier, found, status⟩
  | written guarded appends =>
    have after : (journal.index.recordAppendedEvent record
          (frameSizeOf (encodeJournalEvent record))).find eventId =
        if record.eventId = eventId then some record else journal.index.find eventId :=
          KeyedLog.lookup_insert _ _ _ _
    split at after
    · exact ⟨record, after, unrefused⟩
    · exact ⟨earlier, after.trans found, status⟩

theorem stands_appended (record : JournalRecord) (recorded : (journal.appendEvent record).2 = true)
    (unrefused : record.syncStatus ≠ .humanReview) :
    Stands (journal.appendEvent record).1 record.eventId := by
  have outcome := EventJournal.appendEvent_outcome journal record
  generalize journal.appendEvent record = result at outcome recorded ⊢
  cases outcome with
  | refused unguarded => cases recorded
  | cut guarded appends => cases recorded
  | written guarded appends =>
    exact ⟨record, (KeyedLog.lookup_insert _ _ _ _).trans (if_pos rfl), unrefused⟩

end Journals

/-- The result of an event is an answer, or the event may be sent again. -/
def Unrefused (answer : SlotWorker.Answer NetworkRequest NetworkResult) : Prop :=
  isEventKind answer.result.kind = true →
    answer.result.outcome.ok = true ∨ answer.result.outcome.retryable = true

/-- The steps of creating and replaying events, and what the loop does besides: no restart
and no compaction. -/
def RuntimeStep.keepsJournal : RuntimeStep → Bool
  | .beginCompaction _ _ | .compactTick _ | .reboot _ => false
  | _ => true

namespace KioskRuntime

theorem resultTransition_unrefused (env : LoopEnv) (result : NetworkResult)
    (unrefused : result.outcome.ok = true ∨ result.outcome.retryable = true) :
    (resultTransition env result).syncStatus ≠ .humanReview := by
  unfold resultTransition
  split
  · rename_i failed
    rcases unrefused with ok | retryable
    · simp [ok] at failed
    · simp [failureTransition, retryable]
  · simp only
    split
    · simp
    split
    · simp
    · unfold settledTransition
      dsimp only
      split <;> simp

section Handlers
variable {k after : KioskRuntime} {env : LoopEnv}

/-- A call loses no record, and an event it creates is in the journal and carries the version
the device knows. -/
structure Adds (k after : KioskRuntime) : Prop where
  keeps : ∀ eventId, Stands k.journal eventId → Stands after.journal eventId
  creates : after.createdEvents = k.createdEvents ∨ ∃ event,
      after.createdEvents = event :: k.createdEvents ∧
    event.context.expectedStateVersion =
      (k.stateProjection.current.map StateSnapshot.stateVersion).getD 0 ∧
    Stands after.journal event.event.eventId

theorem Adds.nothing (journal : after.journal = k.journal)
    (events : after.createdEvents = k.createdEvents) : Adds k after :=
  ⟨fun _ stands => journal ▸ stands, .inl events⟩

theorem Adds.transition (env : LoopEnv) (transition : JournalTransition)
    (unrefused : transition.syncStatus ≠ .humanReview)
    (journal : after.journal = journalTransition k.journal env transition)
    (events : after.createdEvents = k.createdEvents) :
    Adds k after where
  keeps eventId stands := by
    rw [journal]
    exact (stands.on env.medium).appendTransition transition unrefused
  creates := .inl events

private theorem pending_stands (event : KioskEvent) :
    (journalRecordOf event).syncStatus ≠ .humanReview := by
  rw [journalRecordOf]
  simp

private theorem dispatchEvent_stands (event : KioskEvent) (stands : Stands k.journal eventId) :
    Stands (k.dispatchEvent env event).journal eventId := by
  unfold dispatchEvent
  simp only
  split
  · exact (stands.on env.medium).appendTransition _ nofun
  · exact stands

private theorem dispatchEvent_createdEvents (event : KioskEvent) :
    (k.dispatchEvent env event).createdEvents = k.createdEvents := by
  unfold dispatchEvent
  simp only
  split <;> rfl

private theorem sendBusinessEvent_adds (type : EventType) (rawPayload : Bytes)
    (good defect rework : OptionalQuantity) :
    Adds k (k.sendBusinessEvent env type rawPayload good defect rework) := by
  unfold sendBusinessEvent
  split
  · exact .nothing rfl rfl
  simp only
  generalize created : k.newEvent env k.deviceSeq.next.2 type rawPayload good defect rework = event
  have version :
      event.context.expectedStateVersion =
      (k.stateProjection.current.map StateSnapshot.stateVersion).getD 0 := by
    rw [← created]
    rfl
  have kept (eventId : Bytes) (stands : Stands k.journal eventId) :
      Stands ((k.journal.on env.medium).appendEvent (journalRecordOf event)).1 eventId :=
    (stands.on env.medium).appendEvent _ (pending_stands event)
  split
  · rename_i journal result
    rw [result] at kept
    exact ⟨kept, .inl rfl⟩
  · rename_i journal result
    have stands := @stands_appended (k.journal.on env.medium) (journalRecordOf event)
      (by rw [result]) (pending_stands event)
    rw [result] at kept stands
    exact ⟨fun eventId before => dispatchEvent_stands event (kept eventId before),
      .inr ⟨event, dispatchEvent_createdEvents event, version, dispatchEvent_stands event stands⟩⟩

private theorem handleScan_adds (rawCode : Bytes) : Adds k (k.handleScan env rawCode) := by
  unfold handleScan
  split
  · exact .nothing rfl rfl
  split
  · exact .nothing rfl rfl
  simp only
  split
  · exact .nothing rfl rfl
  · have adds := @sendBusinessEvent_adds (k.touchActivity env) env .scan rawCode none none none
    exact ⟨adds.keeps, adds.creates⟩

private theorem handleQuantityKey_adds (key : UInt8) : Adds k (k.handleQuantityKey env key) := by
  unfold handleQuantityKey
  split
  · exact sendBusinessEvent_adds _ _ _ _ _
  · split <;> exact .nothing rfl rfl

private theorem handleKeyDown_adds (key : UInt8) : Adds k (k.handleKeyDown env key) := by
  have touched {after : KioskRuntime} (adds : Adds (k.touchActivity env) after) : Adds k after :=
    ⟨adds.keeps, adds.creates⟩
  unfold handleKeyDown handleBusinessKey
  split
  · split
    · exact .nothing rfl rfl
    split
    · exact .nothing rfl rfl
    split
    · exact .nothing rfl rfl
    split
    · exact .nothing rfl rfl
    split
    · exact .nothing rfl rfl
    simp only
    split
    · exact touched (sendBusinessEvent_adds _ _ _ _ _)
    split
    · exact touched (handleQuantityKey_adds key)
    split
    · exact touched (sendBusinessEvent_adds _ _ _ _ _)
    · exact .nothing rfl rfl
  · exact .nothing rfl rfl

private theorem checkUiTimeout_adds : Adds k (k.checkUiTimeout env) := by
  unfold checkUiTimeout
  repeat' split
  all_goals first
    | exact .nothing rfl rfl
    | exact ⟨(@sendBusinessEvent_adds (k.touchActivity env) env _ _ _ _ _).keeps,
        (@sendBusinessEvent_adds (k.touchActivity env) env _ _ _ _ _).creates⟩

private theorem finishApply_frame (applyResult : ApplyResult) (state prevState : BusinessState) :
    (k.finishApply env applyResult state prevState).journal = k.journal ∧
      (k.finishApply env applyResult state prevState).createdEvents = k.createdEvents := by
  unfold finishApply
  repeat' split
  all_goals exact ⟨rfl, rfl⟩

private theorem noteServerSeq_frame (serverSeq : Int) :
    (k.noteServerSeq serverSeq).journal = k.journal ∧
      (k.noteServerSeq serverSeq).createdEvents = k.createdEvents := by
  unfold noteServerSeq
  split <;> exact ⟨rfl, rfl⟩

private theorem closeReplay_frame :
    k.closeReplay.journal = k.journal ∧ k.closeReplay.createdEvents = k.createdEvents := by
  unfold closeReplay
  split <;> exact ⟨rfl, rfl⟩

/-- The journal after the result of an event has the one transition for it. -/
private theorem handleEventResult_frame (result : NetworkResult) :
    (k.handleEventResult env result).journal =
        journalTransition k.journal env (resultTransition env result) ∧
      (k.handleEventResult env result).createdEvents = k.createdEvents := by
  obtain ⟨journal, events⟩ := @closeReplay_frame k
  rw [← journal, ← events]
  unfold handleEventResult resultTransition
  simp only
  split
  · exact ⟨rfl, rfl⟩
  unfold applyEventResponse
  simp only
  split
  · exact ⟨rfl, rfl⟩
  obtain ⟨noted, kept⟩ := @noteServerSeq_frame (k.closeReplay.touchActivity env)
    (parseEventResponseJson result.responseBody).1.serverSeq
  split
  · exact ⟨congrArg (journalTransition · env _) noted, kept⟩
  · unfold applySnapshotResponse
    simp only
    rw [(finishApply_frame _ _ _).1, (finishApply_frame _ _ _).2]
    exact ⟨congrArg (journalTransition · env _) noted, kept⟩

private theorem handleResyncResult_frame (result : NetworkResult) :
    (k.handleResyncResult env result).journal = k.journal ∧
      (k.handleResyncResult env result).createdEvents = k.createdEvents := by
  unfold handleResyncResult
  repeat' split
  all_goals exact ⟨rfl, rfl⟩

private theorem pollResult_adds (unrefused : ∀ answer ∈ k.network.answers, Unrefused answer) :
    Adds k (k.pollResult env) := by
  unfold pollResult
  simp only [SlotWorker.Worker.poll]
  cases slot : k.network.slot with
  | none => exact .nothing rfl rfl
  | some answer =>
    have among : answer ∈ k.network.answers := by simp [SlotWorker.Worker.answers, slot]
    have settles (event : isEventKind answer.result.kind = true) :
        Adds k ({ k with network := { k.network with slot := none } }.handleEventResult env
          answer.result) :=
      .transition env _
        (resultTransition_unrefused env answer.result (unrefused answer among event))
        (handleEventResult_frame answer.result).1 (handleEventResult_frame answer.result).2
    simp only
    split
    · exact .nothing (handleResyncResult_frame _).1 (handleResyncResult_frame _).2
    · exact .nothing rfl rfl
    · exact .nothing rfl rfl
    · exact .nothing rfl rfl
    · rename_i kind
      exact settles (by rw [kind]; rfl)
    · rename_i kind
      exact settles (by rw [kind]; rfl)

private theorem onBootstrapResult_adds (result : BootstrapResult) :
    Adds k (k.onBootstrapResult env result) := by
  have matched : (k.applyServerEnvironment env result).1.journal = k.journal ∧
      (k.applyServerEnvironment env result).1.createdEvents = k.createdEvents := by
    unfold applyServerEnvironment
    simp only
    split <;> exact ⟨rfl, rfl⟩
  unfold onBootstrapResult
  split
  · exact .nothing rfl rfl
  split
  · rename_i now mismatch
    rw [mismatch] at matched
    exact .nothing matched.1 matched.2
  · rename_i now accepted
    rw [accepted] at matched
    split
    · exact .nothing matched.1 matched.2
    · simp only
      split <;> exact .nothing matched.1 matched.2

private theorem checkOfflineReplay_adds : Adds k (k.checkOfflineReplay env) := by
  unfold checkOfflineReplay
  repeat' split
  all_goals exact .nothing rfl rfl

variable [StdSort]

private theorem startOfflineReplay_adds : Adds k k.startOfflineReplayIfNeeded := by
  unfold startOfflineReplayIfNeeded
  split
  · exact .nothing rfl rfl
  simp only
  split <;> exact .nothing rfl rfl

theorem step_adds {input : RuntimeStep} (keeps : input.keepsJournal = true)
    (unrefused : ∀ answer ∈ k.network.answers, Unrefused answer) : Adds k (k.step input) := by
  cases input with
  | scan env rawCode => exact handleScan_adds rawCode
  | keyDown env key => exact handleKeyDown_adds key
  | pollResult env => exact pollResult_adds unrefused
  | checkUiTimeout env => exact checkUiTimeout_adds
  | replayFallback env =>
    simp only [step, replayFallback]
    split
    · have adds := @startOfflineReplay_adds { k with lastReplayFallbackCheckMs := env.millis } _
      exact ⟨adds.keeps, adds.creates⟩
    · exact .nothing rfl rfl
  | checkOfflineReplay env => exact checkOfflineReplay_adds
  | startOfflineReplay => exact startOfflineReplay_adds
  | bootstrapResult env result => exact onBootstrapResult_adds result
  | requestManualResync env =>
    simp only [step, requestManualResync]
    split <;> exact .nothing rfl rfl
  | enqueueBootstrap | enqueueHeartbeat | enqueueUiBundleFetch => exact .nothing rfl rfl
  | takeBootstrapResult | takeUiBundleFetchResult | task => exact .nothing rfl rfl
  | beginCompaction | compactTick | reboot => cases keeps

end Handlers

end KioskRuntime

/-- A step that may come while the device is disconnected. -/
def RuntimeStep.disconnected : RuntimeStep → Bool
  | .bootstrapResult _ result => result.status ≠ .ok
  | input => input.keepsJournal

/-- No request is answered, and none of an event is refused. -/
def Unanswered (w : NetworkWorker) (env : NetworkEnv) : Prop :=
  match w.phase with
  | .executing ticket =>
    (execute env ticket.request).outcome.ok = false ∧
      (execute env ticket.request).outcome.retryable = true
  | _ => True

/-- Every event that is sent is answered, or may be sent again. -/
def Answering (w : NetworkWorker) (env : NetworkEnv) : Prop :=
  match w.phase with
  | .executing ticket => isEventKind ticket.request.kind = true →
      (execute env ticket.request).outcome.ok = true ∨
        (execute env ticket.request).outcome.retryable = true
  | _ => True

instance : (w : NetworkWorker) → (env : NetworkEnv) → Decidable (Unanswered w env)
  | ⟨_, _, _, .executing ticket, _, _⟩, env =>
    inferInstanceAs (Decidable ((execute env ticket.request).outcome.ok = false ∧ _ = true))
  | ⟨_, _, _, .top, _, _⟩, _ | ⟨_, _, _, .waiting, _, _⟩, _ | ⟨_, _, _, .received _, _, _⟩,
      _ | ⟨_, _, _, .executed _, _, _⟩, _
  | ⟨_, _, _, .depositing _, _, _⟩, _ => inferInstanceAs (Decidable True)

instance : (w : NetworkWorker) → (env : NetworkEnv) → Decidable (Answering w env)
  | ⟨_, _, _, .executing ticket, _, _⟩, env =>
    inferInstanceAs
      (Decidable (isEventKind ticket.request.kind = true →
      (execute env ticket.request).outcome.ok = true ∨ _ = true))
  | ⟨_, _, _, .top, _, _⟩, _ | ⟨_, _, _, .waiting, _, _⟩, _ | ⟨_, _, _, .received _, _, _⟩,
      _ | ⟨_, _, _, .executed _, _, _⟩, _
  | ⟨_, _, _, .depositing _, _, _⟩, _ => inferInstanceAs (Decidable True)

namespace Joint
open KioskRuntime

section Phases
variable {δ : Type} [DecidableEq δ] [StdSort] (py : Python Bytes δ) (id : PyStr)
  (events : List KioskEvent)

def keysOf : List CacheKey := events.map fun event => keyOf py (liveBody event)

omit [DecidableEq δ] [StdSort] in
private theorem keysOf_singleton (event : KioskEvent) :
    keysOf py [event] = [keyOf py (liveBody event)] := by
  rw [keysOf, List.map_singleton]

/-- Nothing gets through, and at the backend nothing moves that the device's events rest on. -/
def Disconnected (s : Joint δ) : JointStep → Prop
  | .device input => input.disconnected = true ∧
      Along (SlotWorker.Worker.tick execute) Unanswered (s.k.networkAt input) input.meanwhile
  | .server input => Aside py id (keysOf py events) s.server input

/-- The events get through, no further ones are created, and nothing else moves the device
at the backend. -/
def Reconnected (s : Joint δ) : JointStep → Prop
  | .device input =>
    input.keepsJournal = true ∧ (s.k.step input).createdEvents = s.k.createdEvents ∧
      Along (SlotWorker.Worker.tick execute) Answering (s.k.networkAt input) input.meanwhile
  | .server input =>
    Aside py id (keysOf py events) s.server input ∨ ∃ event ∈ events,
      posted input = some (liveBody event)

instance (s : Joint δ) : (input : JointStep) → Decidable (Disconnected py id events s input)
  | .device input => inferInstanceAs (Decidable (input.disconnected = true ∧
      Along (SlotWorker.Worker.tick execute) Unanswered (s.k.networkAt input) input.meanwhile))
  | .server input => inferInstanceAs (Decidable (Aside py id (keysOf py events) s.server input))

instance (s : Joint δ) : (input : JointStep) → Decidable (Reconnected py id events s input)
  | .device input => inferInstanceAs (Decidable (input.keepsJournal = true ∧
      (s.k.step input).createdEvents = s.k.createdEvents ∧
      Along (SlotWorker.Worker.tick execute) Answering (s.k.networkAt input) input.meanwhile))
  | .server input => inferInstanceAs (Decidable (Aside py id (keysOf py events) s.server input ∨
      ∃ event ∈ events, posted input = some (liveBody event)))

/-- The version the device knows. -/
def knownVersion (s : Joint δ) : UInt64 :=
  (s.k.stateProjection.current.map StateSnapshot.stateVersion).getD 0

/-- A device cut off from the backend since `s`. -/
structure Away (s x : Joint δ) : Prop where
  unanswered : ∀ answer ∈ x.k.network.answers,
    answer.result.outcome.ok = false ∧ answer.result.outcome.retryable = true
  projection : x.k.stateProjection = s.k.stateProjection
  created : ∃ events, x.k.createdEvents = events ++ s.k.createdEvents ∧ ∀ event ∈ events,
    event.context.expectedStateVersion = s.knownVersion ∧ Stands x.k.journal event.event.eventId

/-- A device that replays these events. -/
structure Replaying (x : Joint δ) : Prop where
  unrefused : ∀ answer ∈ x.k.network.answers, Unrefused answer
  stands : ∀ event ∈ events, Stands x.k.journal event.event.eventId

variable {py id events} {s x : Joint δ}

omit [DecidableEq δ] [StdSort] in
private theorem no_snapshot (away : Away s x) {input : RuntimeStep}
    (cut : input.disconnected = true) :
    x.k.arriving input = none := by
  cases input with
  | pollResult env =>
    cases slot : x.k.network.slot with
    | none => simp [arriving, slot]
    | some answer =>
      have failed := (away.unanswered answer (by simp [SlotWorker.Worker.answers, slot])).1
      simp only [arriving, slot, Option.bind_some, resultSnapshot]
      cases answer.result.kind <;> simp [resyncSnapshot, eventSnapshot, failed]
  | bootstrapResult env result =>
    have failed : result.status ≠ .ok := by simpa [RuntimeStep.disconnected] using cut
    simp [arriving, bootstrapSnapshot, failed]
  | _ => rfl

omit [DecidableEq δ] in
private theorem away_device (away : Away s x) {input : RuntimeStep}
    (cut : input.disconnected = true)
    (silent : Along (SlotWorker.Worker.tick execute) Unanswered (x.k.networkAt input)
      input.meanwhile) :
    Away s { x with k := x.k.step input } := by
  have keeps : input.keepsJournal = true := by
    cases input <;> first | rfl | exact cut
  have projection : (x.k.step input).stateProjection = x.k.stateProjection := by
    change (x.k.step input).entryView.stateProjection = _
    cases x.k.step_outcome input with
    | offered _ _ arrived _ => rw [no_snapshot away cut] at arrived; cases arrived
    | pressed _ _ _ projection _ _ => exact projection
    | rebooted _ restart _ => rw [restart] at keeps; cases keeps
    | elsewhere _ _ projection _ _ => exact projection
  have adds := step_adds keeps fun answer member _ => .inr (away.unanswered answer member).2
  have unanswered : ∀ answer ∈ (x.k.step input).network.answers,
      answer.result.outcome.ok = false ∧ answer.result.outcome.retryable = true := by
    refine answers_step_along away.unanswered silent fun w env ticket unanswered executing => ?_
    simp only [Unanswered, executing] at unanswered
    exact unanswered
  refine ⟨unanswered, projection.trans away.projection, ?_⟩
  · obtain ⟨events, earlier, each⟩ := away.created
    have kept : ∀ event ∈ events, event.context.expectedStateVersion = s.knownVersion ∧
        Stands (x.k.step input).journal event.event.eventId :=
      fun event member => ⟨(each event member).1, adds.keeps _ (each event member).2⟩
    rcases adds.creates with same | ⟨event, more, version, stands⟩
    · exact ⟨events, same.trans earlier, kept⟩
    · refine ⟨event :: events, by rw [more, earlier]; rfl, fun other member => ?_⟩
      rcases List.mem_cons.mp member with rfl | among
      · exact ⟨by rw [version, away.projection]; rfl, stands⟩
      · exact kept other among

theorem Away.step (away : Away s x) (input : JointStep) (cut : Disconnected py id events x input) :
    Away s (x.step py input) := by
  cases input with
  | device input => exact away_device away cut.1 cut.2
  | server input => exact ⟨away.unanswered, away.projection, away.created⟩

theorem Replaying.step (replaying : Replaying events x) (input : JointStep)
    (back : Reconnected py id events x input) :
    Replaying events (x.step py input) := by
  cases input with
  | server input => exact ⟨replaying.unrefused, replaying.stands⟩
  | device input =>
    obtain ⟨keeps, _, answering⟩ := back
    have unrefused : ∀ answer ∈ (x.k.step input).network.answers, Unrefused answer := by
      refine answers_step_along replaying.unrefused answering fun w env ticket answers executing
        event => ?_
      rw [(execute_kind env ticket.request).1] at event
      simp only [Answering, executing] at answers
      exact answers event
    exact ⟨unrefused,
      fun event member =>
      (step_adds keeps replaying.unrefused).keeps _ (replaying.stands event member)⟩

variable (py id events)

/-- How the backend reads the body of an event: the key under this device, and the version
the device put into it. -/
structure Decodes (event : KioskEvent) : Prop where
  key : keyOf py (liveBody event) = (id, some (event.event.eventId.map UInt8.toNat))
  version : (py.fields (liveBody event)).expectedStateVersion =
    some (event.context.expectedStateVersion.toNat : Int)

instance (event : KioskEvent) : Decidable (Decodes py id event) :=
  decidable_of_iff
    (keyOf py (liveBody event) = (id, some (event.event.eventId.map UInt8.toNat)) ∧
      (py.fields (liveBody event)).expectedStateVersion =
        some (event.context.expectedStateVersion.toNat : Int))
    ⟨fun ⟨key, version⟩ => ⟨key, version⟩, fun ⟨key, version⟩ => ⟨key, version⟩⟩

/-- From `s`, where device and backend are at one version and nothing is on its way, these
events are created while disconnected; then they are replayed until none is left. -/
structure OfflineReplay (s : Joint δ) (offline online : List JointStep) : Prop where
  known : s.k.stateProjection.current.map (·.stateVersion.toNat) =
    some (s.server.backend.device id).stateVersion
  idle : s.k.network.answers = []
  disconnected : Along (step py) (Disconnected py id events) s offline
  created : (run (step py) s offline).k.createdEvents = events ++ s.k.createdEvents
  reconnected : Along (step py) (Reconnected py id events) (run (step py) s offline) online
  done : (run (step py) s (offline ++ online)).k.journal.index.pendingInDeviceSeqOrder = []
  decoded : ∀ event ∈ events, Decodes py id event
  unseen : ∀ event ∈ events,
    ReplyCache.lookup s.server.backend.idempotency (keyOf py (liveBody event)) = none

instance (s : Joint δ) (offline online : List JointStep) :
    Decidable (OfflineReplay py id events s offline online) :=
  decidable_of_iff
    (s.k.stateProjection.current.map (·.stateVersion.toNat) =
      some (s.server.backend.device id).stateVersion ∧
      s.k.network.answers = [] ∧
      Along (step py) (Disconnected py id events) s offline ∧
      (run (step py) s offline).k.createdEvents = events ++ s.k.createdEvents ∧
      Along (step py) (Reconnected py id events) (run (step py) s offline) online ∧
      (run (step py) s (offline ++ online)).k.journal.index.pendingInDeviceSeqOrder = [] ∧
      (∀ event ∈ events, Decodes py id event) ∧
      ∀ event ∈ events,
        ReplyCache.lookup s.server.backend.idempotency (keyOf py (liveBody event)) = none)
    ⟨fun ⟨known, idle, disconnected, created, reconnected, done, decoded, unseen⟩ =>
        ⟨known, idle, disconnected, created, reconnected, done, decoded, unseen⟩,
      fun ⟨known, idle, disconnected, created, reconnected, done, decoded, unseen⟩ =>
        ⟨known, idle, disconnected, created, reconnected, done, decoded, unseen⟩⟩

/-- Every event is `ACKED`, and the device stands at the backend as live delivery leaves it. -/
def Survived (live : MockBackend δ) (x : Joint δ) : Prop :=
  (∀ event ∈ events, ∃ record,
      x.k.journal.index.find event.event.eventId = some record ∧ record.syncStatus = .acked) ∧
    (x.server.backend.device id).undated = (live.device id).undated

variable {py id events} {offline online : List JointStep}

omit [DecidableEq δ] [StdSort] in
/-- The record of a created event goes to the backend under the key of the event. -/
theorem Agreeing.recordKey_created (agreeing : Agreeing py x) {event : KioskEvent}
    (created : event ∈ x.k.createdEvents)
    (found : x.k.journal.index.find event.event.eventId = some record) :
    recordKey py record = keyOf py (liveBody event) := by
  obtain ⟨filed, _, _⟩ := agreeing.grounded.index _ record found
  obtain ⟨source, among, same⟩ := agreeing.copied.journal.copies _ record found
  simp only [original, carried, Carried.mk.injEq] at same
  have own : source = event :=
    List.inj_on_of_nodup_map agreeing.ids among created (by rw [same.1, filed])
  rw [recordKey, ← same.2.1, own]
  rfl

omit [DecidableEq δ] in
/-- With nothing left to send, an event that stands in the journal is settled as the backend
settled it. -/
theorem Agreeing.settled (agreeing : Agreeing py x)
    (done : x.k.journal.index.pendingInDeviceSeqOrder = [])
    {event : KioskEvent} (created : event ∈ x.k.createdEvents)
    (stands : Stands x.k.journal event.event.eventId) :
    ∃ record verdict, x.k.journal.index.find event.event.eventId = some record ∧
      (record.syncStatus = .acked ↔ verdict = true) ∧
        Verdict x.server (keyOf py (liveBody event)) verdict := by
  obtain ⟨record, found, unrefused⟩ := stands
  have final : EventJournalIndex.isLive record.syncStatus = false := by
    by_contra live
    have member := mem_pending found (by simpa using live)
    rw [done] at member
    cases member
  obtain ⟨verdict, known, acked⟩ : ∃ verdict, verdictOf record.syncStatus = some verdict ∧
      (record.syncStatus = .acked ↔ verdict = true) := by
    revert final unrefused
    cases record.syncStatus <;> simp [verdictOf, EventJournalIndex.isLive]
  exact ⟨record, verdict, found, acked,
    agreeing.recordKey_created created found ▸ agreeing.verdict found known⟩

/-- What every request to the backend keeps, while the device is disconnected and after it. -/
theorem OfflineReplay.server_invariant (replay : OfflineReplay py id events s offline online)
    {motive : EventTrace Bytes δ → Prop} (start : motive s.server) (aside : ∀ trace request,
      motive trace → Aside py id (keysOf py events) trace request → motive (trace.step py request))
    (post : ∀ trace, motive trace → ∀ event ∈ events, ∀ now,
      motive (trace.step py (.postEvents (some (liveBody event)) now))) :
    motive (run (step py) s (offline ++ online)).server := by
  have cut : motive (run (step py) s offline).server := by
    refine replay.disconnected.invariant (motive := fun x : Joint δ => motive x.server) start fun x
      input holds alone => ?_
    cases input with
    | device input => exact holds
    | server request => exact aside _ request holds alone
  rw [run_append]
  refine replay.reconnected.invariant (motive := fun x : Joint δ => motive x.server) cut fun x input
    holds back => ?_
  cases input with
  | device input => exact holds
  | server request =>
    rcases back with alone | ⟨event, member, body⟩
    · exact aside _ request holds alone
    · cases request with
      | postEvents sent now =>
        cases body
        exact post _ holds event member now
      | _ => cases body

/-- The events stand in the journal of the reconnected device, and carry the version it had. -/
theorem OfflineReplay.device (replay : OfflineReplay py id events s offline online) :
    (run (step py) s (offline ++ online)).k.createdEvents = events ++ s.k.createdEvents ∧
      ∀ event ∈ events, event.context.expectedStateVersion = s.knownVersion ∧
        Stands (run (step py) s (offline ++ online)).k.journal event.event.eventId := by
  have away : Away s (run (step py) s offline) :=
    replay.disconnected.invariant ⟨by simp [replay.idle], rfl, [], rfl, by simp⟩ fun x input away
      cut => away.step input cut
  obtain ⟨created, extended, each⟩ := away.created
  have same : created = events := List.append_cancel_right (extended.symm.trans replay.created)
  subst same
  have begin : Replaying created (run (step py) s offline) :=
    ⟨fun answer member _ => .inr (away.unanswered answer member).2,
      fun event member => (each event member).2⟩
  have held :=
    replay.reconnected.invariant begin fun x input replaying back => replaying.step input back
  have fixed := replay.reconnected.invariant
    (motive := fun x : Joint δ => x.k.createdEvents = created ++ s.k.createdEvents)
    replay.created fun x input same back => by
      cases input with
      | device input => exact back.2.1.trans same
      | server input => exact same
  rw [run_append]
  exact ⟨fixed, fun event member => ⟨(each event member).1, held.stands event member⟩⟩

omit [StdSort] in
/-- The frozen version of an event is the one the device has at the backend. -/
theorem OfflineReplay.frozen [StdSort] (replay : OfflineReplay py id events s offline online)
    {event : KioskEvent}
    (member : event ∈ events) : (py.fields (liveBody event)).expectedStateVersion =
      some ((s.server.backend.device id).stateVersion : Int) := by
  obtain ⟨snapshot, known, version⟩ := Option.map_eq_some_iff.mp replay.known
  rw [(replay.decoded event member).version, (replay.device.2 event member).1, knownVersion, known]
  exact congrArg (fun version : Nat => some (version : Int)) version

omit [StdSort] in
theorem OfflineReplay.own [StdSort] (replay : OfflineReplay py id events s offline online)
    {event : KioskEvent} (member : event ∈ events) :
    (keyOf py (liveBody event)).1 = id := by
  rw [(replay.decoded event member).key]

/-- Where no event was created the device stays at the backend as it is. -/
private theorem survived_none (replay : OfflineReplay py id [] s offline online) :
    Survived id [] s.server.backend (run (step py) s (offline ++ online)) := by
  refine ⟨by simp, ?_⟩
  rw [replay.server_invariant
    (motive := fun trace => trace.backend.device id = s.server.backend.device id) rfl
    (fun _ _ same aside => aside.device.trans same) (by simp)]

/-- One event is applied as it would have been live, and is `ACKED` once it is settled. -/
private theorem survived_one {event : KioskEvent}
    (agreeing : Agreeing py (run (step py) s (offline ++ online)))
    (replay : OfflineReplay py id [event] s offline online)
    (delivers : s.server.backend.deliverLive py id [(liveBody event, now)] = some live) :
    Survived id [event] live (run (step py) s (offline ++ online)) := by
  have member : event ∈ [event] := List.mem_singleton_self event
  obtain ⟨input, asks, accepts, leaves⟩ :=
    MockBackend.deliverLive_one delivers (replay.unseen event member) (replay.own member)
  have delivered :
      Delivered id (keyOf py (liveBody event)) (s.server.backend.device id) (live.device id)
      s.server.backend.fixtures (run (step py) s (offline ++ online)).server := by
    refine replay.server_invariant (.outstanding (replay.unseen event member) rfl rfl) ?_ ?_
    · intro trace request delivered aside
      rw [keysOf_singleton] at aside
      exact delivered.aside aside
    · intro trace delivered other among now
      rw [List.mem_singleton.mp among]
      exact delivered.post (replay.own member) (replay.frozen member) asks accepts leaves now
  obtain ⟨created, stands⟩ := replay.device
  obtain ⟨record, verdict, found, acked, known⟩ :=
    agreeing.settled replay.done (by rw [created]; simp) (stands event member).2
  cases delivered with
  | outstanding unknown _ _ =>
    obtain ⟨entry, entered, _⟩ := known
    rw [unknown] at entered
    cases entered
  | accepted applied device =>
    obtain ⟨entry, entered, accepted⟩ := applied
    obtain ⟨again, sameEntry, decided⟩ := known
    rw [entered] at sameEntry
    cases sameEntry
    refine ⟨fun other among => ?_, device⟩
    rw [List.mem_singleton.mp among]
    exact ⟨record, found, acked.mpr (decided.symm.trans accepted)⟩

/-- Of two events that were created at one version one is left behind. -/
private theorem not_survived_of_two (agreeing : Agreeing py (run (step py) s (offline ++ online)))
    (replay : OfflineReplay py id events s offline online) (two : 2 ≤ events.length)
    (acked : ∀ event ∈ events, ∃ record,
      (run (step py) s (offline ++ online)).k.journal.index.find event.event.eventId = some record ∧
      record.syncStatus = .acked) : False := by
  obtain ⟨first, second, rest, rfl⟩ : ∃ first second rest, events = first :: second :: rest := by
    match events, two with
    | first :: second :: rest, _ => exact ⟨first, second, rest, rfl⟩
  have firstMember : first ∈ first :: second :: rest := by simp
  have secondMember : second ∈ first :: second :: rest := by simp
  have wins :
      FirstWins id (keysOf py (first :: second :: rest)) (s.server.backend.device id).stateVersion
      (run (step py) s (offline ++ online)).server := by
    refine replay.server_invariant (motive := FirstWins id (keysOf py (first :: second :: rest))
      (s.server.backend.device id).stateVersion) ⟨le_rfl, ?_, ?_⟩ ?_ ?_
    rotate_left 2
    · exact fun _ _ wins aside => wins.aside aside
    · exact fun _ wins event member now => wins.post (replay.own member) (replay.frozen member) now
    · intro key member verdict
      obtain ⟨event, among, rfl⟩ := List.mem_map.mp member
      obtain ⟨entry, entered, _⟩ := verdict
      rw [replay.unseen event among] at entered
      cases entered
    · intro key member _ _ verdict _
      obtain ⟨event, among, rfl⟩ := List.mem_map.mp member
      obtain ⟨entry, entered, _⟩ := verdict
      rw [replay.unseen event among] at entered
      cases entered
  obtain ⟨created, _⟩ := replay.device
  have applied {event : KioskEvent} (member : event ∈ first :: second :: rest) :
      Verdict (run (step py) s (offline ++ online)).server (keyOf py (liveBody event)) true := by
    obtain ⟨record, found, status⟩ := acked event member
    have among : event ∈ (run (step py) s (offline ++ online)).k.createdEvents := by
      rw [created]
      exact List.mem_append_left _ member
    rw [← agreeing.recordKey_created among found]
    exact agreeing.verdict found (by rw [status]; rfl)
  have sameKey := wins.single _ (List.mem_map_of_mem firstMember) _
    (List.mem_map_of_mem secondMember) (applied firstMember)
    (applied secondMember)
  rw [(replay.decoded first firstMember).key, (replay.decoded second secondMember).key] at sameKey
  have sameId : first.event.eventId = second.event.eventId := by
    simp only [Prod.mk.injEq, Option.some.injEq, true_and] at sameKey
    exact List.map_injective_iff.mpr (fun a b same => UInt8.toNat_inj.mp same) sameKey
  have distinct := agreeing.ids
  rw [created, createdIds] at distinct
  simp [sameId] at distinct

/-- Work created offline survives its replay exactly when it is at most one event. -/
theorem survived_iff (py : Python Bytes δ) (config : BootConfig) (highWaterMark : UInt64)
    (capacityBytes : UInt32)
    (id : PyStr) (events : List KioskEvent) (history offline online : List JointStep)
    (arrivals : List (Bytes × PyStr)) (live : MockBackend δ) (along : Along (step py) Allowed
      { k := boot config highWaterMark (EventJournal.fresh capacityBytes) }
      (history ++ (offline ++ online)))
    (replay : OfflineReplay py id events
      (run (step py) { k := boot config highWaterMark (EventJournal.fresh capacityBytes) } history)
        offline online)
    (spelled : arrivals.map Prod.fst = events.reverse.map liveBody)
    (delivers : (run (step py) { k := boot config highWaterMark (EventJournal.fresh capacityBytes) }
      history).server.backend.deliverLive py id arrivals = some live) :
    Survived id events live
      (run (step py) { k := boot config highWaterMark (EventJournal.fresh capacityBytes) }
      (history ++ (offline ++ online))) ↔ events.length ≤ 1 := by
  have agreeing := along.invariant (agreeing_boot config highWaterMark capacityBytes)
    fun s input agreeing allowed => step_agreeing agreeing input allowed
  rw [run_append] at agreeing ⊢
  constructor
  · intro survived
    by_contra more
    exact not_survived_of_two agreeing replay (by omega) survived.1
  · intro short
    cases events with
    | nil =>
      obtain rfl : arrivals = [] := by simpa using spelled
      cases delivers
      exact survived_none replay
    | cons event rest =>
      obtain rfl : rest = [] := List.eq_nil_of_length_eq_zero (by simpa using short)
      rw [List.reverse_singleton, List.map_singleton, List.map_eq_singleton_iff] at spelled
      obtain ⟨⟨body, now⟩, rfl, carried⟩ := spelled
      rw [show body = liveBody event from carried] at delivers
      exact survived_one agreeing replay delivers

end Phases

/-- Reads from the body whose scan it is. -/
private def reading : Python Bytes Bytes where
  fields body := {
    deviceId := some (chars "D1")
    eventId := some (((body.drop 101).take 32).map UInt8.toNat)
    type := some (chars "SCAN")
    expectedStateVersion := some 1
    raw := if body.getD 101 0 = 48 then chars "WF|EMP|00152" else chars "WF|OP|OP-001" }
  payloadHash := id
  isdigit _ := false

private def unsynced : Joint Bytes where
  k := boot { deviceId := text "D1", apiEndpoint := text "http://b/events" } 0
    (EventJournal.fresh 65536)

private def firstSync : List JointStep :=
  [.device (.bootstrapResult {} { status := .ok, snapshot := some { stateVersion := 1 } })]

private def synced : Joint Bytes := run (@step _ _ .insertion reading) unsynced firstSync

/-- Scans whose requests all fail. -/
private def scansOffline (scans : List (UInt8 × Bytes)) :
    List JointStep := scans.flatMap fun (draw, code) =>
  .device (.scan { espRandom := fun _ => draw } code) ::
    (List.replicate 5
      (.device (.task { wifiConnected := false, exchange := fun _ => { status := -1 } })) ++
      [.device (.pollResult {})])

private def scanned (scans : List (UInt8 × Bytes)) : List KioskEvent :=
  (run (@step _ _ .insertion reading) synced (scansOffline scans)).k.createdEvents

/-- Each body in turn is sent, handled and answered. -/
private def handOver : MockBackend Bytes → List Bytes → List JointStep
  | _, [] => []
  | server, body :: rest =>
    let (after, response) := server.postEvents reading (some body) []
    let answers : NetworkEnv :=
      { exchange := fun _ => { status := 200, responseText := dumpsResponse response } }
    [.device (.checkOfflineReplay {}), .device (.task answers), .device (.task answers),
      .server (.postEvents (some body) []),
      .device (.task answers), .device (.task answers), .device (.task answers),
        .device (.task answers),
      .device (.pollResult {})] ++ handOver after rest

private def replayOnline (scans : List (UInt8 × Bytes)) : List JointStep :=
  .device .startOfflineReplay :: handOver {} ((scanned scans).reverse.map liveBody)

private def offlineWork (scans : List (UInt8 × Bytes)) : List JointStep :=
  firstSync ++ (scansOffline scans ++ replayOnline scans)

private def arrivals (scans : List (UInt8 × Bytes)) : List (Bytes × PyStr) :=
  (scanned scans).reverse.map fun event => (liveBody event, [])

private def employee : List (UInt8 × Bytes) := [(0, text "WF|EMP|00152")]

private def bothScans : List (UInt8 × Bytes) :=
  [(0, text "WF|EMP|00152"), (17, text "WF|OP|OP-001")]

theorem survived_one_scan :
    ∃ live, synced.server.backend.deliverLive reading (chars "D1") (arrivals employee) = some live ∧
      Survived (chars "D1") (scanned employee) live
        (run (@step _ _ .insertion reading) unsynced (offlineWork employee)) := by
  obtain ⟨along, replay, accepted, one⟩ :
      Along (@step _ _ .insertion reading) (@Allowed _ .insertion) unsynced (offlineWork employee) ∧
        @OfflineReplay _ _ .insertion reading (chars "D1") (scanned employee) synced
          (scansOffline employee)
          (replayOnline employee) ∧
        (synced.server.backend.deliverLive reading (chars "D1") (arrivals employee)).isSome = true ∧
        (scanned employee).length ≤ 1 := by
    decide +kernel
  obtain ⟨live, delivers⟩ := Option.isSome_iff_exists.mp accepted
  exact ⟨live, delivers,
    (@survived_iff _ _ .insertion reading
    { deviceId := text "D1", apiEndpoint := text "http://b/events" }
    0 65536 (chars "D1") (scanned employee) firstSync (scansOffline employee)
      (replayOnline employee) (arrivals employee) live
    along replay (by simp [arrivals]) delivers).mpr one⟩

theorem second_scan_conflicts :
    Along (@step _ _ .insertion reading) (@Allowed _ .insertion) unsynced (offlineWork bothScans) ∧
      @OfflineReplay _ _ .insertion reading (chars "D1") (scanned bothScans) synced
        (scansOffline bothScans)
        (replayOnline bothScans) ∧
      ∃ live, synced.server.backend.deliverLive reading (chars "D1") (arrivals bothScans) =
          some live ∧
        ¬ Survived (chars "D1") (scanned bothScans) live
          (run (@step _ _ .insertion reading) unsynced (offlineWork bothScans)) := by
  obtain ⟨along, replay, accepted, statuses⟩ :
      Along (@step _ _ .insertion reading) (@Allowed _ .insertion) unsynced
          (offlineWork bothScans) ∧
        @OfflineReplay _ _ .insertion reading (chars "D1") (scanned bothScans) synced
          (scansOffline bothScans)
          (replayOnline bothScans) ∧
        (synced.server.backend.deliverLive reading (chars "D1") (arrivals bothScans)).isSome =
          true ∧
        ∃ event ∈ scanned bothScans,
          ((run (@step _ _ .insertion reading) unsynced
            (offlineWork bothScans)).k.journal.index.find
            event.event.eventId).map JournalRecord.syncStatus = some .conflict := by
    decide +kernel
  obtain ⟨live, delivers⟩ := Option.isSome_iff_exists.mp accepted
  obtain ⟨event, member, conflict⟩ := statuses
  refine ⟨along, replay, live, delivers, fun survived => ?_⟩
  obtain ⟨record, found, acked⟩ := survived.1 event member
  rw [found, Option.map_some, acked] at conflict
  cases conflict

end Joint
end Kiosk.Runtime
