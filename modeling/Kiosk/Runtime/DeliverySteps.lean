import Kiosk.Runtime.KioskRuntime

/-! What a step of the runtime does to the journal, to the worker and to the replay
pass. The task runs at most once within a call, before the call's own request. -/
namespace Kiosk.Runtime

open Library Library.KeySearch Library.TransitionSystem Protocol Network Storage

/-- The requests whose results `poll()` treats as the delivery of an event. -/
def isEventKind : NetworkRequestKind → Bool
  | .businessEvent | .offlineReplay => true
  | _ => false

/-- The surroundings of the steps that may create an event. -/
def RuntimeStep.operatorEnv : RuntimeStep → Option LoopEnv
  | .scan env _ => some env
  | .keyDown env _ => some env
  | .checkUiTimeout env => some env
  | _ => none

/-- What the task does during a step. -/
def RuntimeStep.meanwhile : RuntimeStep → List NetworkEnv
  | .scan env _ => env.meanwhile
  | .keyDown env _ => env.meanwhile
  | .pollResult env => env.meanwhile
  | .checkUiTimeout env => env.meanwhile
  | .checkOfflineReplay env => env.meanwhile
  | .requestManualResync env => env.meanwhile
  | .task env => [env]
  | _ => []

structure ReplayPass where
  replayEventIds : List Bytes := []
  replayNext : Nat := 0
  replaying : Bool := false
  passSends : List ReplaySend := []

/-- What a delivery is about. -/
structure Delivery where
  journal : EventJournal
  network : NetworkWorker
  pass : ReplayPass
  createdEvents : List KioskEvent

/-- The worker after a call that sends no event. -/
inductive Idle (w : NetworkWorker) (envs : List NetworkEnv) : NetworkWorker → Prop where
  | still : Idle w envs w
  | ran : Idle w envs (w.advance execute envs)
  | asked (tier : SlotWorker.Tier) (request : NetworkRequest)
      (plain : isEventKind request.kind = false) :
      Idle w envs ((w.advance execute envs).enqueue queueDepth tier request).1

section Outstanding
variable {w after : NetworkWorker} {p : SlotWorker.Ticket NetworkRequest → Bool}

/-- A request that `p` does not select makes nothing that `p` selects outstanding. -/
theorem outstanding_enqueue (tier : SlotWorker.Tier) (request : NetworkRequest)
    (other : p ⟨w.accepted, request⟩ = false) :
    ((w.enqueue queueDepth tier request).1.outstanding.filter p).Subperm
      (w.outstanding.filter p) := by
  refine ((SlotWorker.Worker.enqueue_outstanding queueDepth w tier request).filter p).subperm.trans
    ?_
  split
  · rw [List.filter_append, List.filter_cons_of_neg (by simp [other]), List.filter_nil,
      List.append_nil]
  · exact .refl _

theorem outstanding_advance (envs : List NetworkEnv) :
    ((w.advance execute envs).outstanding.filter p).Subperm (w.outstanding.filter p) :=
  (SlotWorker.Worker.advance_outstanding execute w envs).1.filter p

/-- A call that sends no event makes no event outstanding. -/
theorem Idle.outstanding_subperm (idle : Idle w envs after)
    (events : ∀ ticket, p ticket = true → isEventKind ticket.request.kind = true) :
    (after.outstanding.filter p).Subperm (w.outstanding.filter p) := by
  cases idle with
  | still => exact .refl _
  | ran => exact outstanding_advance envs
  | asked tier request plain =>
    refine (outstanding_enqueue tier request ?_).trans (outstanding_advance envs)
    cases selected : p ⟨(w.advance execute envs).accepted, request⟩ with
    | false => rfl
    | true =>
      have event : isEventKind request.kind = true := events _ selected
      rw [plain] at event
      cases event

end Outstanding

section Answers
variable {w after : NetworkWorker} {motive : SlotWorker.Answer NetworkRequest NetworkResult → Prop}

theorem answers_enqueue (before : ∀ answer ∈ w.answers, motive answer) (tier : SlotWorker.Tier)
    (request : NetworkRequest) :
    ∀ answer ∈ (w.enqueue queueDepth tier request).1.answers, motive answer := by
  rw [SlotWorker.Worker.enqueue_answers]
  exact before

/-- A result on its way was there before the call, or is one of an execution during it. -/
theorem Idle.answers {allowed : NetworkWorker → NetworkEnv → Prop} (idle : Idle w envs after)
    (before : ∀ answer ∈ w.answers, motive answer)
    (along : Along (SlotWorker.Worker.tick execute) allowed w envs)
    (executed : ∀ (w : NetworkWorker) env ticket, allowed w env → w.phase = .executing ticket →
      motive ⟨ticket, execute env ticket.request⟩) :
    ∀ answer ∈ after.answers, motive answer := by
  have ran := SlotWorker.Worker.advance_answers_along execute along before executed
  cases idle with
  | still => exact before
  | ran => exact ran
  | asked tier request plain => exact answers_enqueue ran tier request

end Answers

namespace KioskRuntime

/-- The transition `poll` appends for the result of an event. -/
def resultTransition (env : LoopEnv) (result : NetworkResult) : JournalTransition :=
  if !result.outcome.ok then failureTransition env result
  else
    let (resp, parsed) := parseEventResponseJson result.responseBody
    if !parsed ∨ resp.kind = .malformed then {
      eventId := result.eventId
      lastErrorCode := text "EVENT_RESPONSE_MALFORMED"
      lastAttemptUptimeMs := env.millis }
    else if resp.kind = .conflictResync then {
      eventId := result.eventId
      syncStatus := .conflict
      lastErrorCode := text "STATE_CONFLICT"
      lastAttemptUptimeMs := env.millis }
    else settledTransition env resp result.eventId

def pass (k : KioskRuntime) : ReplayPass :=
  ⟨k.replayEventIds, k.replayNext, k.replaying, k.passSends⟩

def delivery (k : KioskRuntime) : Delivery := ⟨k.journal, k.network, k.pass, k.createdEvents⟩

/-- The worker as the task finds it in a step. -/
def networkAt (k : KioskRuntime) : RuntimeStep → NetworkWorker
  | .pollResult _ => k.network.poll.1
  | _ => k.network

theorem networkAt_outstanding (k : KioskRuntime) (input : RuntimeStep) :
    (k.networkAt input).outstanding.Subperm k.network.outstanding := by
  cases input with
  | pollResult env =>
    rw [SlotWorker.Worker.poll_outstanding k.network]
    exact (List.sublist_append_left _ _).subperm
  | _ => exact .refl _

theorem networkAt_answers (k : KioskRuntime) (input : RuntimeStep)
    (member : answer ∈ (k.networkAt input).answers) :
    answer ∈ k.network.answers := by
  cases input with
  | pollResult env =>
    rw [SlotWorker.Worker.answers, List.mem_append] at member ⊢
    rcases member with executed | slot
    · exact .inl executed
    · simp [networkAt, SlotWorker.Worker.poll] at slot
  | _ => exact member

/-- The event result a step reads. -/
def eventAnswer (k : KioskRuntime) :
    RuntimeStep → Option (SlotWorker.Answer NetworkRequest NetworkResult)
  | .pollResult _ => k.network.slot.filter fun answer => isEventKind answer.result.kind
  | _ => none

/-- The journal after one call, and whether the call succeeded. -/
def journalEvent (k : KioskRuntime) (env : LoopEnv) (record : JournalRecord) :
    EventJournal × Bool :=
  (k.journal.on env.medium).appendEvent record

def journalTransition (journal : EventJournal) (env : LoopEnv) (transition : JournalTransition) :
    EventJournal :=
  ((journal.on env.medium).appendTransition transition).1

/-- The steps that take a new snapshot of the queue, if anything is pending. -/
def startsPass (k : KioskRuntime) (input : RuntimeStep) : Bool :=
  !(k.replaying || k.replayNext < k.replayEventIds.length) &&
    match input with
    | .startOfflineReplay => true
    | .replayFallback env =>
      env.millis - k.lastReplayFallbackCheckMs ≥ kReplayFallbackCheckIntervalMs
    | _ => false

/-- The worker and the journal after an event was journaled and offered to the queue. -/
def dispatched (k : KioskRuntime) (env : LoopEnv) (journal : EventJournal) (event : KioskEvent) :
    EventJournal × NetworkWorker :=
  let sent :=
    NetworkWorker.enqueueBusinessEvent (k.network.advance execute env.meanwhile) event.event.eventId
    event.event.deviceSeq k.apiEndpoint (encodeEventJson event) env.kioskToken
  (if sent.2 then journalTransition journal env
      { eventId := event.event.eventId, syncStatus := .inFlight, lastAttemptUptimeMs := env.millis }
    else journal, sent.1)

end KioskRuntime

def ReplayPass.close (pass : ReplayPass) : ReplayPass :=
  if pass.replaying
    then { pass with replaying := false, replayNext := pass.replayNext + 1 } else pass

namespace KioskRuntime

/-- The step reads no result. -/
structure Quiet (k : KioskRuntime) (input : RuntimeStep) : Prop where
  silent : k.eventAnswer input = none
  network : k.networkAt input = k.network

/-- Everything a step can do to a delivery. -/
inductive DeliveryOutcome [StdSort] (k : KioskRuntime) (input : RuntimeStep) (after : Delivery) :
    Prop where
  | idle (silent : k.eventAnswer input = none) (network : NetworkWorker)
      (moved : Idle (k.networkAt input) input.meanwhile network)
      (delivery : after = { k.delivery with network := network })
  | answered (env : LoopEnv) (answer : SlotWorker.Answer NetworkRequest NetworkResult)
      (poll : input = .pollResult env)
      (read : k.eventAnswer input = some answer) (network : NetworkWorker)
      (moved : Idle (k.networkAt input) input.meanwhile network)
      (delivery : after = { k.delivery with
        journal := journalTransition k.journal env (resultTransition env answer.result)
        network := network
        pass := k.pass.close })
  | unrecorded (quiet : Quiet k input) (env : LoopEnv) (event : KioskEvent)
      (operator : input.operatorEnv = some env)
      (failed : (k.journalEvent env (journalRecordOf event)).2 = false)
      (delivery : after =
        { k.delivery with journal := (k.journalEvent env (journalRecordOf event)).1 })
  | created (quiet : Quiet k input) (env : LoopEnv) (event : KioskEvent)
      (operator : input.operatorEnv = some env)
      (fresh : event.event.eventId = generateRandomHexId 16 env.espRandom)
      (version : event.context.expectedStateVersion =
        (k.stateProjection.current.map StateSnapshot.stateVersion).getD 0)
      (recorded : (k.journalEvent env (journalRecordOf event)).2 = true)
      (delivery : after = { k.delivery with
        journal := (k.dispatched env (k.journalEvent env (journalRecordOf event)).1 event).1
        network := (k.dispatched env (k.journalEvent env (journalRecordOf event)).1 event).2
        createdEvents := event :: k.createdEvents })
  | passStarted (quiet : Quiet k input)
      (done : ¬ (k.replaying || k.replayNext < k.replayEventIds.length))
      (starts : k.startsPass input = true)
      (delivery : after = { k.delivery with
        pass := ⟨k.journal.index.pendingInDeviceSeqOrder.map JournalRecord.eventId, 0, false, []⟩ })
  | skipped (quiet : Quiet k input) (resting : k.replaying = false)
      (delivery : after =
        { k.delivery with pass := { k.pass with replayNext := k.replayNext + 1 } })
  | replayed (quiet : Quiet k input) (env : LoopEnv) (record : JournalRecord) (eventId : Bytes)
      (check : input = .checkOfflineReplay env)
      (next : k.replayEventIds[k.replayNext]? = some eventId)
      (resting : k.replaying = false) (found : k.journal.index.find eventId = some record)
      (delivery : after = (k.sendReplay env record).delivery)
  | compacting (quiet : Quiet k input) (medium : Medium) (call : JournalCall)
      (incremental : (∃ policy, call = .beginCompaction policy) ∨ call = .compactTick)
      (delivery : after = { k.delivery with journal := (k.journal.call medium call).1 })
  | rebooted (config : BootConfig) (restart : input = .reboot config)
      (delivery : after = ⟨k.journal.reboot, {}, {}, k.createdEvents⟩)

section Frames
variable {k : KioskRuntime} {input : RuntimeStep} {env : LoopEnv} {after : Delivery}

private theorem delivery_closeReplay (k : KioskRuntime) :
    k.closeReplay.delivery = { k.delivery with pass := k.pass.close } := by
  unfold closeReplay ReplayPass.close
  cases replaying : k.replaying <;> simp [delivery, pass, replaying]

private theorem delivery_noteServerSeq (k : KioskRuntime) (serverSeq : Int) :
    (k.noteServerSeq serverSeq).delivery = k.delivery := by
  unfold noteServerSeq; split <;> rfl

/-- The replay of a record offered to the queue. -/
def offered (k : KioskRuntime) (env : LoopEnv) (record : JournalRecord) : NetworkWorker × Bool :=
  NetworkWorker.enqueueOfflineReplay (k.network.advance execute env.meanwhile) record.eventId
    record.deviceSeq
    k.apiEndpoint record.payload env.kioskToken

theorem delivery_sendReplay (k : KioskRuntime) (env : LoopEnv) (record : JournalRecord) :
    (k.sendReplay env record).delivery = { k.delivery with
      network := (k.offered env record).1
      pass := { k.pass with
        replaying := (k.offered env record).2
        passSends := ⟨k.replayNext, record, k.network.accepted, (k.offered env record).2⟩
          :: k.passSends } } := by
  rw [← (SlotWorker.Worker.advance_outstanding execute k.network env.meanwhile).2]
  rfl

/-- The appended transition and a worker that may have been asked for the state. -/
private def Settles (k : KioskRuntime) (env : LoopEnv) (transition : JournalTransition)
    (after : Delivery) : Prop :=
  ∃ network, Idle k.network env.meanwhile network ∧
    after = { k.delivery with
      journal := journalTransition k.journal env transition, network := network }

private theorem Settles.of_delivery {k now : KioskRuntime}
    (settles : Settles now env transition after)
    (same : now.delivery = k.delivery) : Settles k env transition after := by
  have network : now.network = k.network := congrArg Delivery.network same
  have journal : now.journal = k.journal := congrArg Delivery.journal same
  rw [Settles, same, network, journal] at settles
  exact settles

/-- Asking for the state moves nothing but the worker. -/
private theorem startResync_settles {now : KioskRuntime}
    (same : now.delivery =
      { k.delivery with journal := journalTransition k.journal env transition }) :
    Settles k env transition (now.startResync env).delivery := by
  have network : now.network = k.network := congrArg Delivery.network same
  have asked : Idle now.network env.meanwhile (now.startResync env).network := .asked .high _ rfl
  have kept : (now.startResync env).delivery =
      { now.delivery with network := (now.startResync env).network } := rfl
  rw [network] at asked
  exact ⟨_, asked, by rw [kept, same]⟩

private theorem finishApply_settles (k : KioskRuntime) (env : LoopEnv)
    (transition : JournalTransition) (applyResult : ApplyResult) (state prevState : BusinessState) :
    Settles k env transition
      ((k.appendTransition env transition).clearQtyBuffer.finishApply env applyResult state
      prevState).delivery := by
  unfold finishApply
  split
  · split <;> exact ⟨_, .still, rfl⟩
  · split <;> exact ⟨_, .still, rfl⟩
  · exact startResync_settles rfl
  · exact startResync_settles rfl
  · exact ⟨_, .still, rfl⟩

private theorem applyEventResponse_settles (k : KioskRuntime) (env : LoopEnv)
    (result : NetworkResult) (ok : result.outcome.ok = true) :
    Settles k env (resultTransition env result)
      (k.applyEventResponse env (parseEventResponseJson result.responseBody).2
      (parseEventResponseJson result.responseBody).1 result.eventId).delivery := by
  unfold applyEventResponse resultTransition
  simp only [ok, Bool.not_true, Bool.false_eq_true, ↓reduceIte]
  split
  · exact ⟨_, .still, rfl⟩
  split
  · exact .of_delivery (startResync_settles rfl) (delivery_noteServerSeq (k.touchActivity env) _)
  · unfold applySnapshotResponse
    exact (finishApply_settles _ _ _ _ _ _).of_delivery
      (delivery_noteServerSeq (k.touchActivity env) _)

private theorem handleEventResult_settles (k : KioskRuntime) (env : LoopEnv)
    (result : NetworkResult) :
    Settles k.closeReplay env (resultTransition env result)
      (k.handleEventResult env result).delivery := by
  unfold handleEventResult
  simp only
  split
  · rename_i failed
    refine ⟨_, .still, ?_⟩
    rw [resultTransition, if_pos failed]
    rfl
  · rename_i ok
    exact applyEventResponse_settles _ _ _ (by simpa using ok)

variable [StdSort]

private theorem DeliveryOutcome.same (silent : k.eventAnswer input = none)
    (network : k.networkAt input = k.network)
    (delivery : after = k.delivery) : DeliveryOutcome k input after :=
  .idle silent k.network (network ▸ .still) delivery

private theorem sendBusinessEvent_delivered (quiet : Quiet k input)
    (operator : input.operatorEnv = some env) :
    DeliveryOutcome k input
      ((k.touchActivity env).sendBusinessEvent env type rawPayload good defect
      rework).delivery := by
  unfold sendBusinessEvent
  split
  · exact .same quiet.silent quiet.network rfl
  simp only
  split
  · rename_i journal result
    have appended : k.journalEvent env (journalRecordOf ((k.touchActivity env).newEvent env
        (k.touchActivity env).deviceSeq.next.2 type rawPayload good defect rework)) =
          (journal, false) := result
    exact .unrecorded quiet env _ operator (by rw [appended]) (by rw [appended]; rfl)
  · rename_i journal result
    have appended : k.journalEvent env (journalRecordOf ((k.touchActivity env).newEvent env
        (k.touchActivity env).deviceSeq.next.2 type rawPayload good defect rework)) =
          (journal, true) := result
    refine .created quiet env _ operator rfl rfl (by rw [appended]) ?_
    rw [appended]
    simp only [dispatched, dispatchEvent]
    split
    · rename_i network sent
      have queued : NetworkWorker.enqueueBusinessEvent (k.network.advance execute env.meanwhile) _ _
        k.apiEndpoint _
        env.kioskToken = (network, true) := sent
      rw [queued]
      rfl
    · rename_i network sent
      have queued : NetworkWorker.enqueueBusinessEvent (k.network.advance execute env.meanwhile) _ _
        k.apiEndpoint _
        env.kioskToken = (network, false) := sent
      rw [queued]
      rfl

private theorem handleScan_delivered (rawCode : Bytes) :
    DeliveryOutcome k (.scan env rawCode) (k.handleScan env rawCode).delivery := by
  unfold handleScan
  split
  · exact .same rfl rfl rfl
  split
  · exact .same rfl rfl rfl
  simp only
  split
  · exact .same rfl rfl rfl
  · exact sendBusinessEvent_delivered ⟨rfl, rfl⟩ rfl

private theorem handleKeyDown_delivered (key : UInt8) :
    DeliveryOutcome k (.keyDown env key) (k.handleKeyDown env key).delivery := by
  have quiet : Quiet k (.keyDown env key) := ⟨rfl, rfl⟩
  unfold handleKeyDown handleBusinessKey
  split
  · split
    · exact .same rfl rfl rfl
    split
    · exact .same rfl rfl rfl
    split
    · exact .same rfl rfl rfl
    split
    · exact .same rfl rfl rfl
    split
    · exact .same rfl rfl rfl
    simp only
    split
    · exact sendBusinessEvent_delivered quiet rfl
    split
    · unfold handleQuantityKey
      split
      · exact sendBusinessEvent_delivered quiet rfl
      · split <;> exact .same rfl rfl rfl
    split
    · exact sendBusinessEvent_delivered quiet rfl
    · exact .same rfl rfl rfl
  · exact .same rfl rfl rfl

private theorem checkUiTimeout_delivered :
    DeliveryOutcome k (.checkUiTimeout env) (k.checkUiTimeout env).delivery := by
  unfold checkUiTimeout
  split
  · exact .same rfl rfl rfl
  split
  · exact .same rfl rfl rfl
  split
  · exact .same rfl rfl rfl
  split
  · exact .same rfl rfl rfl
  split
  · exact .same rfl rfl rfl
  split
  · exact .same rfl rfl rfl
  split
  · exact sendBusinessEvent_delivered ⟨rfl, rfl⟩ rfl
  · exact .same rfl rfl rfl
  · exact .same rfl rfl rfl

private theorem onBootstrapResult_delivered (result : BootstrapResult) :
    DeliveryOutcome k (.bootstrapResult env result) (k.onBootstrapResult env result).delivery := by
  have matched : (k.applyServerEnvironment env result).1.delivery = k.delivery := by
    unfold applyServerEnvironment; simp only; split <;> rfl
  refine .same rfl rfl ?_
  unfold onBootstrapResult
  split
  · rfl
  split
  · rename_i now mismatch
    rw [mismatch] at matched
    exact matched
  · rename_i now accepted
    rw [accepted] at matched
    split
    · exact matched
    · split
      simp only
      split <;> exact matched

private theorem startOfflineReplay_delivered (quiet : Quiet k input) (lastCheck : UInt32)
    (starts : ¬ (k.replaying || k.replayNext < k.replayEventIds.length) →
      k.startsPass input = true) :
    DeliveryOutcome k input
      { k with lastReplayFallbackCheckMs := lastCheck }.startOfflineReplayIfNeeded.delivery := by
  unfold startOfflineReplayIfNeeded
  split
  · exact .same quiet.silent quiet.network rfl
  rename_i done
  simp only
  split
  · exact .same quiet.silent quiet.network rfl
  · refine .passStarted quiet done (starts done) ?_
    have resting : k.replaying = false := by simp at done; exact done.1
    simp [delivery, pass, resting]

private theorem checkOfflineReplay_delivered :
    DeliveryOutcome k (.checkOfflineReplay env) (k.checkOfflineReplay env).delivery := by
  have quiet : Quiet k (.checkOfflineReplay env) := ⟨rfl, rfl⟩
  unfold checkOfflineReplay
  split
  · exact .same rfl rfl rfl
  rename_i eventId next
  split
  · exact .same rfl rfl rfl
  rename_i resting
  split
  · exact .same rfl rfl rfl
  split
  · exact .same rfl rfl rfl
  split
  · exact .skipped quiet (by simpa using resting) rfl
  · rename_i record found
    exact .replayed quiet env record eventId rfl next (by simpa using resting) found rfl

private theorem handleEventResult_answered (slot : k.network.slot = some answer)
    (event : isEventKind answer.result.kind = true) :
    DeliveryOutcome k (.pollResult env)
      ({ k with network := k.network.poll.1 }.handleEventResult env answer.result).delivery := by
  obtain ⟨network, moved, delivery⟩ :=
    handleEventResult_settles { k with network := k.network.poll.1 } env answer.result
  have closed := delivery_closeReplay { k with network := k.network.poll.1 }
  have during : ({ k with network := k.network.poll.1 } : KioskRuntime).closeReplay.network =
      k.network.poll.1 :=
    congrArg Delivery.network closed
  have journal :
      ({ k with network := k.network.poll.1 } : KioskRuntime).closeReplay.journal = k.journal :=
    congrArg Delivery.journal closed
  rw [during] at moved
  rw [closed, journal] at delivery
  exact .answered env answer rfl (by simp [eventAnswer, slot, event]) network moved delivery

private theorem pollResult_delivered :
    DeliveryOutcome k (.pollResult env) (k.pollResult env).delivery := by
  unfold pollResult
  simp only [SlotWorker.Worker.poll]
  cases slot : k.network.slot with
  | none => exact .idle (by simp [eventAnswer, slot]) _ .still rfl
  | some answer =>
    simp only
    split
    · rename_i kind
      refine .idle (by simp [eventAnswer, slot, kind, isEventKind]) _ .still ?_
      unfold handleResyncResult
      split
      · rfl
      split
      · rfl
      simp only
      split <;> rfl
    · rename_i kind
      exact .idle (by simp [eventAnswer, slot, kind, isEventKind]) _ .still rfl
    · rename_i kind
      exact .idle (by simp [eventAnswer, slot, kind, isEventKind]) _ .still rfl
    · rename_i kind
      exact .idle (by simp [eventAnswer, slot, kind, isEventKind]) _ .still rfl
    · rename_i kind
      refine handleEventResult_answered slot (by rw [kind]; rfl)
    · rename_i kind
      refine handleEventResult_answered slot (by rw [kind]; rfl)

/-- Every step does one of the things an outcome lists. -/
theorem step_delivery (k : KioskRuntime) (input : RuntimeStep) :
    DeliveryOutcome k input (k.step input).delivery := by
  cases input with
  | scan env rawCode => exact handleScan_delivered rawCode
  | keyDown env key => exact handleKeyDown_delivered key
  | pollResult env => exact pollResult_delivered
  | checkUiTimeout env => exact checkUiTimeout_delivered
  | replayFallback env =>
    simp only [step, replayFallback]
    split
    · rename_i due
      exact startOfflineReplay_delivered ⟨rfl, rfl⟩ _ fun done => by simp_all [startsPass]
    · exact .same rfl rfl rfl
  | checkOfflineReplay env => exact checkOfflineReplay_delivered
  | startOfflineReplay =>
    exact startOfflineReplay_delivered ⟨rfl, rfl⟩ k.lastReplayFallbackCheckMs fun done =>
      by simp_all [startsPass]
  | bootstrapResult env result => exact onBootstrapResult_delivered result
  | requestManualResync env =>
    simp only [step, requestManualResync]
    split
    · exact .same rfl rfl rfl
    · exact .idle rfl _ (.asked .high _ rfl) rfl
  | enqueueBootstrap url body =>
    exact .idle rfl _ (.asked .high (plainRequest .bootstrap url body []) rfl) rfl
  | enqueueHeartbeat url body =>
    exact .idle rfl _ (.asked .low (plainRequest .heartbeat url body []) rfl) rfl
  | enqueueUiBundleFetch url =>
    exact .idle rfl _ (.asked .low (plainRequest .uiBundleFetch url [] []) rfl) rfl
  | takeBootstrapResult => exact .same rfl rfl rfl
  | takeUiBundleFetchResult => exact .same rfl rfl rfl
  | task env => exact .idle rfl (k.network.advance execute [env]) .ran rfl
  | beginCompaction medium policy => exact .compacting ⟨rfl, rfl⟩ medium _ (.inl ⟨policy, rfl⟩) rfl
  | compactTick medium => exact .compacting ⟨rfl, rfl⟩ medium _ (.inr rfl) rfl
  | reboot config => exact .rebooted config rfl (by simp only [step, reboot, boot, delivery, pass])

/-- What is true of every result on its way, and of every execution a step may make, is
true of the results after it. -/
theorem answers_step_along {motive : SlotWorker.Answer NetworkRequest NetworkResult → Prop}
    {allowed : NetworkWorker → NetworkEnv → Prop}
    (before : ∀ answer ∈ k.network.answers, motive answer)
    (along : Along (SlotWorker.Worker.tick execute) allowed (k.networkAt input) input.meanwhile)
    (executed : ∀ (w : NetworkWorker) env ticket, allowed w env → w.phase = .executing ticket →
      motive ⟨ticket, execute env ticket.request⟩) :
    ∀ answer ∈ (k.step input).network.answers, motive answer := by
  have arriving : ∀ answer ∈ (k.networkAt input).answers, motive answer :=
    fun answer member => before answer (networkAt_answers k input member)
  have network : (k.step input).network = (k.step input).delivery.network := rfl
  rw [network]
  cases k.step_delivery input with
  | idle _ network moved delivery => rw [delivery]; exact moved.answers arriving along executed
  | answered _ _ _ _ network moved delivery =>
    rw [delivery]
    exact moved.answers arriving along executed
  | unrecorded _ _ _ _ _ delivery => rw [delivery]; exact before
  | created quiet env event operator _ _ _ delivery =>
    have during : input.meanwhile = env.meanwhile := by
      cases input <;> simp_all [RuntimeStep.operatorEnv, RuntimeStep.meanwhile]
    rw [quiet.network, during] at along
    rw [delivery]
    exact answers_enqueue (SlotWorker.Worker.advance_answers_along execute along before executed)
      _ _
  | passStarted _ _ _ delivery => rw [delivery]; exact before
  | skipped _ _ delivery => rw [delivery]; exact before
  | replayed _ env record _ check _ _ _ delivery =>
    subst check
    rw [delivery, delivery_sendReplay]
    exact answers_enqueue (SlotWorker.Worker.advance_answers_along execute along before executed)
      _ _
  | compacting _ _ _ _ delivery => rw [delivery]; exact before
  | rebooted _ _ delivery =>
    rw [delivery]
    intro answer member
    simp [SlotWorker.Worker.answers, SlotWorker.Phase.answer] at member

theorem answers_step {motive : SlotWorker.Answer NetworkRequest NetworkResult → Prop}
    (before : ∀ answer ∈ k.network.answers, motive answer)
    (executed : ∀ env ∈ input.meanwhile, ∀ ticket, motive ⟨ticket, execute env ticket.request⟩) :
    ∀ answer ∈ (k.step input).network.answers, motive answer := by
  have among : Along (SlotWorker.Worker.tick execute) (fun _ env => env ∈ input.meanwhile)
      (k.networkAt input) input.meanwhile :=
    .of_mem (fun env member _ => member) _
  exact answers_step_along before among fun _ env ticket member _ => executed env member ticket

end Frames

end KioskRuntime

end Kiosk.Runtime
