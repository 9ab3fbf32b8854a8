import Kiosk.Runtime.KioskRuntime

/-! What a step of the runtime does to the projection, to the local entry and to the
list of created events. A snapshot reaches the projection on three ways. -/
namespace Kiosk.Runtime

open Library Library.KeySearch Protocol Network Storage

inductive SnapshotSource where
  | event | resync | bootstrap
  deriving DecidableEq, Repr

/-- The snapshot in the result of an event, if the answer accepts or rejects it. -/
def eventSnapshot (result : NetworkResult) : Option StateSnapshot :=
  let (resp, parsed) := parseEventResponseJson result.responseBody
  if result.outcome.ok ∧ parsed ∧ (resp.kind = .success ∨ resp.kind = .businessRejected)
    then some resp.snapshot
  else none

def resyncSnapshot (result : NetworkResult) : Option StateSnapshot :=
  if result.outcome.ok then parseStateSnapshotJson result.responseBody else none

namespace KioskRuntime

def bootstrapSnapshot (k : KioskRuntime) (env : LoopEnv) (result : BootstrapResult) :
    Option StateSnapshot :=
  if result.status = .ok ∧ (k.applyServerEnvironment env result).2 then result.snapshot else none

/-- The snapshot a result read from the slot offers. -/
def resultSnapshot (result : NetworkResult) : Option (SnapshotSource × StateSnapshot) :=
  match result.kind with
  | .stateFetch => (resyncSnapshot result).map fun snapshot => (.resync, snapshot)
  | .businessEvent | .offlineReplay => (eventSnapshot result).map fun snapshot => (.event, snapshot)
  | _ => none

/-- The snapshot a step offers to the projection. -/
def arriving (k : KioskRuntime) : RuntimeStep → Option (SnapshotSource × StateSnapshot)
  | .pollResult _ => k.network.slot.bind fun answer => resultSnapshot answer.result
  | .bootstrapResult env result =>
    (k.bootstrapSnapshot env result).map fun snapshot => (.bootstrap, snapshot)
  | _ => none

def currentState (k : KioskRuntime) : Option BusinessState :=
  k.stateProjection.current.map StateSnapshot.state

/-- The projection is in `QUANTITY_INPUT`. -/
def inEntry (k : KioskRuntime) : Bool := k.currentState = some .quantityInput

/-- A key that passes every gate and reaches the quantity steps. -/
def entryKey (k : KioskRuntime) : RuntimeStep → Option UInt8
  | .keyDown env key =>
    if key ≠ 42 ∧ env.recoveryOverlayActive = false ∧ env.safeMode = false ∧ k.envMismatch = false ∧
        env.identityState = .active ∧ k.inEntry ∧ k.resyncing = false then some key
    else none
  | _ => none

/-- What the entry is about. -/
structure EntryView where
  stateProjection : StateProjection
  flow : QuantityFlow
  createdEvents : List KioskEvent

def entryView (k : KioskRuntime) : EntryView := ⟨k.stateProjection, k.flow, k.createdEvents⟩

/-- A snapshot that takes the projection into `QUANTITY_INPUT` from elsewhere. -/
def enters (projection : StateProjection) (snapshot : StateSnapshot) : Bool :=
  StateProjection.taken (projection.apply snapshot).2 && snapshot.state = .quantityInput &&
    projection.current.map StateSnapshot.state ≠ some .quantityInput

/-- An answer that brings a snapshot into the projection. -/
def EntryView.answered (view : EntryView) (snapshot : StateSnapshot) : EntryView :=
  { view with
    stateProjection := (view.stateProjection.apply snapshot).1
    flow := bif enters view.stateProjection snapshot then {} else view.flow.clearBuffer }

section Frames
variable (k : KioskRuntime) (env : LoopEnv)

@[simp] theorem entryView_appendTransition (t : JournalTransition) :
    (k.appendTransition env t).entryView = k.entryView := rfl

@[simp] theorem entryView_touchActivity : (k.touchActivity env).entryView = k.entryView := rfl

@[simp] theorem entryView_resetQuantityFlow :
    k.resetQuantityFlow.entryView = { k.entryView with flow := {} } :=
  rfl

@[simp] theorem entryView_letTaskRun : (k.letTaskRun env).entryView = k.entryView := rfl

@[simp] theorem entryView_startResync : (k.startResync env).entryView = k.entryView := rfl

@[simp] theorem entryView_noteServerSeq (serverSeq : Int) :
    (k.noteServerSeq serverSeq).entryView = k.entryView := by
  unfold noteServerSeq; split <;> rfl

@[simp] theorem entryView_closeReplay : k.closeReplay.entryView = k.entryView := by
  unfold closeReplay; split <;> rfl

@[simp] theorem entryView_dispatchEvent (event : KioskEvent) :
    (k.dispatchEvent env event).entryView = k.entryView := by
  unfold dispatchEvent; simp only; split <;> rfl

@[simp] theorem entryView_sendReplay (record : JournalRecord) :
    (k.sendReplay env record).entryView = k.entryView :=
  rfl

/-- A send leaves the projection and the entry alone and creates at most one event,
of its own type and quantities. -/
theorem entryView_sendBusinessEvent (type : EventType) (rawPayload : Bytes)
    (good defect rework : OptionalQuantity) :
    let after := (k.sendBusinessEvent env type rawPayload good defect rework).entryView
    after = k.entryView ∨ ∃ event,
        after = { k.entryView with createdEvents := event :: k.createdEvents } ∧
      event.event.type = type ∧ event.quantityGood = good ∧ event.quantityDefect = defect ∧
        event.quantityRework = rework := by
  unfold sendBusinessEvent
  split
  · exact .inl rfl
  simp only
  split
  · exact .inl rfl
  · rw [entryView_dispatchEvent]
    exact .inr ⟨_, rfl, rfl, rfl, rfl, rfl⟩

theorem entryView_finishApply (applyResult : ApplyResult) (state prevState : BusinessState) :
    (k.finishApply env applyResult state prevState).entryView =
      if StateProjection.taken applyResult ∧ state = .quantityInput ∧
        prevState ≠ .quantityInput then
        { k.entryView with flow := {} }
      else k.entryView := by
  unfold finishApply
  cases applyResult with
  | applied => simp only [StateProjection.taken]; split <;> simp_all
  | appliedIdentical => simp only [StateProjection.taken]; split <;> simp_all
  | rejectedStale => simp [StateProjection.taken]
  | rejectedInconsistent => simp [StateProjection.taken]
  | rejectedUnsupported => simp [StateProjection.taken]

theorem entryView_applySnapshotResponse (resp : EventResponse) (eventId : Bytes) :
    (k.applySnapshotResponse env resp eventId).entryView = k.entryView.answered resp.snapshot := by
  rw [applySnapshotResponse, entryView_finishApply, EntryView.answered]
  have entered : enters k.stateProjection resp.snapshot = true ↔
      StateProjection.taken (k.stateProjection.apply resp.snapshot).2 = true ∧
          resp.snapshot.state = .quantityInput ∧
        (k.stateProjection.current.map StateSnapshot.state).getD .waitEmployee ≠
          .quantityInput := by
    unfold enters
    cases k.stateProjection.current <;> simp [and_assoc]
  cases entering : enters k.entryView.stateProjection resp.snapshot with
  | true =>
    rw [if_pos (entered.mp entering)]
    rfl
  | false =>
    rw [if_neg (fun all => by simp [entered.mpr all, entryView] at entering)]
    rfl

/-- The result of an event reaches the entry through the snapshot of its answer only. -/
theorem entryView_handleEventResult (result : NetworkResult) :
    (k.handleEventResult env result).entryView =
      match eventSnapshot result with
      | none => k.entryView
      | some snapshot => k.entryView.answered snapshot := by
  unfold handleEventResult eventSnapshot
  simp only
  split
  · rename_i failed
    simp_all
  · unfold applyEventResponse
    simp only
    split
    · rename_i answered malformed
      have unusable : ¬ ((parseEventResponseJson result.responseBody).2 = true ∧
          ((parseEventResponseJson result.responseBody).1.kind = .success ∨
            (parseEventResponseJson result.responseBody).1.kind = .businessRejected)) := by
        rcases malformed with unparsed | malformed <;> simp_all
      simp [unusable]
    split
    · rename_i conflict
      simp [conflict]
    · rename_i answered wellFormed other
      have kinds : (parseEventResponseJson result.responseBody).1.kind = .success ∨
          (parseEventResponseJson result.responseBody).1.kind = .businessRejected := by
        cases kind : (parseEventResponseJson result.responseBody).1.kind <;> simp_all
      have usable :
          result.outcome.ok = true ∧ (parseEventResponseJson result.responseBody).2 = true := by
        simp_all
      rw [entryView_applySnapshotResponse, if_pos ⟨usable.1, usable.2, kinds⟩]
      simp

/-- What a snapshot does to the entry depends on the way it came. -/
def EntryView.offered (view : EntryView) (snapshot : StateSnapshot) : SnapshotSource → EntryView
  | .event => view.answered snapshot
  | .resync =>
    { view with
      stateProjection := (view.stateProjection.apply snapshot).1
      flow :=
        bif StateProjection.taken (view.stateProjection.apply snapshot).2 then view.flow.clearBuffer
        else view.flow }
  | .bootstrap => { view with stateProjection := (view.stateProjection.apply snapshot).1 }

/-- No new event submits quantities. -/
def NoSubmission (before after : List KioskEvent) : Prop :=
  after = before ∨ ∃ event, after = event :: before ∧ event.event.type ≠ .quantitySubmitted

/-- The quantities of a new event are the ones of the flow. -/
def Submission (flow : QuantityFlow) (before after : List KioskEvent) : Prop :=
  after = before ∨ ∃ event, after = event :: before ∧ event.quantityGood = some flow.qtyGood ∧
    event.quantityDefect = some flow.qtyDefect ∧ event.quantityRework = some flow.qtyRework

/-- Everything a step can do to the entry. -/
inductive EntryOutcome (input : RuntimeStep) (after : EntryView) : Prop where
  | offered (source : SnapshotSource) (snapshot : StateSnapshot)
      (arrived : k.arriving input = some (source, snapshot))
      (view : after = k.entryView.offered snapshot source)
  | pressed (key : UInt8) (quiet : k.arriving input = none) (accepted : k.entryKey input = some key)
      (projection : after.stateProjection = k.stateProjection)
      (flow : after.flow = (k.flow.press key).1)
      (created : Submission k.flow k.createdEvents after.createdEvents)
  | rebooted (config : BootConfig) (restart : input = .reboot config)
      (view : after = ⟨{}, {}, k.createdEvents⟩)
  | elsewhere (quiet : k.arriving input = none) (keyless : k.entryKey input = none)
      (projection : after.stateProjection = k.stateProjection) (flow : after.flow = k.flow)
      (created : NoSubmission k.createdEvents after.createdEvents)

variable {k} {input : RuntimeStep} {after : EntryView}

private theorem EntryOutcome.same (quiet : k.arriving input = none)
    (keyless : k.entryKey input = none)
    (view : after = k.entryView) : EntryOutcome k input after := by
  subst view
  exact .elsewhere quiet keyless rfl rfl (.inl rfl)

private theorem EntryOutcome.sent (quiet : k.arriving input = none)
    (keyless : k.entryKey input = none)
    {sender : KioskRuntime} (start : sender.entryView = k.entryView)
    (other : type ≠ EventType.quantitySubmitted) :
    EntryOutcome k input
      (sender.sendBusinessEvent env type rawPayload none none none).entryView := by
  rcases sender.entryView_sendBusinessEvent env type rawPayload none none
    none with same | ⟨event, view, kind, _⟩
  · exact .same quiet keyless (same.trans start)
  · have events : sender.createdEvents = k.createdEvents := congrArg EntryView.createdEvents start
    rw [view, start, events]
    exact .elsewhere quiet keyless rfl rfl (.inr ⟨event, rfl, by rw [kind]; exact other⟩)

private theorem handleScan_outcome (rawCode : Bytes) :
    EntryOutcome k (.scan env rawCode) (k.handleScan env rawCode).entryView := by
  unfold handleScan
  split
  · exact .same rfl rfl rfl
  split
  · exact .same rfl rfl rfl
  simp only
  split
  · exact .same rfl rfl rfl
  · exact .sent env rfl rfl rfl (by decide)

private theorem handleQuantityKey_outcome (key : UInt8) {now : KioskRuntime}
    (start : now.entryView = k.entryView)
    (quiet : k.arriving input = none) (accepted : k.entryKey input = some key) :
    EntryOutcome k input (now.handleQuantityKey env key).entryView := by
  have flow : now.flow = k.flow := congrArg EntryView.flow start
  have projection : now.stateProjection = k.stateProjection :=
    congrArg EntryView.stateProjection start
  have events : now.createdEvents = k.createdEvents := congrArg EntryView.createdEvents start
  unfold handleQuantityKey
  rw [flow]
  split
  · rename_i pressed result
    have kept : (k.flow.press key).1 = k.flow := by
      revert result
      unfold QuantityFlow.press
      repeat' split
      all_goals simp
    unfold submitFinalQuantity
    rcases now.entryView_sendBusinessEvent env .quantitySubmitted [] (some k.flow.qtyGood)
      (some k.flow.qtyDefect)
      (some k.flow.qtyRework) with same | ⟨event, view, _, good, defect, rework⟩
    · rw [same, start]
      exact .pressed key quiet accepted rfl kept.symm (.inl rfl)
    · rw [view, start, events]
      exact .pressed key quiet accepted rfl kept.symm (.inr ⟨event, rfl, good, defect, rework⟩)
  · rename_i pressed result
    split
    · rename_i restart
      refine .pressed key quiet accepted projection ?_ (.inl events)
      simp [QuantityFlow.press, restart, resetQuantityFlow, entryView]
    · refine .pressed key quiet accepted projection ?_ (.inl events)
      simp [result, entryView]

private theorem handleKeyDown_outcome (key : UInt8) :
    EntryOutcome k (.keyDown env key) (k.handleKeyDown env key).entryView := by
  unfold handleKeyDown
  split
  · rename_i reached
    unfold handleBusinessKey
    split
    · rename_i safe
      exact .same rfl (by simp [entryKey, safe]) rfl
    split
    · rename_i mismatch
      exact .same rfl (by simp [entryKey, mismatch]) rfl
    split
    · rename_i inactive
      exact .same rfl (by simp [entryKey, inactive]) rfl
    split
    · rename_i missing
      exact .same rfl (by simp [entryKey, inEntry, currentState, missing]) rfl
    · rename_i safe mismatch active snapshot known
      split
      · rename_i resyncing
        exact .same rfl (by simp [entryKey, resyncing]) rfl
      rename_i settled
      simp only
      split
      · rename_i cancel
        exact .sent env rfl (by simp [entryKey, inEntry, currentState, known, cancel]) rfl
          (by decide)
      split
      · rename_i _ entry
        refine handleQuantityKey_outcome env key rfl rfl ?_
        simp_all [entryKey, inEntry, currentState]
      · rename_i _ outside
        have keyless : k.entryKey (.keyDown env key) = none := by
          simp [entryKey, inEntry, currentState, known, outside]
        split
        · exact .sent env rfl keyless rfl (by decide)
        · exact .same rfl keyless rfl
  · rename_i swallowed
    refine .same rfl ?_ rfl
    simp only [entryKey]
    rw [if_neg (fun all => swallowed ⟨all.1, all.2.1⟩)]

private theorem pollResult_outcome :
    EntryOutcome k (.pollResult env) (k.pollResult env).entryView := by
  unfold pollResult
  simp only [SlotWorker.Worker.poll]
  cases slot : k.network.slot with
  | none => exact .same (by simp [arriving, slot]) rfl rfl
  | some answer =>
    simp only
    cases kind : answer.result.kind with
    | stateFetch =>
      simp only
      unfold handleResyncResult
      split
      · rename_i failed
        exact .same (by simp_all [arriving, resultSnapshot, resyncSnapshot]) rfl rfl
      rename_i ok
      split
      · rename_i unparsed
        exact .same (by simp_all [arriving, resultSnapshot, resyncSnapshot]) rfl rfl
      · rename_i snapshot parsed
        refine .offered .resync snapshot (by simp_all [arriving, resultSnapshot, resyncSnapshot]) ?_
        simp only [EntryView.offered]
        split
        · rename_i took
          rw [show StateProjection.taken (k.entryView.stateProjection.apply snapshot).2 =
            true from took]
          rfl
        · rename_i refused
          rw [show StateProjection.taken (k.entryView.stateProjection.apply snapshot).2 =
            false from Bool.not_eq_true _ ▸ refused]
          rfl
    | bootstrap => exact .same (by simp [arriving, slot, resultSnapshot, kind]) rfl rfl
    | uiBundleFetch => exact .same (by simp [arriving, slot, resultSnapshot, kind]) rfl rfl
    | heartbeat => exact .same (by simp [arriving, slot, resultSnapshot, kind]) rfl rfl
    | businessEvent =>
      simp only [entryView_handleEventResult]
      cases brought : eventSnapshot answer.result with
      | none => exact .same (by simp [arriving, slot, resultSnapshot, kind, brought]) rfl rfl
      | some snapshot =>
        exact .offered .event snapshot (by simp [arriving, slot, resultSnapshot, kind, brought]) rfl
    | offlineReplay =>
      simp only [entryView_handleEventResult]
      cases brought : eventSnapshot answer.result with
      | none => exact .same (by simp [arriving, slot, resultSnapshot, kind, brought]) rfl rfl
      | some snapshot =>
        exact .offered .event snapshot (by simp [arriving, slot, resultSnapshot, kind, brought]) rfl

private theorem onBootstrapResult_outcome (result : BootstrapResult) :
    EntryOutcome k (.bootstrapResult env result) (k.onBootstrapResult env result).entryView := by
  have matched : (k.applyServerEnvironment env result).1.entryView = k.entryView := by
    unfold applyServerEnvironment; simp only; split <;> rfl
  unfold onBootstrapResult
  split
  · rename_i failed
    exact .same (by simp [arriving, bootstrapSnapshot, failed]) rfl rfl
  rename_i ok
  split
  · rename_i now mismatch
    rw [mismatch] at matched
    exact .same (by simp [arriving, bootstrapSnapshot, mismatch]) rfl matched
  · rename_i now accepted
    rw [accepted] at matched
    split
    · rename_i missing
      exact .same (by simp [arriving, bootstrapSnapshot, missing]) rfl matched
    · rename_i snapshot carried
      refine .offered .bootstrap snapshot (by simp_all [arriving, bootstrapSnapshot]) ?_
      have projection : now.stateProjection = k.stateProjection :=
        congrArg EntryView.stateProjection matched
      rw [EntryView.offered, ← matched]
      simp only
      split <;> rfl

private theorem checkUiTimeout_outcome :
    EntryOutcome k (.checkUiTimeout env) (k.checkUiTimeout env).entryView := by
  unfold checkUiTimeout
  split
  · exact .same rfl rfl rfl
  split
  · exact .same rfl rfl rfl
  split
  · exact .same rfl rfl rfl
  split
  · exact .same rfl rfl rfl
  split
  · exact .same rfl rfl rfl
  split
  · exact .same rfl rfl rfl
  split
  · exact .sent env rfl rfl rfl (by decide)
  · exact .same rfl rfl rfl
  · exact .same rfl rfl rfl

private theorem checkOfflineReplay_view : (k.checkOfflineReplay env).entryView = k.entryView := by
  unfold checkOfflineReplay
  repeat' split
  all_goals rfl

variable [StdSort]

private theorem startOfflineReplay_view : k.startOfflineReplayIfNeeded.entryView = k.entryView := by
  unfold startOfflineReplayIfNeeded
  split
  · rfl
  simp only
  split <;> rfl

private theorem replayFallback_view : (k.replayFallback env).entryView = k.entryView := by
  unfold replayFallback
  split
  · exact startOfflineReplay_view
  · rfl

/-- Every step does one of the things an outcome lists. -/
theorem step_outcome (k : KioskRuntime) (input : RuntimeStep) :
    EntryOutcome k input (k.step input).entryView := by
  cases input with
  | scan env rawCode => exact handleScan_outcome env rawCode
  | keyDown env key => exact handleKeyDown_outcome env key
  | pollResult env => exact pollResult_outcome env
  | checkUiTimeout env => exact checkUiTimeout_outcome env
  | replayFallback env => exact .same rfl rfl (replayFallback_view env)
  | checkOfflineReplay env => exact .same rfl rfl (checkOfflineReplay_view env)
  | startOfflineReplay => exact .same rfl rfl startOfflineReplay_view
  | bootstrapResult env result => exact onBootstrapResult_outcome env result
  | requestManualResync env =>
    refine .same rfl rfl ?_
    simp only [step, requestManualResync]
    split
    · rfl
    · exact entryView_startResync k env
  | enqueueBootstrap url body => exact .same rfl rfl rfl
  | enqueueHeartbeat url body => exact .same rfl rfl rfl
  | enqueueUiBundleFetch url => exact .same rfl rfl rfl
  | takeBootstrapResult => exact .same rfl rfl rfl
  | takeUiBundleFetchResult => exact .same rfl rfl rfl
  | task env => exact .same rfl rfl rfl
  | beginCompaction medium policy => exact .same rfl rfl rfl
  | compactTick medium => exact .same rfl rfl rfl
  | reboot config => exact .rebooted config rfl (by simp only [step, reboot, boot, entryView])

end Frames

end KioskRuntime

end Kiosk.Runtime
