import Kiosk.Runtime.DeliverySteps

/-! The runtime as the main loop asks and collects through it: bootstrap and bundle requests
are asked for by the loop alone, and their results wait in the runtime until it takes them. -/
namespace Kiosk.Runtime

open Library Library.SlotWorker Protocol Network Storage

/-- Asked for and collected by the main loop. -/
def loopKind : NetworkRequestKind → Bool
  | .bootstrap => true
  | .uiBundleFetch => true
  | _ => false

/-- The calls the main loop makes for its own requests, and a restart. -/
def RuntimeStep.ofLoop : RuntimeStep → Bool
  | .enqueueBootstrap .. => true
  | .enqueueUiBundleFetch _ => true
  | .takeBootstrapResult => true
  | .takeUiBundleFetchResult => true
  | .reboot _ => true
  | _ => false

/-- One call for another request, or one step of the task. -/
inductive OtherCall : NetworkWorker → NetworkWorker → Prop where
  | asked (tier : Tier) (request : NetworkRequest) (other : loopKind request.kind = false) :
      OtherCall w (Worker.enqueue queueDepth w tier request).1
  | ran (env : NetworkEnv) : OtherCall w (NetworkWorker.taskStep w env)

abbrev OtherCalls : NetworkWorker → NetworkWorker → Prop := Relation.ReflTransGen OtherCall

theorem otherCalls_advance (w : NetworkWorker) (envs : List NetworkEnv) :
    OtherCalls w (w.advance execute envs) := by
  induction envs generalizing w with
  | nil => exact .refl
  | cons env rest ih => exact .head (.ran env) (ih (NetworkWorker.taskStep w env))

namespace KioskRuntime

/-- What waits for the main loop is left alone, and no request of its own is made; nor is
the endpoint touched. -/
structure Apart (k after : KioskRuntime) : Prop where
  network : OtherCalls k.network after.network
  bootstrap : after.pendingBootstrapResult = k.pendingBootstrapResult
  bundle : after.pendingUiBundleFetchResult = k.pendingUiBundleFetchResult
  endpoint : after.apiEndpoint = k.apiEndpoint

namespace Apart

variable {k middle after : KioskRuntime} {env : LoopEnv}

theorem same (network : after.network = k.network)
    (bootstrap : after.pendingBootstrapResult = k.pendingBootstrapResult)
    (bundle : after.pendingUiBundleFetchResult = k.pendingUiBundleFetchResult)
    (endpoint : after.apiEndpoint = k.apiEndpoint) :
    Apart k after :=
  ⟨by rw [network], bootstrap, bundle, endpoint⟩

theorem trans (first : Apart k middle) (second : Apart middle after) : Apart k after where
  network := first.network.trans second.network
  bootstrap := second.bootstrap.trans first.bootstrap
  bundle := second.bundle.trans first.bundle
  endpoint := second.endpoint.trans first.endpoint

/-- After a change elsewhere. -/
theorem behind (second : Apart middle after) (network : middle.network = k.network)
    (bootstrap : middle.pendingBootstrapResult = k.pendingBootstrapResult)
    (bundle : middle.pendingUiBundleFetchResult = k.pendingUiBundleFetchResult)
    (endpoint : middle.apiEndpoint = k.apiEndpoint) :
    Apart k after :=
  (same network bootstrap bundle endpoint).trans second

/-- The task runs, and then a request is offered to a queue. -/
theorem offer (tier : Tier) (request : NetworkRequest) (other : loopKind request.kind = false)
    (network : after.network =
      (Worker.enqueue queueDepth (k.network.advance execute env.meanwhile) tier request).1)
    (bootstrap : after.pendingBootstrapResult = k.pendingBootstrapResult)
    (bundle : after.pendingUiBundleFetchResult = k.pendingUiBundleFetchResult)
    (endpoint : after.apiEndpoint = k.apiEndpoint) :
    Apart k after where
  network := by
    rw [network]
    exact (otherCalls_advance k.network env.meanwhile).tail (.asked tier request other)
  bootstrap := bootstrap
  bundle := bundle
  endpoint := endpoint

theorem startResync (k : KioskRuntime) (env : LoopEnv) : Apart k (k.startResync env) :=
  @offer k _ env .high (plainRequest .stateFetch k.stateEndpointUrl [] env.kioskToken) rfl rfl
    rfl rfl rfl

theorem dispatchEvent (k : KioskRuntime) (env : LoopEnv) (event : KioskEvent) :
    Apart k (k.dispatchEvent env event) := by
  have offered := @offer k
      { k.letTaskRun env with network :=
      (NetworkWorker.enqueueBusinessEvent (k.letTaskRun env).network
      event.event.eventId event.event.deviceSeq (k.letTaskRun env).apiEndpoint
        (encodeEventJson event) env.kioskToken).1 }
    env .high (eventRequest .businessEvent event.event.eventId event.event.deviceSeq k.apiEndpoint
      (encodeEventJson event)
      env.kioskToken) rfl rfl rfl rfl rfl
  unfold KioskRuntime.dispatchEvent
  simp only
  split
  all_goals
    rename_i queued
    rw [queued] at offered
    exact ⟨offered.network, offered.bootstrap, offered.bundle, offered.endpoint⟩

theorem sendBusinessEvent (type : EventType) (rawPayload : Bytes)
    (good defect rework : OptionalQuantity) :
    Apart k (k.sendBusinessEvent env type rawPayload good defect rework) := by
  unfold KioskRuntime.sendBusinessEvent
  split
  · exact same rfl rfl rfl rfl
  simp only
  split
  · exact same rfl rfl rfl rfl
  · exact (dispatchEvent _ env _).behind rfl rfl rfl rfl

/-- What an operator does sends an event, or none. -/
private theorem touched (type : EventType) (rawPayload : Bytes)
    (good defect rework : OptionalQuantity) :
    Apart k ((k.touchActivity env).sendBusinessEvent env type rawPayload good defect rework) :=
  (sendBusinessEvent type rawPayload good defect rework).behind rfl rfl rfl rfl

theorem handleScan (rawCode : Bytes) : Apart k (k.handleScan env rawCode) := by
  unfold KioskRuntime.handleScan
  repeat' split
  all_goals first
    | exact same rfl rfl rfl rfl
    | exact touched _ _ _ _ _

theorem handleKeyDown (key : UInt8) : Apart k (k.handleKeyDown env key) := by
  have quantity : Apart k ((k.touchActivity env).handleQuantityKey env key) := by
    unfold handleQuantityKey
    split
    · exact touched _ _ _ _ _
    · split
      · exact same rfl rfl rfl rfl
      · exact same rfl rfl rfl rfl
  unfold KioskRuntime.handleKeyDown handleBusinessKey
  repeat' split
  all_goals first
    | exact same rfl rfl rfl rfl
    | exact touched _ _ _ _ _
    | exact quantity

theorem checkUiTimeout : Apart k (k.checkUiTimeout env) := by
  unfold KioskRuntime.checkUiTimeout
  repeat' split
  all_goals first
    | exact same rfl rfl rfl rfl
    | exact touched _ _ _ _ _

theorem checkOfflineReplay : Apart k (k.checkOfflineReplay env) := by
  unfold KioskRuntime.checkOfflineReplay
  repeat' split
  all_goals first
    | exact same rfl rfl rfl rfl
    | exact @offer k _ env .low (eventRequest .offlineReplay _ _ k.apiEndpoint _ env.kioskToken) rfl
        rfl rfl rfl rfl

theorem finishApply (applyResult : ApplyResult) (state prevState : BusinessState) :
    Apart k (k.finishApply env applyResult state prevState) := by
  unfold KioskRuntime.finishApply
  cases applyResult with
  | applied => simp only; split <;> exact same rfl rfl rfl rfl
  | appliedIdentical => simp only; split <;> exact same rfl rfl rfl rfl
  | rejectedStale => exact startResync k env
  | rejectedInconsistent => exact startResync k env
  | rejectedUnsupported => exact same rfl rfl rfl rfl

theorem handleEventResult (result : NetworkResult) : Apart k (k.handleEventResult env result) := by
  have closed : Apart k k.closeReplay := by
    unfold closeReplay
    split <;> exact same rfl rfl rfl rfl
  have noted :
      ∀ serverSeq, Apart k ((k.closeReplay.touchActivity env).noteServerSeq serverSeq) := by
    intro serverSeq
    unfold noteServerSeq
    split <;> exact closed.trans (same rfl rfl rfl rfl)
  unfold KioskRuntime.handleEventResult applyEventResponse
  simp only
  split
  · exact closed.trans (same rfl rfl rfl rfl)
  split
  · exact closed.trans (same rfl rfl rfl rfl)
  split
  · exact (noted _).trans ((startResync _ env).behind rfl rfl rfl rfl)
  · exact (noted _).trans ((finishApply _ _ _).behind rfl rfl rfl rfl)

theorem handleResyncResult (result : NetworkResult) :
    Apart k (k.handleResyncResult env result) := by
  unfold KioskRuntime.handleResyncResult
  repeat' split
  all_goals exact same rfl rfl rfl rfl

theorem onBootstrapResult (result : BootstrapResult) :
    Apart k (k.onBootstrapResult env result) := by
  have environment : Apart k (k.applyServerEnvironment env result).1 := by
    unfold applyServerEnvironment
    simp only
    split <;> exact same rfl rfl rfl rfl
  unfold KioskRuntime.onBootstrapResult
  split
  · exact same rfl rfl rfl rfl
  split
  · rename_i checked
    rw [checked] at environment
    exact environment
  · rename_i checked
    rw [checked] at environment
    split
    · exact environment
    · simp only
      split <;> exact environment.trans (same rfl rfl rfl rfl)

end Apart

/-- A result read out of the slot waits in its place, if it is of the kind. -/
def received (k : KioskRuntime) (kind : NetworkRequestKind) (waiting : Option NetworkResult) :
    RuntimeStep → Option NetworkResult
  | .pollResult _ =>
    match k.network.slot with
    | some answer => if answer.result.kind = kind then some answer.result else waiting
    | none => waiting
  | _ => waiting

/-- What a step of the runtime is to the main loop. -/
structure Serves (k : KioskRuntime) (input : RuntimeStep) (after : KioskRuntime) : Prop where
  network : OtherCalls (k.networkAt input) after.network
  bootstrap : after.pendingBootstrapResult = k.received .bootstrap k.pendingBootstrapResult input
  bundle : after.pendingUiBundleFetchResult =
    k.received .uiBundleFetch k.pendingUiBundleFetchResult input
  endpoint : after.apiEndpoint = k.apiEndpoint

private theorem serves_pollResult (k : KioskRuntime) (env : LoopEnv) :
    Serves k (.pollResult env) (k.pollResult env) := by
  unfold pollResult
  cases slot : k.network.slot with
  | none =>
    have read : k.network.poll = ({ k.network with slot := none }, none) := by
      rw [Worker.poll, slot]
    rw [read]
    exact ⟨by rw [networkAt, read], by simp only [received, slot],
      by simp only [received, slot], rfl⟩
  | some answer =>
    have read : k.network.poll = ({ k.network with slot := none }, some answer) := by
      rw [Worker.poll, slot]
    simp only [read]
    have others : ∀ {after : KioskRuntime},
          Apart { k with network := { k.network with slot := none } } after →
        answer.result.kind ≠ .bootstrap → answer.result.kind ≠ .uiBundleFetch →
          Serves k (.pollResult env) after := by
      intro after apart notBootstrap notBundle
      refine ⟨by rw [networkAt, read]; exact apart.network, ?_, ?_, apart.endpoint⟩
      · rw [apart.bootstrap, received, slot]
        simp only [notBootstrap, if_false]
      · rw [apart.bundle, received, slot]
        simp only [notBundle, if_false]
    cases kind : answer.result.kind with
    | stateFetch => exact others (.handleResyncResult _) (by simp [kind]) (by simp [kind])
    | bootstrap =>
      exact ⟨by rw [networkAt, read], by simp [received, slot, kind],
        by simp [received, slot, kind], rfl⟩
    | uiBundleFetch =>
      exact ⟨by rw [networkAt, read], by simp [received, slot, kind],
        by simp [received, slot, kind], rfl⟩
    | heartbeat => exact others (.same rfl rfl rfl rfl) (by simp [kind]) (by simp [kind])
    | businessEvent => exact others (.handleEventResult _) (by simp [kind]) (by simp [kind])
    | offlineReplay => exact others (.handleEventResult _) (by simp [kind]) (by simp [kind])

variable [StdSort]

theorem Apart.startOfflineReplay (k : KioskRuntime) : Apart k k.startOfflineReplayIfNeeded := by
  unfold startOfflineReplayIfNeeded
  split
  · exact same rfl rfl rfl rfl
  simp only
  split <;> exact same rfl rfl rfl rfl

/-- Every call but those of the main loop itself leaves its requests and results alone,
except that `poll` puts a result in its place. -/
theorem step_serves (k : KioskRuntime) (input : RuntimeStep) (other : input.ofLoop = false) :
    Serves k input (k.step input) := by
  have apart :
      ∀ {after}, Apart k after → (∀ env, input ≠ .pollResult env) → Serves k input after := by
    intro after apart notPoll
    cases input with
    | pollResult env => exact absurd rfl (notPoll env)
    | _ => exact ⟨apart.network, apart.bootstrap, apart.bundle, apart.endpoint⟩
  cases input with
  | scan env rawCode => exact apart (.handleScan rawCode) (by simp)
  | keyDown env key => exact apart (.handleKeyDown key) (by simp)
  | pollResult env => exact serves_pollResult k env
  | checkUiTimeout env => exact apart .checkUiTimeout (by simp)
  | replayFallback env =>
    refine apart ?_ (by simp)
    simp only [step, replayFallback]
    split
    · exact (Apart.startOfflineReplay _).behind rfl rfl rfl rfl
    · exact .same rfl rfl rfl rfl
  | checkOfflineReplay env => exact apart .checkOfflineReplay (by simp)
  | startOfflineReplay => exact apart (.startOfflineReplay k) (by simp)
  | bootstrapResult env result => exact apart (.onBootstrapResult result) (by simp)
  | requestManualResync env =>
    refine apart ?_ (by simp)
    simp only [step, requestManualResync]
    split
    · exact .same rfl rfl rfl rfl
    · exact .startResync k env
  | enqueueHeartbeat url body =>
    exact apart ⟨.single (.asked .low (plainRequest .heartbeat url body []) rfl), rfl, rfl, rfl⟩
      (by simp)
  | task env => exact apart ⟨.single (.ran env), rfl, rfl, rfl⟩ (by simp)
  | beginCompaction medium policy => exact apart (.same rfl rfl rfl rfl) (by simp)
  | compactTick medium => exact apart (.same rfl rfl rfl rfl) (by simp)
  | enqueueBootstrap | enqueueUiBundleFetch | takeBootstrapResult | takeUiBundleFetchResult
  | reboot => cases other

end KioskRuntime

end Kiosk.Runtime
