import Kiosk.Library.TransitionSystem
import Kiosk.Protocol.BodySize
import Kiosk.Runtime.KioskRuntime

/-! The body of every event the runtime creates, against the slot of a queue it is copied
into. -/
namespace Kiosk.Runtime

open Library Library.KeySearch Library.TransitionSystem Protocol Network Storage

theorem eventRequest_body (kind : NetworkRequestKind) (eventId : Bytes) (deviceSeq : UInt64)
    (url payload kioskToken : Bytes) :
    (eventRequest kind eventId deviceSeq url payload kioskToken).body = fillBody payload := rfl

theorem fillBody_whole (short : payload.length ≤ kMaxQueuedBodyBytes - 1) :
    fillBody payload = payload :=
  List.take_of_length_le short

/-- A sized event is copied whole into the request it is sent with, live or replayed. -/
theorem eventBody_whole (event : KioskEvent) (sized : event.Sized) :
    (encodeEventJson event).length ≤ kMaxQueuedBodyBytes - 1 ∧
      ∀ kind eventId deviceSeq url kioskToken,
        (eventRequest kind eventId deviceSeq url (encodeEventJson event) kioskToken).body =
          encodeEventJson event := by
  have bound : (encodeEventJson event).length ≤ kMaxQueuedBodyBytes - 1 := by
    have length := encodeEventJson_length event sized
    rw [kMaxQueuedBodyBytes]
    omega
  refine ⟨bound, fun kind eventId deviceSeq url kioskToken => ?_⟩
  rw [eventRequest_body, fillBody_whole bound]

/-- A scan of the longest line, all of it control bytes. -/
private def longestScan : KioskEvent where
  device := {
    deviceId := List.replicate 86 1, hardwareId := List.replicate 32 1
    bootId := List.replicate 16 48 }
  event := { eventId := List.replicate 32 48, deviceSeq := 18446744073709551615 }
  payload := { source := text "GM65", raw := List.replicate 128 1 }

theorem eventBody_whole_longest :
    (encodeEventJson longestScan).length ≤ kMaxQueuedBodyBytes - 1 ∧
      ∀ kind eventId deviceSeq url kioskToken,
        (eventRequest kind eventId deviceSeq url (encodeEventJson longestScan) kioskToken).body =
          encodeEventJson longestScan :=
  eventBody_whole longestScan (by constructor <;> decide)

namespace KioskRuntime

/-- The lengths of the names an event carries: the id as the provisioning line allows,
and a generated boot id. -/
structure BootConfig.Sized (config : BootConfig) : Prop where
  deviceId : config.deviceId.length ≤ 86
  hardwareId : config.hardwareId.length ≤ 32
  bootId : config.bootId.length ≤ 16

/-- What a step brings in from outside is within its length. -/
def SizedInput : RuntimeStep → Prop
  | .scan env rawCode => env.iso8601Now.length ≤ 32 ∧ rawCode.length ≤ 128
  | .keyDown env _ => env.iso8601Now.length ≤ 32
  | .checkUiTimeout env => env.iso8601Now.length ≤ 32
  | .reboot config => config.Sized
  | _ => True

/-- The names of the device and the events created so far. -/
structure BodyView where
  deviceId : Bytes
  hardwareId : Bytes
  bootId : Bytes
  createdEvents : List KioskEvent

def bodyView (k : KioskRuntime) : BodyView := ⟨k.deviceId, k.hardwareId, k.bootId, k.createdEvents⟩

structure BodyView.Sized (view : BodyView) : Prop where
  deviceId : view.deviceId.length ≤ 86
  hardwareId : view.hardwareId.length ≤ 32
  bootId : view.bootId.length ≤ 16
  created : ∀ event ∈ view.createdEvents, event.Sized

section Frames
variable (k : KioskRuntime) (env : LoopEnv)

@[simp] theorem bodyView_touchActivity : (k.touchActivity env).bodyView = k.bodyView := rfl

@[simp] theorem bodyView_appendTransition (t : JournalTransition) :
    (k.appendTransition env t).bodyView = k.bodyView :=
  rfl

@[simp] theorem bodyView_startResync : (k.startResync env).bodyView = k.bodyView := rfl

@[simp] theorem bodyView_noteServerSeq (serverSeq : Int) :
    (k.noteServerSeq serverSeq).bodyView = k.bodyView := by
  unfold noteServerSeq; split <;> rfl

@[simp] theorem bodyView_closeReplay : k.closeReplay.bodyView = k.bodyView := by
  unfold closeReplay; split <;> rfl

@[simp] theorem bodyView_dispatchEvent (event : KioskEvent) :
    (k.dispatchEvent env event).bodyView = k.bodyView := by
  unfold dispatchEvent; simp only; split <;> rfl

theorem bodyView_applySnapshotResponse (resp : EventResponse) (eventId : Bytes) :
    (k.applySnapshotResponse env resp eventId).bodyView = k.bodyView := by
  unfold applySnapshotResponse finishApply
  simp only
  repeat' split
  all_goals rfl

theorem bodyView_handleEventResult (result : NetworkResult) :
    (k.handleEventResult env result).bodyView = k.bodyView := by
  unfold handleEventResult applyEventResponse
  simp only
  split
  · simp
  split
  · simp
  split
  · simp
  · simp [bodyView_applySnapshotResponse]

theorem bodyView_pollResult : (k.pollResult env).bodyView = k.bodyView := by
  unfold pollResult
  split
  · rfl
  simp only
  split
  · unfold handleResyncResult
    repeat' split
    all_goals rfl
  · rfl
  · rfl
  · rfl
  · exact bodyView_handleEventResult _ env _
  · exact bodyView_handleEventResult _ env _

theorem bodyView_onBootstrapResult (result : BootstrapResult) :
    (k.onBootstrapResult env result).bodyView = k.bodyView := by
  have matched : (k.applyServerEnvironment env result).1.bodyView = k.bodyView := by
    unfold applyServerEnvironment; simp only; split <;> rfl
  unfold onBootstrapResult
  split
  · rfl
  split
  · rename_i now mismatch
    rw [mismatch] at matched
    exact matched
  · rename_i now accepted
    rw [accepted] at matched
    split
    · exact matched
    · simp only
      split <;> exact matched

theorem bodyView_checkOfflineReplay : (k.checkOfflineReplay env).bodyView = k.bodyView := by
  unfold checkOfflineReplay
  repeat' split
  all_goals rfl

theorem bodyView_reboot (config : BootConfig) :
    (k.reboot config).bodyView =
      ⟨config.deviceId, config.hardwareId, config.bootId, k.createdEvents⟩ := by
  simp only [reboot, boot, bodyView]

variable {k env}

/-- A send creates at most an event with the names of the device and the strings it was
given. -/
theorem BodyView.Sized.send (sized : k.bodyView.Sized) (clock : env.iso8601Now.length ≤ 32)
    (type : EventType) (line : rawPayload.length ≤ 128) (good defect rework : OptionalQuantity) :
    (k.sendBusinessEvent env type rawPayload good defect rework).bodyView.Sized := by
  unfold sendBusinessEvent
  split
  · exact sized
  simp only
  split
  · exact sized
  · have cut {content : Bytes} : (cStr content).length ≤ content.length :=
      (List.takeWhile_sublist _).length_le
    rw [bodyView_dispatchEvent]
    refine ⟨sized.deviceId, sized.hardwareId, sized.bootId,
      List.forall_mem_cons.mpr ⟨?_, sized.created⟩⟩
    refine ⟨cut.trans sized.deviceId, cut.trans sized.hardwareId, cut.trans sized.bootId, ?_,
      cut.trans clock, ?_, cut.trans line⟩
    · exact (generateRandomHexId_length 16 env.espRandom).le
    · simp only [newEvent]
      split <;> decide

theorem BodyView.Sized.key (sized : k.bodyView.Sized) (clock : env.iso8601Now.length ≤ 32)
    (key : UInt8) :
    (k.handleKeyDown env key).bodyView.Sized := by
  have empty : ([] : Bytes).length ≤ 128 := by decide
  have quantity : ((k.touchActivity env).handleQuantityKey env key).bodyView.Sized := by
    unfold handleQuantityKey
    split
    · exact BodyView.Sized.send (k := k.touchActivity env) sized clock _ empty _ _ _
    · split
      · exact sized
      · exact sized
  unfold handleKeyDown handleBusinessKey
  repeat' split
  all_goals first
    | exact sized
    | exact BodyView.Sized.send (k := k.touchActivity env) sized clock _ empty _ _ _
    | exact quantity

theorem BodyView.Sized.timeout (sized : k.bodyView.Sized) (clock : env.iso8601Now.length ≤ 32) :
    (k.checkUiTimeout env).bodyView.Sized := by
  have empty : ([] : Bytes).length ≤ 128 := by decide
  unfold checkUiTimeout
  repeat' split
  all_goals first
    | exact sized
    | exact BodyView.Sized.send (k := k.touchActivity env) sized clock _ empty _ _ _

end Frames

variable [StdSort]

theorem bodyView_startOfflineReplay (k : KioskRuntime) :
    k.startOfflineReplayIfNeeded.bodyView = k.bodyView := by
  unfold startOfflineReplayIfNeeded
  split
  · rfl
  simp only
  split <;> rfl

/-- A step with sized inputs keeps every created event sized. -/
theorem step_sized (k : KioskRuntime) (input : RuntimeStep) (sized : k.bodyView.Sized)
    (within : SizedInput input) :
    (k.step input).bodyView.Sized := by
  cases input with
  | scan env rawCode =>
    simp only [step]
    unfold handleScan
    repeat' split
    all_goals first
      | exact sized
      | exact BodyView.Sized.send (k := k.touchActivity env) sized within.1 _ within.2 _ _ _
  | keyDown env key => exact sized.key within key
  | pollResult env => exact (bodyView_pollResult k env).symm ▸ sized
  | checkUiTimeout env => exact sized.timeout within
  | replayFallback env =>
    simp only [step]
    unfold replayFallback
    split
    · rw [bodyView_startOfflineReplay]
      exact sized
    · exact sized
  | checkOfflineReplay env => exact (bodyView_checkOfflineReplay k env).symm ▸ sized
  | startOfflineReplay => exact (bodyView_startOfflineReplay k).symm ▸ sized
  | bootstrapResult env result => exact (bodyView_onBootstrapResult k env result).symm ▸ sized
  | requestManualResync env =>
    simp only [step, requestManualResync]
    split <;> exact sized
  | reboot config =>
    simp only [step, bodyView_reboot]
    exact ⟨within.deviceId, within.hardwareId, within.bootId, sized.created⟩
  | enqueueBootstrap | enqueueHeartbeat | enqueueUiBundleFetch | takeBootstrapResult
  | takeUiBundleFetchResult | task | beginCompaction | compactTick => exact sized

/-- Along every run whose lines, clock texts and names are within their lengths, each
event created is one that is copied whole. -/
theorem createdEvents_sized (config : BootConfig) (highWaterMark : UInt64) (journal : EventJournal)
    (inputs : List RuntimeStep) (named : config.Sized)
    (along : Along step (fun _ input => SizedInput input)
      (boot config highWaterMark journal) inputs) :
    ∀ event ∈ (run step (boot config highWaterMark journal) inputs).createdEvents, event.Sized := by
  have start : (boot config highWaterMark journal).bodyView.Sized :=
    ⟨named.deviceId, named.hardwareId, named.bootId, by simp [bodyView, boot]⟩
  have sized : (run step (boot config highWaterMark journal) inputs).bodyView.Sized :=
    along.invariant (motive := fun k : KioskRuntime => k.bodyView.Sized) start
      fun k input sized within => step_sized k input sized within
  exact sized.created

end KioskRuntime

end Kiosk.Runtime
