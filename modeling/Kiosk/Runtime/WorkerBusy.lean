import Kiosk.Runtime.KioskRuntime
import Kiosk.Network.WorkerPriority

/-! What `busy()` and `high_priority_busy()` show of a request between its acceptance
and its result. The flag `executing_` is set after the queue receive and cleared before
the deposit, and in those two gaps nothing but the queues stands for the request. -/
namespace Kiosk.Network

open Library Library.SlotWorker

/-- The tier a request of each kind is queued in. -/
def NetworkRequestKind.tier : NetworkRequestKind → Tier
  | .businessEvent | .stateFetch | .bootstrap => .high
  | .offlineReplay | .heartbeat | .uiBundleFetch => .low

namespace NetworkWorker

/-- `executing_` is set exactly around the execution, and each queue holds its own tier. -/
structure Placed (w : NetworkWorker) : Prop where
  flag : w.executing = match w.phase with
    | .executing _ => true
    | .executed _ => true
    | _ => false
  own : ∀ tier, ∀ ticket ∈ w.queue tier, ticket.request.kind.tier = tier

/-- The request the task holds while `executing_` is not set. -/
def handedOver (w : NetworkWorker) : Option (Ticket NetworkRequest) :=
  match w.phase with
  | .received ticket => some ticket
  | .depositing answer => some answer.ticket
  | _ => none

/-- The request in the gap is all there is, or all there is of HIGH. -/
def InHandover (w : NetworkWorker) : Prop :=
  ∃ ticket ∈ w.handedOver, w.high = [] ∧ (w.low = [] ∨ ticket.request.kind.tier = .high)

/-- A HIGH request was accepted and its result not deposited. -/
def ForegroundOutstanding (w : NetworkWorker) : Prop :=
  ∃ ticket ∈ w.unfinished, ticket.request.kind.tier = .high

/-- Both answers cover every request between its acceptance and its result. -/
structure Covered (w : NetworkWorker) : Prop where
  any : w.unfinished ≠ [] → busy w = true
  foreground : ForegroundOutstanding w → highPriorityBusy w = true

theorem Placed.enqueue {w : NetworkWorker} (placed : Placed w) (tier : Tier)
    (request : NetworkRequest)
    (own : request.kind.tier = tier) : Placed (w.enqueue queueDepth tier request).1 := by
  constructor
  · have executing : (w.enqueue queueDepth tier request).1.executing = w.executing := by
      cases tier <;> (simp only [Worker.enqueue]; split <;> rfl)
    rw [executing, Worker.enqueue_phase]
    exact placed.flag
  · intro other ticket member
    rw [Worker.queue_enqueue] at member
    split at member
    · rename_i here
      rcases List.mem_append.mp member with old | new
      · exact placed.own other ticket old
      · rw [List.mem_singleton.mp new, here.1]
        exact own
    · exact placed.own other ticket member

theorem Placed.tick {w : NetworkWorker} (placed : Placed w) (env : NetworkEnv) :
    Placed (taskStep w env) := by
  constructor
  · have flag := placed.flag
    unfold taskStep Worker.tick
    cases phase : w.phase with
    | top => cases high : w.high <;> simp_all
    | waiting => cases low : w.low <;> simp_all
    | received ticket => rfl
    | executing ticket => simp_all
    | executed answer => rfl
    | depositing answer => simp_all
  · intro tier ticket member
    refine placed.own tier ticket ?_
    rw [Worker.queue_tick execute w env tier]
    exact List.mem_append_right _ member

theorem busy_eq_false (w : NetworkWorker) :
    busy w = false ↔ w.executing = false ∧ w.high = [] ∧ w.low = [] := by
  simp [busy, and_assoc]

theorem highPriorityBusy_eq_false (w : NetworkWorker) :
    highPriorityBusy w = false ↔ w.executing = false ∧ w.high = [] := by
  simp [highPriorityBusy]

theorem placed_start : Placed {} where
  flag := rfl
  own := by intro tier ticket member; cases tier <;> cases member

/-- A request in hand while the flag is not set is in a gap. -/
theorem Placed.handedOver {w : NetworkWorker} (placed : Placed w) (resting : w.executing = false)
    (inHand : ticket ∈ w.phase.ticket) : ticket ∈ NetworkWorker.handedOver w := by
  have flag := placed.flag
  unfold NetworkWorker.handedOver
  cases phase : w.phase <;> simp_all [Phase.ticket]

/-- The two answers miss a request exactly in the gaps. -/
theorem covered_iff {w : NetworkWorker} (placed : Placed w) : Covered w ↔ ¬ InHandover w := by
  have flag := placed.flag
  constructor
  · rintro covered ⟨ticket, held, high, behind⟩
    have inHand : ticket ∈ w.unfinished ∧ w.executing = false := by
      unfold handedOver at held
      cases phase : w.phase <;> simp_all [Worker.unfinished, Phase.ticket]
    rcases behind with low | foreground
    · have shown := covered.any (List.ne_nil_of_mem inHand.1)
      simp [busy, inHand.2, high, low] at shown
    · have shown := covered.foreground ⟨ticket, inHand.1, foreground⟩
      simp [highPriorityBusy, inHand.2, high] at shown
  · intro outside
    constructor
    · intro some
      by_contra hidden
      obtain ⟨resting, high, low⟩ := (busy_eq_false w).mp (by simpa using hidden)
      obtain ⟨ticket, member⟩ := List.exists_mem_of_ne_nil _ some
      have inHand : ticket ∈ w.phase.ticket := by simpa [Worker.unfinished, high, low] using member
      exact outside ⟨ticket, placed.handedOver resting inHand, high, .inl low⟩
    · rintro ⟨ticket, member, foreground⟩
      by_contra hidden
      obtain ⟨resting, high⟩ := (highPriorityBusy_eq_false w).mp (by simpa using hidden)
      simp only [Worker.unfinished, high, List.nil_append, List.mem_append,
        Option.mem_toList] at member
      rcases member with queued | inHand
      · have own := placed.own .low ticket queued
        rw [foreground] at own
        cases own
      · exact outside ⟨ticket, placed.handedOver resting inHand, high, .inr foreground⟩

end NetworkWorker

end Kiosk.Network

namespace Kiosk.Runtime

open Library Library.SlotWorker Library.TransitionSystem Protocol Network Storage

private theorem network_startOfflineReplay [StdSort] (k : KioskRuntime) :
    k.startOfflineReplayIfNeeded.network = k.network := by
  unfold KioskRuntime.startOfflineReplayIfNeeded
  split
  · rfl
  simp only
  split <;> rfl

private theorem network_onBootstrapResult (k : KioskRuntime) (env : LoopEnv)
    (result : BootstrapResult) :
    (k.onBootstrapResult env result).network = k.network := by
  have matched : (k.applyServerEnvironment env result).1.network = k.network := by
    unfold KioskRuntime.applyServerEnvironment
    simp only
    split <;> rfl
  unfold KioskRuntime.onBootstrapResult
  split
  · rfl
  split
  · rename_i applied
    rw [applied] at matched
    exact matched
  · rename_i applied
    rw [applied] at matched
    split
    · exact matched
    · simp only
      split <;> exact matched

/-- What the calls of the main loop and the steps of the task keep of a worker. -/
structure NetworkRule (motive : NetworkWorker → Prop) : Prop where
  start : motive {}
  enqueue : ∀ w tier request, motive w → request.kind.tier = tier →
    motive (Worker.enqueue queueDepth w tier request).1
  tick : ∀ w env, motive w → motive (NetworkWorker.taskStep w env)
  poll : ∀ w : NetworkWorker, motive w → motive w.poll.1

namespace NetworkRule

variable {motive : NetworkWorker → Prop} (rule : NetworkRule motive) {k : KioskRuntime}
  {env : LoopEnv}
include rule

theorem advance (w : NetworkWorker) (before : motive w) (envs : List NetworkEnv) :
    motive (w.advance execute envs) := by
  induction envs generalizing w with
  | nil => exact before
  | cons env rest ih => exact ih _ (rule.tick w env before)

theorem startResync (before : motive k.network) : motive (k.startResync env).network :=
  rule.enqueue _ .high _ (rule.advance _ before env.meanwhile) rfl

theorem dispatchEvent (before : motive k.network) (event : KioskEvent) :
    motive (k.dispatchEvent env event).network := by
  have sent :
      motive (NetworkWorker.enqueueBusinessEvent (k.letTaskRun env).network event.event.eventId
      event.event.deviceSeq (k.letTaskRun env).apiEndpoint (encodeEventJson event)
        env.kioskToken).1 :=
    rule.enqueue _ .high _ (rule.advance _ before env.meanwhile) rfl
  unfold KioskRuntime.dispatchEvent
  simp only
  split
  · rename_i network queued
    rw [queued] at sent
    exact sent
  · rename_i network queued
    rw [queued] at sent
    exact sent

theorem sendBusinessEvent (before : motive k.network) (type : EventType) (rawPayload : Bytes)
    (good defect rework : OptionalQuantity) :
    motive (k.sendBusinessEvent env type rawPayload good defect rework).network := by
  unfold KioskRuntime.sendBusinessEvent
  split
  · exact before
  simp only
  split
  · exact before
  · refine rule.dispatchEvent ?_ _
    exact before

theorem handleScan (before : motive k.network) (rawCode : Bytes) :
    motive (k.handleScan env rawCode).network := by
  unfold KioskRuntime.handleScan
  split
  · exact before
  split
  · exact before
  simp only
  split
  · exact before
  · exact rule.sendBusinessEvent (k := k.touchActivity env) before _ _ _ _ _

theorem handleKeyDown (before : motive k.network) (key : UInt8) :
    motive (k.handleKeyDown env key).network := by
  unfold KioskRuntime.handleKeyDown KioskRuntime.handleBusinessKey
  split
  · split
    · exact before
    split
    · exact before
    split
    · exact before
    split
    · exact before
    split
    · exact before
    simp only
    split
    · exact rule.sendBusinessEvent (k := k.touchActivity env) before _ _ _ _ _
    split
    · unfold KioskRuntime.handleQuantityKey
      split
      · exact rule.sendBusinessEvent (k := k.touchActivity env) before _ _ _ _ _
      · split <;> exact before
    split
    · exact rule.sendBusinessEvent (k := k.touchActivity env) before _ _ _ _ _
    · exact before
  · exact before

theorem checkUiTimeout (before : motive k.network) : motive (k.checkUiTimeout env).network := by
  unfold KioskRuntime.checkUiTimeout
  repeat' split
  all_goals first
    | exact before
    | exact rule.sendBusinessEvent (k := k.touchActivity env) before _ _ _ _ _

theorem finishApply (before : motive k.network) (applyResult : ApplyResult)
    (state prevState : BusinessState) :
    motive (k.finishApply env applyResult state prevState).network := by
  unfold KioskRuntime.finishApply
  cases applyResult with
  | applied => simp only; split <;> exact before
  | appliedIdentical => simp only; split <;> exact before
  | rejectedStale => exact rule.startResync before
  | rejectedInconsistent => exact rule.startResync before
  | rejectedUnsupported => exact before

theorem handleEventResult (before : motive k.network) (result : NetworkResult) :
    motive (k.handleEventResult env result).network := by
  have closed : motive k.closeReplay.network := by
    unfold KioskRuntime.closeReplay
    split <;> exact before
  unfold KioskRuntime.handleEventResult
  simp only
  split
  · exact closed
  · unfold KioskRuntime.applyEventResponse
    simp only
    split
    · exact closed
    have noted : ∀ serverSeq,
        motive ((k.closeReplay.touchActivity env).noteServerSeq serverSeq).network := by
      intro serverSeq
      unfold KioskRuntime.noteServerSeq
      split <;> exact closed
    split
    · exact rule.startResync (noted _)
    · refine rule.finishApply ?_ _ _ _
      exact noted _

theorem pollResult (before : motive k.network) : motive (k.pollResult env).network := by
  have polled := rule.poll k.network before
  unfold KioskRuntime.pollResult
  split
  · rename_i network read
    rw [read] at polled
    exact polled
  · rename_i network answer read
    rw [read] at polled
    simp only
    split
    · unfold KioskRuntime.handleResyncResult
      split
      · exact polled
      split
      · exact polled
      simp only
      split <;> exact polled
    · exact polled
    · exact polled
    · exact polled
    · exact rule.handleEventResult polled _
    · exact rule.handleEventResult polled _

theorem checkOfflineReplay (before : motive k.network) :
    motive (k.checkOfflineReplay env).network := by
  unfold KioskRuntime.checkOfflineReplay
  split
  · exact before
  split
  · exact before
  split
  · exact before
  split
  · exact before
  split
  · exact before
  · exact rule.enqueue _ .low _ (rule.advance _ before env.meanwhile) rfl

variable [StdSort]

/-- Whatever the main loop does, the worker keeps what its own steps keep. -/
theorem step (before : motive k.network) (input : RuntimeStep) : motive (k.step input).network := by
  cases input with
  | scan env rawCode => exact rule.handleScan before rawCode
  | keyDown env key => exact rule.handleKeyDown before key
  | pollResult env => exact rule.pollResult before
  | checkUiTimeout env => exact rule.checkUiTimeout before
  | replayFallback env =>
    simp only [KioskRuntime.step, KioskRuntime.replayFallback]
    split
    · rw [network_startOfflineReplay]
      exact before
    · exact before
  | checkOfflineReplay env => exact rule.checkOfflineReplay before
  | startOfflineReplay =>
    rw [KioskRuntime.step, network_startOfflineReplay]
    exact before
  | bootstrapResult env result =>
    rw [KioskRuntime.step, network_onBootstrapResult]
    exact before
  | requestManualResync env =>
    simp only [KioskRuntime.step, KioskRuntime.requestManualResync]
    split
    · exact before
    · exact rule.startResync before
  | enqueueBootstrap url body => exact rule.enqueue _ .high _ before rfl
  | enqueueHeartbeat url body => exact rule.enqueue _ .low _ before rfl
  | enqueueUiBundleFetch url => exact rule.enqueue _ .low _ before rfl
  | takeBootstrapResult => exact before
  | takeUiBundleFetchResult => exact before
  | task env => exact rule.tick _ env before
  | beginCompaction medium policy => exact before
  | compactTick medium => exact before
  | reboot config => exact rule.start

theorem run (before : motive k.network) (inputs : List RuntimeStep) :
    motive (TransitionSystem.run KioskRuntime.step k inputs).network := by
  induction inputs generalizing k with
  | nil => exact before
  | cons input rest ih => exact ih (rule.step before input)

end NetworkRule

theorem placed_rule : NetworkRule NetworkWorker.Placed where
  start := NetworkWorker.placed_start
  enqueue := fun _ tier request placed own => placed.enqueue tier request own
  tick := fun _ env placed => placed.tick env
  poll := fun _ placed => ⟨placed.flag, placed.own⟩

namespace KioskRuntime

/-- Both answers cover the requests, and while a foreground request is outstanding
neither the inactivity timeout nor the replay sender acts. -/
structure CoversRequests (k : KioskRuntime) : Prop where
  covered : NetworkWorker.Covered k.network
  idle : NetworkWorker.ForegroundOutstanding k.network →
    ∀ env, k.checkUiTimeout env = k ∧ k.checkOfflineReplay env = k

private theorem idle_of_busy {k : KioskRuntime}
    (busy : NetworkWorker.highPriorityBusy k.network = true) (env : LoopEnv) :
    k.checkUiTimeout env = k ∧ k.checkOfflineReplay env = k := by
  constructor
  · unfold checkUiTimeout
    simp only [busy, Bool.or_true, ↓reduceIte]
    repeat' split
    all_goals rfl
  · unfold checkOfflineReplay
    simp only [busy, ↓reduceIte]
    repeat' split
    all_goals rfl

variable [StdSort]

/-- In every state of every run, the requests are covered if and only if none stands
alone in a gap. -/
theorem coversRequests_iff (config : BootConfig) (highWaterMark : UInt64) (journal : EventJournal)
    (inputs : List RuntimeStep) :
    CoversRequests (run step (boot config highWaterMark journal) inputs) ↔
      ¬ NetworkWorker.InHandover (run step (boot config highWaterMark journal) inputs).network := by
  have placed :
      NetworkWorker.Placed (run step (boot config highWaterMark journal) inputs).network :=
    placed_rule.run NetworkWorker.placed_start inputs
  rw [← NetworkWorker.covered_iff placed]
  constructor
  · exact CoversRequests.covered
  · intro covered
    exact ⟨covered, fun outstanding env => idle_of_busy (covered.foreground outstanding) env⟩

omit [StdSort] in
/-- The quantity screen is shown, a bootstrap request is queued, and the task has just
taken it off the queue. -/
def takenOff : KioskRuntime :=
  @run _ _ (@step .insertion) (boot {} 0 (.init {} 65536))
    [.bootstrapResult {}
      { status := .ok, snapshot := some { state := .quantityInput, stateVersion := 1 } },
      .enqueueBootstrap (text "http://b/bootstrap") [],
        .task { exchange := fun _ => { status := 200 } }]

omit [StdSort] in
/-- The inactivity timeout acts beside the outstanding request. -/
theorem takenOff_uncovered :
    NetworkWorker.ForegroundOutstanding takenOff.network ∧
        NetworkWorker.busy takenOff.network = false ∧
      NetworkWorker.highPriorityBusy takenOff.network = false ∧
      (takenOff.checkUiTimeout { millis := 60000 }).qtyTimeoutWarned ≠ takenOff.qtyTimeoutWarned ∧
      ¬ CoversRequests takenOff := by
  have outstanding : NetworkWorker.ForegroundOutstanding takenOff.network := by
    unfold NetworkWorker.ForegroundOutstanding
    decide +kernel
  have shown : NetworkWorker.highPriorityBusy takenOff.network = false := by decide +kernel
  refine ⟨outstanding, by decide +kernel, shown, by decide +kernel, fun covers => ?_⟩
  have busy := covers.covered.foreground outstanding
  rw [shown] at busy
  cases busy

end KioskRuntime

end Kiosk.Runtime
