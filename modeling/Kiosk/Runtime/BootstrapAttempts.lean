import Kiosk.Runtime.MainLoop

/-! How often a device asks for its bootstrap: over every run of the main loop, the worker
and the network, and however late an answer comes. -/
namespace Kiosk.Runtime

open Library Library.SlotWorker Library.TransitionSystem Protocol Network Storage

/-- The requests of a kind whose results were not read. -/
def requestsOf (kind : NetworkRequestKind) (w : NetworkWorker) : List (Ticket NetworkRequest) :=
  w.outstanding.filter fun ticket => ticket.request.kind = kind

section Workers
variable {w after : NetworkWorker} {kind : NetworkRequestKind}

theorem OtherCalls.requestsOf (calls : OtherCalls w after) (ofLoop : loopKind kind = true) :
    (requestsOf kind after).Subperm (requestsOf kind w) := by
  induction calls with
  | refl => exact .refl _
  | tail _ call ih =>
    refine List.Subperm.trans ?_ ih
    cases call with
    | asked tier request other =>
      refine outstanding_enqueue tier request ?_
      rw [decide_eq_false_iff_not]
      rintro rfl
      simp [other] at ofLoop
    | ran env => exact List.Subperm.filter _ (Worker.tick_outstanding execute _ env)

theorem requestsOf_enqueue (tier : Tier) (request : NetworkRequest)
    (taken : (Worker.enqueue queueDepth w tier request).2 = true) :
    (requestsOf kind (Worker.enqueue queueDepth w tier request).1).Perm
      (if request.kind = kind then requestsOf kind w ++ [⟨w.accepted, request⟩]
        else requestsOf kind w) := by
  have more := (Worker.enqueue_outstanding queueDepth w tier request).filter fun ticket =>
    decide (ticket.request.kind = kind)
  rw [taken, if_pos rfl, List.filter_append] at more
  refine more.trans ?_
  by_cases same : request.kind = kind
  · simp [same, requestsOf]
  · simp [same, requestsOf]

/-- Reading a result takes its request out of those of its kind. -/
theorem requestsOf_poll (agree : KindsAgree w) (slot : w.slot = some answer) :
    (requestsOf kind w).length =
      (requestsOf kind w.poll.1).length + if answer.result.kind = kind then 1 else 0 := by
  have own : answer.result.kind = answer.ticket.request.kind :=
    agree answer (by simp [Worker.answers, slot])
  rw [requestsOf, Worker.poll_outstanding w, List.filter_append, slot, List.length_append, own]
  congr 1
  by_cases same : answer.ticket.request.kind = kind
  · simp [same]
  · simp [same]

end Workers

namespace KioskRuntime

/-- The result of a kind that waits for the main loop. -/
def waitingOf (k : KioskRuntime) : NetworkRequestKind → Option NetworkResult
  | .bootstrap => k.pendingBootstrapResult
  | .uiBundleFetch => k.pendingUiBundleFetchResult
  | _ => none

/-- How many requests of a kind the main loop made and has not collected. -/
def uncollected (k : KioskRuntime) (kind : NetworkRequestKind) : Nat :=
  (requestsOf kind k.network).length + (k.waitingOf kind).toList.length

variable {k after : KioskRuntime} {input : RuntimeStep} {kind : NetworkRequestKind}

theorem Serves.waitingOf (serves : Serves k input after) (ofLoop : loopKind kind = true) :
    after.waitingOf kind = k.received kind (k.waitingOf kind) input := by
  cases kind with
  | bootstrap => exact serves.bootstrap
  | uiBundleFetch => exact serves.bundle
  | businessEvent | offlineReplay | stateFetch | heartbeat => cases ofLoop

/-- Beside its own calls the main loop never has more to collect: a result only moves on,
or is lost to a later one. -/
theorem Serves.uncollected_le (serves : Serves k input after) (agree : KindsAgree k.network)
    (ofLoop : loopKind kind = true) :
    after.uncollected kind ≤ k.uncollected kind := by
  have fewer := (serves.network.requestsOf ofLoop).length_le
  have received := serves.waitingOf ofLoop
  simp only [uncollected, received]
  cases input with
  | pollResult env =>
    simp only [networkAt, KioskRuntime.received] at fewer ⊢
    cases slot : k.network.slot with
    | none =>
      have unread : k.network.poll.1 = k.network := by
        simp only [Worker.poll, ← slot]
      rw [unread] at fewer
      simpa using fewer
    | some answer =>
      rw [requestsOf_poll agree slot]
      by_cases same : answer.result.kind = kind
      · simp only [same, if_true, Option.toList_some, List.length_singleton]
        omega
      · simp only [same, if_false]
        omega
  | _ => simpa [KioskRuntime.received, networkAt] using fewer

theorem uncollected_apart (apart : Apart k after) (ofLoop : loopKind kind = true) :
    after.uncollected kind ≤ k.uncollected kind := by
  have fewer := (apart.network.requestsOf ofLoop).length_le
  have waiting : after.waitingOf kind = k.waitingOf kind := by
    cases kind with
    | bootstrap => exact apart.bootstrap
    | uiBundleFetch => exact apart.bundle
    | businessEvent | offlineReplay | stateFetch | heartbeat => cases ofLoop
  simp only [uncollected, waiting]
  omega

theorem uncollected_boot (config : BootConfig) (highWaterMark : UInt64) (journal : EventJournal) :
    (boot config highWaterMark journal).uncollected kind = 0 := by
  cases kind <;> rfl

/-- A request a queue takes is one more of its own kind. -/
theorem uncollected_offered {network : NetworkWorker} {tier : Tier} {request : NetworkRequest}
    (offered : Worker.enqueue queueDepth k.network tier request = (network, true)) :
    ({ k with network := network } : KioskRuntime).uncollected kind =
      k.uncollected kind + if request.kind = kind then 1 else 0 := by
  have more := (@requestsOf_enqueue k.network kind tier request (by rw [offered])).length_eq
  rw [offered] at more
  have waiting :
      ({ k with network := network } : KioskRuntime).waitingOf kind = k.waitingOf kind := by
    cases kind <;> rfl
  rw [uncollected, waiting, more, uncollected]
  split
  · simp only [List.length_append, List.length_singleton]
    omega
  · rfl

theorem kindsAgree_offered {w network : NetworkWorker} {tier : Tier} {request : NetworkRequest}
    {taken : Bool}
    (offered : Worker.enqueue queueDepth w tier request = (network, taken)) (agree : KindsAgree w) :
    KindsAgree network := by
  have answers := Worker.enqueue_answers queueDepth w tier request
  rw [offered] at answers
  simp only [KindsAgree, answers]
  exact agree

end KioskRuntime

namespace MainLoop

open KioskRuntime

/-- Where the attempts stand: an armed loop has as many left as it did not make, and every
request beyond the one in flight goes back to an earlier arming. -/
structure Attempts (m : MainLoop) : Prop where
  kinds : KindsAgree m.runtime.network
  counted : m.bootstrapAttemptCount ≤ kBootstrapMaxAttempts
  spent : m.bootstrapAttemptCount = kBootstrapMaxAttempts →
    m.bootstrapInflight = true ∨ m.bootstrapAttempted = true
  requests : m.bootstrapRequests + kBootstrapMaxAttempts ≤
    kBootstrapMaxAttempts * m.armings + m.bootstrapAttemptCount
  collected : m.runtime.uncollected .bootstrap + (if m.bootstrapInflight then 0 else 1) ≤ m.armings

namespace Attempts

variable {m : MainLoop} {env : LoopEnv}

theorem attemptBootstrap (attempts : Attempts m) : Attempts (m.attemptBootstrap env) := by
  have kinds := attempts.kinds
  have requests := attempts.requests
  have collected := attempts.collected
  unfold MainLoop.attemptBootstrap
  split
  case isFalse => exact attempts
  rename_i free
  obtain ⟨unanswered, resting, _⟩ := free
  have left : m.bootstrapAttemptCount < kBootstrapMaxAttempts := by
    refine lt_of_le_of_ne attempts.counted fun spent => ?_
    simpa [unanswered, resting] using attempts.spent spent
  simp only [resting, Bool.false_eq_true, if_false] at collected
  simp only
  split
  · split
    · rename_i last
      have same : Apart m.runtime (m.runtime.onBootstrapResult env { status := .failed }) :=
        .onBootstrapResult _
      have fewer := uncollected_apart same (show loopKind .bootstrap = true from rfl)
      refine ⟨kinds, ?_, fun _ => .inr rfl, ?_, ?_⟩
      · exact left
      · simp only
        omega
      · simp only [resting, Bool.false_eq_true, if_false]
        omega
    · rename_i more
      refine ⟨kinds, left, fun spent => absurd spent.ge more, ?_, ?_⟩
      · simp only
        omega
      · simp only [resting, Bool.false_eq_true, if_false]
        exact collected
  · split
    · rename_i network queued
      rw [NetworkWorker.enqueueBootstrap] at queued
      have one := @uncollected_offered m.runtime .bootstrap _ _ _ queued
      refine ⟨kindsAgree_offered queued kinds, left, fun _ => .inl rfl, ?_, ?_⟩
      · simp only
        omega
      · simp only [one, plainRequest, if_true]
        omega
    · exact attempts

theorem checkDesired (attempts : Attempts m) (result : BootstrapClient.Answer) :
    Attempts (m.checkDesired result) := by
  have kinds := attempts.kinds
  have collected := attempts.collected
  have outcome :=
    m.uiSync.checkDesired_outcome m.uiBundleStore m.runtime.network m.runtime.apiEndpoint
    result.uiBundleVersion result.uiBundleHash
  unfold MainLoop.checkDesired
  split
  rename_i uiSync uiBundleStore network checked
  rw [checked] at outcome
  cases outcome with
  | idle => exact ⟨kinds, attempts.counted, attempts.spent, attempts.requests, collected⟩
  | full => exact ⟨kinds, attempts.counted, attempts.spent, attempts.requests, collected⟩
  | started _ _ _ offered =>
    have none := @uncollected_offered m.runtime .bootstrap _ _ _ offered
    refine ⟨kindsAgree_offered offered kinds, attempts.counted, attempts.spent,
      attempts.requests, ?_⟩
    simp only [none, plainRequest]
    simpa using collected

/-- Taking a result leaves one less to collect, and the loop free to try again or done. -/
private theorem collect (attempts : Attempts m)
    (waiting : m.runtime.pendingBootstrapResult = some netResult)
    (result : BootstrapClient.Answer) :
    Attempts (settleBootstrap { m with
      runtime := { m.runtime with pendingBootstrapResult := none }, bootstrapInflight := false } env
        result) := by
  have kinds := attempts.kinds
  have counted := attempts.counted
  have requests := attempts.requests
  have taken : ({ m.runtime with pendingBootstrapResult := none } : KioskRuntime).uncollected
        .bootstrap + 1 =
      m.runtime.uncollected .bootstrap := by
    simp [uncollected, waitingOf, waiting]
  have collected :
      ({ m.runtime with pendingBootstrapResult := none } : KioskRuntime).uncollected .bootstrap +
      1 ≤ m.armings := by
    have before := attempts.collected
    omega
  unfold settleBootstrap
  split
  · rename_i again
    exact ⟨kinds, counted, fun spent => absurd spent again.2.ne, requests, collected⟩
  · exact ⟨kinds, counted, fun _ => .inr rfl, requests, collected⟩

variable [StdSort]

/-- The runtime moves on its own. -/
theorem runtime (attempts : Attempts m) (input : RuntimeStep) (other : input.ofLoop = false) :
    Attempts { m with runtime := m.runtime.step input } where
  kinds := kindsAgree_step attempts.kinds
  counted := attempts.counted
  spent := attempts.spent
  requests := attempts.requests
  collected := by
    have serves := step_serves m.runtime input other
    have fewer := serves.uncollected_le attempts.kinds (show loopKind .bootstrap = true from rfl)
    have before := attempts.collected
    simp only at before ⊢
    omega

theorem seeReconnects (attempts : Attempts m) (reconnects : UInt32) :
    Attempts (m.seeReconnects reconnects) := by
  have moved := attempts.runtime .startOfflineReplay rfl
  have requests := attempts.requests
  have counted := attempts.counted
  have collected := moved.collected
  unfold MainLoop.seeReconnects
  split
  · refine ⟨moved.kinds, Nat.zero_le _, (fun spent => by cases spent), ?_, ?_⟩
    · simp only [kBootstrapMaxAttempts] at requests counted ⊢
      omega
    · simp only [KioskRuntime.step, Bool.false_eq_true, if_false] at collected ⊢
      split at collected <;> omega
  · exact attempts

theorem takeBootstrap (attempts : Attempts m) : Attempts (m.takeBootstrap env) := by
  unfold MainLoop.takeBootstrap
  split
  · exact attempts
  rename_i netResult waiting
  have answered := (@collect m env netResult attempts waiting
    (BootstrapClient.parseResponse netResult.outcome.httpStatus
    netResult.responseBody)).runtime
      (.bootstrapResult env (BootstrapClient.parseResponse netResult.outcome.httpStatus
      netResult.responseBody).toBootstrapResult) rfl
  have replayed := answered.runtime .startOfflineReplay rfl
  simp only
  split
  · split
    · exact replayed
    · exact answered
  · split
    · exact replayed.checkDesired _
    · exact answered.checkDesired _

theorem step (sha256 : Bytes → Bytes) (attempts : Attempts m) (input : MainStep) :
    Attempts (m.step sha256 input) := by
  cases input with
  | runtime input => exact attempts.runtime input.1 input.2
  | seeReconnects reconnects => exact attempts.seeReconnects reconnects
  | attemptBootstrap env => exact attempts.attemptBootstrap
  | takeBootstrap env => exact attempts.takeBootstrap
  | pollUi safeMode writes =>
    simp only [MainLoop.step, pollUi]
    split
    · exact attempts
    split
    · exact attempts
    · exact ⟨attempts.kinds, attempts.counted, attempts.spent, attempts.requests,
        attempts.collected⟩
  | restart cut config =>
    have requests := attempts.requests
    have counted := attempts.counted
    refine ⟨by simp [MainLoop.step, reboot, KioskRuntime.boot, KindsAgree, Worker.answers,
      Phase.answer], Nat.zero_le _, (fun spent => by cases spent), ?_, ?_⟩
    · simp only [MainLoop.step, kBootstrapMaxAttempts] at requests counted ⊢
      omega
    · have nothing := @uncollected_boot .bootstrap config m.runtime.deviceSeq.highWaterMark
        m.runtime.journal.reboot
      simp only [MainLoop.step, reboot, Bool.false_eq_true, if_false]
      change (KioskRuntime.boot config m.runtime.deviceSeq.highWaterMark
        m.runtime.journal.reboot).uncollected .bootstrap + 1 ≤ _
      omega

end Attempts

/-- Unless the attempts were armed again, no more requests were made than attempts counted. -/
structure Since (m later : MainLoop) : Prop where
  armings : m.armings ≤ later.armings
  requests : later.armings = m.armings →
    later.bootstrapRequests + m.bootstrapAttemptCount ≤
      m.bootstrapRequests + later.bootstrapAttemptCount

namespace Since

variable {m later : MainLoop} {env : LoopEnv}

theorem trans {last : MainLoop} (first : Since m later) (second : Since later last) :
    Since m last where
  armings := first.armings.trans second.armings
  requests same := by
    have between : later.armings = m.armings :=
      Nat.le_antisymm (by rw [← same]; exact second.armings) first.armings
    have before := first.requests between
    have after := second.requests (same.trans between.symm)
    omega

/-- A step that makes no attempt. -/
theorem idle (armings : later.armings = m.armings)
    (requests : later.bootstrapRequests = m.bootstrapRequests)
    (counted : later.bootstrapAttemptCount = m.bootstrapAttemptCount) : Since m later :=
  ⟨armings.ge, fun _ => by omega⟩

theorem armed (more : later.armings = m.armings + 1) : Since m later :=
  ⟨by omega, fun same => by omega⟩

theorem attemptBootstrap (m : MainLoop) (env : LoopEnv) : Since m (m.attemptBootstrap env) := by
  unfold MainLoop.attemptBootstrap
  split
  · simp only
    split
    · split
      · exact ⟨le_rfl, fun _ => by simp only; omega⟩
      · exact ⟨le_rfl, fun _ => by simp only; omega⟩
    · split
      · exact ⟨le_rfl, fun _ => by simp only; omega⟩
      · exact .idle rfl rfl rfl
  · exact .idle rfl rfl rfl

private theorem settleBootstrap (m : MainLoop) (env : LoopEnv) (result : BootstrapClient.Answer) :
    Since m (m.settleBootstrap env result) := by
  unfold MainLoop.settleBootstrap
  split <;> exact .idle rfl rfl rfl

private theorem checkDesired (m : MainLoop) (result : BootstrapClient.Answer) :
    Since m (m.checkDesired result) := by
  unfold MainLoop.checkDesired
  split
  exact .idle rfl rfl rfl

theorem takeBootstrap [StdSort] (m : MainLoop) (env : LoopEnv) : Since m (m.takeBootstrap env) := by
  unfold MainLoop.takeBootstrap
  split
  · exact .idle rfl rfl rfl
  rename_i netResult waiting
  have taken : Since m { m with
      runtime := { m.runtime with pendingBootstrapResult := none }, bootstrapInflight := false } :=
        .idle rfl rfl rfl
  have settled := taken.trans (settleBootstrap _ env
    (BootstrapClient.parseResponse netResult.outcome.httpStatus netResult.responseBody))
  have moved (runtime : KioskRuntime) :
      Since m { MainLoop.settleBootstrap _ env _ with runtime := runtime } :=
    settled.trans (.idle rfl rfl rfl)
  simp only
  split
  · split
    · exact moved _
    · exact moved _
  · split
    · exact (moved _).trans (checkDesired _ _)
    · exact (moved _).trans (checkDesired _ _)

theorem step [StdSort] (sha256 : Bytes → Bytes) (m : MainLoop) (input : MainStep) :
    Since m (m.step sha256 input) := by
  cases input with
  | runtime input => exact .idle rfl rfl rfl
  | seeReconnects reconnects =>
    simp only [MainLoop.step]
    unfold MainLoop.seeReconnects
    split
    · exact .armed rfl
    · exact .idle rfl rfl rfl
  | attemptBootstrap env => exact attemptBootstrap m env
  | takeBootstrap env => exact takeBootstrap m env
  | pollUi safeMode writes =>
    simp only [MainLoop.step, pollUi]
    repeat' split
    all_goals exact .idle rfl rfl rfl
  | restart cut config => exact .armed rfl

theorem run [StdSort] (sha256 : Bytes → Bytes) (m : MainLoop) (inputs : List MainStep) :
    Since m (TransitionSystem.run (MainLoop.step sha256) m inputs) :=
  run_invariant (.idle rfl rfl rfl)
    (fun later input since => since.trans (step sha256 later input)) inputs

end Since

/-- Over every run, two requests at most are made for each time the attempts were armed, at a
start or a reconnect, and two at most since the last time, whatever is answered and however
late; and while none is in flight to the knowledge of the loop, every request still to be
collected is of an earlier arming. -/
theorem bootstrapRequests_le [StdSort] (sha256 : Bytes → Bytes) (config : BootConfig)
    (highWaterMark : UInt64) (journal : EventJournal) (flash : UiFlash) (inputs : List MainStep) :
    let m := run (step sha256) (boot config highWaterMark journal flash) inputs
    m.bootstrapRequests ≤ kBootstrapMaxAttempts * m.armings ∧
      (∀ before, before <+: inputs →
        let armed := run (step sha256) (boot config highWaterMark journal flash) before
        m.armings = armed.armings →
          m.bootstrapRequests ≤ armed.bootstrapRequests + kBootstrapMaxAttempts) ∧
      m.runtime.uncollected .bootstrap + (if m.bootstrapInflight then 0 else 1) ≤ m.armings := by
  have start : Attempts (boot config highWaterMark journal flash) := by
    refine ⟨by simp [boot, KioskRuntime.boot, KindsAgree, Worker.answers, Phase.answer],
      Nat.zero_le _, (fun spent => by cases spent), by simp [boot], ?_⟩
    have nothing := @uncollected_boot .bootstrap config highWaterMark journal
    simp [boot, nothing]
  have attempts : Attempts (run (step sha256) (boot config highWaterMark journal flash) inputs) :=
    run_invariant start (fun m input attempts => attempts.step sha256 input) inputs
  have requests := attempts.requests
  have counted := attempts.counted
  refine ⟨by omega, ?_, attempts.collected⟩
  rintro before ⟨rest, rfl⟩
  rw [run_append] at counted ⊢
  generalize run (step sha256) (boot config highWaterMark journal flash) before = armed at counted ⊢
  dsimp only
  intro same
  have since := (Since.run sha256 armed rest).requests same
  omega

end MainLoop

end Kiosk.Runtime
