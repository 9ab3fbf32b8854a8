import Kiosk.Library.TransitionSystem
import Kiosk.Runtime.ReplayPass
import Kiosk.Runtime.RuntimeSteps

/-! The resync flag against the snapshots that make a resync obsolete. Only a result of a
state fetch that is taken clears the flag; when a fetch fails, nothing asks for another,
and an answer to an event or a bootstrap that brings the projection up to date leaves the
flag. -/
namespace Kiosk.Runtime

open Library Library.KeySearch Library.TransitionSystem Protocol Network Storage

/-- A state fetch is accepted and its result is not read. -/
def FetchPending (w : NetworkWorker) : Prop :=
  ∃ ticket ∈ w.outstanding, ticket.request.kind = .stateFetch

instance (w : NetworkWorker) : Decidable (FetchPending w) := by unfold FetchPending; infer_instance

namespace KioskRuntime

/-- The step applies a newer snapshot that came by an answer to an event or by bootstrap. -/
def AppliesTruth (k : KioskRuntime) (input : RuntimeStep) : Prop :=
  ∃ arrived ∈ k.arriving input,
    arrived.1 ≠ .resync ∧ (k.stateProjection.apply arrived.2).2 = .applied

instance (k : KioskRuntime) (input : RuntimeStep) : Decidable (k.AppliesTruth input) := by
  unfold AppliesTruth; infer_instance

/-- The projection has the newest version, or a newer one. -/
def UpToDate (k : KioskRuntime) (newest : UInt64) : Prop :=
  ∃ snapshot ∈ k.stateProjection.current, newest ≤ snapshot.stateVersion

instance (k : KioskRuntime) (newest : UInt64) : Decidable (k.UpToDate newest) := by
  unfold UpToDate; infer_instance

/-- The result of a state fetch that clears the flag. -/
def endsResync (k : KioskRuntime) (result : NetworkResult) : Bool :=
  (resyncSnapshot result).any fun snapshot =>
    StateProjection.taken (k.stateProjection.apply snapshot).2

/-- The result of an event after which `apply_event_response` starts a resync. -/
def asksForResync (k : KioskRuntime) (result : NetworkResult) : Bool :=
  let (resp, parsed) := parseEventResponseJson result.responseBody
  result.outcome.ok && parsed &&
    match resp.kind with
    | .malformed => false
    | .conflictResync => true
    | .success | .businessRejected =>
      match (k.stateProjection.apply resp.snapshot).2 with
      | .rejectedStale | .rejectedInconsistent => true
      | _ => false

/-- The surroundings of a step that calls `start_resync`. -/
def resyncStart (k : KioskRuntime) : RuntimeStep → Option LoopEnv
  | .requestManualResync env => if env.identityState = .active then some env else none
  | .pollResult env =>
    match k.network.slot with
    | some answer =>
      if isEventKind answer.result.kind && k.asksForResync answer.result then some env else none
    | none => none
  | _ => none

/-- The step reads the result of a state fetch and does not take it. -/
def readsInVain (k : KioskRuntime) : RuntimeStep → Bool
  | .pollResult _ =>
    k.network.slot.any fun answer => answer.result.kind = .stateFetch && !k.endsResync answer.result
  | _ => false

/-- The steps after which no resync goes on. -/
def resyncEnds (k : KioskRuntime) : RuntimeStep → Bool
  | .pollResult _ =>
    k.network.slot.any fun answer => answer.result.kind = .stateFetch && k.endsResync answer.result
  | .reboot _ => true
  | _ => false

/-- The queue is full when `start_resync` comes to its request. -/
def refusesFetch (k : KioskRuntime) (input : RuntimeStep) (env : LoopEnv) : Bool :=
  ((k.networkAt input).advance execute env.meanwhile).high.length ≥ queueDepth .high

end KioskRuntime

/-- The step of the task puts no result over that of a state fetch. -/
def SparesFetch (w : NetworkWorker) (_ : NetworkEnv) : Prop :=
  w.deposit = none ∨ w.slot.map (fun answer => answer.result.kind) ≠ some .stateFetch

instance (w : NetworkWorker) (env : NetworkEnv) : Decidable (SparesFetch w env) := by
  unfold SparesFetch; infer_instance

/-- A step, and the newest version of the state the server has after it. -/
structure ServedStep where
  input : RuntimeStep
  newest : UInt64

/-- The device with what it knows nothing of: the server's newest version, and whether a
state fetch failed since the last resync began. -/
structure ResyncTrace where
  runtime : KioskRuntime
  newest : UInt64 := 0
  unanswered : Bool := false

namespace ResyncTrace

/-- A resync is unanswered once its fetch was refused, or the result of a fetch was
overwritten unread or read and not taken. -/
def unansweredAfter (t : ResyncTrace) (input : RuntimeStep) : Bool :=
  match t.runtime.resyncStart input with
  | some env => t.runtime.refusesFetch input env
  | none =>
    t.runtime.resyncing && !t.runtime.resyncEnds input &&
      (t.unanswered || t.runtime.readsInVain input ||
        !decide (Along (SlotWorker.Worker.tick execute) SparesFetch (t.runtime.networkAt input)
          input.meanwhile))

/-- The keypad is blocked for a resync, the projection is current, and no fetch is pending. -/
def Left (t : ResyncTrace) : Prop :=
  t.runtime.resyncing = true ∧ t.runtime.UpToDate t.newest ∧ ¬ FetchPending t.runtime.network

instance (t : ResyncTrace) : Decidable t.Left := by unfold Left; infer_instance

section Steps
variable [StdSort]

def step (t : ResyncTrace) (served : ServedStep) : ResyncTrace where
  runtime := t.runtime.step served.input
  newest := served.newest
  unanswered := t.unansweredAfter served.input

/-- Applied truth leaves no resync that waits for nothing. -/
def TruthEndsResync (t : ResyncTrace) (served : ServedStep) : Prop :=
  t.runtime.AppliesTruth served.input →
    (t.step served).runtime.resyncing = false ∨ FetchPending (t.step served).runtime.network

omit [StdSort] in
instance {sort : StdSort} (t : ResyncTrace) (served : ServedStep) :
    Decidable (t.TruthEndsResync served) := by
  unfold TruthEndsResync; infer_instance

end Steps

/-- While a resync is unanswered no newer snapshot comes by an answer to an event or by
bootstrap, and the projection stays behind the server. -/
def StaysBehind (t : ResyncTrace) (served : ServedStep) : Prop :=
  t.unansweredAfter served.input = true →
    ¬ t.runtime.AppliesTruth served.input ∧ ¬ t.runtime.UpToDate served.newest

instance (t : ResyncTrace) (served : ServedStep) : Decidable (t.StaysBehind served) := by
  unfold StaysBehind; infer_instance

end ResyncTrace

/-! A pending fetch stays pending until its result is read or overwritten. -/

section Workers
variable {w : NetworkWorker}

theorem fetchPending_enqueue (pending : FetchPending w) (tier : SlotWorker.Tier)
    (request : NetworkRequest) :
    FetchPending (w.enqueue queueDepth tier request).1 := by
  obtain ⟨ticket, member, fetch⟩ := pending
  have more := SlotWorker.Worker.enqueue_outstanding queueDepth w tier request
  refine ⟨ticket, more.mem_iff.mpr ?_, fetch⟩
  split
  · exact List.mem_append_left _ member
  · exact member

theorem fetchPending_tick (agree : KindsAgree w) (pending : FetchPending w) (env : NetworkEnv)
    (spares : SparesFetch w env) :
    FetchPending (w.tick execute env) := by
  obtain ⟨ticket, member, fetch⟩ := pending
  refine ⟨ticket, ?_, fetch⟩
  have slot := (SlotWorker.Worker.tick_slot execute w env).1
  rw [SlotWorker.Worker.outstanding, List.mem_append] at member ⊢
  rw [slot]
  rcases member with unfinished | waiting
  · rw [(SlotWorker.Worker.tick_unfinished execute w env).mem_iff, List.mem_append] at unfinished
    rcases unfinished with still | deposited
    · exact .inl still
    · refine .inr ?_
      cases deposit : w.deposit with
      | none => simp [deposit] at deposited
      | some answer => simpa [deposit] using deposited
  · obtain ⟨answer, held, rfl⟩ : ∃ answer, w.slot = some answer ∧ answer.ticket = ticket := by
      simpa using waiting
    have kind : answer.result.kind = .stateFetch := by
      rw [agree answer (by simp [SlotWorker.Worker.answers, held]), fetch]
    rcases spares with none | other
    · exact .inr (by simp [none, held])
    · exact absurd (by rw [held, Option.map_some, kind]) other

theorem fetchPending_advance (agree : KindsAgree w) (pending : FetchPending w)
    (spares : Along (SlotWorker.Worker.tick execute) SparesFetch w envs) :
    FetchPending (w.advance execute envs) :=
  (spares.invariant (motive := fun w => KindsAgree w ∧ FetchPending w) ⟨agree, pending⟩
    fun _ env both spares =>
      ⟨kindsAgree_advance both.1 [env], fetchPending_tick both.1 both.2 env spares⟩).2

theorem Idle.fetchPending (idle : Idle w envs after) (agree : KindsAgree w)
    (pending : FetchPending w)
    (spares : Along (SlotWorker.Worker.tick execute) SparesFetch w envs) : FetchPending after := by
  cases idle with
  | still => exact pending
  | ran => exact fetchPending_advance agree pending spares
  | asked tier request _ =>
    exact fetchPending_enqueue (fetchPending_advance agree pending spares) tier request

end Workers

namespace KioskRuntime

section Flag
variable (k : KioskRuntime) (env : LoopEnv)

@[simp] theorem resyncing_touchActivity : (k.touchActivity env).resyncing = k.resyncing := rfl

@[simp] theorem resyncing_appendTransition (t : JournalTransition) :
    (k.appendTransition env t).resyncing = k.resyncing := rfl

@[simp] theorem resyncing_startResync : (k.startResync env).resyncing = true := rfl

@[simp] theorem resyncing_closeReplay : k.closeReplay.resyncing = k.resyncing := by
  unfold closeReplay; split <;> rfl

@[simp] theorem resyncing_noteServerSeq (serverSeq : Int) :
    (k.noteServerSeq serverSeq).resyncing = k.resyncing := by
  unfold noteServerSeq; split <;> rfl

@[simp] theorem resyncing_sendBusinessEvent (type : EventType) (rawPayload : Bytes)
    (good defect rework : OptionalQuantity) :
    (k.sendBusinessEvent env type rawPayload good defect rework).resyncing = k.resyncing := by
  unfold sendBusinessEvent
  split
  · rfl
  simp only
  split
  · rfl
  · unfold dispatchEvent
    simp only
    split <;> rfl

@[simp] theorem resyncing_handleQuantityKey (key : UInt8) :
    (k.handleQuantityKey env key).resyncing = k.resyncing := by
  unfold handleQuantityKey submitFinalQuantity
  split
  · exact resyncing_sendBusinessEvent ..
  · split <;> rfl

end Flag

variable {k : KioskRuntime} {env : LoopEnv} {input : RuntimeStep}

private theorem resyncing_handleKeyDown (key : UInt8) :
    (k.handleKeyDown env key).resyncing = k.resyncing := by
  unfold handleKeyDown handleBusinessKey
  repeat' split
  all_goals simp

private theorem resyncing_onBootstrapResult (result : BootstrapResult) :
    (k.onBootstrapResult env result).resyncing = k.resyncing := by
  have matched : (k.applyServerEnvironment env result).1.resyncing = k.resyncing := by
    unfold applyServerEnvironment; simp only; split <;> rfl
  unfold onBootstrapResult
  split
  · rfl
  split
  · rename_i now mismatch
    rw [mismatch] at matched
    exact matched
  · rename_i now accepted
    rw [accepted] at matched
    split
    · exact matched
    · split
      simp only
      split <;> exact matched

/-- The task runs, and a state fetch is offered to the queue. -/
def Asks (w : NetworkWorker) (env : LoopEnv) (after : NetworkWorker) : Prop :=
  ∃ url, after =
    (NetworkWorker.enqueueStateFetch (w.advance execute env.meanwhile) url env.kioskToken).1

/-- The flag is set, and a state fetch is offered to the queue. -/
private def Starts (k : KioskRuntime) (env : LoopEnv) (after : KioskRuntime) : Prop :=
  after.resyncing = true ∧ Asks k.network env after.network

private theorem startResync_starts (k : KioskRuntime) (env : LoopEnv) :
    Starts k env (k.startResync env) :=
  ⟨rfl, _, rfl⟩

private theorem applySnapshotResponse_resync (k : KioskRuntime) (env : LoopEnv)
    (resp : EventResponse) (eventId : Bytes) :
    match (k.stateProjection.apply resp.snapshot).2 with
    | .rejectedStale | .rejectedInconsistent =>
      Starts k env (k.applySnapshotResponse env resp eventId)
    | _ => (k.applySnapshotResponse env resp eventId).resyncing = k.resyncing := by
  unfold applySnapshotResponse finishApply
  simp only
  cases (k.stateProjection.apply resp.snapshot).2 with
  | applied => simp only; split <;> rfl
  | appliedIdentical => simp only; split <;> rfl
  | rejectedStale => exact startResync_starts _ env
  | rejectedInconsistent => exact startResync_starts _ env
  | rejectedUnsupported => rfl

private theorem closeReplay_wait (k : KioskRuntime) :
    k.closeReplay.network = k.network ∧ k.closeReplay.stateProjection = k.stateProjection := by
  unfold closeReplay; split <;> exact ⟨rfl, rfl⟩

private theorem noteServerSeq_wait (k : KioskRuntime) (serverSeq : Int) :
    (k.noteServerSeq serverSeq).network = k.network ∧
      (k.noteServerSeq serverSeq).stateProjection = k.stateProjection := by
  unfold noteServerSeq; split <;> exact ⟨rfl, rfl⟩

/-- What the handler of an event's result does to a resync. -/
private theorem handleEventResult_resync (k : KioskRuntime) (env : LoopEnv)
    (result : NetworkResult) :
    (k.asksForResync result = true → Starts k env (k.handleEventResult env result)) ∧
      (k.asksForResync result = false →
        (k.handleEventResult env result).resyncing = k.resyncing) := by
  unfold handleEventResult asksForResync
  simp only
  cases ok : result.outcome.ok with
  | false => simp
  | true =>
    cases parsed : (parseEventResponseJson result.responseBody).2 with
    | false => simp [applyEventResponse]
    | true =>
      obtain ⟨noted, same⟩ : ∃ noted, (k.closeReplay.touchActivity env).noteServerSeq
        (parseEventResponseJson result.responseBody).1.serverSeq = noted := ⟨_, rfl⟩
      have network : noted.network = k.network := by
        rw [← same, (noteServerSeq_wait _ _).1]
        exact (closeReplay_wait k).1
      have projection : noted.stateProjection = k.stateProjection := by
        rw [← same, (noteServerSeq_wait _ _).2]
        exact (closeReplay_wait k).2
      have flag : noted.resyncing = k.resyncing := by rw [← same]; simp
      have starts (t : JournalTransition) :
          Starts k env ((noted.appendTransition env t).startResync env) := by
        rw [Starts, ← network]
        exact startResync_starts (noted.appendTransition env t) env
      have applied := applySnapshotResponse_resync noted env
        (parseEventResponseJson result.responseBody).1 result.eventId
      simp only [Starts, network, projection, flag] at applied
      simp only [Starts]
      unfold applyEventResponse
      simp only [same]
      generalize (k.stateProjection.apply
        (parseEventResponseJson result.responseBody).1.snapshot).2 = applyResult at applied ⊢
      cases kind : (parseEventResponseJson result.responseBody).1.kind with
      | malformed => simp
      | conflictResync => simpa using (starts _).2
      | success => cases applyResult <;> simpa using applied
      | businessRejected => cases applyResult <;> simpa using applied

private theorem handleResyncResult_resync (k : KioskRuntime) (env : LoopEnv)
    (result : NetworkResult) :
    (k.handleResyncResult env result).resyncing = (k.resyncing && !k.endsResync result) := by
  unfold handleResyncResult endsResync resyncSnapshot
  cases ok : result.outcome.ok with
  | false => simp
  | true =>
    cases parsed : parseStateSnapshotJson result.responseBody with
    | none => simp
    | some snapshot =>
      simp only [Bool.not_true, Bool.false_eq_true, ↓reduceIte, Option.any_some]
      cases took : StateProjection.taken (k.stateProjection.apply snapshot).2 with
      | true => simp [clearQtyBuffer, touchActivity]
      | false => simp

section Steps
variable [StdSort]

/-- A step that starts a resync sets the flag and asks for the state. -/
theorem step_start (start : k.resyncStart input = some env) :
    (k.step input).resyncing = true ∧ Asks (k.networkAt input) env (k.step input).network := by
  cases input with
  | requestManualResync other =>
    simp only [resyncStart, Option.ite_none_right_eq_some, Option.some.injEq] at start
    obtain ⟨active, rfl⟩ := start
    simp only [step, requestManualResync, active]
    exact startResync_starts k other
  | pollResult other =>
    cases slot : k.network.slot with
    | none => simp [resyncStart, slot] at start
    | some answer =>
      simp only [resyncStart, slot, Option.ite_none_right_eq_some, Option.some.injEq,
        Bool.and_eq_true] at start
      obtain ⟨⟨event, asks⟩, rfl⟩ := start
      have handled :=
        (handleEventResult_resync { k with network := k.network.poll.1 } other answer.result).1 asks
      simp only [step, pollResult, SlotWorker.Worker.poll, slot]
      cases kind : answer.result.kind with
      | businessEvent => exact handled
      | offlineReplay => exact handled
      | _ => simp [kind, isEventKind] at event
  | _ => cases start

omit [StdSort] in
private theorem pollResult_resyncing (quiet : k.resyncStart (.pollResult env) = none) :
    (k.pollResult env).resyncing = (k.resyncing && !k.resyncEnds (.pollResult env)) := by
  unfold pollResult
  simp only [SlotWorker.Worker.poll]
  cases slot : k.network.slot with
  | none => simp [resyncEnds, slot]
  | some answer =>
    have handled (event : isEventKind answer.result.kind = true) :
        ({ k with network := k.network.poll.1 }.handleEventResult env answer.result).resyncing =
          k.resyncing := by
      have calm : k.asksForResync answer.result = false := by
        simpa [resyncStart, slot, event] using quiet
      exact (handleEventResult_resync { k with network := k.network.poll.1 } env answer.result).2
        calm
    simp only
    cases kind : answer.result.kind with
    | stateFetch =>
      simp only [resyncEnds, slot, kind, Option.any_some, decide_true, Bool.true_and]
      exact handleResyncResult_resync _ env answer.result
    | businessEvent =>
      have goesOn : k.resyncEnds (.pollResult env) = false := by simp [resyncEnds, slot, kind]
      rw [goesOn, Bool.not_false, Bool.and_true]
      exact handled (by rw [kind]; rfl)
    | offlineReplay =>
      have goesOn : k.resyncEnds (.pollResult env) = false := by simp [resyncEnds, slot, kind]
      rw [goesOn, Bool.not_false, Bool.and_true]
      exact handled (by rw [kind]; rfl)
    | _ => simp [resyncEnds, slot, kind]

/-- A step that starts no resync leaves the flag as it was, or clears it. -/
theorem step_resyncing (quiet : k.resyncStart input = none) :
    (k.step input).resyncing = (k.resyncing && !k.resyncEnds input) := by
  cases input with
  | pollResult env => exact pollResult_resyncing quiet
  | reboot config => simp [step, reboot, boot, resyncEnds]
  | scan env rawCode =>
    simp only [step, handleScan, resyncEnds, Bool.not_false, Bool.and_true]
    repeat' split
    all_goals simp
  | keyDown env key => simp [step, resyncing_handleKeyDown, resyncEnds]
  | checkUiTimeout env =>
    simp only [step, checkUiTimeout, resyncEnds, Bool.not_false, Bool.and_true]
    repeat' split
    all_goals simp
  | replayFallback env =>
    simp only [step, replayFallback, startOfflineReplayIfNeeded, resyncEnds, Bool.not_false,
      Bool.and_true]
    repeat' split
    all_goals rfl
  | checkOfflineReplay env =>
    simp only [step, checkOfflineReplay, sendReplay, resyncEnds, Bool.not_false, Bool.and_true]
    repeat' split
    all_goals rfl
  | startOfflineReplay =>
    simp only [step, startOfflineReplayIfNeeded, resyncEnds, Bool.not_false, Bool.and_true]
    repeat' split
    all_goals rfl
  | bootstrapResult env result => simp [step, resyncing_onBootstrapResult, resyncEnds]
  | requestManualResync env =>
    simp only [resyncStart, ite_eq_right_iff, reduceCtorEq, imp_false] at quiet
    simp [step, requestManualResync, quiet, resyncEnds]
  | _ => simp [step, resyncEnds]

/-- A fetch that is pending before a step is pending after it, unless the step reads or
overwrites its result, or the device restarts. -/
theorem step_fetchPending (agree : KindsAgree k.network) (pending : FetchPending k.network)
    (unread : k.readsInVain input = false) (goesOn : k.resyncEnds input = false)
    (spares : Along (SlotWorker.Worker.tick execute) SparesFetch (k.networkAt input)
      input.meanwhile) :
    FetchPending (k.step input).network := by
  have kinds : KindsAgree (k.networkAt input) :=
    fun answer member => agree answer (networkAt_answers k input member)
  have waiting : FetchPending (k.networkAt input) := by
    obtain ⟨ticket, member, fetch⟩ := pending
    cases input with
    | pollResult env =>
      rw [SlotWorker.Worker.poll_outstanding, List.mem_append] at member
      rcases member with still | read
      · exact ⟨ticket, still, fetch⟩
      · obtain ⟨answer, slot, rfl⟩ :
            ∃ answer, k.network.slot = some answer ∧ answer.ticket = ticket := by
          simpa using read
        have kind : answer.result.kind = .stateFetch := by
          rw [agree answer (by simp [SlotWorker.Worker.answers, slot]), fetch]
        simp [readsInVain, slot, kind] at unread
        simp [resyncEnds, slot, kind, unread] at goesOn
    | _ => exact ⟨ticket, member, fetch⟩
  have network : (k.step input).network = (k.step input).delivery.network := rfl
  rw [network]
  cases k.step_delivery input with
  | idle _ network moved delivery => rw [delivery]; exact moved.fetchPending kinds waiting spares
  | answered _ _ _ _ network moved delivery =>
    rw [delivery]
    exact moved.fetchPending kinds waiting spares
  | unrecorded _ _ _ _ _ delivery => rw [delivery]; exact pending
  | created quiet env event operator _ _ _ delivery =>
    have during : input.meanwhile = env.meanwhile := by
      cases input <;> simp_all [RuntimeStep.operatorEnv, RuntimeStep.meanwhile]
    rw [quiet.network, during] at spares
    rw [delivery]
    exact fetchPending_enqueue (fetchPending_advance agree pending spares) _ _
  | passStarted _ _ _ delivery => rw [delivery]; exact pending
  | skipped _ _ delivery => rw [delivery]; exact pending
  | replayed _ env record _ check _ _ _ delivery =>
    subst check
    rw [delivery, delivery_sendReplay]
    exact fetchPending_enqueue (fetchPending_advance agree pending spares) _ _
  | compacting _ _ _ _ delivery => rw [delivery]; exact pending
  | rebooted _ restart _ => subst restart; cases goesOn

omit [StdSort] in
/-- A snapshot that comes by a state fetch is applied only where it ends the resync. -/
private theorem arriving_resync (arrived : k.arriving input = some (.resync, snapshot))
    (took : StateProjection.taken (k.stateProjection.apply snapshot).2 = true) :
    k.resyncStart input = none ∧ k.resyncEnds input = true := by
  cases input with
  | pollResult env =>
    obtain ⟨answer, slot, brought⟩ := Option.bind_eq_some_iff.mp arrived
    cases kind : answer.result.kind with
    | stateFetch =>
      simp only [resultSnapshot, kind, Option.map_eq_some_iff, Prod.mk.injEq, true_and,
        exists_eq_right] at brought
      simp [resyncStart, resyncEnds, slot, kind, isEventKind, endsResync, brought, took]
    | businessEvent => simp [resultSnapshot, kind] at brought
    | offlineReplay => simp [resultSnapshot, kind] at brought
    | _ => simp [resultSnapshot, kind] at brought
  | bootstrapResult env result => simp [arriving] at arrived
  | _ => cases arrived

/-- While a resync goes on the projection changes only to a snapshot that is applied. -/
private theorem step_projection (flag : (k.step input).resyncing = true) :
    (∃ arrived ∈ k.arriving input, (k.stateProjection.apply arrived.2).2 = .applied ∧
      (k.step input).stateProjection.current = some arrived.2) ∨
    (k.step input).stateProjection = k.stateProjection := by
  have projection : (k.step input).stateProjection = (k.step input).entryView.stateProjection := rfl
  rw [projection]
  cases k.step_outcome input with
  | offered source incoming arrived view =>
    have offered :
        (k.step input).entryView.stateProjection = (k.stateProjection.apply incoming).1 := by
      rw [view]
      cases source with
      | event => rfl
      | resync => rfl
      | bootstrap => rfl
    rw [offered]
    by_cases applied : (k.stateProjection.apply incoming).2 = .applied
    · exact .inl ⟨(source, incoming), arrived, applied,
        StateProjection.apply_taken (by rw [applied]; rfl)⟩
    · exact .inr (StateProjection.apply_kept applied)
  | pressed _ _ _ same _ _ => exact .inr same
  | rebooted _ restart _ => simp [restart, step, reboot, boot] at flag
  | elsewhere _ _ same _ _ => exact .inr same

/-- While a resync goes on only an applied truth brings the projection up to date. -/
theorem step_upToDate (flag : (k.step input).resyncing = true)
    (current : (k.step input).UpToDate newest) :
    k.AppliesTruth input ∨ k.UpToDate newest := by
  rcases step_projection flag with ⟨⟨source, incoming⟩, arrived, applied, _⟩ | same
  · refine .inl ⟨(source, incoming), arrived, ?_, applied⟩
    rintro rfl
    obtain ⟨quiet, ends⟩ := arriving_resync arrived (by rw [applied]; rfl)
    rw [step_resyncing quiet, ends] at flag
    simp at flag
  · rw [UpToDate, same] at current
    exact .inr current

theorem upToDate_step (flag : (k.step input).resyncing = true) (current : k.UpToDate newest) :
    (k.step input).UpToDate newest := by
  obtain ⟨snapshot, held, version⟩ := current
  rcases step_projection flag with ⟨arrived, _, applied, taken⟩ | same
  · have newer : snapshot.stateVersion < arrived.2.stateVersion :=
      StateProjection.apply_rises held applied
    exact ⟨arrived.2, taken, UInt64.le_trans version (UInt64.le_of_lt newer)⟩
  · exact ⟨snapshot, same ▸ held, version⟩

end Steps

end KioskRuntime

namespace ResyncTrace

variable {t : ResyncTrace} {served : ServedStep} [StdSort]

/-- A resync without a pending fetch is unanswered. -/
structure Kept (t : ResyncTrace) : Prop where
  kinds : KindsAgree t.runtime.network
  awaited : t.runtime.resyncing = true → FetchPending t.runtime.network ∨ t.unanswered = true

omit [StdSort] in
theorem kept_boot (config : KioskRuntime.BootConfig) (highWaterMark : UInt64)
    (journal : EventJournal) :
    Kept { runtime := .boot config highWaterMark journal } where
  kinds answer member := by
    simp [KioskRuntime.boot, SlotWorker.Worker.answers, SlotWorker.Phase.answer] at member
  awaited flag := by cases flag

omit [StdSort] in
private theorem fetchPending_start (taken : w.high.length < queueDepth .high)
    (url kioskToken : Bytes) :
    FetchPending (NetworkWorker.enqueueStateFetch w url kioskToken).1 := by
  have more := SlotWorker.Worker.enqueue_outstanding queueDepth w .high
    (plainRequest .stateFetch url [] kioskToken)
  have accepted :
      (w.enqueue queueDepth .high (plainRequest .stateFetch url [] kioskToken)).2 = true := by
    simp [SlotWorker.Worker.enqueue, taken]
  rw [accepted, if_pos rfl] at more
  exact ⟨_, more.mem_iff.mpr (List.mem_append_right _ List.mem_cons_self), rfl⟩

theorem Kept.step (kept : Kept t) (served : ServedStep) : Kept (t.step served) where
  kinds := KioskRuntime.kindsAgree_step kept.kinds
  awaited flag := by
    simp only [ResyncTrace.step, unansweredAfter] at flag ⊢
    cases start : t.runtime.resyncStart served.input with
    | some env =>
      obtain ⟨_, url, network⟩ := KioskRuntime.step_start start
      rw [network]
      by_cases full : t.runtime.refusesFetch served.input env = true
      · exact .inr full
      · refine .inl (fetchPending_start ?_ url env.kioskToken)
        simpa [KioskRuntime.refusesFetch] using full
    | none =>
      rw [KioskRuntime.step_resyncing start, Bool.and_eq_true, Bool.not_eq_true'] at flag
      rcases kept.awaited flag.1 with pending | unanswered
      · by_cases vain : t.runtime.readsInVain served.input = true
        · exact .inr (by simp [flag, vain])
        by_cases spares :
          Along (SlotWorker.Worker.tick execute) SparesFetch (t.runtime.networkAt served.input)
          served.input.meanwhile
        · exact .inl (KioskRuntime.step_fetchPending kept.kinds pending (by simpa using vain)
            flag.2 spares)
        · exact .inr (by simp [flag, spares])
      · exact .inr (by simp [flag, unanswered])

theorem truthEndsResync_step (kept : Kept t) (behind : t.StaysBehind served) :
    t.TruthEndsResync served := by
  intro applies
  cases flag : (t.step served).runtime.resyncing with
  | false => exact .inl rfl
  | true =>
    rcases (kept.step served).awaited flag with pending | unanswered
    · exact .inr pending
    · exact absurd applies (behind unanswered).1

theorem not_left_step (kept : Kept t) (behind : t.StaysBehind served) : ¬ (t.step served).Left := by
  rintro ⟨flag, current, unfetched⟩
  have unanswered := ((kept.step served).awaited flag).resolve_left unfetched
  obtain ⟨untold, older⟩ := behind unanswered
  rcases KioskRuntime.step_upToDate flag current with applies | before
  · exact untold applies
  · exact older before

/-- In every run in which nothing brings the projection up to date while a resync is
unanswered, applied truth ends a resync or finds its fetch pending, and the keypad is never
left blocked over a current projection with no fetch pending. -/
theorem truthEndsResync_of_staysBehind (config : KioskRuntime.BootConfig) (highWaterMark : UInt64)
    (journal : EventJournal) (inputs : List ServedStep) (along : Along ResyncTrace.step StaysBehind
      { runtime := .boot config highWaterMark journal } inputs) :
    Along ResyncTrace.step TruthEndsResync
        { runtime := .boot config highWaterMark journal } inputs ∧
      ∀ before, before <+: inputs →
        ¬ (run ResyncTrace.step { runtime := .boot config highWaterMark journal } before).Left := by
  have start := kept_boot config highWaterMark journal
  refine ⟨along.entails (motive := Kept) start (fun _ served kept _ => kept.step served)
    fun _ _ kept behind => truthEndsResync_step kept behind, ?_⟩
  rintro before ⟨rest, rfl⟩
  have begun : Along ResyncTrace.step StaysBehind
      { runtime := .boot config highWaterMark journal } before := Along.prefix along
  refine (begun.invariant (motive := fun t => Kept t ∧ ¬ t.Left) ⟨start, ?_⟩ ?_).2
  · rintro ⟨flag, _⟩
    cases flag
  · exact fun _ served both behind => ⟨both.1.step served, not_left_step both.1 behind⟩

/-- Where a fetch of the resync failed no second one is pending. -/
def SingleFetch (t : ResyncTrace) (served : ServedStep) : Prop :=
  t.unansweredAfter served.input = true → ¬ FetchPending (t.step served).runtime.network

theorem staysBehind_step (single : t.SingleFetch served)
    (ends : t.TruthEndsResync served) (unleft : ¬ (t.step served).Left) : t.StaysBehind served := by
  intro unanswered
  have flag : (t.step served).runtime.resyncing = true := by
    revert unanswered
    unfold unansweredAfter
    cases start : t.runtime.resyncStart served.input with
    | some env => exact fun _ => (KioskRuntime.step_start start).1
    | none =>
      intro unanswered
      have goesOn : t.runtime.resyncing = true ∧ t.runtime.resyncEnds served.input = false := by
        simp only [Bool.and_eq_true, Bool.not_eq_true'] at unanswered
        exact unanswered.1
      rw [ResyncTrace.step, KioskRuntime.step_resyncing start]
      simp [goesOn]
  refine ⟨fun applies => ?_, fun current => ?_⟩
  · rcases ends applies with ended | pending
    · simp [flag] at ended
    · exact single unanswered pending
  · exact unleft ⟨flag, KioskRuntime.upToDate_step flag current, single unanswered⟩

/-- With one fetch at a time the condition is exact. -/
theorem staysBehind_of_truthEndsResync (inputs : List ServedStep)
    (single : Along ResyncTrace.step SingleFetch t inputs)
    (ends : Along ResyncTrace.step TruthEndsResync t inputs)
    (unleft : ∀ before, before <+: inputs → ¬ (run ResyncTrace.step t before).Left) :
    Along ResyncTrace.step StaysBehind t inputs := by
  induction inputs generalizing t with
  | nil => trivial
  | cons served rest ih =>
    have here : ¬ (t.step served).Left := unleft [served] (by simp)
    refine ⟨staysBehind_step single.1 ends.1 here, ih single.2 ends.2 fun before inside => ?_⟩
    exact unleft (served :: before) (List.cons_prefix_cons.mpr ⟨rfl, inside⟩)

end ResyncTrace

private def sessionActive (version : UInt64) : BootstrapResult :=
  { status := .ok, snapshot := some { state := .sessionActive, stateVersion := version } }

private def networkDown : NetworkEnv :=
  { wifiConnected := false, exchange := fun _ => { status := 0 } }

private def stateAnswer : NetworkEnv where
  exchange _ := {
    status := 200
    responseText := text "\x7b\"state\":\x7b\"name\":\"SESSION_ACTIVE\",\"version\":2\x7d\x7d" }

/-- Steps while the server has version 2. -/
private def served (inputs : List RuntimeStep) : List ServedStep :=
  inputs.map fun input => { input := input, newest := 2 }

private def truthAfter (network : NetworkEnv) : List ServedStep :=
  served ([.requestManualResync {}] ++ List.replicate 5 (.task network) ++
    [.pollResult {}, .bootstrapResult {} (sessionActive 2)])

private def truthDuring (network : NetworkEnv) (version : UInt64) : List ServedStep :=
  served ([.requestManualResync {}, .bootstrapResult {} (sessionActive version)] ++
    List.replicate 5 (.task network) ++
    [.pollResult {}])

/-- A truth is applied while the fetch is pending, and the fetch then brings the state. -/
theorem truthEndsResync_of_staysBehind_answered :
    Along (@ResyncTrace.step .insertion) ResyncTrace.StaysBehind { runtime := .boot {} 0 {} }
        (truthDuring stateAnswer 1) ∧
      Along (@ResyncTrace.step .insertion) (@ResyncTrace.TruthEndsResync .insertion)
        { runtime := .boot {} 0 {} }
        (truthDuring stateAnswer 1) ∧
      ∀ before, before <+: truthDuring stateAnswer 1 →
        ¬ (run (@ResyncTrace.step .insertion) { runtime := .boot {} 0 {} } before).Left :=
  have along :
      Along (@ResyncTrace.step .insertion) ResyncTrace.StaysBehind { runtime := .boot {} 0 {} }
      (truthDuring stateAnswer 1) := by decide +kernel
  ⟨along, @ResyncTrace.truthEndsResync_of_staysBehind .insertion {} 0 {}
    (truthDuring stateAnswer 1) along⟩

/-- A fetch fails and the truth comes after it, or it comes first and the fetch then fails:
the device goes on waiting. -/
theorem truth_leaves_resync :
    ¬ Along (@ResyncTrace.step .insertion) (@ResyncTrace.TruthEndsResync .insertion)
      { runtime := .boot {} 0 {} }
        (truthAfter networkDown) ∧
      (run (@ResyncTrace.step .insertion) { runtime := .boot {} 0 {} }
        (truthAfter networkDown)).Left ∧
      (run (@ResyncTrace.step .insertion) { runtime := .boot {} 0 {} }
        (truthDuring networkDown 2)).Left := by
  decide +kernel

end Kiosk.Runtime
