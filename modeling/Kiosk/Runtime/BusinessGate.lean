import Kiosk.Runtime.ReplayPass

/-! The gates before the business flow: safe mode, the environment the server reports
and the identity of the device. -/
namespace Kiosk.Runtime

open Library Library.KeySearch Library.TransitionSystem Protocol Network Storage

/-- The live events whose results were not read. -/
def liveTickets (w : NetworkWorker) : List (SlotWorker.Ticket NetworkRequest) :=
  w.outstanding.filter fun ticket => ticket.request.kind = .businessEvent

namespace KioskRuntime

/-- The gate of scans, keys and timeouts is closed. -/
def BusinessClosed (k : KioskRuntime) (env : LoopEnv) : Prop :=
  env.safeMode = true ∨ k.envMismatch = true ∨ env.identityState ≠ .active

/-- The gate of the replay is closed. -/
def ReplayClosed (k : KioskRuntime) (env : LoopEnv) : Prop :=
  k.envMismatch = true ∨ env.identityState ≠ .active

section Gate
variable [StdSort]

/-- What the gates ask of a step. A scan, a key or a timeout before a closed gate
leaves the journal and the worker alone; an event is created or sent only by one of
these three before an open gate, and a replay only by a check before an open one. -/
structure Gated (k : KioskRuntime) (input : RuntimeStep) : Prop where
  untouched : ∀ env ∈ input.operatorEnv, k.BusinessClosed env →
    (k.step input).journal = k.journal ∧ (k.step input).network = k.network
  business : (∀ env ∈ input.operatorEnv, k.BusinessClosed env) →
    (k.step input).createdEvents = k.createdEvents ∧
      (liveTickets (k.step input).network).Subperm (liveTickets k.network)
  replay : (∀ env, input = .checkOfflineReplay env → k.ReplayClosed env) →
    (replayTickets (k.step input).network).Subperm (replayTickets k.network)

variable {k : KioskRuntime} {input : RuntimeStep} {env : LoopEnv}

omit [StdSort] in
private theorem handleScan_closed (closed : k.BusinessClosed env) (rawCode : Bytes) :
    (k.handleScan env rawCode).delivery = k.delivery := by
  unfold handleScan
  split
  · rfl
  split
  · rfl
  simp only
  split
  · rfl
  · rename_i safe mismatch active
    rcases closed with closed | closed | closed
    · exact absurd closed safe
    · exact absurd closed mismatch
    · exact absurd closed active

omit [StdSort] in
private theorem handleKeyDown_closed (closed : k.BusinessClosed env) (key : UInt8) :
    (k.handleKeyDown env key).delivery = k.delivery := by
  unfold handleKeyDown handleBusinessKey
  split
  · split
    · rfl
    split
    · rfl
    split
    · rfl
    · rename_i _ safe mismatch active
      rcases closed with closed | closed | closed
      · exact absurd closed safe
      · exact absurd closed mismatch
      · exact absurd closed active
  · rfl

omit [StdSort] in
private theorem checkUiTimeout_closed (closed : k.BusinessClosed env) :
    (k.checkUiTimeout env).delivery = k.delivery := by
  unfold checkUiTimeout
  split
  · rfl
  split
  · rfl
  split
  · rfl
  · rename_i safe mismatch active
    rcases closed with closed | closed | closed
    · exact absurd closed safe
    · exact absurd closed mismatch
    · exact absurd closed active

private theorem step_closed (operator : input.operatorEnv = some env)
    (closed : k.BusinessClosed env) :
    (k.step input).delivery = k.delivery := by
  cases input with
  | scan surroundings rawCode =>
    cases operator
    exact handleScan_closed closed rawCode
  | keyDown surroundings key =>
    cases operator
    exact handleKeyDown_closed closed key
  | checkUiTimeout surroundings =>
    cases operator
    exact checkUiTimeout_closed closed
  | _ => cases operator

omit [StdSort] in
private theorem checkOfflineReplay_closed (closed : k.ReplayClosed env) :
    (k.checkOfflineReplay env).delivery = k.delivery := by
  unfold checkOfflineReplay
  split
  · rfl
  split
  · rfl
  split
  · rfl
  split
  · rfl
  · rename_i gate
    simp only [ReplayClosed] at closed
    simp_all

private theorem business_gate (closed : ∀ env ∈ input.operatorEnv, k.BusinessClosed env) :
    (k.step input).createdEvents = k.createdEvents ∧
      (liveTickets (k.step input).network).Subperm (liveTickets k.network) := by
  have same (delivery : (k.step input).delivery = k.delivery) :
      (k.step input).createdEvents = k.createdEvents ∧
      (liveTickets (k.step input).network).Subperm (liveTickets k.network) := by
    rw [show (k.step input).network = k.network from congrArg Delivery.network delivery]
    exact ⟨congrArg Delivery.createdEvents delivery, .refl _⟩
  have here :=
    (networkAt_outstanding k input).filter fun ticket => ticket.request.kind = .businessEvent
  have events (ticket : SlotWorker.Ticket NetworkRequest)
    (live : decide (ticket.request.kind = .businessEvent) = true) :
      isEventKind ticket.request.kind = true := by
    rw [decide_eq_true_iff.mp live]
    rfl
  have view : (k.step input).createdEvents = (k.step input).delivery.createdEvents ∧
      (k.step input).network = (k.step input).delivery.network := ⟨rfl, rfl⟩
  cases k.step_delivery input with
  | idle _ network moved delivery =>
    rw [view.1, view.2, delivery]
    exact ⟨rfl, (moved.outstanding_subperm events).trans here⟩
  | answered _ _ _ _ network moved delivery =>
    rw [view.1, view.2, delivery]
    exact ⟨rfl, (moved.outstanding_subperm events).trans here⟩
  | unrecorded _ env _ operator _ _ => exact same (step_closed operator (closed env operator))
  | created _ env _ operator _ _ _ _ => exact same (step_closed operator (closed env operator))
  | passStarted _ _ _ delivery => rw [view.1, view.2, delivery]; exact ⟨rfl, .refl _⟩
  | skipped _ _ delivery => rw [view.1, view.2, delivery]; exact ⟨rfl, .refl _⟩
  | replayed _ env record _ _ _ _ _ delivery =>
    rw [view.1, view.2, delivery, delivery_sendReplay]
    exact ⟨rfl, (outstanding_enqueue .low (eventRequest .offlineReplay _ _ _ _ _) rfl).trans
      (outstanding_advance env.meanwhile)⟩
  | compacting _ _ _ _ delivery => rw [view.1, view.2, delivery]; exact ⟨rfl, .refl _⟩
  | rebooted _ _ delivery => rw [view.1, view.2, delivery]; exact ⟨rfl, List.nil_subperm⟩

private theorem replay_gate (closed : ∀ env, input = .checkOfflineReplay env → k.ReplayClosed env) :
    (replayTickets (k.step input).network).Subperm (replayTickets k.network) := by
  have here := (networkAt_outstanding k input).filter isReplay
  have view : (k.step input).network = (k.step input).delivery.network := rfl
  cases k.step_delivery input with
  | idle _ network moved delivery =>
    rw [view, delivery]
    exact (moved.outstanding_subperm replay_event).trans here
  | answered _ _ _ _ network moved delivery =>
    rw [view, delivery]
    exact (moved.outstanding_subperm replay_event).trans here
  | unrecorded _ _ _ _ _ delivery => rw [view, delivery]; exact .refl _
  | created _ env _ _ _ _ _ delivery =>
    rw [view, delivery]
    exact (outstanding_enqueue .high (eventRequest .businessEvent _ _ _ _ _) rfl).trans
      (outstanding_advance env.meanwhile)
  | passStarted _ _ _ delivery => rw [view, delivery]; exact .refl _
  | skipped _ _ delivery => rw [view, delivery]; exact .refl _
  | replayed _ env _ _ check _ _ _ _ =>
    subst check
    rw [view, show (k.step (.checkOfflineReplay env)).delivery = k.delivery from
      checkOfflineReplay_closed (closed env rfl)]
    exact .refl _
  | compacting _ _ _ _ delivery => rw [view, delivery]; exact .refl _
  | rebooted _ _ delivery => rw [view, delivery]; exact List.nil_subperm

theorem gated_step (k : KioskRuntime) (input : RuntimeStep) : k.Gated input where
  untouched env operator closed := by
    have delivery := step_closed operator closed
    exact ⟨congrArg Delivery.journal delivery, congrArg Delivery.network delivery⟩
  business := business_gate
  replay := replay_gate

/-- Every step of every run is gated. -/
theorem gated_along (config : BootConfig) (highWaterMark : UInt64) (journal : EventJournal)
    (inputs : List RuntimeStep) :
    Along step Gated (boot config highWaterMark journal) inputs :=
  Along.of_forall gated_step _ inputs

end Gate

end KioskRuntime

end Kiosk.Runtime
