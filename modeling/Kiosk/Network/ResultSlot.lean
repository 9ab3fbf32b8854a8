import Kiosk.Network.NetworkWorker

/-! What reaches `poll()`. The worker starts the next request without waiting for the
last result to be read, so a result can be replaced in the slot. -/
namespace Kiosk.Network

open Library Library.KeySearch Library.SlotWorker Library.TransitionSystem Protocol

/-- The calls of the main loop and the steps of the task. -/
inductive NetworkStep where
  | enqueueBusinessEvent (eventId : Bytes) (deviceSeq : UInt64) (url payload kioskToken : Bytes)
  | enqueueOfflineReplay (eventId : Bytes) (deviceSeq : UInt64) (url payload kioskToken : Bytes)
  | enqueueStateFetch (url kioskToken : Bytes)
  | enqueueUiBundleFetch (url : Bytes)
  | enqueueBootstrap (url body : Bytes)
  | enqueueHeartbeat (url body : Bytes)
  | task (env : NetworkEnv)
  | poll

def NetworkStep.op : NetworkStep → Op NetworkRequest NetworkEnv
  | .enqueueBusinessEvent eventId deviceSeq url payload kioskToken =>
    .enqueue .high (eventRequest .businessEvent eventId deviceSeq url payload kioskToken)
  | .enqueueOfflineReplay eventId deviceSeq url payload kioskToken =>
    .enqueue .low (eventRequest .offlineReplay eventId deviceSeq url payload kioskToken)
  | .enqueueStateFetch url kioskToken => .enqueue .high (plainRequest .stateFetch url [] kioskToken)
  | .enqueueUiBundleFetch url => .enqueue .low (plainRequest .uiBundleFetch url [] [])
  | .enqueueBootstrap url body => .enqueue .high (plainRequest .bootstrap url body [])
  | .enqueueHeartbeat url body => .enqueue .low (plainRequest .heartbeat url body [])
  | .task env => .tick env
  | .poll => .poll

/-- A worker with the requests it accepted, the results it deposited and those that
`poll()` returned. -/
abbrev NetworkTrace := Trace NetworkRequest NetworkResult

namespace NetworkTrace

def step (trace : NetworkTrace) (input : NetworkStep) : NetworkTrace :=
  Trace.step queueDepth execute trace input.op

/-- After one more `poll()` every accepted request that was completed has had its
result returned, once. -/
def ReturnsEach (trace : NetworkTrace) : Prop :=
  ∀ ticket ∈ trace.accepted, ∀ answer ∈ trace.completed, answer.ticket = ticket →
    ((step trace .poll).returned.filter fun other => other.ticket.serial = ticket.serial) = [answer]

instance (trace : NetworkTrace) : Decidable trace.ReturnsEach := by
  unfold ReturnsEach
  infer_instance

/-- `deposit_result` finds the slot empty. -/
def SlotEmpty (trace : NetworkTrace) (input : NetworkStep) : Prop := Trace.SlotFree trace input.op

instance (trace : NetworkTrace) (input : NetworkStep) : Decidable (trace.SlotEmpty input) := by
  unfold SlotEmpty; infer_instance

private theorem run_op (trace : NetworkTrace) (inputs : List NetworkStep) :
    run step trace inputs =
      run (Trace.step queueDepth execute) trace (inputs.map NetworkStep.op) := by
  induction inputs generalizing trace with
  | nil => rfl
  | cons input rest ih => exact ih (step trace input)

private theorem along_op (trace : NetworkTrace) (inputs : List NetworkStep) :
    Along step SlotEmpty trace inputs ↔
      Along (Trace.step queueDepth execute) Trace.SlotFree trace (inputs.map NetworkStep.op) := by
  induction inputs generalizing trace with
  | nil => exact Iff.rfl
  | cons input rest ih => exact and_congr_right fun _ => ih (step trace input)

/-- In a list without repeated numbers a number finds its own answer. -/
private theorem filter_serial {answers : List (Answer NetworkRequest NetworkResult)}
    (distinct : (answers.map fun answer => answer.ticket.serial).Nodup)
    (member : answer ∈ answers) :
    (answers.filter fun other => other.ticket.serial = answer.ticket.serial) = [answer] := by
  induction answers with
  | nil => cases member
  | cons head rest ih =>
    rw [List.map_cons, List.nodup_cons] at distinct
    rcases List.mem_cons.mp member with rfl | later
    · have others : (rest.filter fun other => other.ticket.serial = answer.ticket.serial) = [] := by
        rw [List.filter_eq_nil_iff]
        intro other inside
        simp only [decide_eq_true_eq]
        exact fun same => distinct.1 (same ▸ List.mem_map_of_mem inside)
      rw [List.filter_cons_of_pos (by simp), others]
    · have different : head.ticket.serial ≠ answer.ticket.serial := fun same =>
        distinct.1 (same ▸ List.mem_map_of_mem later)
      rw [List.filter_cons_of_neg (by simpa using different)]
      exact ih distinct.2 later

/-- Every completed request is returned exactly once if and only if no result is
deposited into a slot that still holds an unread one. -/
theorem returnsEach_iff (inputs : List NetworkStep) :
    ReturnsEach (run step {} inputs) ↔ Along step SlotEmpty {} inputs := by
  have accounted := Trace.accounted_start.run queueDepth execute (inputs.map NetworkStep.op)
  rw [along_op, run_op]
  generalize final :
    run (Trace.step queueDepth execute) {} (inputs.map NetworkStep.op) = trace at accounted
  have held : (step trace .poll).returned = trace.held := rfl
  constructor
  · intro each
    refine (Trace.slotFree_of_held queueDepth execute _ (Nat.le_refl _) ?_).2
    rw [final]
    have inside : trace.completed ⊆ trace.held := by
      intro answer member
      have known : answer.ticket ∈ trace.accepted :=
        accounted.all.mem_iff.mpr (List.mem_append_left _ (List.mem_map_of_mem member))
      have found := each answer.ticket known answer member rfl
      rw [held] at found
      exact List.mem_of_mem_filter (found ▸ List.mem_singleton_self answer)
    have distinct : trace.completed.Nodup := accounted.nodup.of_map _
    have long := (distinct.subperm inside).length_le
    have short :
        (run (Trace.step queueDepth execute) {} (inputs.map NetworkStep.op)).held.length ≤ _ :=
      Trace.held_length_le queueDepth execute _ (Nat.le_refl _)
    rw [final] at short
    omega
  · intro along ticket _ answer member same
    have all := Trace.held_of_slotFree queueDepth execute along rfl
    rw [final] at all
    rw [held, all, ← same]
    exact filter_serial accounted.nodup member

/-- Without Wi-Fi every execution ends at once. -/
private def wifiDown : NetworkEnv :=
  { wifiConnected := false, exchange := fun _ => { status := 0 } }

/-- A state fetch and a heartbeat complete before the main loop polls. -/
theorem overwritten_result_lost :
    ¬ ReturnsEach (run step {}
      ([.enqueueStateFetch (text "http://b/state") [], .enqueueHeartbeat (text "http://b/hb") []] ++
      List.replicate 12 (.task wifiDown))) := by
  decide +kernel

end NetworkTrace

end Kiosk.Network
