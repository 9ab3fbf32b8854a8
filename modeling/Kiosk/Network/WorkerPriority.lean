import Kiosk.Library.TierOrder
import Kiosk.Network.ResultSlot

/-! The order in which the worker task takes requests. `task_entry` asks the HIGH queue
without waiting and then waits up to 50 ms on the LOW one; what arrives in HIGH during
that wait is only seen in the next round. -/
namespace Kiosk.Network

open Library Library.KeySearch Library.SlotWorker Library.TransitionSystem Protocol

/-- A worker with the requests it accepted, took off a queue and executed, in order. -/
abbrev WorkerTrace := OrderTrace NetworkRequest NetworkResult

namespace WorkerTrace

def step (trace : WorkerTrace) (input : NetworkStep) : WorkerTrace :=
  OrderTrace.step queueDepth execute trace input.op

/-- In no state of the run is the task about to start a LOW request while a HIGH one is
queued. -/
def DrainsHighFirst (inputs : List NetworkStep) : Prop :=
  ∀ front, front <+: inputs → ¬ (run step {} front).worker.Overtakes

/-- The step puts no request beside one of the other tier during the wait on LOW. -/
def Unmixed (trace : WorkerTrace) (input : NetworkStep) : Prop :=
  trace.worker.Unmixed queueDepth input.op

instance (trace : WorkerTrace) (input : NetworkStep) : Decidable (trace.Unmixed input) := by
  unfold Unmixed; infer_instance

private theorem run_ops (trace : WorkerTrace) (inputs : List NetworkStep) :
    run step trace inputs =
      run (OrderTrace.step queueDepth execute) trace (inputs.map NetworkStep.op) := by
  induction inputs generalizing trace with
  | nil => rfl
  | cons input rest ih => exact ih (step trace input)

private theorem along_ops (trace : WorkerTrace) (inputs : List NetworkStep) :
    Along step Unmixed trace inputs ↔ Along (OrderTrace.step queueDepth execute)
      (fun trace op => trace.worker.Unmixed queueDepth op) trace (inputs.map NetworkStep.op) := by
  induction inputs generalizing trace with
  | nil => exact Iff.rfl
  | cons input rest ih => exact and_congr_right fun _ => ih (step trace input)

/-- Whatever the interleaving, the executions are distinct accepted requests, in the
order of acceptance within each tier, and every other accepted request is in hand or
queued. -/
structure KeepsRequests (trace : WorkerTrace) : Prop where
  kept : (trace.accepted.map Prod.snd).Perm (trace.executed ++ trace.waiting)
  once : (trace.executed.map Ticket.serial).Nodup
  inOrder : ∃ entries, trace.executed = entries.map Prod.snd ∧
    ∀ tier, ofTier tier entries <+: ofTier tier trace.accepted

/-- Requests are kept, executed once and in order of their tier in every run. HIGH is
drained first in exactly the runs whose steps are all unmixed. -/
theorem priority_iff (inputs : List NetworkStep) :
    KeepsRequests (run step {} inputs) ∧
      (DrainsHighFirst inputs ↔ Along step Unmixed {} inputs) := by
  constructor
  · rw [run_ops]
    have ordered := OrderTrace.ordered_start.run queueDepth execute (inputs.map NetworkStep.op)
    exact ⟨ordered.accepted_perm, ordered.executed_nodup, ordered.executed_in_order⟩
  · have calm : ¬ (OrderTrace.worker (ρ := NetworkRequest) (α := NetworkResult) {}).Overtakes := by
      rw [Worker.overtakes_iff]
      rintro ⟨waits, _⟩
      cases waits
    rw [along_ops, ← OrderTrace.never_overtakes_iff queueDepth execute calm]
    constructor
    · intro drains front start
      obtain ⟨inputs, kept, rfl⟩ :
          ∃ inputs', inputs' <+: inputs ∧ inputs'.map NetworkStep.op = front := by
        obtain ⟨rest, split⟩ := start
        obtain ⟨first, second, rfl, rfl, _⟩ := List.map_eq_append_iff.mp split.symm
        exact ⟨first, List.prefix_append _ _, rfl⟩
      rw [← run_ops]
      exact drains inputs kept
    · intro never front start
      rw [run_ops]
      exact never _ (start.map NetworkStep.op)

/-- The task finds HIGH empty and waits on LOW; a state fetch arrives, then a heartbeat. -/
def lateHigh : List NetworkStep :=
  [.task { exchange := fun _ => { status := 200 } }, .enqueueStateFetch (text "http://b/state") [],
    .enqueueHeartbeat (text "http://b/hb") []]

/-- The heartbeat is started next, the state fetch being queued. -/
theorem lateHigh_overtaken :
    ¬ DrainsHighFirst lateHigh ∧
      (run step {} lateHigh).worker.starts.map (fun start => (start.1, start.2.request.kind)) =
        some (.low, .heartbeat) ∧
      (run step {} lateHigh).worker.high.map (fun ticket => ticket.request.kind) =
        [.stateFetch] := by
  refine ⟨fun drains => ?_, by decide +kernel, by decide +kernel⟩
  refine drains lateHigh (List.prefix_refl _) ?_
  rw [Worker.overtakes_iff]
  decide +kernel

end WorkerTrace

end Kiosk.Network
