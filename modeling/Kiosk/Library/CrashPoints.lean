import Kiosk.Library.TransitionSystem

/-! Where a loss of power can leave a sequence of operations. An operation is done or
not, or, where it is not atomic, `torn` says what a part of it leaves. -/
namespace Kiosk.Library.CrashPoints

open TransitionSystem

variable {σ ο : Type} (apply : σ → ο → σ) (torn : σ → ο → σ → Prop)

/-- The states a crash during the operations can leave. -/
inductive Crash : σ → List ο → σ → Prop
  | stopped (s : σ) (ops : List ο) : Crash s ops s
  | during (part : torn s op after) (rest : List ο) : Crash s (op :: rest) after
  | later (rest : Crash (apply s op) ops after) : Crash s (op :: ops) after

variable {apply torn} {s after : σ} {motive : σ → Prop}

/-- Every prefix is a crash point. -/
theorem Crash.of_take (s : σ) (ops : List ο) (done : Nat) :
    Crash apply torn s ops (run apply s (ops.take done)) := by
  induction ops generalizing s done with
  | nil => rw [List.take_nil]; exact .stopped s []
  | cons op rest ih =>
    cases done with
    | zero => exact .stopped s _
    | succ done => exact .later (ih (apply s op) done)

/-- A crash in two sequences falls into the first or, once that is done, into the second. -/
theorem Crash.append (crash : Crash apply torn s (first ++ second) after) :
    Crash apply torn s first after ∨ Crash apply torn (run apply s first) second after := by
  induction first generalizing s with
  | nil => exact .inr crash
  | cons op rest ih =>
    cases crash with
    | stopped => exact .inl (.stopped _ _)
    | during part => exact .inl (.during part rest)
    | later beyond => exact (ih beyond).imp .later id

/-- What the operations keep, whole or torn, a crash leaves. -/
theorem Crash.invariant (crash : Crash apply torn s ops after) (start : motive s)
    (whole : ∀ op ∈ ops, ∀ s, motive s → motive (apply s op))
    (parts : ∀ op ∈ ops, ∀ s after, motive s → torn s op after → motive after) : motive after := by
  induction crash with
  | stopped s ops => exact start
  | during part rest => exact parts _ List.mem_cons_self _ _ start part
  | later rest ih =>
    refine ih (whole _ List.mem_cons_self _ start) ?_ ?_
    · exact fun op member => whole op (List.mem_cons_of_mem _ member)
    · exact fun op member => parts op (List.mem_cons_of_mem _ member)

end Kiosk.Library.CrashPoints
