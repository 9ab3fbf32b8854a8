import Kiosk.Library.TransitionSystem

/-! One worker task between two bounded request queues and a result slot. The task
looks at the low queue only when it found the high one empty, and it puts a result
into the slot whether or not the previous one was read. -/
namespace Kiosk.Library.SlotWorker

open TransitionSystem

variable {ρ α ε : Type}

inductive Tier where
  | high | low
  deriving DecidableEq, Repr

/-- A request with the number it was accepted under. The numbers are there for
statements: nothing the worker does depends on them. -/
structure Ticket (ρ : Type) where
  serial : Nat
  request : ρ
  deriving DecidableEq, Repr

/-- A result with the ticket it answers. -/
structure Answer (ρ α : Type) where
  ticket : Ticket ρ
  result : α
  deriving DecidableEq, Repr

/-- Where the task stands in its loop. -/
inductive Phase (ρ α : Type) where
  | top
  | waiting
  | received (ticket : Ticket ρ)
  | executing (ticket : Ticket ρ)
  | executed (answer : Answer ρ α)
  | depositing (answer : Answer ρ α)
  deriving DecidableEq, Repr

structure Worker (ρ α : Type) where
  accepted : Nat := 0
  high : List (Ticket ρ) := []
  low : List (Ticket ρ) := []
  phase : Phase ρ α := .top
  executing : Bool := false
  slot : Option (Answer ρ α) := none

namespace Worker

/-- A send that does not wait: a full queue refuses. -/
def enqueue (depth : Tier → Nat) (w : Worker ρ α) (tier : Tier) (request : ρ) : Worker ρ α × Bool :=
  match tier with
  | .high =>
    if w.high.length < depth .high then
      ({ w with accepted := w.accepted + 1, high := w.high ++ [⟨w.accepted, request⟩] }, true)
    else (w, false)
  | .low =>
    if w.low.length < depth .low then
      ({ w with accepted := w.accepted + 1, low := w.low ++ [⟨w.accepted, request⟩] }, true)
    else (w, false)

/-- Reading empties the slot. -/
def poll (w : Worker ρ α) : Worker ρ α × Option (Answer ρ α) := ({ w with slot := none }, w.slot)

/-- One step of the task. `env` is what the outside does to an execution. -/
def tick (execute : ε → ρ → α) (w : Worker ρ α) (env : ε) : Worker ρ α :=
  match w.phase with
  | .top =>
    match w.high with
    | ticket :: rest => { w with high := rest, phase := .received ticket }
    | [] => { w with phase := .waiting }
  | .waiting =>
    match w.low with
    | ticket :: rest => { w with low := rest, phase := .received ticket }
    | [] => { w with phase := .top }
  | .received ticket => { w with executing := true, phase := .executing ticket }
  | .executing ticket => { w with phase := .executed ⟨ticket, execute env ticket.request⟩ }
  | .executed answer => { w with executing := false, phase := .depositing answer }
  | .depositing answer => { w with slot := some answer, phase := .top }

def advance (execute : ε → ρ → α) (w : Worker ρ α) (envs : List ε) : Worker ρ α :=
  run (tick execute) w envs

/-- The deposit the next step of the task makes, if it makes one. -/
def deposit (w : Worker ρ α) : Option (Answer ρ α) :=
  match w.phase with
  | .depositing answer => some answer
  | _ => none

end Worker

namespace Phase

/-- The ticket in the hands of the task. -/
def ticket : Phase ρ α → Option (Ticket ρ)
  | .top => none
  | .waiting => none
  | .received ticket => some ticket
  | .executing ticket => some ticket
  | .executed answer => some answer.ticket
  | .depositing answer => some answer.ticket

/-- The result in the hands of the task. -/
def answer : Phase ρ α → Option (Answer ρ α)
  | .executed answer => some answer
  | .depositing answer => some answer
  | _ => none

end Phase

namespace Worker

/-- Accepted, and its result not deposited. -/
def unfinished (w : Worker ρ α) : List (Ticket ρ) := w.high ++ w.low ++ w.phase.ticket.toList

/-- Accepted, and its result not read. -/
def outstanding (w : Worker ρ α) : List (Ticket ρ) :=
  w.unfinished ++ (w.slot.map Answer.ticket).toList

/-- Results on their way to the reader. -/
def answers (w : Worker ρ α) : List (Answer ρ α) := w.phase.answer.toList ++ w.slot.toList

theorem enqueue_unfinished (depth : Tier → Nat) (w : Worker ρ α) (tier : Tier) (request : ρ) :
    ((w.enqueue depth tier request).1.unfinished).Perm
      (if (w.enqueue depth tier request).2 then w.unfinished ++ [⟨w.accepted, request⟩]
        else w.unfinished) := by
  cases tier with
  | high =>
    simp only [enqueue]
    split
    · simp only [unfinished, ↓reduceIte, List.append_assoc]
      exact (@List.perm_append_comm _ [_] _).append_left _ |>.trans (by simp)
    · simp
  | low =>
    simp only [enqueue]
    split
    · simp only [unfinished, ↓reduceIte, List.append_assoc]
      exact ((@List.perm_append_comm _ [_] _).append_left _).append_left _
    · simp

theorem enqueue_slot (depth : Tier → Nat) (w : Worker ρ α) (tier : Tier) (request : ρ) :
    (w.enqueue depth tier request).1.slot = w.slot ∧
      (w.enqueue depth tier request).1.phase = w.phase := by
  cases tier <;> (simp only [enqueue]; split <;> exact ⟨rfl, rfl⟩)

theorem enqueue_accepted (depth : Tier → Nat) (w : Worker ρ α) (tier : Tier) (request : ρ) :
    (w.enqueue depth tier request).1.accepted =
      if (w.enqueue depth tier request).2 then w.accepted + 1 else w.accepted := by
  cases tier <;> (simp only [enqueue]; split <;> rfl)

theorem enqueue_outstanding (depth : Tier → Nat) (w : Worker ρ α) (tier : Tier) (request : ρ) :
    ((w.enqueue depth tier request).1.outstanding).Perm
      (if (w.enqueue depth tier request).2 then w.outstanding ++ [⟨w.accepted, request⟩]
        else w.outstanding) := by
  have more := enqueue_unfinished depth w tier request
  rw [outstanding, (enqueue_slot depth w tier request).1, outstanding]
  cases taken : (w.enqueue depth tier request).2 with
  | false =>
    simp only [taken, Bool.false_eq_true, ↓reduceIte] at more ⊢
    exact more.append_right _
  | true =>
    simp only [taken, ↓reduceIte] at more ⊢
    refine (more.append_right _).trans ?_
    rw [List.append_assoc, List.append_assoc]
    exact List.perm_append_comm.append_left _

theorem enqueue_answers (depth : Tier → Nat) (w : Worker ρ α) (tier : Tier) (request : ρ) :
    (w.enqueue depth tier request).1.answers = w.answers := by
  obtain ⟨slot, phase⟩ := enqueue_slot depth w tier request
  rw [answers, answers, slot, phase]

/-- What the reader takes out of the slot. -/
theorem poll_outstanding (w : Worker ρ α) :
    w.outstanding = w.poll.1.outstanding ++ (w.slot.map Answer.ticket).toList := by
  simp [outstanding, poll, unfinished]

variable (execute : ε → ρ → α)

/-- A step of the task finishes the request whose result it deposits, and no other. -/
theorem tick_unfinished (w : Worker ρ α) (env : ε) :
    (w.unfinished).Perm
      ((w.tick execute env).unfinished ++ (w.deposit.map Answer.ticket).toList) := by
  unfold tick deposit unfinished
  cases phase : w.phase with
  | top =>
    cases high : w.high with
    | nil => simp [Phase.ticket]
    | cons ticket rest =>
      simp only [Phase.ticket, Option.toList_none, Option.toList_some, Option.map_none,
        List.append_nil, List.cons_append]
      exact (@List.perm_append_comm _ [ticket] _).trans (by simp)
  | waiting =>
    cases low : w.low with
    | nil => simp [Phase.ticket]
    | cons ticket rest =>
      simp only [Phase.ticket, Option.toList_none, Option.toList_some, Option.map_none,
        List.append_nil]
      rw [List.append_assoc]
      exact (@List.perm_append_comm _ [ticket] _).append_left _
  | received ticket => simp [Phase.ticket]
  | executing ticket => simp [Phase.ticket]
  | executed answer => simp [Phase.ticket]
  | depositing answer => simp [Phase.ticket]

theorem tick_slot (w : Worker ρ α) (env : ε) :
    (w.tick execute env).slot = w.deposit.or w.slot ∧
      (w.tick execute env).accepted = w.accepted := by
  unfold tick deposit
  cases phase : w.phase with
  | top => cases high : w.high <;> exact ⟨rfl, rfl⟩
  | waiting => cases low : w.low <;> exact ⟨rfl, rfl⟩
  | received ticket => exact ⟨rfl, rfl⟩
  | executing ticket => exact ⟨rfl, rfl⟩
  | executed answer => exact ⟨rfl, rfl⟩
  | depositing answer => exact ⟨rfl, rfl⟩

/-- No step of the task makes a request outstanding. -/
theorem tick_outstanding (w : Worker ρ α) (env : ε) :
    ((w.tick execute env).outstanding).Subperm w.outstanding := by
  have finished := tick_unfinished execute w env
  refine List.Subperm.trans ?_
    (finished.symm.append_right (w.slot.map Answer.ticket).toList).subperm
  rw [outstanding, (tick_slot execute w env).1, List.append_assoc]
  refine List.Sublist.subperm ((List.append_sublist_append_left _).mpr ?_)
  cases w.deposit with
  | none => simp
  | some answer => simp

theorem advance_outstanding (w : Worker ρ α) (envs : List ε) :
    ((w.advance execute envs).outstanding).Subperm w.outstanding ∧
      (w.advance execute envs).accepted = w.accepted := by
  induction envs generalizing w with
  | nil => exact ⟨.refl _, rfl⟩
  | cons env rest ih =>
    obtain ⟨fewer, accepted⟩ := ih (w.tick execute env)
    exact ⟨fewer.trans (tick_outstanding execute w env), accepted.trans (tick_slot execute w env).2⟩

/-- A result after a step of the task was there before or is one of the execution. -/
theorem tick_answers {motive : Answer ρ α → Prop} (w : Worker ρ α) (env : ε)
    (before : ∀ answer ∈ w.answers, motive answer) (executed : ∀ ticket,
      w.phase = .executing ticket → motive ⟨ticket, execute env ticket.request⟩) :
    ∀ answer ∈ (w.tick execute env).answers, motive answer := by
  intro answer member
  rw [answers, List.mem_append, Option.mem_toList, Option.mem_toList] at member
  have old :
      ∀ answer, answer ∈ w.phase.answer ∨ answer ∈ w.slot → motive answer := fun answer inside =>
    before answer (by simpa [answers] using inside)
  unfold tick at member
  cases phase : w.phase with
  | top => cases high : w.high <;> simp_all [Phase.answer]
  | waiting => cases low : w.low <;> simp_all [Phase.answer]
  | received ticket => simp_all [Phase.answer]
  | executing ticket =>
    simp only [phase, Phase.answer, Option.some.injEq] at member
    rcases member with rfl | inside
    · exact executed ticket phase
    · exact old answer (.inr inside)
  | executed done => simp_all [Phase.answer]
  | depositing done => simp_all [Phase.answer]

/-- The same over a run whose executions meet a condition on what is executed. -/
theorem advance_answers_along {motive : Answer ρ α → Prop} {allowed : Worker ρ α → ε → Prop}
    {w : Worker ρ α} {envs : List ε}
    (along : Along (tick execute) allowed w envs) (before : ∀ answer ∈ w.answers, motive answer)
    (executed : ∀ (w : Worker ρ α) env ticket, allowed w env → w.phase = .executing ticket →
      motive ⟨ticket, execute env ticket.request⟩) :
    ∀ answer ∈ (w.advance execute envs).answers, motive answer :=
  along.invariant (motive := fun w => ∀ answer ∈ w.answers, motive answer) before
    fun w env before allowed => tick_answers execute w env before fun ticket =>
      executed w env ticket allowed

theorem advance_answers {motive : Answer ρ α → Prop} (w : Worker ρ α) (envs : List ε)
    (before : ∀ answer ∈ w.answers, motive answer)
    (executed : ∀ env ∈ envs, ∀ ticket, motive ⟨ticket, execute env ticket.request⟩) :
    ∀ answer ∈ (w.advance execute envs).answers, motive answer := by
  have among : Along (tick execute) (fun _ env => env ∈ envs) w envs :=
    .of_mem (fun env member _ => member) w
  exact advance_answers_along execute among before fun _ env ticket member _ =>
    executed env member ticket

end Worker

/-! What an observer sees. -/

inductive Op (ρ ε : Type) where
  | enqueue (tier : Tier) (request : ρ)
  | tick (env : ε)
  | poll

structure Trace (ρ α : Type) where
  worker : Worker ρ α := {}
  accepted : List (Ticket ρ) := []
  completed : List (Answer ρ α) := []
  returned : List (Answer ρ α) := []

namespace Trace

variable (depth : Tier → Nat) (execute : ε → ρ → α)

def step (trace : Trace ρ α) : Op ρ ε → Trace ρ α
  | .enqueue tier request =>
    let result := trace.worker.enqueue depth tier request
    { trace with
      worker := result.1
      accepted :=
        if result.2 then trace.accepted ++ [⟨trace.worker.accepted, request⟩] else trace.accepted }
  | .tick env =>
    { trace with
      worker := trace.worker.tick execute env
      completed := trace.completed ++ trace.worker.deposit.toList }
  | .poll =>
    { trace with
      worker := trace.worker.poll.1, returned := trace.returned ++ trace.worker.poll.2.toList }

/-- The results that were read or can still be. -/
def held (trace : Trace ρ α) : List (Answer ρ α) := trace.returned ++ trace.worker.slot.toList

/-- A deposit finds the slot empty. -/
def SlotFree (trace : Trace ρ α) : Op ρ ε → Prop
  | .tick _ => trace.worker.deposit = none ∨ trace.worker.slot = none
  | _ => True

instance (trace : Trace ρ α) (op : Op ρ ε) : Decidable (trace.SlotFree op) := by
  cases op <;> (simp only [SlotFree]; infer_instance)

/-- Every accepted request is completed or unfinished, under a number of its own. -/
structure Accounted (trace : Trace ρ α) : Prop where
  all : trace.accepted.Perm (trace.completed.map Answer.ticket ++ trace.worker.unfinished)
  serials : trace.accepted.map Ticket.serial = List.range trace.worker.accepted

variable {trace : Trace ρ α}

theorem accounted_start : Accounted (ρ := ρ) (α := α) {} := ⟨.nil, rfl⟩

theorem Accounted.step (accounted : Accounted trace) (op : Op ρ ε) :
    Accounted (trace.step depth execute op) := by
  cases op with
  | enqueue tier request =>
    have more := Worker.enqueue_unfinished depth trace.worker tier request
    have counted := Worker.enqueue_accepted depth trace.worker tier request
    simp only [Trace.step]
    cases taken : (trace.worker.enqueue depth tier request).2 with
    | false =>
      simp only [taken, Bool.false_eq_true, ↓reduceIte] at more counted ⊢
      exact ⟨accounted.all.trans (more.symm.append_left _),
        by rw [counted]; exact accounted.serials⟩
    | true =>
      simp only [taken, ↓reduceIte] at more counted ⊢
      refine ⟨?_, ?_⟩
      · refine (accounted.all.append_right _).trans ?_
        rw [List.append_assoc]
        exact more.symm.append_left _
      · rw [List.map_append, accounted.serials, counted, List.range_succ]
        rfl
  | tick env =>
    refine ⟨?_, ?_⟩
    · refine accounted.all.trans
        (((Worker.tick_unfinished execute trace.worker env).append_left _).trans ?_)
      simp only [Trace.step, List.map_append, List.append_assoc]
      refine .append_left _ (List.perm_append_comm.trans ?_)
      cases trace.worker.deposit <;> simp
    · simpa [Trace.step, (Worker.tick_slot execute trace.worker env).2] using accounted.serials
  | poll => exact ⟨accounted.all, accounted.serials⟩

theorem Accounted.run (accounted : Accounted trace) (ops : List (Op ρ ε)) :
    Accounted (TransitionSystem.run (Trace.step depth execute) trace ops) := by
  induction ops generalizing trace with
  | nil => exact accounted
  | cons op rest ih => exact ih (accounted.step depth execute op)

theorem Accounted.nodup (accounted : Accounted trace) :
    (trace.completed.map fun answer => answer.ticket.serial).Nodup := by
  have distinct : (trace.accepted.map Ticket.serial).Nodup := by
    rw [accounted.serials]
    exact List.nodup_range
  have all := (accounted.all.map Ticket.serial).nodup_iff.mp distinct
  rw [List.map_append, List.map_map] at all
  exact all.of_append_left

/-- A step that finds the slot free adds the same results to the completed and the
held ones. -/
theorem held_step_free (op : Op ρ ε) (free : trace.SlotFree op) :
    ∃ more, (trace.step depth execute op).completed = trace.completed ++ more ∧
      (trace.step depth execute op).held = trace.held ++ more := by
  cases op with
  | enqueue tier request =>
    exact ⟨[], by simp [Trace.step], by simp [Trace.step, held, Worker.enqueue_slot]⟩
  | poll => exact ⟨[], by simp [Trace.step], by simp [Trace.step, held, Worker.poll]⟩
  | tick env =>
    refine ⟨trace.worker.deposit.toList, rfl, ?_⟩
    rw [held, Trace.step, (Worker.tick_slot execute trace.worker env).1, held]
    rcases free with nothing | empty
    · simp [nothing]
    · simp [empty]

/-- A deposit into a full slot replaces the result that was there. -/
theorem held_step_full (op : Op ρ ε) (full : ¬ trace.SlotFree op) :
    (trace.step depth execute op).completed.length = trace.completed.length + 1 ∧
      (trace.step depth execute op).held.length = trace.held.length := by
  cases op with
  | enqueue tier request => exact absurd trivial full
  | poll => exact absurd trivial full
  | tick env =>
    simp only [SlotFree, not_or] at full
    obtain ⟨answer, deposited⟩ := Option.ne_none_iff_exists'.mp full.1
    obtain ⟨unread, waiting⟩ := Option.ne_none_iff_exists'.mp full.2
    simp [Trace.step, held, (Worker.tick_slot execute trace.worker env).1, deposited, waiting]

/-- While every deposit finds the slot empty, every completed result is held. -/
theorem held_of_slotFree (along : Along (step depth execute) SlotFree trace ops)
    (start : trace.held = trace.completed) :
    (run (step depth execute) trace ops).held = (run (step depth execute) trace ops).completed := by
  refine along.invariant (motive := fun trace => trace.held = trace.completed) start fun trace op
    same free => ?_
  obtain ⟨more, completed, held⟩ := held_step_free depth execute op free
  rw [completed, held, same]

theorem held_le (op : Op ρ ε) (le : trace.held.length ≤ trace.completed.length) :
    (trace.step depth execute op).held.length ≤ (trace.step depth execute op).completed.length ∧
      (trace.held.length < trace.completed.length ∨ ¬ trace.SlotFree op →
        (trace.step depth execute op).held.length <
          (trace.step depth execute op).completed.length) := by
  by_cases free : trace.SlotFree op
  · obtain ⟨more, completed, held⟩ := held_step_free depth execute op free
    rw [completed, held, List.length_append, List.length_append]
    refine ⟨by omega, fun short => ?_⟩
    rcases short with short | full
    · omega
    · exact absurd free full
  · have replaced := held_step_full depth execute op free
    omega

theorem held_length_le (ops : List (Op ρ ε)) (le : trace.held.length ≤ trace.completed.length) :
    (run (step depth execute) trace ops).held.length ≤
      (run (step depth execute) trace ops).completed.length := by
  induction ops generalizing trace with
  | nil => exact le
  | cons op rest ih => exact ih (held_le depth execute op le).1

/-- A result that found the slot full is missing for good. -/
theorem slotFree_of_held (ops : List (Op ρ ε)) (le : trace.held.length ≤ trace.completed.length)
    (same : (run (step depth execute) trace ops).held.length =
      (run (step depth execute) trace ops).completed.length) :
    trace.held.length = trace.completed.length ∧ Along (step depth execute) SlotFree trace ops := by
  induction ops generalizing trace with
  | nil => exact ⟨same, trivial⟩
  | cons op rest ih =>
    obtain ⟨later, short⟩ := held_le depth execute op le
    obtain ⟨equal, along⟩ := ih later same
    refine ⟨?_, ?_, along⟩
    · by_contra missing
      have := short (.inl (by omega))
      omega
    · by_contra full
      have := short (.inr full)
      omega

end Trace

end Kiosk.Library.SlotWorker
