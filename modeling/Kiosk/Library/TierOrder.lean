import Kiosk.Library.SlotWorker

/-! The order in which a worker starts the requests of its two tiers. Within a tier it
is the order of acceptance, always. A low request is started past a high one exactly
when the wait on the low queue ends with requests in both. -/
namespace Kiosk.Library.SlotWorker

open TransitionSystem

variable {ρ α ε : Type}

def Tier.other : Tier → Tier
  | .high => .low
  | .low => .high

/-- The tickets of one tier. -/
def ofTier (tier : Tier) (entries : List (Tier × Ticket ρ)) : List (Ticket ρ) :=
  (entries.filter fun entry => entry.1 = tier).map Prod.snd

@[simp] theorem ofTier_append (tier : Tier) (first second : List (Tier × Ticket ρ)) :
    ofTier tier (first ++ second) = ofTier tier first ++ ofTier tier second := by
  simp [ofTier]

@[simp] theorem ofTier_nil (tier : Tier) : ofTier tier ([] : List (Tier × Ticket ρ)) = [] := rfl

@[simp] theorem ofTier_singleton (tier : Tier) (entry : Tier × Ticket ρ) :
    ofTier tier [entry] = if entry.1 = tier then [entry.2] else [] := by
  by_cases same : entry.1 = tier <;> simp [ofTier, same]

namespace Phase

/-- The request in the hands of the task, while it was not executed. -/
def unexecuted : Phase ρ α → Option (Ticket ρ)
  | .received ticket => some ticket
  | .executing ticket => some ticket
  | _ => none

end Phase

namespace Worker

def queue (w : Worker ρ α) : Tier → List (Ticket ρ)
  | .high => w.high
  | .low => w.low

/-- The request the next step of the task takes off a queue. -/
def starts (w : Worker ρ α) : Option (Tier × Ticket ρ) :=
  match w.phase with
  | .top => w.high.head?.map (Tier.high, ·)
  | .waiting => w.low.head?.map (Tier.low, ·)
  | _ => none

/-- The request the next step of the task executes. -/
def executes (w : Worker ρ α) : Option (Ticket ρ) :=
  match w.phase with
  | .executing ticket => some ticket
  | _ => none

/-- The next step of the task starts a low request while a high one is queued. -/
def Overtakes (w : Worker ρ α) : Prop := (∃ ticket, w.starts = some (.low, ticket)) ∧ w.high ≠ []

/-- No request is accepted during the wait on the low queue beside one of the other tier. -/
def Unmixed (depth : Tier → Nat) (w : Worker ρ α) : Op ρ ε → Prop
  | .enqueue tier _ =>
    match w.phase with
    | .waiting => (w.queue tier).length < depth tier → w.queue tier.other = []
    | _ => True
  | _ => True

instance (depth : Tier → Nat) [DecidableEq ρ] :
    (w : Worker ρ α) → (op : Op ρ ε) → Decidable (w.Unmixed depth op)
  | ⟨_, high, low, .waiting, _, _⟩, .enqueue .high _ =>
    inferInstanceAs (Decidable (high.length < depth .high → low = []))
  | ⟨_, high, low, .waiting, _, _⟩, .enqueue .low _ =>
    inferInstanceAs (Decidable (low.length < depth .low → high = []))
  | ⟨_, _, _, .top, _, _⟩, .enqueue _ _ | ⟨_, _, _, .received _, _, _⟩, .enqueue _ _
  | ⟨_, _, _, .executing _, _, _⟩, .enqueue _ _ | ⟨_, _, _, .executed _, _, _⟩, .enqueue _ _
  | ⟨_, _, _, .depositing _, _, _⟩, .enqueue _ _ => inferInstanceAs (Decidable True)
  | _, .tick _ | _, .poll => inferInstanceAs (Decidable True)

theorem overtakes_iff (w : Worker ρ α) :
    w.Overtakes ↔ w.phase = .waiting ∧ w.low ≠ [] ∧ w.high ≠ [] := by
  unfold Overtakes starts
  cases phase : w.phase with
  | waiting => cases w.low <;> simp
  | top => cases w.high <;> simp
  | received ticket => simp
  | executing ticket => simp
  | executed answer => simp
  | depositing answer => simp

theorem queue_enqueue (depth : Tier → Nat) (w : Worker ρ α) (tier other : Tier) (request : ρ) :
    (w.enqueue depth tier request).1.queue other =
      if other = tier ∧ (w.queue tier).length < depth tier
        then w.queue other ++ [⟨w.accepted, request⟩]
      else w.queue other := by
  cases tier <;> cases other <;> (simp only [enqueue, queue]; split <;> simp_all)

theorem enqueue_taken (depth : Tier → Nat) (w : Worker ρ α) (tier : Tier) (request : ρ) :
    (w.enqueue depth tier request).2 = decide ((w.queue tier).length < depth tier) := by
  cases tier <;> (simp only [enqueue, queue]; split <;> simp_all only [decide_true, decide_false])

theorem enqueue_phase (depth : Tier → Nat) (w : Worker ρ α) (tier : Tier) (request : ρ) :
    (w.enqueue depth tier request).1.phase = w.phase := (enqueue_slot depth w tier request).2

/-- A step of the task takes what it starts off its queue, and nothing else. -/
theorem queue_tick (execute : ε → ρ → α) (w : Worker ρ α) (env : ε) (tier : Tier) :
    w.queue tier = ofTier tier w.starts.toList ++ (w.tick execute env).queue tier := by
  unfold tick starts
  cases phase : w.phase with
  | top => cases high : w.high <;> cases tier <;> simp [queue, high]
  | waiting => cases low : w.low <;> cases tier <;> simp [queue, low]
  | received ticket => rfl
  | executing ticket => rfl
  | executed answer => rfl
  | depositing answer => rfl

/-- A request is in hand from its start to its execution. -/
theorem unexecuted_tick (execute : ε → ρ → α) (w : Worker ρ α) (env : ε) :
    w.executes.toList ++ (w.tick execute env).phase.unexecuted.toList =
      w.phase.unexecuted.toList ++ (w.starts.map Prod.snd).toList := by
  unfold tick starts executes
  cases phase : w.phase with
  | top => cases high : w.high <;> simp [Phase.unexecuted]
  | waiting => cases low : w.low <;> simp [Phase.unexecuted]
  | received ticket => rfl
  | executing ticket => rfl
  | executed answer => rfl
  | depositing answer => rfl

end Worker

/-- What was accepted, started and executed, in that order of time. -/
structure OrderTrace (ρ α : Type) where
  worker : Worker ρ α := {}
  accepted : List (Tier × Ticket ρ) := []
  started : List (Tier × Ticket ρ) := []
  executed : List (Ticket ρ) := []

namespace OrderTrace

variable (depth : Tier → Nat) (execute : ε → ρ → α)

def step (trace : OrderTrace ρ α) : Op ρ ε → OrderTrace ρ α
  | .enqueue tier request =>
    let result := trace.worker.enqueue depth tier request
    { trace with
      worker := result.1
      accepted := if result.2 then trace.accepted ++ [(tier, ⟨trace.worker.accepted, request⟩)]
        else trace.accepted }
  | .tick env =>
    { trace with
      worker := trace.worker.tick execute env
      started := trace.started ++ trace.worker.starts.toList
      executed := trace.executed ++ trace.worker.executes.toList }
  | .poll => { trace with worker := trace.worker.poll.1 }

/-- Every accepted request is queued or was started, in the order of its tier, and
executed once at most. -/
structure Ordered (trace : OrderTrace ρ α) : Prop where
  fifo : ∀ tier, ofTier tier trace.accepted = ofTier tier trace.started ++ trace.worker.queue tier
  inTurn : trace.started.map Prod.snd = trace.executed ++ trace.worker.phase.unexecuted.toList
  serials : trace.accepted.map (fun entry => entry.2.serial) = List.range trace.worker.accepted

variable {trace : OrderTrace ρ α}

theorem ordered_start : Ordered (ρ := ρ) (α := α) {} where
  fifo := by intro tier; cases tier <;> rfl
  inTurn := rfl
  serials := rfl

theorem Ordered.step (ordered : Ordered trace) (op : Op ρ ε) :
    Ordered (trace.step depth execute op) := by
  cases op with
  | enqueue tier request =>
    have taken := Worker.enqueue_taken depth trace.worker tier request
    have counted := Worker.enqueue_accepted depth trace.worker tier request
    constructor
    · intro other
      simp only [OrderTrace.step, Worker.queue_enqueue, taken]
      by_cases room : (trace.worker.queue tier).length < depth tier
      · by_cases same : other = tier
        · subst other
          simp [room, ordered.fifo tier]
        · have different : ¬ tier = other := fun equal => same equal.symm
          simp [room, same, ordered.fifo other, different]
      · simp [room, ordered.fifo other]
    · simp only [OrderTrace.step, Worker.enqueue_phase]
      exact ordered.inTurn
    · simp only [OrderTrace.step]
      rw [counted]
      split
      · rw [List.map_append, ordered.serials, List.range_succ]
        rfl
      · exact ordered.serials
  | tick env =>
    constructor
    · intro tier
      simp only [OrderTrace.step, ofTier_append, List.append_assoc]
      rw [← Worker.queue_tick]
      exact ordered.fifo tier
    · simp only [OrderTrace.step, List.map_append, List.append_assoc]
      rw [Worker.unexecuted_tick, ← List.append_assoc, ← ordered.inTurn]
      cases trace.worker.starts <;> rfl
    · simp only [OrderTrace.step, (Worker.tick_slot execute trace.worker env).2]
      exact ordered.serials
  | poll => exact ⟨ordered.fifo, ordered.inTurn, ordered.serials⟩

theorem Ordered.run (ordered : Ordered trace) (ops : List (Op ρ ε)) :
    Ordered (TransitionSystem.run (OrderTrace.step depth execute) trace ops) := by
  induction ops generalizing trace with
  | nil => exact ordered
  | cons op rest ih => exact ih (ordered.step depth execute op)

/-- Accepted, and neither executed nor dropped: in hand or in a queue. -/
def waiting (trace : OrderTrace ρ α) : List (Ticket ρ) :=
  trace.worker.phase.unexecuted.toList ++ trace.worker.high ++ trace.worker.low

private theorem tiers_perm (entries : List (Tier × Ticket ρ)) :
    (entries.map Prod.snd).Perm (ofTier .high entries ++ ofTier .low entries) := by
  have others : (entries.filter fun entry => !decide (entry.1 = Tier.high)) =
      entries.filter fun entry => entry.1 = Tier.low := by
    refine List.filter_congr fun entry _ => ?_
    cases entry.1 <;> rfl
  have split := (List.filter_append_perm
    (fun entry : Tier × Ticket ρ => decide (entry.1 = Tier.high)) entries).map Prod.snd
  rw [others, List.map_append] at split
  exact split.symm

theorem Ordered.accepted_perm (ordered : Ordered trace) :
    (trace.accepted.map Prod.snd).Perm (trace.executed ++ trace.waiting) := by
  refine (tiers_perm trace.accepted).trans ?_
  rw [ordered.fifo .high, ordered.fifo .low]
  have started : (trace.executed ++ trace.worker.phase.unexecuted.toList).Perm
      (ofTier .high trace.started ++ ofTier .low trace.started) := by
    rw [← ordered.inTurn]
    exact tiers_perm trace.started
  have queues : (ofTier .high trace.started ++ trace.worker.high ++
    (ofTier .low trace.started ++ trace.worker.low)).Perm
      (ofTier .high trace.started ++ ofTier .low trace.started ++
        (trace.worker.high ++ trace.worker.low)) := by
    rw [List.append_assoc, List.append_assoc]
    refine .append_left _ ?_
    rw [← List.append_assoc, ← List.append_assoc]
    exact List.perm_append_comm.append_right _
  refine queues.trans ((started.symm.append_right _).trans ?_)
  simp only [waiting, List.append_assoc]
  exact .refl _

theorem Ordered.executed_nodup (ordered : Ordered trace) :
    (trace.executed.map Ticket.serial).Nodup := by
  have distinct : ((trace.accepted.map Prod.snd).map Ticket.serial).Nodup := by
    rw [List.map_map]
    exact ordered.serials ▸ List.nodup_range
  have all := (ordered.accepted_perm.map Ticket.serial).nodup_iff.mp distinct
  rw [List.map_append] at all
  exact all.of_append_left

/-- The executions of a tier are the first of its acceptances. -/
theorem Ordered.executed_in_order (ordered : Ordered trace) :
    ∃ entries, trace.executed = entries.map Prod.snd ∧
      ∀ tier, ofTier tier entries <+: ofTier tier trace.accepted := by
  refine ⟨trace.started.take trace.executed.length, ?_, fun tier => ?_⟩
  · rw [List.map_take, ordered.inTurn, List.take_left]
  · rw [ordered.fifo tier]
    refine List.IsPrefix.trans ?_ (List.prefix_append _ _)
    exact ((List.take_prefix _ _).filter _).map _

/-! When the worker goes past a high request. -/

private theorem unmixed_step (op : Op ρ ε) (calm : ¬ trace.worker.Overtakes)
    (unmixed : trace.worker.Unmixed depth op) :
    ¬ (trace.step depth execute op).worker.Overtakes := by
  rw [Worker.overtakes_iff] at calm ⊢
  cases op with
  | enqueue tier request =>
    have low := Worker.queue_enqueue depth trace.worker tier .low request
    have high := Worker.queue_enqueue depth trace.worker tier .high request
    simp only [OrderTrace.step, Worker.enqueue_phase]
    rintro ⟨waits, someLow, someHigh⟩
    simp only [Worker.Unmixed, waits] at unmixed
    by_cases room : (trace.worker.queue tier).length < depth tier
    · have empty := unmixed room
      cases tier with
      | high => exact someLow (by simpa [Worker.queue] using low.trans empty)
      | low => exact someHigh (by simpa [Worker.queue] using high.trans empty)
    · have lowSame := low.trans (if_neg fun both => room both.2)
      have highSame := high.trans (if_neg fun both => room both.2)
      exact calm ⟨waits, fun none => someLow (lowSame.trans none),
        fun none => someHigh (highSame.trans none)⟩
  | tick env =>
    simp only [OrderTrace.step, Worker.tick]
    rintro ⟨waits, someLow, someHigh⟩
    cases phase : trace.worker.phase with
    | top => cases queued : trace.worker.high <;> simp_all
    | waiting => cases queued : trace.worker.low <;> simp_all
    | received ticket => simp_all
    | executing ticket => simp_all
    | executed answer => simp_all
    | depositing answer => simp_all
  | poll => exact calm

private theorem mixed_step (op : Op ρ ε) (mixed : ¬ trace.worker.Unmixed depth op) :
    (trace.step depth execute op).worker.Overtakes := by
  rw [Worker.overtakes_iff]
  cases op with
  | enqueue tier request =>
    have low := Worker.queue_enqueue depth trace.worker tier .low request
    have high := Worker.queue_enqueue depth trace.worker tier .high request
    simp only [OrderTrace.step, Worker.enqueue_phase]
    cases phase : trace.worker.phase with
    | waiting =>
      simp only [Worker.Unmixed, phase, Classical.not_imp] at mixed
      obtain ⟨room, other⟩ := mixed
      cases tier with
      | high => simp_all [Worker.queue, Tier.other]
      | low => simp_all [Worker.queue, Tier.other]
    | top => simp [Worker.Unmixed, phase] at mixed
    | received ticket => simp [Worker.Unmixed, phase] at mixed
    | executing ticket => simp [Worker.Unmixed, phase] at mixed
    | executed answer => simp [Worker.Unmixed, phase] at mixed
    | depositing answer => simp [Worker.Unmixed, phase] at mixed
  | tick env => exact absurd trivial mixed
  | poll => exact absurd trivial mixed

/-- No state of a run is about to start a low request past a high one if and only if
nothing is accepted during a wait beside a request of the other tier. -/
theorem never_overtakes_iff (calm : ¬ trace.worker.Overtakes) (ops : List (Op ρ ε)) :
    (∀ front, front <+: ops → ¬ (run (step depth execute) trace front).worker.Overtakes) ↔
      Along (step depth execute) (fun trace op => trace.worker.Unmixed depth op) trace ops := by
  induction ops generalizing trace with
  | nil =>
    constructor
    · intro _; trivial
    · intro _ front start
      obtain rfl := List.prefix_nil.mp start
      exact calm
  | cons op rest ih =>
    constructor
    · intro never
      have unmixed : trace.worker.Unmixed depth op := by
        by_contra mixed
        exact never [op] (by simp) (mixed_step depth execute op mixed)
      refine ⟨unmixed, (ih (unmixed_step depth execute op calm unmixed)).mp fun front start => ?_⟩
      exact never (op :: front) (List.cons_prefix_cons.mpr ⟨rfl, start⟩)
    · rintro ⟨unmixed, along⟩ front start
      cases front with
      | nil => exact calm
      | cons first front =>
        obtain ⟨rfl, others⟩ := List.cons_prefix_cons.mp start
        exact (ih (unmixed_step depth execute first calm unmixed)).mpr along front others

end OrderTrace

end Kiosk.Library.SlotWorker
