import Kiosk.Library.TransitionSystem
import Kiosk.Runtime.RuntimeSteps

/-! The local entry of quantities against the snapshots of the server. Only the answer
to an event resets the entry when the projection moves into `QUANTITY_INPUT`, and
every such answer empties the digit buffer. -/
namespace Kiosk.Runtime

open Library Library.KeySearch Library.TransitionSystem Protocol Network Storage

namespace KioskRuntime

/-- Which way a snapshot moves the projection into `QUANTITY_INPUT`. -/
theorem enters_iff (projection : StateProjection) (snapshot : StateSnapshot) :
    enters projection snapshot = true ↔
      projection.current.map StateSnapshot.state ≠ some .quantityInput ∧
        (projection.apply snapshot).1.current.map StateSnapshot.state = some .quantityInput := by
  cases took : StateProjection.taken (projection.apply snapshot).2 with
  | true => simp [enters, took, StateProjection.apply_taken took, and_comm]
  | false =>
    rw [StateProjection.apply_refused took]
    simp [enters, took]

theorem inEntry_iff (k : KioskRuntime) :
    k.inEntry = true ↔ k.stateProjection.current.map StateSnapshot.state = some .quantityInput := by
  simp [inEntry, currentState]

theorem entryKey_inEntry {k : KioskRuntime} (accepted : k.entryKey input = some key) :
    k.inEntry = true := by
  cases input <;> simp_all [entryKey]

/-- After the snapshot the projection is in `QUANTITY_INPUT`. -/
def staysInEntry (k : KioskRuntime) (snapshot : StateSnapshot) : Bool :=
  (k.stateProjection.apply snapshot).1.current.map StateSnapshot.state = some .quantityInput

section Entry
variable [StdSort]

/-- A step into `QUANTITY_INPUT` leaves a fresh entry. -/
def EntersFresh (k : KioskRuntime) (input : RuntimeStep) : Prop :=
  k.inEntry = false → (k.step input).inEntry = true → (k.step input).flow = {}

omit [StdSort] in
instance {sort : StdSort} (k : KioskRuntime) (input : RuntimeStep) :
    Decidable (k.EntersFresh input) := by
  unfold EntersFresh; infer_instance

/-- What an entry has to look like before it is entered by a snapshot of this source:
the answer to an event resets it, a resync only empties the digit buffer. -/
def StartsFresh (flow : QuantityFlow) : SnapshotSource → Prop
  | .event => True
  | .resync => flow.clearBuffer = {}
  | .bootstrap => flow = {}

instance (flow : QuantityFlow) (source : SnapshotSource) : Decidable (StartsFresh flow source) := by
  cases source <;> (simp only [StartsFresh]; infer_instance)

/-- A snapshot that enters `QUANTITY_INPUT` finds an entry its source leaves fresh. -/
def EntryReset (k : KioskRuntime) (input : RuntimeStep) : Prop :=
  ∀ arrived ∈ k.arriving input, enters k.stateProjection arrived.2 = true →
    StartsFresh k.flow arrived.1

instance (k : KioskRuntime) (input : RuntimeStep) : Decidable (k.EntryReset input) := by
  unfold EntryReset; infer_instance

/-- A snapshot that comes in the middle of an entry and touches it finds no digits in
the buffer. -/
def Undisturbed (k : KioskRuntime) (input : RuntimeStep) : Prop :=
  ∀ arrived ∈ k.arriving input, k.inEntry = true → k.staysInEntry arrived.2 = true →
    arrived.1 = .event ∨
      arrived.1 = .resync ∧ StateProjection.taken (k.stateProjection.apply arrived.2).2 = true →
    k.flow.localQtyBuffer = []

instance (k : KioskRuntime) (input : RuntimeStep) : Decidable (k.Undisturbed input) := by
  unfold Undisturbed; infer_instance

omit [StdSort] in
private theorem offered_projection (view : EntryView) (snapshot : StateSnapshot)
    (source : SnapshotSource) :
    (view.offered snapshot source).stateProjection = (view.stateProjection.apply snapshot).1 := by
  cases source <;> rfl

omit [StdSort] in
theorem clearBuffer_eq (flow : QuantityFlow) :
    flow.clearBuffer = flow ↔ flow.localQtyBuffer = [] := by
  cases flow
  simp [QuantityFlow.clearBuffer, eq_comm]

omit [StdSort] in
private theorem offered_fresh (view : EntryView) (snapshot : StateSnapshot)
    (source : SnapshotSource) (entering : enters view.stateProjection snapshot = true) :
    (view.offered snapshot source).flow = {} ↔ StartsFresh view.flow source := by
  have took : StateProjection.taken (view.stateProjection.apply snapshot).2 = true := by
    simp only [enters, Bool.and_eq_true] at entering
    exact entering.1.1
  cases source with
  | event => simp [EntryView.offered, EntryView.answered, entering, StartsFresh]
  | resync => simp [EntryView.offered, took, StartsFresh]
  | bootstrap => simp [EntryView.offered, StartsFresh]

omit [StdSort] in
/-- A snapshot that does not enter and finds no digits leaves the flow as it is. -/
private theorem offered_undisturbed (view : EntryView) (snapshot : StateSnapshot)
    (source : SnapshotSource) (outside : enters view.stateProjection snapshot = false)
    (empty : source = .event ∨
      source = .resync ∧ StateProjection.taken (view.stateProjection.apply snapshot).2 = true →
        view.flow.localQtyBuffer = []) :
    (view.offered snapshot source).flow = view.flow := by
  cases source with
  | event =>
    simpa [EntryView.offered, EntryView.answered, outside] using (clearBuffer_eq _).mpr
      (empty (.inl rfl))
  | resync =>
    cases took : StateProjection.taken (view.stateProjection.apply snapshot).2 with
    | true =>
      simpa [EntryView.offered, took] using (clearBuffer_eq _).mpr (empty (.inr ⟨rfl, took⟩))
    | false => simp [EntryView.offered, took]
  | bootstrap => rfl

/-- A step enters fresh exactly when the entry was fit for the source of the snapshot. -/
theorem entersFresh_iff (k : KioskRuntime) (input : RuntimeStep) :
    k.EntersFresh input ↔ k.EntryReset input := by
  have inside : (k.step input).inEntry = true ↔
      (k.step input).entryView.stateProjection.current.map StateSnapshot.state =
        some .quantityInput :=
    inEntry_iff _
  have outside :
      k.inEntry = false ↔
      k.stateProjection.current.map StateSnapshot.state ≠ some .quantityInput := by
    rw [← Bool.not_eq_true, inEntry_iff]
  have flow : (k.step input).flow = (k.step input).entryView.flow := rfl
  rw [EntersFresh, inside, outside, flow]
  cases k.step_outcome input with
  | offered source snapshot arrived view =>
    have moved := enters_iff k.stateProjection snapshot
    have fresh := offered_fresh k.entryView snapshot source
    rw [view, offered_projection]
    constructor
    · intro all other same entering
      rw [arrived, Option.mem_some_iff] at same
      subst same
      obtain ⟨before, after⟩ := moved.mp entering
      exact (fresh entering).mp (all before after)
    · intro reset before after
      have entering := moved.mpr ⟨before, after⟩
      exact (fresh entering).mpr (reset (source, snapshot) (by rw [arrived]; rfl) entering)
  | pressed key quiet accepted projection _ _ =>
    rw [projection, EntryReset, quiet]
    exact ⟨fun _ _ none => (by cases none), fun _ before after => absurd after before⟩
  | rebooted config restart view =>
    subst restart
    have quiet : k.arriving (.reboot config) = none := rfl
    rw [view, EntryReset, quiet]
    exact ⟨fun _ _ none => (by cases none), fun _ _ after => by simp at after⟩
  | elsewhere quiet _ projection _ _ =>
    rw [projection, EntryReset, quiet]
    exact ⟨fun _ _ none => (by cases none), fun _ before after => absurd after before⟩

omit [StdSort] in
theorem arriving_keyless {k : KioskRuntime} (arrived : k.arriving input = some offer) :
    k.entryKey input = none := by
  cases input <;> simp_all [arriving, entryKey]

/-- In the middle of an entry an undisturbed step with a snapshot keeps the flow. -/
theorem step_undisturbed {k : KioskRuntime} (undisturbed : k.Undisturbed input)
    (arrived : k.arriving input = some (source, snapshot)) (before : k.inEntry = true)
    (after : (k.step input).inEntry = true) : (k.step input).flow = k.flow := by
  have flow : (k.step input).flow = (k.step input).entryView.flow := rfl
  rw [flow]
  cases k.step_outcome input with
  | offered other brought same view =>
    rw [arrived, Option.some.injEq, Prod.mk.injEq] at same
    obtain ⟨rfl, rfl⟩ := same
    have stays : k.staysInEntry snapshot = true := by
      have projection := congrArg EntryView.stateProjection view
      rw [offered_projection] at projection
      rw [staysInEntry, decide_eq_true_iff]
      exact projection ▸ (inEntry_iff _).mp after
    have outside : enters k.stateProjection snapshot = false := by
      rw [← Bool.not_eq_true, enters_iff]
      exact fun entering => entering.1 ((inEntry_iff _).mp before)
    rw [view]
    exact offered_undisturbed k.entryView snapshot source outside
      (undisturbed (source, snapshot) (by rw [arrived]; rfl) before stays)
  | pressed _ quiet _ _ _ _ => rw [quiet] at arrived; cases arrived
  | rebooted config restart _ => subst restart; cases arrived
  | elsewhere quiet _ _ _ _ => rw [quiet] at arrived; cases arrived

/-- The entry after these keys, from a fresh one. -/
def entryAfter (keys : Bytes) : QuantityFlow := keys.foldl (fun flow key => (flow.press key).1) {}

/-- The runtime with the keys that reached the entry since the projection last moved
into `QUANTITY_INPUT`. -/
structure EntryTrace where
  kiosk : KioskRuntime
  keys : Bytes := []

namespace EntryTrace

def step (trace : EntryTrace) (input : RuntimeStep) : EntryTrace where
  kiosk := trace.kiosk.step input
  keys :=
    bif !trace.kiosk.inEntry && (trace.kiosk.step input).inEntry then []
    else trace.keys ++ (trace.kiosk.entryKey input).toList

/-- The event this step creates, if it submits quantities, submits those of the keys. -/
def SubmitsKeys (trace : EntryTrace) (input : RuntimeStep) : Prop :=
  ∀ event, (trace.kiosk.step input).createdEvents = event :: trace.kiosk.createdEvents →
    event.event.type = .quantitySubmitted →
      event.quantityGood = some (entryAfter trace.keys).qtyGood ∧
        event.quantityDefect = some (entryAfter trace.keys).qtyDefect ∧
        event.quantityRework = some (entryAfter trace.keys).qtyRework

/-- The entry is what the keys made of a fresh one. -/
def FromKeys (trace : EntryTrace) : Prop :=
  trace.kiosk.inEntry = true → trace.kiosk.flow = entryAfter trace.keys

private theorem fromKeys_offered {trace : EntryTrace} (fromKeys : trace.FromKeys)
    (fresh : trace.kiosk.EntersFresh input) (undisturbed : trace.kiosk.Undisturbed input)
    (arrived : trace.kiosk.arriving input = some (source, snapshot)) :
    (trace.step input).FromKeys := by
  intro after
  cases before : trace.kiosk.inEntry with
  | false =>
    have entered : (trace.kiosk.step input).inEntry = true := after
    simpa [EntryTrace.step, before, entered, entryAfter] using fresh before entered
  | true =>
    simp only [EntryTrace.step, before, arriving_keyless arrived, Bool.not_true, Bool.false_and,
      cond_false, Option.toList_none, List.append_nil]
    rw [step_undisturbed undisturbed arrived before after]
    exact fromKeys before

/-- A step that enters fresh and is undisturbed keeps the entry a matter of its keys. -/
theorem FromKeys.step {trace : EntryTrace} (fromKeys : trace.FromKeys)
    (reset : trace.kiosk.EntryReset input)
    (undisturbed : trace.kiosk.Undisturbed input) : (trace.step input).FromKeys := by
  have fresh := (entersFresh_iff trace.kiosk input).mpr reset
  have inside : (trace.kiosk.step input).inEntry = true →
      (trace.kiosk.step input).entryView.stateProjection = trace.kiosk.stateProjection →
      trace.kiosk.inEntry = true :=
        fun after same => (inEntry_iff _).mpr (same ▸ (inEntry_iff _).mp after)
  cases trace.kiosk.step_outcome input with
  | offered source snapshot arrived _ => exact fromKeys_offered fromKeys fresh undisturbed arrived
  | pressed key _ accepted _ flow _ =>
    intro _
    have before := entryKey_inEntry accepted
    have pressed : (trace.kiosk.step input).flow = (trace.kiosk.flow.press key).1 := flow
    simp [EntryTrace.step, before, accepted, pressed, fromKeys before, entryAfter]
  | rebooted _ _ view =>
    intro after
    have projection := (inEntry_iff (trace.kiosk.step input)).mp after
    rw [show (trace.kiosk.step input).stateProjection =
      {} from congrArg EntryView.stateProjection view] at projection
    cases projection
  | elsewhere _ keyless projection flow _ =>
    intro after
    have before := inside after projection
    have kept : (trace.kiosk.step input).flow = trace.kiosk.flow := flow
    simp [EntryTrace.step, before, keyless, kept, fromKeys before]

theorem FromKeys.submits {trace : EntryTrace} (fromKeys : trace.FromKeys) :
    trace.SubmitsKeys input := by
  intro event created submitted
  have grown :
      (trace.kiosk.step input).entryView.createdEvents = event :: trace.kiosk.createdEvents :=
    created
  have fresh : ∀ (same : event :: trace.kiosk.createdEvents = trace.kiosk.createdEvents), False :=
    fun same => by simpa using congrArg List.length same
  cases trace.kiosk.step_outcome input with
  | offered source snapshot _ view =>
    rw [view] at grown
    exact absurd (by cases source <;> exact grown.symm) fresh
  | pressed key _ accepted _ _ submission =>
    rcases submission with same | ⟨other, same, good, defect, rework⟩
    · exact (fresh (grown.symm.trans same)).elim
    · obtain ⟨rfl, _⟩ := List.cons.inj (grown.symm.trans same)
      rw [good, defect, rework, fromKeys (entryKey_inEntry accepted)]
      exact ⟨rfl, rfl, rfl⟩
  | rebooted _ _ view =>
    rw [view] at grown
    exact (fresh grown.symm).elim
  | elsewhere _ _ _ _ none =>
    rcases none with same | ⟨other, same, kind⟩
    · exact (fresh (grown.symm.trans same)).elim
    · obtain ⟨rfl, _⟩ := List.cons.inj (grown.symm.trans same)
      exact absurd submitted kind

/-- Every entry starts fresh exactly when each snapshot that enters finds the flow fit
for its source; if besides no snapshot comes upon digits in the buffer, what is
submitted is a matter of the keys pressed since the entry. -/
theorem submitsKeys_of_entryReset (config : BootConfig) (highWaterMark : UInt64)
    (journal : EventJournal) (inputs : List RuntimeStep) :
    (Along KioskRuntime.step EntersFresh (boot config highWaterMark journal) inputs ↔
      Along KioskRuntime.step EntryReset (boot config highWaterMark journal) inputs) ∧
    (Along KioskRuntime.step (fun k input => k.EntryReset input ∧ k.Undisturbed input)
        (boot config highWaterMark journal) inputs →
      Along step SubmitsKeys { kiosk := boot config highWaterMark journal } inputs) := by
  constructor
  · constructor
    · exact fun along => along.mono fun k input => (entersFresh_iff k input).mp
    · exact fun along => along.mono fun k input => (entersFresh_iff k input).mpr
  · have fromKeys : FromKeys { kiosk := boot config highWaterMark journal } := by
      intro inside
      simp [inEntry, currentState, boot] at inside
    intro along
    have traced :=
      (@along_view _ _ _ _ _ _ step EntryTrace.kiosk { kiosk := boot config highWaterMark journal }
      fun _ _ => rfl).mp along
    exact traced.entails (motive := FromKeys) fromKeys
      (fun trace input fromKeys good => fromKeys.step good.1 good.2)
      fun trace input fromKeys _ => fromKeys.submits

end EntryTrace

end Entry

private def snapshotOf (state : BusinessState) (stateVersion : UInt64) : RuntimeStep :=
  .bootstrapResult {}
    { status := .ok, snapshot := some { state := state, stateVersion := stateVersion } }

/-- The digits and signs of the keypad, one after the other. -/
private def keysDown (keys : String) : List RuntimeStep :=
  (text keys).map fun key => .keyDown {} key

theorem EntryTrace.submitsKeys_five :
    let start := boot { apiEndpoint := text "http://b/events" } 0 (.init {} 65536)
    let inputs := snapshotOf .quantityInput 1 :: keysDown "5#0##"
    Along (@EntryTrace.step .insertion) (@EntryTrace.SubmitsKeys .insertion)
        { kiosk := start } inputs ∧
      (run (@KioskRuntime.step .insertion) start inputs).createdEvents.map KioskEvent.quantityGood =
        [some 5] := by
  intro start inputs
  obtain ⟨reset, created⟩ : Along (@KioskRuntime.step .insertion)
        (fun k input => k.EntryReset input ∧ k.Undisturbed input) start inputs ∧
      (run (@KioskRuntime.step .insertion) start inputs).createdEvents.map KioskEvent.quantityGood =
        [some 5] := by
    decide +kernel
  exact ⟨(@EntryTrace.submitsKeys_of_entryReset .insertion _ _ _ _).2 reset, created⟩

/-- The server leaves the quantity input and comes back to it by bootstrap; the five
entered before is still there. -/
theorem stale_quantity_entered :
    ¬ Along (@step .insertion) (@EntersFresh .insertion) (boot {} 0 {})
      ([snapshotOf .quantityInput 1] ++ keysDown "5#" ++
        [snapshotOf .waitEmployee 2, snapshotOf .quantityInput 3]) := by
  decide +kernel

end KioskRuntime

end Kiosk.Runtime
