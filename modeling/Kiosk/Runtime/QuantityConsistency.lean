import Kiosk.Runtime.DigitBuffer

/-! The relation between the three quantities, kept by every edge of the local entry. -/
namespace Kiosk.Runtime

open Library Library.KeySearch Library.TransitionSystem Protocol Network Storage

/-- A quantity of at most six digits. -/
def InSixDigits (quantity : Int32) : Prop := 0 ≤ quantity.toInt ∧ quantity.toInt ≤ 999999

/-- What a submitted event may say. -/
structure ConsistentQuantities (good defect rework : Int32) : Prop where
  goodRange : InSixDigits good
  defectRange : InSixDigits defect
  reworkWithin : 0 ≤ rework.toInt ∧ rework.toInt ≤ defect.toInt

theorem ConsistentQuantities.no_defect {good defect rework : Int32}
    (consistent : ConsistentQuantities good defect rework) (perfect : defect = 0) : rework = 0 := by
  have bounds := consistent.reworkWithin
  rw [perfect] at bounds
  exact Int32.toInt_inj.mp (le_antisymm bounds.2 bounds.1)

namespace QuantityFlow

/-- The buffer is a number of at most six digits, the quantities fit each other at every
step, and before the summary nothing is to be reworked yet. -/
structure Consistent (flow : QuantityFlow) : Prop where
  digits : ∀ digit ∈ flow.localQtyBuffer, isDigit digit = true
  short : flow.localQtyBuffer.length ≤ inputCap
  quantities : ConsistentQuantities flow.qtyGood flow.qtyDefect flow.qtyRework
  undecided : flow.qtyStep ≠ .summary → flow.qtyRework = 0

variable {flow : QuantityFlow}

theorem Consistent.fresh : Consistent {} where
  digits := by simp
  short := by simp
  quantities := ⟨⟨by decide, by decide⟩, ⟨by decide, by decide⟩, by decide⟩
  undecided := fun _ => rfl

theorem Consistent.clearBuffer (consistent : Consistent flow) : Consistent flow.clearBuffer where
  digits := by simp [QuantityFlow.clearBuffer]
  short := by simp [QuantityFlow.clearBuffer]
  quantities := consistent.quantities
  undecided := consistent.undecided

/-- The number `#` confirms has at most six digits. -/
theorem Consistent.value (consistent : Consistent flow) : InSixDigits flow.value := by
  have bound := digitsValue_lt flow.localQtyBuffer consistent.digits
  have power : 10 ^ flow.localQtyBuffer.length ≤ 10 ^ 6 :=
    Nat.pow_le_pow_right (by decide) consistent.short
  have small : strtol flow.localQtyBuffer ≤ 999999 := by
    rw [strtol]
    omega
  have exact : flow.value.toInt = strtol flow.localQtyBuffer := Int32.toInt_ofNat_of_lt (by omega)
  rw [InSixDigits, exact]
  omega

theorem Consistent.confirm (consistent : Consistent flow) : Consistent flow.confirm := by
  have value := consistent.value
  have cleared := consistent.clearBuffer
  unfold QuantityFlow.confirm
  split
  · rename_i good
    exact ⟨cleared.digits, cleared.short,
      ⟨value, consistent.quantities.defectRange, consistent.quantities.reworkWithin⟩,
      fun _ => consistent.undecided (by simp [good])⟩
  · rename_i defect
    have untouched : flow.qtyRework = 0 := consistent.undecided (by simp [defect])
    split
    · exact ⟨cleared.digits, cleared.short,
        ⟨consistent.quantities.goodRange, value, by simp, value.1⟩, fun _ => rfl⟩
    · refine ⟨cleared.digits, cleared.short, ⟨consistent.quantities.goodRange, value, ?_⟩,
        fun _ => untouched⟩
      simp only [QuantityFlow.clearBuffer, untouched]
      exact ⟨by simp, value.1⟩
  · split
    · exact cleared
    · rename_i within
      have below : flow.value.toInt ≤ flow.qtyDefect.toInt := by
        rw [gt_iff_lt, Int32.lt_iff_toInt_lt] at within
        omega
      exact ⟨cleared.digits, cleared.short,
        ⟨consistent.quantities.goodRange, consistent.quantities.defectRange, value.1, below⟩,
        fun outside => absurd rfl outside⟩
  · exact consistent

theorem Consistent.press (consistent : Consistent flow) (key : UInt8) :
    Consistent (flow.press key).1 := by
  unfold QuantityFlow.press
  split
  · repeat' split
    · exact consistent
    · exact .fresh
    · exact consistent
  split
  · rename_i decision
    have untouched : flow.qtyRework = 0 := consistent.undecided (by simp [decision])
    split
    · exact ⟨consistent.clearBuffer.digits, consistent.clearBuffer.short, consistent.quantities,
        fun _ => untouched⟩
    split
    · exact ⟨consistent.digits, consistent.short, untouched ▸ consistent.quantities, fun _ => rfl⟩
    · exact consistent
  split
  · rename_i digit
    split
    · rename_i room
      refine ⟨?_, by simpa using room, consistent.quantities, consistent.undecided⟩
      intro other member
      rcases List.mem_append.mp member with old | new
      · exact consistent.digits other old
      · rw [List.mem_singleton.mp new]
        exact digit
    · exact consistent
  repeat' split
  · exact consistent.clearBuffer
  · exact consistent.confirm
  · exact consistent

end QuantityFlow

/-- An event that submits quantities carries three that fit each other. -/
def SubmitsConsistent (event : KioskEvent) : Prop :=
  event.event.type = .quantitySubmitted →
    ∃ good defect rework, event.quantityGood = some good ∧ event.quantityDefect = some defect ∧
      event.quantityRework = some rework ∧ ConsistentQuantities good defect rework ∧
        (defect = 0 → rework = 0)

namespace KioskRuntime

open QuantityFlow

/-- The entry and the events created from it so far. -/
structure EntryView.Consistent (view : EntryView) : Prop where
  flow : QuantityFlow.Consistent view.flow
  events : ∀ event ∈ view.createdEvents, SubmitsConsistent event

variable {view : EntryView}

theorem EntryView.Consistent.offered (consistent : view.Consistent) (snapshot : StateSnapshot)
    (source : SnapshotSource) :
    (view.offered snapshot source).Consistent := by
  refine ⟨?_, ?_⟩
  · cases source with
    | event =>
      simp only [EntryView.offered, EntryView.answered]
      cases enters view.stateProjection snapshot with
      | true => exact .fresh
      | false => exact consistent.flow.clearBuffer
    | resync =>
      simp only [EntryView.offered]
      cases StateProjection.taken (view.stateProjection.apply snapshot).2 with
      | true => exact consistent.flow.clearBuffer
      | false => exact consistent.flow
    | bootstrap => exact consistent.flow
  · cases source <;> exact consistent.events

variable [StdSort]

/-- Whatever a step does to the entry, it leaves it consistent. -/
theorem step_consistent (k : KioskRuntime) (input : RuntimeStep)
    (consistent : k.entryView.Consistent) :
    (k.step input).entryView.Consistent := by
  cases k.step_outcome input with
  | offered source snapshot _ view =>
    rw [view]
    exact consistent.offered snapshot source
  | pressed key _ _ _ flow created =>
    refine ⟨by rw [flow]; exact consistent.flow.press key, ?_⟩
    rcases created with same | ⟨event, grown, good, defect, rework⟩
    · rw [same]
      exact consistent.events
    · rw [grown]
      refine List.forall_mem_cons.mpr ⟨fun _ => ?_, consistent.events⟩
      exact ⟨_, _, _, good, defect, rework, consistent.flow.quantities,
        consistent.flow.quantities.no_defect⟩
  | rebooted _ _ view =>
    rw [view]
    exact ⟨.fresh, consistent.events⟩
  | elsewhere _ _ _ flow created =>
    refine ⟨by rw [flow]; exact consistent.flow, ?_⟩
    rcases created with same | ⟨event, grown, other⟩
    · rw [same]
      exact consistent.events
    · rw [grown]
      exact List.forall_mem_cons.mpr ⟨fun submitted => absurd submitted other, consistent.events⟩

/-- Along every run, each submission is of quantities within their bounds that fit each
other. -/
theorem submitted_consistent (config : BootConfig) (highWaterMark : UInt64) (journal : EventJournal)
    (inputs : List RuntimeStep) :
    ∀ event ∈ (run step (boot config highWaterMark journal) inputs).createdEvents,
      SubmitsConsistent event := by
  have start : (boot config highWaterMark journal).entryView.Consistent :=
    ⟨.fresh, by simp [entryView, boot]⟩
  have consistent : (run step (boot config highWaterMark journal) inputs).entryView.Consistent :=
    run_invariant (motive := fun k : KioskRuntime => k.entryView.Consistent) start
      step_consistent inputs
  exact consistent.events

omit [StdSort] in
/-- Seven good, two defect and one of them for rework. -/
theorem submitted_consistent_rework :
    let inputs := .bootstrapResult {}
      { status := .ok, snapshot := some { state := .quantityInput, stateVersion := 1 } } ::
      (text "7#2#11##").map fun key => .keyDown {} key
    ∃ event ∈ (run (@step .insertion)
        (boot { apiEndpoint := text "http://b/events" } 0 (.init {} 65536)) inputs).createdEvents,
      event.quantityRework = some 1 ∧ SubmitsConsistent event := by
  intro inputs
  have submitted :
      ∃ event ∈ (run (@step .insertion) (boot { apiEndpoint := text "http://b/events" } 0
      (.init {} 65536)) inputs).createdEvents, event.quantityRework = some 1 := by decide +kernel
  obtain ⟨event, created, rework⟩ := submitted
  exact ⟨event, created, rework, @submitted_consistent .insertion _ _ _ _ event created⟩

end KioskRuntime

end Kiosk.Runtime
