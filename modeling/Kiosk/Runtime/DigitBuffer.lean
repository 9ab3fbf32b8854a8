import Kiosk.Runtime.QuantityEntry

/-! The digit buffer against the results of events that come while the operator is
entering a quantity. -/
namespace Kiosk.Runtime

open Library Library.KeySearch Library.TransitionSystem Protocol Network Storage

namespace QuantityFlow

/-- The value of the first six digits. -/
def enteredValue (digits : Bytes) : Int32 := Int32.ofNat (digitsValue (digits.take inputCap))

/-- The steps that enter a number. -/
def takesDigits : QtyStep → Bool
  | .good | .defect | .rework => true
  | .reworkDecision | .summary => false

/-- The digits of the current step after a key; every `#` begins a step, also one that
is refused. -/
def digitsAfter (before after : QtyStep) (key : UInt8) (digits : Bytes) : Bytes :=
  if key = 35 ∨ after ≠ before then [] else if isDigit key then digits ++ [key] else digits

/-- The buffer holds the first six digits of the step. -/
def HoldsFirstSix (flow : QuantityFlow) (digits : Bytes) : Prop :=
  flow.localQtyBuffer = if takesDigits flow.qtyStep then digits.take inputCap else []

variable {flow : QuantityFlow} {digits : Bytes} {key : UInt8}

private theorem take_append_digit (digits : Bytes) (key : UInt8) :
    (digits ++ [key]).take inputCap =
      if digits.length < inputCap then digits.take inputCap ++ [key] else digits.take inputCap := by
  rw [List.take_append]
  split
  · rename_i short
    rw [List.take_of_length_le (l := [key]) (by simp; omega)]
  · rename_i full
    rw [show inputCap - digits.length = 0 by omega]
    simp

private theorem takesDigits_iff (step : QtyStep) :
    takesDigits step = true ↔ step ≠ .summary ∧ step ≠ .reworkDecision := by
  cases step <;> simp [takesDigits]

theorem press_taking (takes : takesDigits flow.qtyStep = true) :
    (flow.press key).1 =
      if isDigit key then
        if flow.localQtyBuffer.length < inputCap
          then { flow with localQtyBuffer := flow.localQtyBuffer ++ [key] }
        else flow
      else if key = 42 then flow.clearBuffer
      else if key = 35 then flow.confirm
      else flow := by
  have other := (takesDigits_iff _).mp takes
  unfold press
  rw [if_neg other.1, if_neg other.2]
  repeat' split
  all_goals rfl

private theorem confirm_buffer (takes : takesDigits flow.qtyStep = true) :
    flow.confirm.localQtyBuffer = [] := by
  unfold confirm
  split
  · rfl
  · split <;> rfl
  · split <;> rfl
  · cases step : flow.qtyStep <;> simp_all [takesDigits]

theorem HoldsFirstSix.of_empty (empty : flow.localQtyBuffer = []) : HoldsFirstSix flow [] := by
  simp [HoldsFirstSix, empty]

private theorem HoldsFirstSix.of_choice (choice : takesDigits flow.qtyStep = false)
    (empty : flow.localQtyBuffer = []) :
    HoldsFirstSix flow digits := by
  simp [HoldsFirstSix, choice, empty]

/-- In the summary and at the decision no key fills the buffer. -/
private theorem HoldsFirstSix.press_choice (choice : takesDigits flow.qtyStep = false)
    (empty : flow.localQtyBuffer = []) :
    HoldsFirstSix (flow.press key).1
      (digitsAfter flow.qtyStep (flow.press key).1.qtyStep key digits) := by
  unfold QuantityFlow.press
  split
  · rename_i summary
    split
    · exact .of_choice choice empty
    split
    · rw [digitsAfter, if_pos (.inr (by rw [summary]; simp))]
      exact .of_empty rfl
    · exact .of_choice choice empty
  split
  · rename_i decision
    split
    · rw [digitsAfter, if_pos (.inr (by rw [decision]; simp))]
      exact .of_empty rfl
    split
    · exact .of_choice rfl empty
    · exact .of_choice choice empty
  · rename_i summary decision
    rw [(takesDigits_iff _).mpr ⟨summary, decision⟩] at choice
    cases choice

/-- A key keeps the first six digits of the step in the buffer. -/
theorem HoldsFirstSix.press (holds : HoldsFirstSix flow digits) (plain : key ≠ 42) :
    HoldsFirstSix (flow.press key).1
      (digitsAfter flow.qtyStep (flow.press key).1.qtyStep key digits) := by
  cases takes : takesDigits flow.qtyStep with
  | true =>
    have buffer := holds
    rw [HoldsFirstSix, takes, if_pos rfl] at buffer
    rw [press_taking takes, buffer]
    split
    · rename_i digit
      have other : key ≠ 35 := by rintro rfl; cases digit
      split
      · rename_i short
        have few : digits.length < inputCap := by simpa using short
        simp [HoldsFirstSix, digitsAfter, takes, other, digit, take_append_digit, few]
      · rename_i full
        have many : ¬ digits.length < inputCap := by simpa using full
        simp [HoldsFirstSix, digitsAfter, takes, other, digit, take_append_digit, many, buffer]
    · rename_i digit
      split
      · rename_i confirms
        rw [digitsAfter, if_pos (.inl confirms)]
        exact .of_empty (confirm_buffer takes)
      · rename_i other
        simpa [digitsAfter, other, digit] using holds
  | false => exact .press_choice takes (by simpa [HoldsFirstSix, takes] using holds)

theorem digitsValue_lt (digits : Bytes) (all : ∀ digit ∈ digits, isDigit digit = true) :
    digitsValue digits < 10 ^ digits.length := by
  induction digits using List.reverseRecOn with
  | nil => decide
  | append_singleton front last ih =>
    have value : digitsValue (front ++ [last]) = 10 * digitsValue front + (last.toNat - 48) := by
      simp [digitsValue]
    have small : last.toNat ≤ 57 := by
      have digit := all last (by simp)
      simp only [isDigit, Bool.and_eq_true, decide_eq_true_eq, UInt8.le_iff_toNat_le] at digit
      exact digit.2
    have before := ih fun digit member => all digit (by simp [member])
    rw [value, List.length_append, List.length_singleton, pow_succ]
    omega

/-- Six digits are too few for the conversion to saturate. -/
private theorem value_firstSix (buffer : flow.localQtyBuffer = digits.take inputCap)
    (all : ∀ digit ∈ digits, isDigit digit = true) : flow.value = enteredValue digits := by
  have bound := digitsValue_lt (digits.take inputCap) fun digit member =>
    all digit (List.mem_of_mem_take member)
  have short : (digits.take inputCap).length ≤ 6 := List.length_take_le inputCap digits
  have power : 10 ^ (digits.take inputCap).length ≤ 10 ^ 6 := Nat.pow_le_pow_right (by decide) short
  rw [value, buffer, strtol, enteredValue, Nat.min_eq_right (by omega)]

end QuantityFlow

namespace KioskRuntime

open QuantityFlow

/-- The result of an event is in the slot. -/
def EventResultReady (k : KioskRuntime) (result : NetworkResult) : Prop :=
  (result.kind = .businessEvent ∨ result.kind = .offlineReplay) ∧
    k.network.slot.map SlotWorker.Answer.result = some result

section Digits
variable [StdSort]

omit [StdSort] in
private theorem arriving_result {k : KioskRuntime} {env : LoopEnv}
    (ready : k.EventResultReady result) :
    k.arriving (.pollResult env) = (eventSnapshot result).map fun snapshot =>
      (.event, snapshot) := by
  obtain ⟨kind, inside⟩ := ready
  obtain ⟨answer, slot, rfl⟩ := Option.map_eq_some_iff.mp inside
  rcases kind with kind | kind <;> simp [arriving, slot, resultSnapshot, kind]

/-- In the quantity input the result of an event leaves the entry as it was exactly
when the buffer was empty or the answer is not usable. -/
theorem pollResult_flow_iff (k : KioskRuntime) (env : LoopEnv) (result : NetworkResult)
    (ready : k.EventResultReady result) (before : k.inEntry = true) :
    (k.step (.pollResult env)).flow = k.flow ↔
      k.flow.localQtyBuffer = [] ∨ eventSnapshot result = none := by
  have arriving : k.arriving (.pollResult env) = _ := arriving_result ready
  have flow : (k.step (.pollResult env)).flow = (k.step (.pollResult env)).entryView.flow := rfl
  rw [flow]
  cases k.step_outcome (.pollResult env) with
  | offered source snapshot arrived view =>
    rw [arriving] at arrived
    obtain ⟨brought, usable, same⟩ := Option.map_eq_some_iff.mp arrived
    cases same
    have outside : enters k.entryView.stateProjection snapshot = false := by
      rw [← Bool.not_eq_true, enters_iff]
      exact fun entering => entering.1 ((inEntry_iff _).mp before)
    rw [view]
    simp only [EntryView.offered, EntryView.answered, outside, cond_false, usable,
      reduceCtorEq, or_false]
    exact clearBuffer_eq k.flow
  | pressed key _ accepted _ _ _ => cases accepted
  | rebooted _ restart _ => cases restart
  | elsewhere quiet _ _ flow _ =>
    rw [arriving, Option.map_eq_none_iff] at quiet
    simp [flow, quiet]

/-- The runtime with the digits pressed since the current step of the entry began. -/
structure DigitTrace where
  kiosk : KioskRuntime
  digits : Bytes := []

namespace DigitTrace

def step (trace : DigitTrace) (input : RuntimeStep) : DigitTrace where
  kiosk := trace.kiosk.step input
  digits :=
    match trace.kiosk.entryKey input with
    | none => trace.digits
    | some key =>
      digitsAfter trace.kiosk.flow.qtyStep (trace.kiosk.step input).flow.qtyStep key trace.digits

/-- What `#` stores is the value of the first six digits of the step. A rework greater
than the defects is not stored. -/
def StoresDigits (trace : DigitTrace) (input : RuntimeStep) : Prop :=
  trace.kiosk.entryKey input = some 35 →
    match trace.kiosk.flow.qtyStep with
    | .good => (trace.kiosk.step input).flow.qtyGood = enteredValue trace.digits
    | .defect => (trace.kiosk.step input).flow.qtyDefect = enteredValue trace.digits
    | .rework =>
      ¬ enteredValue trace.digits > trace.kiosk.flow.qtyDefect →
        (trace.kiosk.step input).flow.qtyRework = enteredValue trace.digits
    | _ => True

/-- The projection stays in `QUANTITY_INPUT` and no digits are disturbed. -/
def Interleaves (trace : DigitTrace) (input : RuntimeStep) : Prop :=
  (trace.kiosk.step input).inEntry = true ∧ trace.kiosk.Undisturbed input

omit [StdSort] in
instance {sort : StdSort} (trace : DigitTrace) (input : RuntimeStep) :
    Decidable (trace.Interleaves input) := by
  unfold Interleaves; infer_instance

/-- The entry with the first six digits of its step in the buffer. -/
structure FirstSix (trace : DigitTrace) : Prop where
  inEntry : trace.kiosk.inEntry = true
  digits : ∀ digit ∈ trace.digits, isDigit digit = true
  buffer : trace.kiosk.flow.HoldsFirstSix trace.digits

private theorem step_pressed {k : KioskRuntime} (accepted : k.entryKey input = some key) :
    (k.step input).flow = (k.flow.press key).1 ∧ key ≠ 42 := by
  have plain : key ≠ 42 := by
    cases input <;>
      simp only [entryKey, Option.ite_none_right_eq_some, Option.some.injEq,
        reduceCtorEq] at accepted
    exact accepted.2 ▸ accepted.1.1
  refine ⟨?_, plain⟩
  cases k.step_outcome input with
  | offered _ _ arrived _ => rw [arriving_keyless arrived] at accepted; cases accepted
  | pressed other _ same _ flow _ =>
    rw [same, Option.some.injEq] at accepted
    exact accepted ▸ flow
  | rebooted config restart _ => subst restart; cases accepted
  | elsewhere _ keyless _ _ _ => rw [keyless] at accepted; cases accepted

private theorem step_keyless {k : KioskRuntime} (keyless : k.entryKey input = none)
    (before : k.inEntry = true)
    (after : (k.step input).inEntry = true) (undisturbed : k.Undisturbed input) :
    (k.step input).flow = k.flow := by
  cases k.step_outcome input with
  | offered source snapshot arrived _ => exact step_undisturbed undisturbed arrived before after
  | pressed _ _ accepted _ _ _ => rw [accepted] at keyless; cases keyless
  | rebooted config restart view =>
    have projection := (inEntry_iff (k.step input)).mp after
    rw [show (k.step input).stateProjection =
      {} from congrArg EntryView.stateProjection view] at projection
    cases projection
  | elsewhere _ _ _ flow _ => exact flow

theorem FirstSix.step {trace : DigitTrace} (firstSix : FirstSix trace)
    (interleaves : trace.Interleaves input) :
    FirstSix (trace.step input) := by
  refine ⟨interleaves.1, ?_, ?_⟩
  · intro digit member
    cases accepted : trace.kiosk.entryKey input with
    | none =>
      simp only [DigitTrace.step, accepted] at member
      exact firstSix.digits digit member
    | some key =>
      simp only [DigitTrace.step, accepted, digitsAfter] at member
      split at member
      · cases member
      split at member
      · rename_i number
        rcases List.mem_append.mp member with earlier | last
        · exact firstSix.digits digit earlier
        · exact List.mem_singleton.mp last ▸ number
      · exact firstSix.digits digit member
  · cases accepted : trace.kiosk.entryKey input with
    | none =>
      simp only [DigitTrace.step, accepted]
      rw [step_keyless accepted firstSix.inEntry interleaves.1 interleaves.2]
      exact firstSix.buffer
    | some key =>
      obtain ⟨flow, plain⟩ := step_pressed accepted
      simp only [DigitTrace.step, accepted]
      rw [flow]
      exact firstSix.buffer.press plain

theorem FirstSix.stores {trace : DigitTrace} (firstSix : FirstSix trace) :
    trace.StoresDigits input := by
  intro accepted
  obtain ⟨flow, _⟩ := step_pressed accepted
  have value : takesDigits trace.kiosk.flow.qtyStep = true →
      (trace.kiosk.step input).flow = trace.kiosk.flow.confirm ∧
        trace.kiosk.flow.value = enteredValue trace.digits := by
    intro takes
    have buffer := firstSix.buffer
    rw [HoldsFirstSix, takes, if_pos rfl] at buffer
    exact ⟨by rw [flow, press_taking takes]; rfl, value_firstSix buffer firstSix.digits⟩
  cases entering : trace.kiosk.flow.qtyStep with
  | good =>
    obtain ⟨flow, value⟩ := value (by rw [entering]; rfl)
    simp [flow, confirm, entering, value]
  | defect =>
    obtain ⟨flow, value⟩ := value (by rw [entering]; rfl)
    simp only [flow, confirm, entering, value]
    split <;> rfl
  | rework =>
    obtain ⟨flow, value⟩ := value (by rw [entering]; rfl)
    intro fits
    simp only [flow, confirm, entering, value]
    rw [if_neg fits]
  | reworkDecision => trivial
  | summary => trivial

/-- In the quantity input a result leaves the entry alone exactly when the buffer was
empty or the answer brings no snapshot; and from the beginning of a step on, whatever
keys and harmless results come, `#` stores the first six digits of the step. -/
theorem storesDigits_of_undisturbed :
    (∀ (k : KioskRuntime) (env : LoopEnv) (result : NetworkResult),
      k.EventResultReady result → k.inEntry = true →
      ((k.step (.pollResult env)).flow = k.flow ↔
        k.flow.localQtyBuffer = [] ∨ eventSnapshot result = none)) ∧
    ∀ (k : KioskRuntime) (inputs : List RuntimeStep), k.inEntry = true →
        k.flow.localQtyBuffer = [] →
      Along step Interleaves { kiosk := k } inputs →
        Along step StoresDigits { kiosk := k } inputs := by
  refine ⟨pollResult_flow_iff, fun k inputs inside empty along => ?_⟩
  have start : FirstSix { kiosk := k } := ⟨inside, by simp, .of_empty empty⟩
  exact along.entails (motive := FirstSix) start
    (fun trace input firstSix good => firstSix.step good)
    fun trace input firstSix _ => firstSix.stores

end DigitTrace

end Digits

/-- The device in the quantity input. -/
private def entering : KioskRuntime :=
  (boot { apiEndpoint := text "http://b/events" } 0 (.init {} 65536)).onBootstrapResult {}
    { status := .ok, snapshot := some { state := .quantityInput, stateVersion := 1 } }

private def keysPressed (keys : String) : List RuntimeStep :=
  (text keys).map fun key => .keyDown {} key

theorem DigitTrace.storesDigits_seven :
    let inputs := keysPressed "1234567#"
    Along (@DigitTrace.step .insertion) (@DigitTrace.StoresDigits .insertion)
        { kiosk := entering } inputs ∧
      (run (@KioskRuntime.step .insertion) entering inputs).flow.qtyGood = 123456 :=
  ⟨(@DigitTrace.storesDigits_of_undisturbed .insertion).2 _ _ (by decide +kernel)
    (by decide +kernel) (by decide +kernel), by decide +kernel⟩

/-- The answer to a scan that the state does not allow. -/
private def scanRejected : NetworkEnv where
  exchange := fun _ =>
    { status := 200
      responseText := text "\x7b\"accepted\": false, \"state\": " ++
        text "\x7b\"name\": \"QUANTITY_INPUT\", \"version\": 1\x7d\x7d" }

/-- The answer to a scan arrives between two digits and the next one. -/
theorem digits_cleared_by_scan :
    let k := run (@step .insertion) entering
      (.scan {} (text "WF|OP|OP-001") :: List.replicate 5 (.task scanRejected) ++ keysPressed "12")
    k.network.slot.map (fun answer => answer.result.kind) = some .businessEvent ∧ k.inEntry = true ∧
      (@step .insertion k (.pollResult {})).inEntry = true ∧
          (@step .insertion k (.pollResult {})).flow ≠ k.flow ∧
        (run (@step .insertion) k (.pollResult {} :: keysPressed "3#")).flow.qtyGood = 3 := by
  decide +kernel

end KioskRuntime

end Kiosk.Runtime
