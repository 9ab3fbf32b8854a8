import Mathlib.Data.List.GetD
import Mathlib.Logic.Function.Iterate

/-! A linear feedback shift register read least significant bit first, over any width
and any polynomial whose top bit is set: linear, injective, and never back at zero
within one width of a non-zero input. -/
namespace Kiosk.Library.ShiftRegister

variable {w : Nat}

/-- One step: the low bit leaves and the polynomial comes in when it was set. -/
def shift (poly state : BitVec w) : BitVec w :=
  if state.getLsbD 0 then (state >>> 1) ^^^ poly else state >>> 1

/-- The bit as the register's low bit. -/
def lowBit (bit : Bool) : BitVec w := if bit then 1#w else 0

def feed (poly state : BitVec w) (bit : Bool) : BitVec w := shift poly (state ^^^ lowBit bit)

def feeds (poly : BitVec w) (state : BitVec w) (bits : List Bool) : BitVec w :=
  bits.foldl (feed poly) state

/-- The word whose low bits these are. -/
def word : List Bool → BitVec w
  | [] => 0
  | bit :: bits => lowBit bit ^^^ (word bits <<< 1)

private theorem xor_middle (a b c d : BitVec w) :
    (a ^^^ b) ^^^ (c ^^^ d) = (a ^^^ c) ^^^ (b ^^^ d) := by
  ac_rfl

theorem shift_xor (poly first second : BitVec w) :
    shift poly (first ^^^ second) = shift poly first ^^^ shift poly second := by
  unfold shift
  rw [BitVec.getLsbD_xor, BitVec.ushiftRight_xor_distrib]
  cases first.getLsbD 0 <;> cases second.getLsbD 0
  · simp
  · simp [BitVec.xor_assoc]
  · simp only [Bool.xor_false, ↓reduceIte, Bool.false_eq_true]
    ac_rfl
  · simp [xor_middle _ poly]

theorem lowBit_xor (first second : Bool) :
    (lowBit (first ^^ second) : BitVec w) = lowBit first ^^^ lowBit second := by
  cases first <;> cases second <;> simp [lowBit]

theorem feeds_xor (poly : BitVec w) (pairs : List (Bool × Bool)) (first second : BitVec w) :
    feeds poly (first ^^^ second) (pairs.map fun pair => pair.1 ^^ pair.2) =
      feeds poly first (pairs.map (·.1)) ^^^ feeds poly second (pairs.map (·.2)) := by
  induction pairs generalizing first second with
  | nil => rfl
  | cons pair pairs ih =>
    have step : feed poly (first ^^^ second) (pair.1 ^^ pair.2) =
        feed poly first pair.1 ^^^ feed poly second pair.2 := by
      rw [feed, lowBit_xor, xor_middle, shift_xor]
      rfl
    simp only [feeds, List.map_cons, List.foldl_cons] at ih ⊢
    rw [step]
    exact ih _ _

theorem getLsbD_lowBit (bit : Bool) (i : Nat) :
    (lowBit bit : BitVec w).getLsbD i = (decide (i < w) && (decide (i = 0) && bit)) := by
  cases bit
  · simp [lowBit]
  · by_cases zero : i = 0
    · simp [lowBit, BitVec.getLsbD_one, zero]
    · simp [lowBit, BitVec.getLsbD_one, zero]

/-! What a zero at the end says about the start. -/

private theorem quiet_part {part : List Bool} (quiet : true ∉ part) :
    part = List.replicate part.length false := by
  rw [List.eq_replicate_iff]
  refine ⟨rfl, fun bit member => ?_⟩
  cases bit
  · rfl
  · exact absurd member quiet

section TopBit
variable {poly : BitVec w} (positive : 0 < w) (top : poly.getLsbD (w - 1) = true)
include positive top

/-- The top bit of a step is the bit that left. -/
private theorem shift_top (state : BitVec w) :
    (shift poly state).getLsbD (w - 1) = state.getLsbD 0 := by
  have above : state.getLsbD (1 + (w - 1)) = false := BitVec.getLsbD_of_ge _ _ (by omega)
  unfold shift
  cases low : state.getLsbD 0 with
  | false => simp [above]
  | true => simp [above, top]

/-- The register held exactly the bits that came, and nothing above them. -/
theorem feeds_eq_zero {bits : List Bool} (short : bits.length ≤ w) {state : BitVec w}
    (zero : feeds poly state bits = 0) (i : Nat) : state.getLsbD i = bits.getD i false := by
  induction bits generalizing state i with
  | nil =>
    have same : state = 0 := zero
    simp [same]
  | cons bit bits ih =>
    simp only [List.length_cons] at short
    have rest : ∀ i, (feed poly state bit).getLsbD i = bits.getD i false :=
      fun i => ih (by omega) zero i
    have low : (state ^^^ lowBit bit).getLsbD 0 = false := by
      rw [← shift_top positive top]
      have last := rest (w - 1)
      rw [List.getD_eq_default _ _ (by omega)] at last
      exact last
    have moved : feed poly state bit = (state ^^^ lowBit bit) >>> 1 := by
      rw [feed, shift, if_neg (by simp [low])]
    cases i with
    | zero =>
      rw [BitVec.getLsbD_xor, getLsbD_lowBit] at low
      simpa [positive] using low
    | succ i =>
      have bitAt := rest i
      rw [moved, BitVec.getLsbD_ushiftRight, BitVec.getLsbD_xor, getLsbD_lowBit] at bitAt
      have notLow : ¬ 1 + i = 0 := by omega
      simpa [notLow, Nat.add_comm 1 i] using bitAt

theorem feeds_zeros {state : BitVec w} (count : Nat)
    (zero : feeds poly state (List.replicate count false) = 0) :
    state = 0 := by
  induction count generalizing state with
  | zero => exact zero
  | succ count ih =>
    have next : feeds poly state [false] = 0 := ih zero
    apply BitVec.eq_of_getLsbD_eq
    intro i _
    have bitAt := feeds_eq_zero positive top (by simpa using Nat.succ_le_of_lt positive) next i
    cases i <;> simpa using bitAt

/-- A non-zero input confined to one width leaves a non-zero register. -/
theorem feeds_burst (before after : Nat) {window : List Bool} (short : window.length ≤ w)
    (burst : true ∈ window) :
    feeds poly 0 (List.replicate before false ++ window ++ List.replicate after false) ≠ 0 := by
  intro zero
  rw [feeds, List.foldl_append, List.foldl_append] at zero
  have quiet : (List.replicate before false).foldl (feed poly) 0 = 0 := by
    clear zero
    induction before with
    | zero => rfl
    | succ before ih =>
      have still : feed poly 0 false = 0 := by simp [feed, lowBit, shift]
      rw [List.replicate_succ, List.foldl_cons, still, ih]
  rw [quiet] at zero
  have window_zero : feeds poly 0 window = 0 := feeds_zeros positive top after zero
  obtain ⟨i, inside, found⟩ := List.mem_iff_getElem.mp burst
  have bitAt := feeds_eq_zero positive top short window_zero i
  rw [List.getD_eq_getElem _ _ inside, found] at bitAt
  simp at bitAt

/-- Two inputs that differ, and only within one width, end in different states. -/
theorem feeds_ne_of_burst (state : BitVec w) {pairs : List (Bool × Bool)} {start : Nat}
    (window : ∀ i pair, pairs[i]? = some pair → pair.1 ≠ pair.2 → start ≤ i ∧ i < start + w)
    (differ : ∃ pair ∈ pairs, pair.1 ≠ pair.2) :
    feeds poly state (pairs.map (·.1)) ≠ feeds poly state (pairs.map (·.2)) := by
  let bits := pairs.map fun pair => pair.1 ^^ pair.2
  have at_window : ∀ i, bits[i]? = some true → start ≤ i ∧ i < start + w := by
    intro i set
    rw [List.getElem?_map, Option.map_eq_some_iff] at set
    obtain ⟨pair, found, unequal⟩ := set
    exact window i pair found (by simpa using unequal)
  have split : bits = bits.take start ++ (bits.drop start).take w ++ (bits.drop start).drop w := by
    rw [List.append_assoc, List.take_append_drop, List.take_append_drop]
  have front : true ∉ bits.take start := by
    intro member
    obtain ⟨i, found⟩ := List.mem_iff_getElem?.mp member
    rw [List.getElem?_take] at found
    split at found
    · have low := (at_window i found).1
      omega
    · cases found
  have back : true ∉ (bits.drop start).drop w := by
    intro member
    obtain ⟨i, found⟩ := List.mem_iff_getElem?.mp member
    rw [List.getElem?_drop, List.getElem?_drop] at found
    have high := (at_window _ found).2
    omega
  have burst : true ∈ (bits.drop start).take w := by
    obtain ⟨pair, member, unequal⟩ := differ
    have set : true ∈ bits := List.mem_map.mpr ⟨pair, member, by simpa using unequal⟩
    rw [split, List.mem_append, List.mem_append] at set
    rcases set with (early | inside) | late
    · exact absurd early front
    · exact inside
    · exact absurd late back
  intro same
  have zero : feeds poly 0 bits = 0 := by
    have sum := feeds_xor poly pairs state state
    rw [BitVec.xor_self, same, BitVec.xor_self] at sum
    exact sum
  rw [split, quiet_part front, quiet_part back] at zero
  exact feeds_burst positive top _ _ (List.length_take_le _ _) burst zero

end TopBit

/-! Feeding bit by bit, or all the bits first and then the steps. -/

theorem getLsbD_word (bits : List Bool) (i : Nat) :
    (word bits : BitVec w).getLsbD i = (decide (i < w) && bits.getD i false) := by
  induction bits generalizing i with
  | nil => simp [word]
  | cons bit bits ih =>
    rw [word, BitVec.getLsbD_xor, getLsbD_lowBit, BitVec.getLsbD_shiftLeft]
    cases i with
    | zero => simp
    | succ i =>
      rw [ih]
      by_cases inside : i + 1 < w
      · have below : i < w := by omega
        simp [inside, below]
      · simp [inside]

private theorem shift_left (poly state : BitVec w) (room : state.getLsbD (w - 1) = false) :
    shift poly (state <<< 1) = state := by
  have low : (state <<< 1).getLsbD 0 = false := by simp
  rw [shift, if_neg (by simp [low])]
  apply BitVec.eq_of_getLsbD_eq
  intro i inside
  rw [BitVec.getLsbD_ushiftRight, BitVec.getLsbD_shiftLeft]
  by_cases last : 1 + i < w
  · simp [last]
  · have top : i = w - 1 := by omega
    simp [top, room]

theorem feeds_word (poly state : BitVec w) {bits : List Bool} (short : bits.length ≤ w) :
    feeds poly state bits = (shift poly)^[bits.length] (state ^^^ word bits) := by
  induction bits generalizing state with
  | nil => simp [feeds, word]
  | cons bit bits ih =>
    simp only [List.length_cons] at short
    have room : (word bits : BitVec w).getLsbD (w - 1) = false := by
      rw [getLsbD_word, List.getD_eq_default _ _ (by omega), Bool.and_false]
    have step : shift poly (state ^^^ word (bit :: bits)) = feed poly state bit ^^^ word bits := by
      rw [word, ← BitVec.xor_assoc, shift_xor, shift_left poly _ room]
      rfl
    rw [List.length_cons, Function.iterate_succ_apply, step]
    exact ih (feed poly state bit) (by omega)

end Kiosk.Library.ShiftRegister
