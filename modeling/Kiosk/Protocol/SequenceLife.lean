import Kiosk.Library.TransitionSystem
import Kiosk.Protocol.ProtocolCodec

/-! `DeviceSequence` over the life of a device: boots, calls and a loss of power at
any point of a call. What `persist` wrote stays, everything else is gone. -/
namespace Kiosk.Protocol

open Library TransitionSystem

variable {current ceiling mark blockSize : UInt64}

namespace SequenceReservation

/-- A reservation whose ceiling is in NVS and whose values are below it. -/
structure Reserved (sequence : SequenceReservation) : Prop where
  durable : sequence.highWaterMark = sequence.reservedCeiling
  below : sequence.current ≤ sequence.reservedCeiling

/-- The addition of `reserve_next_block` stays within 64 bits. -/
def Fits (current blockSize : UInt64) : Prop := current.toNat + blockSize.toNat < 2 ^ 64
  deriving Decidable

private theorem lt_reserved (positive : 0 < blockSize) (fits : Fits current blockSize) :
    current < current + blockSize := by
  rw [UInt64.lt_iff_toNat_lt] at positive ⊢
  rw [UInt64.toNat_add, Nat.mod_eq_of_lt fits]
  exact Nat.lt_add_of_pos_right positive

private theorem add_one (room : current < (ceiling : UInt64)) :
    (current + 1).toNat = current.toNat + 1 := by
  rw [UInt64.lt_iff_toNat_lt] at room
  rw [UInt64.toNat_add]
  exact Nat.mod_eq_of_lt (by have := ceiling.toNat_lt; simp; omega)

/-- A boot reserves a block above the mark it finds. -/
theorem load_reserved (positive : 0 < blockSize) (fits : Fits mark blockSize) :
    (load mark blockSize).Reserved ∧ mark < (load mark blockSize).highWaterMark ∧
      (load mark blockSize).current = mark := by
  have room := lt_reserved positive fits
  exact ⟨⟨rfl, UInt64.le_of_lt room⟩, room, rfl⟩

/-- The value is above all earlier ones and not above the mark, which never goes back. -/
theorem next_reserved {sequence : SequenceReservation} (positive : 0 < sequence.blockSize)
    (reserved : sequence.Reserved) (fits : sequence.current ≥ sequence.reservedCeiling →
      Fits sequence.current sequence.blockSize) :
    sequence.next.1.Reserved ∧ sequence.highWaterMark ≤ sequence.next.1.highWaterMark ∧
      sequence.next.2 = sequence.next.1.current ∧ sequence.current < sequence.next.2 := by
  unfold next
  split
  · rename_i exhausted
    have room := lt_reserved positive (fits exhausted)
    have value := add_one room
    rw [UInt64.lt_iff_toNat_lt] at room
    refine ⟨⟨rfl, ?_⟩, ?_, rfl, ?_⟩
    · simp only [reserveNextBlock, UInt64.le_iff_toNat_le, value]
      omega
    · rw [reserved.durable]
      exact UInt64.le_trans exhausted (UInt64.le_iff_toNat_le.mpr room.le)
    · rw [UInt64.lt_iff_toNat_lt]
      simp only [reserveNextBlock, value]
      omega
  · rename_i left
    have room := UInt64.not_le.mp left
    have value := add_one room
    rw [UInt64.lt_iff_toNat_lt] at room
    refine ⟨⟨reserved.durable, ?_⟩, UInt64.le_refl _, rfl, ?_⟩
    · simp only [UInt64.le_iff_toNat_le, value]
      omega
    · rw [UInt64.lt_iff_toNat_lt, value]
      omega

@[simp] theorem load_blockSize : (load mark blockSize).blockSize = blockSize := rfl

@[simp] theorem next_blockSize (sequence : SequenceReservation) :
    sequence.next.1.blockSize = sequence.blockSize := by
  unfold next
  split <;> rfl

end SequenceReservation

/-- The mark in NVS, the reservation of this boot and the values handed out so far. -/
structure SequenceLife where
  highWaterMark : UInt64 := 0
  reservation : Option SequenceReservation := none
  returned : List UInt64 := []
  deriving DecidableEq, Repr

inductive SequenceCall where
  | init | next
  deriving DecidableEq, Repr

inductive SequenceInput where
  | call (call : SequenceCall)
  /-- Between two calls, or in one before its `persist`. -/
  | crash
  /-- In a call, after its `persist` and before it returns. -/
  | crashAfterPersist (call : SequenceCall)
  deriving DecidableEq, Repr

namespace SequenceLife

open SequenceReservation

/-- `DeviceSequence::init` and `next`; without an `init` there is no sequence to ask. -/
def perform (blockSize : UInt64) (life : SequenceLife) : SequenceCall → SequenceLife
  | .init =>
    match life.reservation with
    | some _ => life
    | none =>
      let sequence := load life.highWaterMark blockSize
      { life with highWaterMark := sequence.highWaterMark, reservation := some sequence }
  | .next =>
    match life.reservation with
    | none => life
    | some sequence => {
        highWaterMark := sequence.next.1.highWaterMark
        reservation := some sequence.next.1
        returned := life.returned ++ [sequence.next.2] }

def step (blockSize : UInt64) (life : SequenceLife) : SequenceInput → SequenceLife
  | .call call => life.perform blockSize call
  | .crash => { life with reservation := none }
  | .crashAfterPersist call =>
    { life with highWaterMark := (life.perform blockSize call).highWaterMark, reservation := none }

/-- The value from which the call reserves a block, if it does. -/
def reservesFrom (life : SequenceLife) : SequenceCall → Option UInt64
  | .init => if life.reservation.isNone then some life.highWaterMark else none
  | .next =>
    match life.reservation with
    | none => none
    | some sequence =>
      if sequence.current ≥ sequence.reservedCeiling then some sequence.current else none

def NoOverflow (blockSize : UInt64) (life : SequenceLife) : SequenceInput → Prop
  | .crash => True
  | .call call | .crashAfterPersist call =>
    ∀ current ∈ life.reservesFrom call, Fits current blockSize

instance (life : SequenceLife) :
    (input : SequenceInput) → Decidable (life.NoOverflow blockSize input)
  | .crash => inferInstanceAs (Decidable True)
  | .call call | .crashAfterPersist call => Option.decidableForallMem (life.reservesFrom call)

/-- Nothing was handed out above the mark. -/
def Covered (life : SequenceLife) : Prop := ∀ value ∈ life.returned, value ≤ life.highWaterMark

structure Sound (blockSize : UInt64) (life : SequenceLife) : Prop where
  increasing : life.returned.Pairwise (· < ·)
  covered : life.Covered
  reserved : ∀ sequence ∈ life.reservation, sequence.Reserved ∧ sequence.blockSize = blockSize ∧
    sequence.highWaterMark = life.highWaterMark ∧ ∀ value ∈ life.returned, value ≤ sequence.current

private theorem sound_perform {life : SequenceLife} (positive : 0 < blockSize)
    (sound : life.Sound blockSize)
    (fits : ∀ current ∈ life.reservesFrom call, Fits current blockSize) :
    (life.perform blockSize call).Sound blockSize ∧
      life.highWaterMark ≤ (life.perform blockSize call).highWaterMark := by
  cases call with
  | init =>
    unfold perform
    cases booted : life.reservation with
    | some sequence => exact ⟨sound, UInt64.le_refl _⟩
    | none =>
      obtain ⟨reserved, above, current⟩ :=
        load_reserved positive (fits life.highWaterMark (by simp [reservesFrom, booted]))
      have higher := UInt64.le_of_lt above
      refine ⟨⟨sound.increasing, fun value old => UInt64.le_trans (sound.covered value old) higher,
        ?_⟩, higher⟩
      rintro _ ⟨⟩
      exact ⟨reserved, rfl, rfl, fun value old => current ▸ sound.covered value old⟩
  | next =>
    unfold perform
    cases booted : life.reservation with
    | none => exact ⟨sound, UInt64.le_refl _⟩
    | some sequence =>
      obtain ⟨reserved, sized, durable, below⟩ := sound.reserved sequence booted
      obtain ⟨reservedNext, higher, value, above⟩ := next_reserved (sized ▸ positive) reserved
        (fun exhausted => sized ▸ fits sequence.current (by simp [reservesFrom, booted, exhausted]))
      have issued :
          ∀ value ∈ life.returned ++ [sequence.next.2], value ≤ sequence.next.1.current := by
        intro old member
        rcases List.mem_append.mp member with earlier | last
        · exact value ▸ UInt64.le_of_lt (UInt64.lt_of_le_of_lt (below old earlier) above)
        · rw [List.mem_singleton.mp last, value]
          exact UInt64.le_refl _
      refine ⟨⟨?_, ?_, ?_⟩, durable ▸ higher⟩
      · rw [List.pairwise_append]
        refine ⟨sound.increasing, List.pairwise_singleton _ _, fun old earlier last new => ?_⟩
        rw [List.mem_singleton.mp new]
        exact UInt64.lt_of_le_of_lt (below old earlier) above
      · intro old member
        change old ≤ sequence.next.1.highWaterMark
        refine UInt64.le_trans (issued old member) ?_
        exact reservedNext.durable.symm ▸ reservedNext.below
      · rintro _ ⟨⟩
        exact ⟨reservedNext, by simpa using sized, rfl, issued⟩

theorem sound_step {life : SequenceLife} (positive : 0 < blockSize) (sound : life.Sound blockSize)
    (fits : life.NoOverflow blockSize input) : (life.step blockSize input).Sound blockSize := by
  cases input with
  | call call => exact (sound_perform positive sound fits).1
  | crash => exact ⟨sound.increasing, sound.covered, by rintro _ ⟨⟩⟩
  | crashAfterPersist call =>
    have higher := (sound_perform positive sound fits).2
    exact ⟨sound.increasing, fun value old => UInt64.le_trans (sound.covered value old) higher,
      by rintro _ ⟨⟩⟩

/-- Over the whole life no value comes twice or out of order, and none is above the mark
in NVS at the time. -/
theorem sequence_increases (positive : 0 < blockSize) (mark : UInt64) (inputs : List SequenceInput)
    (fits : Along (step blockSize) (NoOverflow blockSize) { highWaterMark := mark } inputs) :
    (run (step blockSize) { highWaterMark := mark } inputs).returned.Pairwise (· < ·) ∧
    Along (step blockSize) (fun life input => (life.step blockSize input).Covered)
      { highWaterMark := mark } inputs := by
  have start : Sound blockSize { highWaterMark := mark } :=
    ⟨List.Pairwise.nil, by rintro _ ⟨⟩, by rintro _ ⟨⟩⟩
  have keeps : ∀ life input, Sound blockSize life → NoOverflow blockSize life input →
      Sound blockSize (life.step blockSize input) := fun _ _ => sound_step positive
  exact ⟨(fits.invariant start keeps).increasing,
    fits.entails start keeps fun life input sound fits => (sound_step positive sound fits).covered⟩

/-- A crash in the first call that needs a second block, after it was written. -/
theorem sequence_increases_two_boots :
    let inputs : List SequenceInput :=
      [.call .init, .call .next, .call .next, .crashAfterPersist .next, .call .init, .call .next]
    (run (step 2) { highWaterMark := 0 } inputs).returned.Pairwise (· < ·) ∧
    Along (step 2) (fun life input => (life.step 2 input).Covered) { highWaterMark := 0 } inputs :=
  sequence_increases (by decide) 0 _ (by decide +kernel)

end SequenceLife

end Kiosk.Protocol
