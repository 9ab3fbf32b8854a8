import Mathlib

/-! A buffer that forgets everything, the newcomer too, when one more does not fit. -/
namespace Kiosk.Library.OverflowBuffer

variable {α : Type} (limit : Nat)

def push (buffer : List α) (a : α) : List α := if limit ≤ buffer.length then [] else buffer ++ [a]

/-- What is left after a whole line: its end, from the last overflow on. -/
def remainder (line : List α) : List α := line.drop ((limit + 1) * (line.length / (limit + 1)))

theorem remainder_length (line : List α) :
    (remainder limit line).length = line.length % (limit + 1) := by
  rw [remainder, List.length_drop]
  have split := Nat.div_add_mod line.length (limit + 1)
  omega

theorem remainder_of_le {line : List α} (short : line.length ≤ limit) :
    remainder limit line = line := by
  rw [remainder, Nat.div_eq_of_lt (Nat.lt_succ_of_le short), Nat.mul_zero, List.drop_zero]

theorem remainder_eq_nil {line : List α} : remainder limit line = [] ↔ limit + 1 ∣ line.length := by
  rw [← List.length_eq_zero_iff, remainder_length, Nat.dvd_iff_mod_eq_zero]

theorem push_remainder (line : List α) (a : α) :
    push limit (remainder limit line) a = remainder limit (line ++ [a]) := by
  have split := Nat.div_add_mod line.length (limit + 1)
  have small : line.length % (limit + 1) < limit + 1 := Nat.mod_lt _ (Nat.succ_pos limit)
  rw [push, remainder_length]
  split
  · rename_i full
    have whole : limit + 1 ∣ (line ++ [a]).length := by
      refine ⟨line.length / (limit + 1) + 1, ?_⟩
      rw [List.length_append, List.length_singleton, Nat.mul_succ]
      omega
    exact ((remainder_eq_nil limit).mpr whole).symm
  · rename_i room
    have quotient : (line.length + 1) / (limit + 1) = line.length / (limit + 1) := by
      rw [Nat.succ_div, if_neg, Nat.add_zero]
      intro whole
      have last := Nat.succ_mod_succ_eq_zero_iff.mp (Nat.dvd_iff_mod_eq_zero.mp whole)
      exact room (Nat.le_of_eq last.symm)
    rw [remainder, remainder, List.length_append, List.length_singleton, quotient,
      List.drop_append_of_le_length]
    omega

end Kiosk.Library.OverflowBuffer
