import Mathlib

/-! `compute_backoff_ms` of `retry_policy.cpp`: the delay before another attempt. The
exponential is computed in 64 bits, the cap on the total in 32. -/
namespace Kiosk.Protocol

/-- The doubling loop, with the number of rounds it may still make. -/
def doubleUpTo (maxMs expMs : UInt64) : Nat → UInt64
  | 0 => expMs
  | left + 1 => if expMs < maxMs then doubleUpTo maxMs (expMs * 2) left else expMs

/-- The cap on the total, a sum and a product of 32-bit numbers. -/
def totalCap (maxMs jitterPctMax : UInt32) : UInt32 := maxMs + (maxMs * jitterPctMax) / 100

def computeBackoffMs (attempt : Int) (baseMs maxMs jitterPct0100 jitterPctMax : UInt32) : UInt32 :=
  let attempt := if attempt < 1 then 1 else attempt
  let expMs := doubleUpTo maxMs.toUInt64 baseMs.toUInt64 (attempt - 1).toNat
  let expMs := if expMs > maxMs.toUInt64 then maxMs.toUInt64 else expMs
  let jitterPct := jitterPct0100 % (jitterPctMax + 1)
  let jitterMs := (expMs * jitterPct.toUInt64) / 100
  let total := expMs + jitterMs
  let total := if total > (totalCap maxMs jitterPctMax).toUInt64
    then (totalCap maxMs jitterPctMax).toUInt64 else total
  total.toUInt32

/-- The capped exponential in exact integers. -/
def exactBackoff (attempt : Int) (baseMs maxMs : Nat) : Nat :=
  min (baseMs * 2 ^ (max attempt 1 - 1).toNat) maxMs

/-- A share of it on top, rounded down. -/
def withJitter (exact percent : Nat) : Nat := exact + exact * percent / 100

/-- Up to the bound the loop doubles exactly, and it stops at or above it. -/
theorem doubleUpTo_toNat (maxMs expMs : UInt64) (small : maxMs.toNat < 2 ^ 32)
    (start : expMs.toNat < 2 ^ 33) (left : Nat) :
    min (doubleUpTo maxMs expMs left).toNat maxMs.toNat =
      min (expMs.toNat * 2 ^ left) maxMs.toNat := by
  induction left generalizing expMs with
  | zero => simp [doubleUpTo]
  | succ left ih =>
    rw [doubleUpTo]
    split
    · rename_i below
      have room : expMs.toNat < 2 ^ 32 := by
        have := UInt64.lt_iff_toNat_lt.mp below
        omega
      have doubled : (expMs * 2).toNat = expMs.toNat * 2 := by
        rw [UInt64.toNat_mul]
        exact Nat.mod_eq_of_lt (by simp; omega)
      rw [ih _ (by omega), doubled, Nat.mul_assoc, ← Nat.pow_succ']
    · rename_i reached
      have above : maxMs.toNat ≤ expMs.toNat := by
        rw [UInt64.lt_iff_toNat_lt] at reached
        omega
      have more : maxMs.toNat ≤ expMs.toNat * 2 ^ (left + 1) :=
        above.trans (Nat.le_mul_of_pos_right _ (Nat.two_pow_pos _))
      rw [Nat.min_eq_right above, Nat.min_eq_right more]

theorem exactBackoff_mono (earlier : attempt ≤ later) (baseMs maxMs : Nat) :
    exactBackoff attempt baseMs maxMs ≤ exactBackoff later baseMs maxMs := by
  have rounds : (max attempt 1 - 1).toNat ≤ (max later 1 - 1).toNat := by omega
  have power : 2 ^ (max attempt 1 - 1).toNat ≤ 2 ^ (max later 1 - 1).toNat :=
    Nat.pow_le_pow_right (by omega) rounds
  exact min_le_min (Nat.mul_le_mul_left _ power) le_rfl

theorem withJitter_mono (exact : m ≤ m') (percent : p ≤ p') : withJitter m p ≤ withJitter m' p' :=
  Nat.add_le_add exact (Nat.div_le_div_right (Nat.mul_le_mul exact percent))

theorem totalCap_toNat (maxMs jitterPctMax : UInt32) :
    (totalCap maxMs jitterPctMax).toNat =
      (maxMs.toNat + maxMs.toNat * jitterPctMax.toNat % 2 ^ 32 / 100) % 2 ^ 32 := by
  simp [totalCap, UInt32.toNat_add, UInt32.toNat_mul, UInt32.toNat_div]

/-- The exponential of the code, capped. -/
private theorem capped_toNat (attempt : Int) (baseMs maxMs : UInt32) :
    (if doubleUpTo maxMs.toUInt64 baseMs.toUInt64 ((if attempt < 1 then 1 else attempt) - 1).toNat >
      maxMs.toUInt64
      then maxMs.toUInt64
      else doubleUpTo maxMs.toUInt64 baseMs.toUInt64
        ((if attempt < 1 then 1 else attempt) - 1).toNat).toNat =
      exactBackoff attempt baseMs.toNat maxMs.toNat := by
  have first : (if attempt < 1 then 1 else attempt) = max attempt 1 := by
    split <;> omega
  have small : maxMs.toUInt64.toNat < 2 ^ 32 := by
    simpa using maxMs.toNat_lt
  have start : baseMs.toUInt64.toNat < 2 ^ 33 := by
    have := baseMs.toNat_lt
    rw [UInt32.toNat_toUInt64]
    omega
  have doubled :=
    doubleUpTo_toNat maxMs.toUInt64 baseMs.toUInt64 small start (max attempt 1 - 1).toNat
  rw [first, exactBackoff, ← UInt32.toNat_toUInt64 maxMs, ← UInt32.toNat_toUInt64 baseMs, ← doubled]
  split
  · rename_i above
    rw [gt_iff_lt, UInt64.lt_iff_toNat_lt] at above
    omega
  · rename_i below
    rw [gt_iff_lt, UInt64.lt_iff_toNat_lt] at below
    omega

/-- The delay in exact integers: only the cap is computed with wrapping. -/
theorem computeBackoffMs_toNat (attempt : Int) (baseMs maxMs random jitterPctMax : UInt32)
    (percent : jitterPctMax ≤ 100) :
    (computeBackoffMs attempt baseMs maxMs random jitterPctMax).toNat =
      min (withJitter (exactBackoff attempt baseMs.toNat maxMs.toNat)
        (random.toNat % (jitterPctMax.toNat + 1)))
        (totalCap maxMs jitterPctMax).toNat := by
  have bounded : jitterPctMax.toNat ≤ 100 := UInt32.le_iff_toNat_le.mp percent
  have clamp : (random % (jitterPctMax + 1)).toNat = random.toNat % (jitterPctMax.toNat + 1) := by
    have noWrap : (jitterPctMax + 1).toNat = jitterPctMax.toNat + 1 := by
      rw [UInt32.toNat_add]
      exact Nat.mod_eq_of_lt (by simp; omega)
    rw [UInt32.toNat_mod, noWrap]
  have capped := capped_toNat attempt baseMs maxMs
  simp only [computeBackoffMs]
  generalize (if doubleUpTo maxMs.toUInt64 baseMs.toUInt64
    ((if attempt < 1 then 1 else attempt) - 1).toNat >
    maxMs.toUInt64 then maxMs.toUInt64
    else doubleUpTo maxMs.toUInt64 baseMs.toUInt64
      ((if attempt < 1 then 1 else attempt) - 1).toNat) = expMs at capped
  have room : expMs.toNat < 2 ^ 32 := by
    rw [capped, exactBackoff]
    have := maxMs.toNat_lt
    omega
  have share : random.toNat % (jitterPctMax.toNat + 1) ≤ 100 := by
    have := Nat.mod_lt random.toNat (show 0 < jitterPctMax.toNat + 1 by omega)
    omega
  have product : expMs.toNat * (random.toNat % (jitterPctMax.toNat + 1)) ≤ 2 ^ 32 * 100 :=
    Nat.mul_le_mul room.le share
  have total : (expMs + expMs * (random % (jitterPctMax + 1)).toUInt64 / 100).toNat =
      withJitter (exactBackoff attempt baseMs.toNat maxMs.toNat)
        (random.toNat % (jitterPctMax.toNat + 1)) := by
    rw [withJitter, ← capped, UInt64.toNat_add, UInt64.toNat_div, UInt64.toNat_mul,
      UInt32.toNat_toUInt64, clamp, Nat.mod_eq_of_lt (by omega : expMs.toNat * _ < 2 ^ 64)]
    exact Nat.mod_eq_of_lt (by simp; omega)
  have cap := (totalCap maxMs jitterPctMax).toNat_lt
  rw [← total, UInt64.toNat_toUInt32]
  split
  · rename_i above
    rw [gt_iff_lt, UInt64.lt_iff_toNat_lt, UInt32.toNat_toUInt64] at above
    rw [UInt32.toNat_toUInt64]
    omega
  · rename_i below
    rw [gt_iff_lt, UInt64.lt_iff_toNat_lt, UInt32.toNat_toUInt64] at below
    omega

/-- The bounds a delay is to keep, and that a later attempt never waits less. -/
def BoundedBackoff (attempt : Int) (baseMs maxMs random jitterPctMax : UInt32) : Prop :=
  let exact := exactBackoff attempt baseMs.toNat maxMs.toNat
  let delay := (computeBackoffMs attempt baseMs maxMs random jitterPctMax).toNat
  (withJitter exact jitterPctMax.toNat < 2 ^ 32 →
      exact ≤ delay ∧ delay ≤ withJitter exact jitterPctMax.toNat) ∧
    ∀ later ≥ attempt, delay ≤ (computeBackoffMs later baseMs maxMs random jitterPctMax).toNat

theorem computeBackoffMs_le (attempt : Int) (baseMs maxMs random jitterPctMax : UInt32)
    (percent : jitterPctMax ≤ 100) :
    (computeBackoffMs attempt baseMs maxMs random jitterPctMax).toNat ≤
      withJitter (exactBackoff attempt baseMs.toNat maxMs.toNat) jitterPctMax.toNat := by
  have share : random.toNat % (jitterPctMax.toNat + 1) ≤ jitterPctMax.toNat := by
    have := Nat.mod_lt random.toNat (show 0 < jitterPctMax.toNat + 1 by omega)
    omega
  rw [computeBackoffMs_toNat _ _ _ _ _ percent]
  exact (min_le_left _ _).trans (withJitter_mono le_rfl share)

theorem computeBackoffMs_mono (earlier : attempt ≤ later)
    (baseMs maxMs random jitterPctMax : UInt32) (percent : jitterPctMax ≤ 100) :
    (computeBackoffMs attempt baseMs maxMs random jitterPctMax).toNat ≤
      (computeBackoffMs later baseMs maxMs random jitterPctMax).toNat := by
  rw [computeBackoffMs_toNat _ _ _ _ _ percent, computeBackoffMs_toNat _ _ _ _ _ percent]
  exact min_le_min (withJitter_mono (exactBackoff_mono earlier _ _) le_rfl) le_rfl

/-- A delay keeps its bounds exactly where the cap, wrapped as the code computes it, is not
below the exponential. -/
theorem boundedBackoff_iff_cap (attempt : Int) (baseMs maxMs random jitterPctMax : UInt32)
    (percent : jitterPctMax ≤ 100) :
    BoundedBackoff attempt baseMs maxMs random jitterPctMax ↔
      (withJitter (exactBackoff attempt baseMs.toNat maxMs.toNat) jitterPctMax.toNat < 2 ^ 32 →
        exactBackoff attempt baseMs.toNat maxMs.toNat ≤
          (maxMs.toNat + maxMs.toNat * jitterPctMax.toNat % 2 ^ 32 / 100) % 2 ^ 32) := by
  have delay := computeBackoffMs_toNat attempt baseMs maxMs random jitterPctMax percent
  rw [← totalCap_toNat]
  constructor
  · rintro ⟨bounds, -⟩ fits
    have lower := (bounds fits).1
    rw [delay] at lower
    exact lower.trans (min_le_right _ _)
  · intro below
    refine ⟨fun fits => ⟨?_, computeBackoffMs_le _ _ _ _ _ percent⟩,
      fun later after => computeBackoffMs_mono after _ _ _ _ percent⟩
    rw [delay]
    exact le_min (Nat.le_add_right _ _) (below fits)

theorem boundedBackoff_default : BoundedBackoff 1 1000 30000 7 25 :=
  (boundedBackoff_iff_cap 1 1000 30000 7 25 (by decide)).mpr fun _ => by decide

/-- With the largest `max_ms` the wrapped cap is far below the base. -/
theorem boundedBackoff_wraps : ¬ BoundedBackoff 1 2000000000 4294967295 0 100 := by
  rintro ⟨bounds, -⟩
  have lower := (bounds (by decide)).1
  revert lower
  decide

end Kiosk.Protocol
