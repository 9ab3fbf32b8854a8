import Kiosk.Hardware.KeypadPcf8574
import Kiosk.Library.GridIncidence

/-! `validate_matrix_shape` of `keypad_pcf8574.cpp`: what the counts of the pins say about
a calibration, and what they do not. -/
namespace Kiosk.Hardware

open Library Library.GridIncidence

/-- The smaller pin of an encoded pair. -/
def pinA (pair : UInt8) : Nat := (pair >>> 4).toNat

def pinB (pair : UInt8) : Nat := (pair &&& 0x0F).toNat

/-- `degree[pin]`: how often a pin occurs in the pairs. -/
def pinDegree (pairs : Pairs) (pin : Fin 8) : Nat :=
  (Finset.univ.filter fun i => pinA (pairs i) = pin).card +
    (Finset.univ.filter fun i => pinB (pairs i) = pin).card

/-- The number of pins that occur so often. -/
def pinsOfDegree (pairs : Pairs) (count : Nat) : Nat :=
  (Finset.univ.filter fun pin => pinDegree pairs pin = count).card

def validateMatrixShape (pairs : Pairs) : Bool :=
  (List.finRange kKeyCount).all (fun i =>
    !(pinA (pairs i) ≥ 8 || pinB (pairs i) ≥ 8 || pinA (pairs i) = pinB (pairs i)) &&
      (List.finRange kKeyCount).all fun j => !(j < i && pairs j = pairs i)) &&
  (List.finRange 8).all
    (fun pin => pinDegree pairs pin = 3 || pinDegree pairs pin = 4 || pinDegree pairs pin = 0) &&
  pinsOfDegree pairs 3 = 4 && pinsOfDegree pairs 4 = 3 && pinsOfDegree pairs 0 = 1

/-- The key at a row and a column of the layout, number `3 * i + j`. -/
def keyAt (i : Fin 4) (j : Fin 3) : Fin kKeyCount := ⟨3 * i + j, by simp [kKeyCount]; omega⟩

/-- A pair joins two pins, in either order. -/
def Joins (pair : UInt8) (p q : Nat) : Prop :=
  pinA pair = p ∧ pinB pair = q ∨ pinA pair = q ∧ pinB pair = p

/-- A calibration of a 4x3 matrix: four row pins and three column pins, and every key
joins the pins of its place. -/
def IsMatrix (pairs : Pairs) : Prop :=
  ∃ (row : Fin 4 → Fin 8) (column : Fin 3 → Fin 8),
      Function.Injective row ∧ Function.Injective column ∧
    (∀ i j, row i ≠ column j) ∧ ∀ i j, Joins (pairs (keyAt i j)) (row i) (column j)

/-- Twelve pairs of two pins, the smaller one first. -/
def Encoded (pairs : Pairs) : Prop := ∀ i, pinA (pairs i) < pinB (pairs i) ∧ pinB (pairs i) < 8

instance (pairs : Pairs) : Decidable (Encoded pairs) := inferInstanceAs (Decidable (∀ _, _))

/-- What the code checks, on encoded pairs: no pair twice, and the number of pins of each
degree. -/
structure Counted (pairs : Pairs) : Prop where
  distinct : Function.Injective pairs
  rows : pinsOfDegree pairs 3 = 4
  columns : pinsOfDegree pairs 4 = 3
  unused : pinsOfDegree pairs 0 = 1

/-- What the counts leave open: the keys of each row of the layout share a pin, and those
of each column. -/
structure SharesPins (pairs : Pairs) : Prop where
  row : ∀ i, ∃ pin, ∀ j, pinA (pairs (keyAt i j)) = pin ∨ pinB (pairs (keyAt i j)) = pin
  column : ∀ j, ∃ pin, ∀ i, pinA (pairs (keyAt i j)) = pin ∨ pinB (pairs (keyAt i j)) = pin

/-! The calibration as an incidence of twelve keys on eight lines. -/

section Incidence
variable {pairs : Pairs}

/-- The pins of a key. -/
private def lines (encoded : Encoded pairs) (i : Fin 4) (j : Fin 3) : Sym2 (Fin 8) :=
  s(⟨pinA (pairs (keyAt i j)), (encoded _).1.trans (encoded _).2⟩,
    ⟨pinB (pairs (keyAt i j)), (encoded _).2⟩)

private theorem keyAt_surjective (index : Fin kKeyCount) : ∃ i j, keyAt i j = index := by
  have bound : index.val < 12 := index.isLt
  refine ⟨⟨index.val / 3, by omega⟩, ⟨index.val % 3, by omega⟩, Fin.ext ?_⟩
  exact Nat.div_add_mod index.val 3

private theorem keyAt_injective (same : keyAt i j = keyAt i' j') : i = i' ∧ j = j' := by
  have value : 3 * i.val + j.val = 3 * i'.val + j'.val := congrArg Fin.val same
  exact ⟨Fin.ext (by omega), Fin.ext (by omega)⟩

private theorem mem_lines (encoded : Encoded pairs) (pin : Fin 8) (i : Fin 4) (j : Fin 3) :
    pin ∈ lines encoded i j ↔ pinA (pairs (keyAt i j)) = pin ∨ pinB (pairs (keyAt i j)) = pin := by
  simp [lines, Sym2.mem_iff, Fin.ext_iff, eq_comm]

private theorem joins_iff (encoded : Encoded pairs) (p q : Fin 8) (i : Fin 4) (j : Fin 3) :
    Joins (pairs (keyAt i j)) p q ↔ lines encoded i j = s(p, q) := by
  simp [Joins, lines, Fin.ext_iff]

private theorem isMatrix_iff (encoded : Encoded pairs) :
    IsMatrix pairs ↔ ∃ row column, Grid (lines encoded) row column := by
  constructor
  · rintro ⟨row, column, rowInj, columnInj, apart, joins⟩
    exact ⟨row, column, rowInj, columnInj, apart,
      fun i j => (joins_iff encoded _ _ i j).mp (joins i j)⟩
  · rintro ⟨row, column, grid⟩
    exact ⟨row, column, grid.rowInj, grid.columnInj, grid.apart,
      fun i j => (joins_iff encoded _ _ i j).mpr (grid.joins i j)⟩

private theorem sharesPins_iff (encoded : Encoded pairs) :
    SharesPins pairs ↔ Shared (lines encoded) := by
  constructor
  · intro shares
    refine ⟨fun i => ?_, fun j => ?_⟩
    · obtain ⟨pin, inside⟩ := shares.row i
      have small : pin < 8 := by
        have bounds := encoded (keyAt i 0)
        rcases inside 0 with same | same <;> omega
      exact ⟨⟨pin, small⟩, fun j => (mem_lines encoded _ i j).mpr (inside j)⟩
    · obtain ⟨pin, inside⟩ := shares.column j
      have small : pin < 8 := by
        have bounds := encoded (keyAt 0 j)
        rcases inside 0 with same | same <;> omega
      exact ⟨⟨pin, small⟩, fun i => (mem_lines encoded _ i j).mpr (inside i)⟩
  · intro shared
    refine ⟨fun i => ?_, fun j => ?_⟩
    · obtain ⟨line, inside⟩ := shared.row i
      exact ⟨line, fun j => (mem_lines encoded _ i j).mp (inside j)⟩
    · obtain ⟨line, inside⟩ := shared.column j
      exact ⟨line, fun i => (mem_lines encoded _ i j).mp (inside i)⟩

private theorem pinA_eq (pair : UInt8) : pinA pair = pair.toNat / 16 := by
  rw [pinA, UInt8.toNat_shiftRight]
  exact Nat.shiftRight_eq_div_pow _ _

private theorem pinB_eq (pair : UInt8) : pinB pair = pair.toNat % 16 := by
  rw [pinB, UInt8.toNat_and]
  exact Nat.and_two_pow_sub_one_eq_mod _ 4

/-- A pair is determined by its pins. -/
private theorem pair_of_pins {pair pair' : UInt8} (a : pinA pair = pinA pair')
    (b : pinB pair = pinB pair') :
    pair = pair' := by
  rw [pinA_eq, pinA_eq] at a
  rw [pinB_eq, pinB_eq] at b
  exact UInt8.toNat_inj.mp (by omega)

private theorem distinct_iff (encoded : Encoded pairs) :
    Function.Injective pairs ↔
      ∀ i j i' j', lines encoded i j = lines encoded i' j' → i = i' ∧ j = j' := by
  constructor
  · intro distinct i j i' j' same
    have first := (encoded (keyAt i j)).1
    have second := (encoded (keyAt i' j')).1
    simp only [lines, Sym2.eq_iff, Fin.mk.injEq] at same
    rcases same with ⟨a, b⟩ | ⟨a, b⟩
    · exact keyAt_injective (distinct (pair_of_pins a b))
    · omega
  · intro distinct index index' same
    obtain ⟨i, j, rfl⟩ := keyAt_surjective index
    obtain ⟨i', j', rfl⟩ := keyAt_surjective index'
    have places := distinct i j i' j' (by simp only [lines, same])
    rw [places.1, places.2]

/-- The two counts of a pin are the keys on its line. -/
private theorem pinDegree_eq (encoded : Encoded pairs) (pin : Fin 8) :
    pinDegree pairs pin = degree (lines encoded) pin := by
  have apart : Disjoint (Finset.univ.filter fun i => pinA (pairs i) = pin)
      (Finset.univ.filter fun i => pinB (pairs i) = pin) := by
    rw [Finset.disjoint_filter]
    intro index _ a b
    have order := (encoded index).1
    omega
  have keys : (Finset.univ.filter fun i => pinA (pairs i) = pin ∨ pinB (pairs i) = pin) =
      (Finset.univ.filter fun p : Fin 4 × Fin 3 => pin ∈ lines encoded p.1 p.2).image fun p =>
        keyAt p.1 p.2 := by
    ext index
    obtain ⟨i, j, rfl⟩ := keyAt_surjective index
    simp only [Finset.mem_filter, Finset.mem_univ, true_and, Finset.mem_image, Prod.exists]
    constructor
    · exact fun inside => ⟨i, j, (mem_lines encoded pin i j).mpr inside, rfl⟩
    · rintro ⟨i', j', inside, same⟩
      rw [← same]
      exact (mem_lines encoded pin i' j').mp inside
  have placed : Function.Injective fun p : Fin 4 × Fin 3 => keyAt p.1 p.2 := fun p p' same =>
    Prod.ext (keyAt_injective same).1 (keyAt_injective same).2
  rw [pinDegree, ← Finset.card_union_of_disjoint apart, ← Finset.filter_or, keys,
    Finset.card_image_of_injective _ placed, degree]

private theorem pinsOfDegree_eq (encoded : Encoded pairs) (count : Nat) :
    pinsOfDegree pairs count = linesOf (lines encoded) count := by
  rw [pinsOfDegree, linesOf]
  simp only [pinDegree_eq encoded]

/-- Eight pins with these counts have no other degree. -/
private theorem Counted.degrees (counted : Counted pairs) (pin : Fin 8) :
    pinDegree pairs pin = 3 ∨ pinDegree pairs pin = 4 ∨ pinDegree pairs pin = 0 := by
  have ends : Disjoint (Finset.univ.filter fun pin => pinDegree pairs pin = 4)
      (Finset.univ.filter fun pin => pinDegree pairs pin = 0) := by
    rw [Finset.disjoint_filter]
    intro pin _ four zero
    omega
  have rest : Disjoint (Finset.univ.filter fun pin => pinDegree pairs pin = 3)
      (Finset.univ.filter fun pin => pinDegree pairs pin = 4 ∨ pinDegree pairs pin = 0) := by
    rw [Finset.disjoint_filter]
    intro pin _ three other
    omega
  have total : (Finset.univ.filter fun pin =>
      pinDegree pairs pin = 3 ∨ pinDegree pairs pin = 4 ∨ pinDegree pairs pin = 0).card =
        Fintype.card (Fin 8) := by
    have rows := counted.rows
    have columns := counted.columns
    have unused := counted.unused
    rw [pinsOfDegree] at rows columns unused
    rw [Finset.filter_or, Finset.card_union_of_disjoint rest, Finset.filter_or,
      Finset.card_union_of_disjoint ends, rows, columns, unused, Fintype.card_fin]
  have all := Finset.eq_univ_of_card _ total
  have member := Finset.mem_univ pin
  rw [← all, Finset.mem_filter] at member
  exact member.2

end Incidence

/-- On encoded pairs the code checks the counts and nothing else. -/
theorem validateMatrixShape_iff (encoded : Encoded pairs) :
    validateMatrixShape pairs = true ↔ Counted pairs := by
  have pins (i) :
      ¬ 8 ≤ pinA (pairs i) ∧ ¬ 8 ≤ pinB (pairs i) ∧ ¬ pinA (pairs i) = pinB (pairs i) := by
    have order := encoded i
    omega
  constructor
  · intro accepted
    simp only [validateMatrixShape, Bool.and_eq_true, List.all_eq_true, List.mem_finRange,
      forall_const, decide_eq_true_eq, Bool.not_eq_true', Bool.and_eq_false_iff,
      decide_eq_false_iff_not] at accepted
    obtain ⟨⟨⟨⟨checked, _⟩, rows⟩, columns⟩, unused⟩ := accepted
    refine ⟨fun i j same => ?_, rows, columns, unused⟩
    rcases lt_trichotomy i j with before | rfl | after
    · exact ((checked j).2 i).elim (absurd before) (absurd same)
    · rfl
    · exact ((checked i).2 j).elim (absurd after) (absurd same.symm)
  · intro counted
    simp only [validateMatrixShape, Bool.and_eq_true, List.all_eq_true, List.mem_finRange,
      forall_const,
      decide_eq_true_eq, Bool.not_eq_true', Bool.and_eq_false_iff, Bool.or_eq_false_iff,
        decide_eq_false_iff_not,
      Bool.or_eq_true]
    refine ⟨⟨⟨⟨fun i => ⟨⟨⟨(pins i).1, (pins i).2.1⟩, (pins i).2.2⟩, fun j => ?_⟩, fun pin => ?_⟩,
      counted.rows⟩, counted.columns⟩, counted.unused⟩
    · by_cases same : pairs j = pairs i
      · exact .inl (by rw [counted.distinct same]; exact lt_irrefl _)
      · exact .inr same
    · exact or_assoc.mpr (counted.degrees pin)

theorem IsMatrix.sharesPins (encoded : Encoded pairs) (isMatrix : IsMatrix pairs) :
    SharesPins pairs := by
  obtain ⟨row, column, grid⟩ := (isMatrix_iff encoded).mp isMatrix
  exact (sharesPins_iff encoded).mpr grid.shared

/-- Every 4x3 matrix passes the counts. -/
theorem IsMatrix.counted (encoded : Encoded pairs) (isMatrix : IsMatrix pairs) : Counted pairs := by
  obtain ⟨row, column, grid⟩ := (isMatrix_iff encoded).mp isMatrix
  have profile := grid.profile (by decide)
  simp only [Fintype.card_fin] at profile
  refine ⟨(distinct_iff encoded).mpr fun i j i' j' same => grid.distinct same, ?_, ?_, ?_⟩
  · rw [pinsOfDegree_eq encoded, profile.1]
  · rw [pinsOfDegree_eq encoded, profile.2.1]
  · rw [pinsOfDegree_eq encoded]
    omega

/-- Pairs that pass the counts and share their pins are a matrix: a pin of a row and of a
column at once would be in six keys. -/
theorem Counted.isMatrix (encoded : Encoded pairs) (counted : Counted pairs)
    (shares : SharesPins pairs) :
    IsMatrix pairs := by
  refine (isMatrix_iff encoded).mpr (((sharesPins_iff encoded).mp shares).grid
    ((distinct_iff encoded).mp counted.distinct) fun line => ?_)
  have degrees := counted.degrees line
  rw [← pinDegree_eq encoded, Fintype.card_fin, Fintype.card_fin]
  omega

/-- The check accepts exactly the 4x3 matrices when the counts it makes leave nothing open:
pairs that pass them share a pin along every row and every column of the layout. -/
theorem validate_iff_matrix (pairs : Pairs) (encoded : Encoded pairs) :
    (validateMatrixShape pairs = true ↔ IsMatrix pairs) ↔ (Counted pairs → SharesPins pairs) := by
  rw [validateMatrixShape_iff encoded]
  constructor
  · exact fun agrees counted => (agrees.mp counted).sharesPins encoded
  · exact fun shares =>
      ⟨fun counted => counted.isMatrix encoded (shares counted),
      fun isMatrix => isMatrix.counted encoded⟩

theorem validate_iff_matrix_wired :
    (validateMatrixShape KeypadPcf8574.wired.pairs = true ↔ IsMatrix KeypadPcf8574.wired.pairs) ↔
      (Counted KeypadPcf8574.wired.pairs → SharesPins KeypadPcf8574.wired.pairs) :=
  validate_iff_matrix KeypadPcf8574.wired.pairs (by decide)

/-- The keys `1` and `5` recorded for each other. -/
def swappedPairs : Pairs := KeypadPcf8574.wired.pairs ∘ Equiv.swap (keyAt 0 0) (keyAt 1 1)

/-- The swap passes the check and is no matrix. -/
theorem validate_swapped :
    Encoded swappedPairs ∧ validateMatrixShape swappedPairs = true ∧ ¬ IsMatrix swappedPairs := by
  have encoded : Encoded swappedPairs := by decide +kernel
  refine ⟨encoded, by decide +kernel, fun isMatrix => ?_⟩
  obtain ⟨pin, inside⟩ := (isMatrix.sharesPins encoded).row 0
  have pins : pinA (swappedPairs (keyAt 0 0)) = 1 ∧ pinB (swappedPairs (keyAt 0 0)) = 5 ∧
      pinA (swappedPairs (keyAt 0 2)) = 0 ∧ pinB (swappedPairs (keyAt 0 2)) = 6 := by decide +kernel
  have first := inside 0
  have third := inside 2
  omega

end Kiosk.Hardware
