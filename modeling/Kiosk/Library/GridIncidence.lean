import Mathlib

/-! A matrix of keys, each of which joins two lines. The keys form a grid when every one
joins the line of its row to the line of its column. How often the lines occur does not
decide that; sharing a line in every row and every column does. -/
namespace Kiosk.Library.GridIncidence

variable {ι κ ν : Type} [Fintype ι] [Fintype κ] [DecidableEq ν]

/-- The lines of the rows and of the columns. -/
structure Grid (key : ι → κ → Sym2 ν) (row : ι → ν) (column : κ → ν) : Prop where
  rowInj : Function.Injective row
  columnInj : Function.Injective column
  apart : ∀ i j, row i ≠ column j
  joins : ∀ i j, key i j = s(row i, column j)

/-- The number of keys on a line. -/
def degree (key : ι → κ → Sym2 ν) (line : ν) : Nat :=
  (Finset.univ.filter fun p : ι × κ => line ∈ key p.1 p.2).card

/-- The keys of each row have a line in common, and so have those of each column. -/
structure Shared (key : ι → κ → Sym2 ν) : Prop where
  row : ∀ i, ∃ line, ∀ j, line ∈ key i j
  column : ∀ j, ∃ line, ∀ i, line ∈ key i j

variable {key : ι → κ → Sym2 ν} {row : ι → ν} {column : κ → ν}

omit [Fintype ι] [Fintype κ] [DecidableEq ν] in
theorem Grid.shared (grid : Grid key row column) : Shared key where
  row := fun i => ⟨row i, fun j => by simp [grid.joins]⟩
  column := fun j => ⟨column j, fun i => by simp [grid.joins]⟩

omit [Fintype ι] [Fintype κ] [DecidableEq ν] in
/-- No two keys of a grid join the same lines. -/
theorem Grid.distinct (grid : Grid key row column) (same : key i j = key i' j') :
    i = i' ∧ j = j' := by
  rw [grid.joins, grid.joins, Sym2.eq_iff] at same
  rcases same with ⟨rows, columns⟩ | ⟨crossed, _⟩
  · exact ⟨grid.rowInj rows, grid.columnInj columns⟩
  · exact absurd crossed (grid.apart i j')

theorem Grid.degree_row (grid : Grid key row column) (i : ι) :
    degree key (row i) = Fintype.card κ := by
  have keys : (Finset.univ.filter fun p : ι × κ => row i ∈ key p.1 p.2) = {i} ×ˢ Finset.univ := by
    ext ⟨i', j⟩
    simp [grid.joins, grid.apart, grid.rowInj.eq_iff, eq_comm]
  rw [degree, keys, Finset.card_product, Finset.card_singleton, one_mul, Finset.card_univ]

theorem Grid.degree_column (grid : Grid key row column) (j : κ) :
    degree key (column j) = Fintype.card ι := by
  have keys :
      (Finset.univ.filter fun p : ι × κ => column j ∈ key p.1 p.2) = Finset.univ ×ˢ {j} := by
    ext ⟨i, j'⟩
    simp [grid.joins, Ne.symm (grid.apart i j), grid.columnInj.eq_iff, eq_comm]
  rw [degree, keys, Finset.card_product, Finset.card_singleton, mul_one, Finset.card_univ]

theorem Grid.degree_other (grid : Grid key row column) (noRow : ∀ i, line ≠ row i)
    (noColumn : ∀ j, line ≠ column j) :
    degree key line = 0 := by
  rw [degree, Finset.card_eq_zero, Finset.filter_eq_empty_iff]
  intro p _ inside
  rw [grid.joins, Sym2.mem_iff] at inside
  exact inside.elim (noRow p.1) (noColumn p.2)

/-- A line in every key of a row and in every key of a column is in all of these. -/
private theorem crossing_degree (inRow : ∀ j, line ∈ key i j) (inColumn : ∀ i', line ∈ key i' j) :
    Fintype.card ι + Fintype.card κ ≤ degree key line + 1 := by
  classical
  have cross : {i} ×ˢ Finset.univ ∪ Finset.univ ×ˢ {j} ⊆ Finset.univ.filter fun p :
      ι × κ => line ∈ key p.1 p.2 := by
    rintro ⟨i', j'⟩ member
    simp only [Finset.mem_union, Finset.mem_product, Finset.mem_singleton, Finset.mem_univ,
      and_true, true_and] at member
    rcases member with rfl | rfl
    · simp [inRow]
    · simp [inColumn]
  have counted := Finset.card_union_add_card_inter ({i} ×ˢ (Finset.univ : Finset κ))
    ((Finset.univ : Finset ι) ×ˢ {j})
  have within := Finset.card_le_card cross
  simp only [Finset.product_inter_product, Finset.inter_univ, Finset.univ_inter,
    Finset.card_product, Finset.card_singleton, Finset.card_univ, one_mul, mul_one] at counted
  rw [degree]
  omega

/-- Distinct keys that share a line in every row and column, with no line in as many keys
as a row and a column have together, form a grid. -/
theorem Shared.grid [Nonempty ι] [Nonempty κ] (shared : Shared key)
    (distinct : ∀ i j i' j', key i j = key i' j' → i = i' ∧ j = j')
    (bounded : ∀ line, degree key line + 1 < Fintype.card ι + Fintype.card κ) :
    ∃ row column, Grid key row column := by
  choose row inRow using shared.row
  choose column inColumn using shared.column
  have apart : ∀ i j, row i ≠ column j := fun i j same => by
    have crossing := crossing_degree (inRow i) (same ▸ inColumn j)
    exact absurd (bounded (row i)) (by omega)
  have joins : ∀ i j, key i j = s(row i, column j) := fun i j =>
    (Sym2.mem_and_mem_iff (apart i j)).mp ⟨inRow i j, inColumn j i⟩
  refine ⟨row, column, fun i i' rows => ?_, fun j j' columns => ?_, apart, joins⟩
  · have j := Classical.arbitrary κ
    exact (distinct i j i' j (by rw [joins, joins, rows])).1
  · have i := Classical.arbitrary ι
    exact (distinct i j i j' (by rw [joins, joins, columns])).2

section Profile

omit [Fintype ι] [Fintype κ] [DecidableEq ν] in
/-- A line is a row's, a column's or neither. -/
private theorem line_cases (row : ι → ν) (column : κ → ν) (line : ν) :
    (∃ i, row i = line) ∨ (∃ j, column j = line) ∨ (∀ i, line ≠ row i) ∧ ∀ j, line ≠ column j := by
  by_cases onRow : ∃ i, row i = line
  · exact .inl onRow
  by_cases onColumn : ∃ j, column j = line
  · exact .inr (.inl onColumn)
  · exact .inr (.inr ⟨fun i same => onRow ⟨i, same.symm⟩, fun j same => onColumn ⟨j, same.symm⟩⟩)

variable [Fintype ν] [Nonempty ι] [Nonempty κ]

/-- The number of lines with so many keys. -/
def linesOf (key : ι → κ → Sym2 ν) (count : Nat) : Nat :=
  (Finset.univ.filter fun line => degree key line = count).card

omit [Nonempty ι] in
private theorem Grid.rowLines (grid : Grid key row column)
    (oblong : Fintype.card ι ≠ Fintype.card κ) :
    (Finset.univ.filter fun line => degree key line = Fintype.card κ) = Finset.univ.image row := by
  have columns : 0 < Fintype.card κ := Fintype.card_pos
  ext line
  simp only [Finset.mem_filter, Finset.mem_univ, true_and, Finset.mem_image]
  refine ⟨fun count => ?_, fun ⟨i, same⟩ => same ▸ grid.degree_row i⟩
  rcases line_cases row column line with onRow | ⟨j, rfl⟩ | ⟨noRow, noColumn⟩
  · exact onRow
  · exact absurd (grid.degree_column j) (by omega)
  · exact absurd (grid.degree_other noRow noColumn) (by omega)

omit [Nonempty κ] in
private theorem Grid.columnLines (grid : Grid key row column)
    (oblong : Fintype.card ι ≠ Fintype.card κ) :
    (Finset.univ.filter fun line => degree key line = Fintype.card ι) =
      Finset.univ.image column := by
  have rows : 0 < Fintype.card ι := Fintype.card_pos
  ext line
  simp only [Finset.mem_filter, Finset.mem_univ, true_and, Finset.mem_image]
  refine ⟨fun count => ?_, fun ⟨j, same⟩ => same ▸ grid.degree_column j⟩
  rcases line_cases row column line with ⟨i, rfl⟩ | onColumn | ⟨noRow, noColumn⟩
  · exact absurd (grid.degree_row i) (by omega)
  · exact onColumn
  · exact absurd (grid.degree_other noRow noColumn) (by omega)

private theorem Grid.otherLines (grid : Grid key row column) :
    (Finset.univ.filter fun line => degree key line = 0) =
      (Finset.univ.image row ∪ Finset.univ.image column)ᶜ := by
  have rows : 0 < Fintype.card ι := Fintype.card_pos
  have columns : 0 < Fintype.card κ := Fintype.card_pos
  ext line
  simp only [Finset.mem_filter, Finset.mem_univ, true_and, Finset.mem_compl, Finset.mem_union,
    Finset.mem_image, not_or, not_exists]
  refine ⟨fun count => ⟨fun i same => ?_, fun j same => ?_⟩, fun ⟨noRow, noColumn⟩ =>
    grid.degree_other (fun i same => noRow i same.symm) fun j same => noColumn j same.symm⟩
  · exact absurd (grid.degree_row i) (by rw [same]; omega)
  · exact absurd (grid.degree_column j) (by rw [same]; omega)

/-- How many lines of a grid that is no square have a row's, a column's or no keys. -/
theorem Grid.profile (grid : Grid key row column) (oblong : Fintype.card ι ≠ Fintype.card κ) :
    linesOf key (Fintype.card κ) = Fintype.card ι ∧ linesOf key (Fintype.card ι) = Fintype.card κ ∧
      linesOf key 0 + (Fintype.card ι + Fintype.card κ) = Fintype.card ν := by
  have disjoint : Disjoint (Finset.univ.image row) (Finset.univ.image column) := by
    rw [Finset.disjoint_left]
    intro line onRow onColumn
    obtain ⟨i, _, rfl⟩ := Finset.mem_image.mp onRow
    obtain ⟨j, _, same⟩ := Finset.mem_image.mp onColumn
    exact grid.apart i j same.symm
  have rowCount : (Finset.univ.image row).card = Fintype.card ι :=
    Finset.card_image_of_injective _ grid.rowInj
  have columnCount : (Finset.univ.image column).card = Fintype.card κ :=
    Finset.card_image_of_injective _ grid.columnInj
  have both := Finset.card_union_of_disjoint disjoint
  refine ⟨by rw [linesOf, grid.rowLines oblong, rowCount],
    by rw [linesOf, grid.columnLines oblong, columnCount], ?_⟩
  rw [linesOf, grid.otherLines, ← rowCount, ← columnCount, ← both]
  exact Finset.card_compl_add_card _

end Profile

end Kiosk.Library.GridIncidence
