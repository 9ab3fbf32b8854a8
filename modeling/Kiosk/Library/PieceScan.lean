import Mathlib

/-! Scanning a list from the left, one piece off its front in each step. -/
namespace Kiosk.Library.PieceScan

variable {α β : Type} (takes : List α → β → List α → Prop)

/-- The scan of `input` yields `pieces` and comes to stand at `rest`. -/
inductive Scan : List α → List β → List α → Prop where
  | here (input : List α) : Scan input [] input
  | step (first : takes input piece left) (further : Scan left pieces rest) :
      Scan input (piece :: pieces) rest

/-- Each step is determined by its input and uses up some of it. -/
structure Lawful : Prop where
  functional : ∀ input piece left other left', takes input piece left → takes input other left' →
    piece = other ∧ left = left'
  consumes : ∀ input piece left, takes input piece left →
    ∃ front, front ≠ [] ∧ input = front ++ left

/-- A step looks no further than the piece it takes. -/
def Local : Prop :=
  ∀ input piece left more, takes (input ++ more) piece (left ++ more) → takes input piece left

variable {takes} {input left rest : List α} {pieces : List β}

theorem Scan.append (first : Scan takes input pieces left) (second : Scan takes left more rest) :
    Scan takes input (pieces ++ more) rest := by
  induction first with
  | here => exact second
  | step one _ ih => exact .step one (ih second)

theorem Lawful.suffix (lawful : Lawful takes) (scan : Scan takes input pieces rest) :
    rest <:+ input := by
  induction scan with
  | here => exact List.suffix_rfl
  | step first _ ih =>
    obtain ⟨front, -, rfl⟩ := lawful.consumes _ _ _ first
    exact ih.trans (List.suffix_append front _)

theorem Lawful.length_le (lawful : Lawful takes) (scan : Scan takes input pieces rest) :
    pieces.length + rest.length ≤ input.length := by
  induction scan with
  | here => simp
  | step first _ ih =>
    obtain ⟨front, nonempty, rfl⟩ := lawful.consumes _ _ _ first
    have := List.length_pos_iff.mpr nonempty
    simp only [List.length_cons, List.length_append]
    omega

theorem Lawful.stuck (lawful : Lawful takes) (piece : β) (left : List α) :
    ¬ takes [] piece left := by
  intro taken
  obtain ⟨front, nonempty, empty⟩ := lawful.consumes _ _ _ taken
  exact nonempty (List.append_eq_nil_iff.mp empty.symm).1

/-- A scan to the end is the only one. -/
theorem Lawful.unique (lawful : Lawful takes) (one : Scan takes input pieces [])
    (two : Scan takes input other []) :
    pieces = other := by
  generalize empty : ([] : List α) = rest at one
  induction one generalizing other with
  | here =>
    subst empty
    cases two with
    | here => rfl
    | step first _ => exact absurd first (lawful.stuck _ _)
  | step first further ih =>
    cases two with
    | here => exact absurd first (lawful.stuck _ _)
    | step first' further' =>
      obtain ⟨rfl, rfl⟩ := lawful.functional _ _ _ _ _ first first'
      rw [ih further' empty]

/-- Where every good input that is not used up has a step to a good one, the scan gets to
the end. -/
theorem Lawful.exists_scan (lawful : Lawful takes) (good : List α → Prop)
    (progress : ∀ input, good input → input ≠ [] → ∃ piece left, takes input piece left ∧ good left)
    (start : good input) : ∃ pieces, Scan takes input pieces [] := by
  induction size : input.length using Nat.strong_induction_on generalizing input with
  | _ size' ih =>
    subst size
    by_cases empty : input = []
    · exact ⟨[], empty ▸ .here input⟩
    · obtain ⟨piece, left, taken, kept⟩ := progress input start empty
      obtain ⟨front, nonempty, rfl⟩ := lawful.consumes _ _ _ taken
      have shorter : left.length < (front ++ left).length := by
        have := List.length_pos_iff.mpr nonempty
        rw [List.length_append]
        omega
      obtain ⟨pieces, scan⟩ := ih left.length shorter kept rfl
      exact ⟨piece :: pieces, .step taken scan⟩

/-- A scan that comes to stand at a boundary is a scan of what lies before it. -/
theorem Lawful.before_boundary (lawful : Lawful takes) (isLocal : Local takes)
    (scan : Scan takes (front ++ rest) pieces rest) : Scan takes front pieces [] := by
  generalize whole : front ++ rest = input at scan
  induction scan generalizing front with
  | here =>
    rw [List.append_left_eq_self.mp whole]
    exact .here []
  | step first further ih =>
    subst whole
    obtain ⟨middle, rfl⟩ := lawful.suffix further
    exact .step (isLocal _ _ _ _ first) (ih rfl)

end Kiosk.Library.PieceScan
