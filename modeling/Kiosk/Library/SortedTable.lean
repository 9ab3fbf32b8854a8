import Mathlib

/-! Tables whose keys increase from entry to entry, and how far a search may narrow the
positions it still looks at. -/
namespace Kiosk.Library.SortedTable

variable {α κ : Type} [LinearOrder κ] (key : α → κ)

def Increasing (table : List α) : Prop := table.Pairwise fun one other => key one < key other

/-- The first entry with the key. -/
def linearSearch (table : List α) (wanted : κ) : Option α :=
  table.find? fun entry => key entry = wanted

/-- Every entry with the key stands between the two positions. -/
def Within (table : List α) (wanted : κ) (lo hi : Int) : Prop :=
  ∀ (i : Nat) (inside : i < table.length), key table[i] = wanted → lo ≤ i ∧ i ≤ hi

variable {key} {table : List α} {wanted : κ} {lo hi : Int}

theorem Increasing.lt (increasing : Increasing key table) (before : i < j)
    (inside : j < table.length) :
    key table[i] < key table[j] :=
  List.pairwise_iff_getElem.mp increasing i j (before.trans inside) inside before

omit [LinearOrder κ] in
theorem within_all : Within key table wanted 0 (table.length - 1) := by
  intro i inside _
  omega

/-- Nothing at or before a smaller key can match. -/
theorem Within.above (within : Within key table wanted lo hi) (increasing : Increasing key table)
    (inside : mid < table.length) (smaller : key table[mid] < wanted) :
    Within key table wanted (mid + 1) hi := by
  intro i there found
  refine ⟨?_, (within i there found).2⟩
  by_contra before
  rcases Nat.lt_or_eq_of_le (by omega : i ≤ mid) with less | rfl
  · exact absurd ((increasing.lt less inside).trans smaller) (by simp [found])
  · exact absurd smaller (by simp [found])

/-- Nothing at or after a greater key can match. -/
theorem Within.below (within : Within key table wanted lo hi) (increasing : Increasing key table)
    (inside : mid < table.length) (greater : wanted < key table[mid]) :
    Within key table wanted lo (mid - 1) := by
  intro i there found
  refine ⟨(within i there found).1, ?_⟩
  by_contra after
  rcases Nat.lt_or_eq_of_le (by omega : mid ≤ i) with more | rfl
  · exact absurd (greater.trans (increasing.lt more there)) (by simp [found])
  · exact absurd greater (by simp [found])

/-- Where no position is left, no entry has the key. -/
theorem Within.none (within : Within key table wanted lo hi) (empty : hi < lo) :
    linearSearch key table wanted = none := by
  rw [linearSearch, List.find?_eq_none]
  intro entry member found
  obtain ⟨i, inside, rfl⟩ := List.getElem_of_mem member
  have := within i inside (of_decide_eq_true found)
  omega

theorem linearSearch_eq_some (increasing : Increasing key table) :
    linearSearch key table wanted = some entry ↔ entry ∈ table ∧ key entry = wanted := by
  constructor
  · intro found
    exact ⟨List.mem_of_find?_eq_some found, by simpa using List.find?_some found⟩
  · rintro ⟨member, rfl⟩
    obtain ⟨i, inside, rfl⟩ := List.getElem_of_mem member
    rw [linearSearch, List.find?_eq_some_iff_getElem]
    exact ⟨by simp, i, inside, rfl, fun j before => by simpa using (increasing.lt before inside).ne⟩

theorem linearSearch_eq_none :
    linearSearch key table wanted = none ↔ ∀ entry ∈ table, key entry ≠ wanted := by
  simp [linearSearch]

/-- In a table with increasing keys the entry at a position is what a search for its key
finds. -/
theorem linearSearch_getElem (increasing : Increasing key table) (inside : i < table.length) :
    linearSearch key table (key table[i]) = some table[i] :=
  (linearSearch_eq_some increasing).mpr ⟨List.getElem_mem inside, rfl⟩

end Kiosk.Library.SortedTable
