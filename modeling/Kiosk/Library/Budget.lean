import Mathlib

/-! What the values of a table weigh together, and a budget that holds for any of its
keys. A change of one value costs what it adds; a table cut down to a list of keys
needs what these weigh. -/
namespace Kiosk.Library.Budget

variable {κ ν : Type} (size : ν → Nat)

def cost (find : κ → Option ν) (key : κ) : Nat := (find key).elim 0 size

def total (find : κ → Option ν) (keys : List κ) : Nat := (keys.map (cost size find)).sum

/-- No keys weigh more than the budget together. -/
def Within (find : κ → Option ν) (budget : Nat) : Prop :=
  ∀ keys : List κ, keys.Nodup → total size find keys ≤ budget

variable {size} {find find' : κ → Option ν} {budget : Nat}

@[simp] theorem total_nil : total size find [] = 0 := rfl

@[simp] theorem total_cons (key : κ) (keys : List κ) :
    total size find (key :: keys) = cost size find key + total size find keys := by
  simp [total]

@[simp] theorem total_append (first second : List κ) :
    total size find (first ++ second) = total size find first + total size find second := by
  simp [total]

theorem total_congr {keys : List κ}
    (same : ∀ key ∈ keys, cost size find key = cost size find' key) :
    total size find keys = total size find' keys :=
  congrArg List.sum (List.map_congr_left same)

theorem total_perm {first second : List κ} (perm : first.Perm second) :
    total size find first = total size find second :=
  (perm.map _).sum_eq

/-- Keys without a value weigh nothing. -/
theorem total_known (keys : List κ) :
    total size find (keys.filter fun key => (find key).isSome) = total size find keys := by
  induction keys with
  | nil => rfl
  | cons key rest ih =>
    rw [total_cons, ← ih, cost]
    cases found : find key with
    | none => simp [found]
    | some value => simp [found, cost]

theorem Within.mono (within : Within size find budget) (more : budget ≤ larger) :
    Within size find larger :=
  fun keys distinct => (within keys distinct).trans more

variable [DecidableEq κ]

/-- One value changes. -/
theorem total_change (key : κ) (others : ∀ other, other ≠ key → find' other = find other)
    (here : cost size find' key ≤ cost size find key + extra) {keys : List κ}
    (distinct : keys.Nodup) :
    total size find' keys ≤ total size find keys + extra := by
  have apart (keys : List κ) (absent : key ∉ keys) :
      total size find' keys = total size find keys := by
    refine total_congr fun other member => ?_
    have differ : other ≠ key := by
      rintro rfl
      exact absent member
    rw [cost, cost, others other differ]
  by_cases member : key ∈ keys
  · have perm := List.perm_cons_erase member
    rw [total_perm perm, total_perm perm, total_cons, total_cons, apart _ distinct.not_mem_erase]
    omega
  · rw [apart keys member]
    omega

theorem Within.change (within : Within size find budget) (key : κ)
    (others : ∀ other, other ≠ key → find' other = find other)
    (here : cost size find' key ≤ cost size find key + extra) :
    Within size find' (budget + extra) := by
  intro keys distinct
  have before := within keys distinct
  have after := total_change key others here distinct
  omega

/-- The table of a list of keys. -/
theorem Within.restrict {keep : List κ} (kept : ∀ key ∈ keep, find' key = find key)
    (dropped : ∀ key, key ∉ keep → find' key = none) :
    Within size find' (total size find keep) := by
  intro keys distinct
  have filtered : total size find' keys = total size find (keys.filter (· ∈ keep)) := by
    clear distinct
    induction keys with
    | nil => rfl
    | cons key rest ih =>
      rw [total_cons, ih, cost]
      by_cases member : key ∈ keep
      · simp [member, cost, kept]
      · simp [member, dropped]
  have inside : (keys.filter (· ∈ keep)) ⊆ keep :=
    fun key member => by simpa using (List.mem_filter.mp member).2
  obtain ⟨listed, perm, sublist⟩ := (distinct.filter _).subperm inside
  rw [filtered, ← total_perm perm]
  exact (sublist.map _).sum_le_sum fun _ _ => Nat.zero_le _

end Kiosk.Library.Budget
