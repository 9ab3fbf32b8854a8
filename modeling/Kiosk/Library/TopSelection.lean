import Mathlib

/-! The first `n` of a list in descending order of a key, and when another choice of
as many items is the same one. -/
namespace Kiosk.Library.TopSelection

variable {α β : Type} [LinearOrder β]

/-- Everything chosen is above everything else. -/
def Separates (key : α → β) (chosen items : List α) : Prop :=
  ∀ a ∈ chosen, ∀ b ∈ items, b ∉ chosen → key b < key a

instance [DecidableEq α] (key : α → β) (chosen items : List α) :
    Decidable (Separates key chosen items) :=
  inferInstanceAs (Decidable (∀ a ∈ chosen, ∀ b ∈ items, b ∉ chosen → key b < key a))

/-- `sorted` lists the items, the greatest key first. -/
structure Descending (key : α → β) (sorted items : List α) : Prop where
  perm : sorted.Perm items
  ordered : sorted.Pairwise fun a b => key b ≤ key a

namespace Descending

variable {key : α → β} {sorted items : List α}

theorem take_le (descending : Descending key sorted items) {n : Nat}
    (taken : a ∈ sorted.take n) (left : b ∈ sorted.drop n) : key b ≤ key a := by
  have split := descending.ordered
  rw [← List.take_append_drop n sorted, List.pairwise_append] at split
  exact split.2.2 a taken b left

theorem mem_take_or_drop (descending : Descending key sorted items) (n : Nat) (member : a ∈ items) :
    a ∈ sorted.take n ∨ a ∈ sorted.drop n := by
  rw [← List.mem_append, List.take_append_drop]
  exact descending.perm.mem_iff.mpr member

theorem length_take (descending : Descending key sorted items) (n : Nat) :
    (sorted.take n).length = min n items.length := by
  rw [List.length_take, descending.perm.length_eq]

theorem mem_of_take (descending : Descending key sorted items) {n : Nat}
    (taken : a ∈ sorted.take n) : a ∈ items :=
  descending.perm.mem_iff.mp (List.mem_of_mem_take taken)

theorem nodup (descending : Descending key sorted items) (distinct : items.Nodup) (n : Nat) :
    (sorted.take n).Nodup :=
  (descending.perm.nodup_iff.mpr distinct).sublist (List.take_sublist n sorted)

/-- As many items that are above all others are the first ones. -/
theorem mem_take_iff (descending : Descending key sorted items) {chosen : List α} {n : Nat}
    (distinct : items.Nodup)
    (once : chosen.Nodup) (inside : chosen ⊆ items) (many : chosen.length = min n items.length)
    (separates : Separates key chosen items) (a : α) : a ∈ sorted.take n ↔ a ∈ chosen := by
  have length : (sorted.take n).length = chosen.length := by rw [descending.length_take, many]
  have subset : sorted.take n ⊆ chosen := by
    intro b taken
    by_contra outside
    have missing : ∃ c ∈ chosen, c ∉ sorted.take n := by
      by_contra all
      have covered : chosen ⊆ sorted.take n :=
        fun c member => by_contra fun free => all ⟨c, member, free⟩
      have same := (once.subperm covered).perm_of_length_le length.le
      exact outside (same.mem_iff.mpr taken)
    obtain ⟨c, member, free⟩ := missing
    have left := (descending.mem_take_or_drop n (inside member)).resolve_left free
    have below := separates c member b (descending.mem_of_take taken) outside
    exact absurd (descending.take_le taken left) (not_le.mpr below)
  constructor
  · intro taken
    exact subset taken
  · intro member
    have same := ((descending.nodup distinct n).subperm subset).perm_of_length_le length.ge
    exact same.mem_iff.mpr member

/-- Where no two items have one key, the first ones are above all others. -/
theorem separates (descending : Descending key sorted items)
    (single : ∀ a ∈ items, ∀ b ∈ items, key a = key b → a = b) (n : Nat) :
    Separates key (sorted.take n) items := by
  intro a taken b member outside
  have left := (descending.mem_take_or_drop n member).resolve_left outside
  refine lt_of_le_of_ne (descending.take_le taken left) fun same => outside ?_
  rw [single b member a (descending.mem_of_take taken) same]
  exact taken

/-- What stands before a taken item is taken. -/
theorem taken_of_before (descending : Descending key sorted items) {n : Nat}
    (distinct : items.Nodup)
    (before : [a, b].Sublist sorted) (taken : b ∈ sorted.take n) : a ∈ sorted.take n := by
  have once : (sorted.take n ++ sorted.drop n).Nodup := by
    rw [List.take_append_drop]
    exact descending.perm.nodup_iff.mpr distinct
  rw [← List.take_append_drop n sorted, List.sublist_append_iff] at before
  obtain ⟨first, second, split, kept, left⟩ := before
  cases first with
  | nil =>
    rw [List.nil_append] at split
    have late : b ∈ sorted.drop n := left.subset (by simp [← split])
    exact absurd late ((List.nodup_append'.mp once).2.2 taken)
  | cons head rest =>
    rw [List.cons_append, List.cons.injEq] at split
    exact kept.subset (by simp [split.1])

end Descending

/-- Two items stand in one order or in the other. -/
theorem before_or_reverse {items : List α} (first : a ∈ items) (second : b ∈ items)
    (differ : a ≠ b) :
    [a, b].Sublist items ∨ [a, b].Sublist items.reverse := by
  obtain ⟨front, back, rfl⟩ := List.append_of_mem first
  rcases List.mem_append.mp second with early | late
  · right
    have order : [b, a].Sublist (front ++ a :: back) :=
      (List.singleton_sublist.mpr early).append (List.singleton_sublist.mpr (by simp))
    exact order.reverse
  · left
    have after : b ∈ back := (List.mem_cons.mp late).resolve_left (Ne.symm differ)
    exact (List.nil_sublist front).append ((List.singleton_sublist.mpr after).cons_cons a)

end Kiosk.Library.TopSelection
