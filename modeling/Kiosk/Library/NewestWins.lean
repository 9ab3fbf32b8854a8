import Mathlib

/-! A register that keeps the newest of what it is offered and the first of equals.
After any sequence of offers it holds the first item of the greatest version. -/
namespace Kiosk.Library.NewestWins

variable {α β : Type} [LinearOrder β] (version : α → β)

def keep (held : Option α) (incoming : α) : Option α :=
  match held with
  | none => some incoming
  | some current => if version current < version incoming then some incoming else some current

theorem foldl_keep (items : List α) : items.foldl (keep version) none = items.argmax version := by
  induction items using List.reverseRecOn with
  | nil => rfl
  | append_singleton items item ih =>
    rw [List.foldl_append, ih, List.argmax_concat]
    cases items.argmax version <;> rfl

variable {version}

/-- An item that is kept is held afterwards, or what is held is at least as new. -/
theorem le_keep (held : Option α) (incoming : α) {current : α} (before : current ∈ held) :
    ∃ now ∈ keep version held incoming, version current ≤ version now := by
  obtain rfl := Option.mem_def.mp before
  rw [keep]
  split
  · rename_i newer
    exact ⟨incoming, rfl, newer.le⟩
  · exact ⟨current, rfl, le_rfl⟩

/-- Where items of one version are equal, only the set of the offers matters. -/
theorem argmax_congr {first second : List α} (same : ∀ item, item ∈ first ↔ item ∈ second)
    (single : ∀ a ∈ first, ∀ b ∈ first, version a = version b → a = b) :
    first.argmax version = second.argmax version := by
  cases found : first.argmax version with
  | none =>
    have empty := List.argmax_eq_none.mp found
    have none : second = [] := List.eq_nil_iff_forall_not_mem.mpr fun item member => by
      simpa [empty] using (same item).mpr member
    rw [none, List.argmax_nil]
  | some greatest =>
    have inside := List.argmax_mem found
    cases other : second.argmax version with
    | none =>
      have empty := List.argmax_eq_none.mp other
      rw [same, empty] at inside
      cases inside
    | some rival =>
      have member := List.argmax_mem other
      have le := List.le_of_mem_argmax ((same rival).mpr member) found
      have ge := List.le_of_mem_argmax ((same greatest).mp inside) other
      rw [single greatest inside rival ((same rival).mpr member) (le_antisymm ge le)]

end Kiosk.Library.NewestWins
