import Mathlib.Data.List.Basic

/-! A table of the first answer to each key. A server that consults it before it acts
answers a key once and repeats itself from then on; a repeat is recognised by its digest. -/
namespace Kiosk.Library.ReplyCache

variable {κ δ ω ρ : Type} [DecidableEq κ]

/-- Each key with the digest of its first request and the answer it got. -/
abbrev Table (κ δ ω : Type) := List (κ × δ × ω)

def lookup (table : Table κ δ ω) (key : κ) : Option (δ × ω) :=
  (table.find? fun entry => entry.1 = key).map Prod.snd

@[simp] theorem lookup_nil (key : κ) : lookup ([] : Table κ δ ω) key = none := rfl

theorem lookup_cons (table : Table κ δ ω) (key other : κ) (entry : δ × ω) :
    lookup ((key, entry) :: table) other = if key = other then some entry
      else lookup table other := by
  by_cases same : key = other <;> simp [lookup, same]

variable (keyOf : ρ → κ) (digest : ρ → δ)

/-- The first request of a key in a history, with its answer. -/
def firstOf (history : List (ρ × ω)) (key : κ) : Option (ρ × ω) :=
  history.find? fun answered => keyOf answered.1 = key

/-- The table holds exactly the first answers of the history. -/
def Remembers (table : Table κ δ ω) (history : List (ρ × ω)) : Prop :=
  ∀ key, lookup table key = (firstOf keyOf history key).map fun answered =>
    (digest answered.1, answered.2)

variable {keyOf digest}

theorem remembers_start : Remembers keyOf digest ([] : Table κ δ ω) [] := fun _ => rfl

theorem firstOf_append (history : List (ρ × ω)) (answered : ρ × ω) (key : κ) :
    firstOf keyOf (history ++ [answered]) key =
      (firstOf keyOf history key).or (if keyOf answered.1 = key then some answered else none) := by
  rw [firstOf, List.find?_append, ← firstOf]
  by_cases same : keyOf answered.1 = key <;> simp [same]

/-- A repeat leaves the table as it is. -/
theorem Remembers.repeated {table : Table κ δ ω} {history : List (ρ × ω)}
    (remembers : Remembers keyOf digest table history)
    {request : ρ} (known : lookup table (keyOf request) ≠ none) (answer : ω) :
    Remembers keyOf digest table (history ++ [(request, answer)]) := by
  intro key
  rw [firstOf_append]
  by_cases same : keyOf request = key
  · subst same
    have found : firstOf keyOf history (keyOf request) ≠ none := by
      intro missing
      exact known (by rw [remembers, missing, Option.map_none])
    obtain ⟨first, spelled⟩ := Option.ne_none_iff_exists'.mp found
    rw [remembers, spelled]
    simp
  · rw [if_neg same, Option.or_none]
    exact remembers key

/-- The first request of a key is entered with its answer. -/
theorem Remembers.entered {table : Table κ δ ω} {history : List (ρ × ω)}
    (remembers : Remembers keyOf digest table history)
    {request : ρ} (unknown : lookup table (keyOf request) = none) (answer : ω) :
    Remembers keyOf digest ((keyOf request, digest request, answer) :: table)
      (history ++ [(request, answer)]) := by
  intro key
  rw [firstOf_append, lookup_cons]
  by_cases same : keyOf request = key
  · subst same
    have missing : firstOf keyOf history (keyOf request) = none := by
      rw [remembers, Option.map_eq_none_iff] at unknown
      exact unknown
    simp [missing]
  · rw [if_neg same, if_neg same, Option.or_none]
    exact remembers key

end Kiosk.Library.ReplyCache
