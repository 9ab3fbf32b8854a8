import Mathlib.Order.Basic
import Mathlib.Data.List.Basic

/-! Sources that are looked at while they change. Where a source changes its look only
together with a higher version, two looks at it of one version are the same. -/
namespace Kiosk.Library.VersionedViews

variable {κ σ ω β : Type} [Preorder β] (view : σ → ω) (version : ω → β)

/-- From one look to a later one: the same, or of a higher version. -/
def Follows (earlier later : ω) : Prop := version earlier < version later ∨ earlier = later

/-- What was seen of the sources fits their present state and is in order. -/
structure Consistent (current : κ → σ) (seen : List (κ × ω)) : Prop where
  settled : ∀ entry ∈ seen, Follows version entry.2 (view (current entry.1))
  ordered : seen.Pairwise fun earlier later =>
    earlier.1 = later.1 → Follows version earlier.2 later.2

variable {view version}

theorem Follows.refl (look : ω) : Follows version look look := .inr rfl

theorem Follows.trans {first second third : ω} (before : Follows version first second)
    (after : Follows version second third) : Follows version first third := by
  rcases before with less | rfl
  · rcases after with more | rfl
    · exact .inl (less.trans more)
    · exact .inl less
  · exact after

theorem Follows.le {earlier later : ω} (follows : Follows version earlier later) :
    version earlier ≤ version later := by
  rcases follows with less | rfl
  · exact less.le
  · exact le_rfl

theorem Follows.same {earlier later : ω} (follows : Follows version earlier later)
    (level : version earlier = version later) : earlier = later := by
  rcases follows with less | same
  · exact absurd level less.ne
  · exact same

variable {current next : κ → σ} {seen : List (κ × ω)}

theorem consistent_start : Consistent view version current [] := ⟨by simp, .nil⟩

theorem Consistent.advance (consistent : Consistent view version current seen)
    (follows : ∀ key, Follows version (view (current key)) (view (next key))) :
    Consistent view version next seen where
  settled := fun entry mem => (consistent.settled entry mem).trans (follows entry.1)
  ordered := consistent.ordered

theorem Consistent.look (consistent : Consistent view version current seen) (key : κ) :
    Consistent view version current (seen ++ [(key, view (current key))]) where
  settled := by
    intro entry mem
    rcases List.mem_append.mp mem with mem | mem
    · exact consistent.settled entry mem
    · rw [List.mem_singleton.mp mem]
      exact .refl _
  ordered := by
    refine List.pairwise_append.mpr ⟨consistent.ordered, List.pairwise_singleton _ _, ?_⟩
    intro earlier mem later last same
    rw [List.mem_singleton.mp last] at same ⊢
    subst same
    exact consistent.settled earlier mem

/-- Any two looks at one source that share their version are the same. -/
theorem Consistent.unique (consistent : Consistent view version current seen) {key : κ}
    {first second : ω} (one : (key, first) ∈ seen) (other : (key, second) ∈ seen)
    (level : version first = version second) : first = second := by
  have level_same : seen.Pairwise fun a b => a.1 = b.1 → version a.2 = version b.2 → a.2 = b.2 :=
    consistent.ordered.imp fun follows same level => (follows same).same level
  have flipped :
      seen.Pairwise (flip fun a b => a.1 = b.1 → version a.2 = version b.2 → a.2 = b.2) :=
    level_same.imp fun agree same level => (agree same.symm level.symm).symm
  exact level_same.forall_of_forall_of_flip (fun _ _ _ _ => rfl) flipped one other rfl level

end Kiosk.Library.VersionedViews
