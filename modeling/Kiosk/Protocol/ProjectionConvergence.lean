import Kiosk.Library.NewestWins
import Kiosk.Library.TransitionSystem
import Kiosk.Protocol.StateProjection

/-! The projection as a register that keeps the newest supported snapshot. -/
namespace Kiosk.Protocol

open Library TransitionSystem

namespace StateSnapshot

def supported (snapshot : StateSnapshot) : Bool := snapshot.state ≠ .unsupported

def version (snapshot : StateSnapshot) : Nat := snapshot.stateVersion.toNat

end StateSnapshot

namespace StateProjection

def offer (projection : StateProjection) (incoming : StateSnapshot) : StateProjection :=
  (projection.apply incoming).1

/-- What an offer has to respect. -/
structure Respects (projection : StateProjection) (incoming : StateSnapshot) : Prop where
  rises : ∀ before ∈ projection.current, ∃ after ∈ (projection.offer incoming).current,
    before.stateVersion ≤ after.stateVersion
  supported : ∀ after ∈ (projection.offer incoming).current, after.state ≠ .unsupported
  refused : taken (projection.apply incoming).2 = false → projection.offer incoming = projection

/-- An unsupported snapshot changes nothing, a supported one is kept if it is newer. -/
theorem offer_current (projection : StateProjection) (incoming : StateSnapshot) :
    (projection.offer incoming).current =
      if incoming.supported then NewestWins.keep StateSnapshot.version projection.current incoming
      else projection.current := by
  unfold offer apply StateSnapshot.supported
  by_cases unsupported : incoming.state = .unsupported
  · simp [unsupported]
  rw [if_neg unsupported, if_pos (by simpa using unsupported)]
  cases known : projection.current with
  | none => rfl
  | some current =>
    simp only [NewestWins.keep, StateSnapshot.version, ← UInt64.lt_iff_toNat_lt]
    split
    · rename_i older
      have notNewer : ¬ current.stateVersion < incoming.stateVersion := by
        rw [UInt64.lt_iff_toNat_lt] at older ⊢
        omega
      rw [if_neg notNewer, known]
    split
    · rename_i same
      have notNewer : ¬ current.stateVersion < incoming.stateVersion := by
        rw [same, UInt64.lt_iff_toNat_lt]
        omega
      rw [if_neg notNewer]
      split <;> exact known
    · rename_i notOlder different
      have newer : current.stateVersion < incoming.stateVersion := by
        simp only [UInt64.lt_iff_toNat_lt, ← UInt64.toNat_inj] at notOlder different ⊢
        omega
      rw [if_pos newer]

private theorem run_current (snapshots : List StateSnapshot) (projection : StateProjection) :
    (run offer projection snapshots).current =
      (snapshots.filter StateSnapshot.supported).foldl (NewestWins.keep StateSnapshot.version)
        projection.current := by
  induction snapshots generalizing projection with
  | nil => rfl
  | cons snapshot rest ih =>
    rw [run_cons, ih, offer_current]
    cases supported : snapshot.supported <;> simp [supported]

theorem run_newest (snapshots : List StateSnapshot) :
    (run offer {} snapshots).current =
      (snapshots.filter StateSnapshot.supported).argmax StateSnapshot.version := by
  rw [run_current]
  exact NewestWins.foldl_keep _ _

private theorem offer_respects {projection : StateProjection} (incoming : StateSnapshot)
    (supported : ∀ current ∈ projection.current, current.state ≠ .unsupported) :
    projection.Respects incoming := by
  refine ⟨?_, ?_, apply_refused⟩
  · intro before known
    rw [offer_current]
    split
    · obtain ⟨now, held, newer⟩ :=
        @NewestWins.le_keep _ Nat _ StateSnapshot.version projection.current incoming _ known
      exact ⟨now, held, UInt64.le_iff_toNat_le.mpr newer⟩
    · exact ⟨before, known, by simp⟩
  · intro after known
    rw [offer_current] at known
    split at known
    · rename_i fine
      unfold NewestWins.keep at known
      split at known
      · cases known
        simpa [StateSnapshot.supported] using fine
      · rename_i previous held
        split at known
        · cases known
          simpa [StateSnapshot.supported] using fine
        · cases known
          exact supported _ held
    · exact supported after known

/-- From a fresh projection on: the current snapshot is the first that arrived of the
newest supported ones, every offer is respected, and where supported snapshots of one
version agree the outcome is a matter of which snapshots were offered. -/
theorem projection_converges (snapshots : List StateSnapshot) :
    (run offer {} snapshots).current =
      (snapshots.filter StateSnapshot.supported).argmax StateSnapshot.version ∧
    Along offer Respects {} snapshots ∧
    ∀ others : List StateSnapshot, (∀ snapshot, snapshot ∈ others ↔ snapshot ∈ snapshots) →
      (∀ a ∈ snapshots, ∀ b ∈ snapshots,
          a.supported → b.supported → a.stateVersion = b.stateVersion → a = b) →
        run offer {} others = run offer {} snapshots := by
  refine ⟨run_newest snapshots, ?_, ?_⟩
  · have all : Along offer (fun _ _ => True) {} snapshots :=
      Along.of_forall (fun _ _ => trivial) _ _
    refine all.entails
      (motive := fun projection => ∀ current ∈ projection.current, current.state ≠ .unsupported)
      (by simp) ?_ ?_
    · exact fun projection incoming supported _ => (offer_respects incoming supported).supported
    · exact fun projection incoming supported _ => offer_respects incoming supported
  · intro others same single
    have current : (run offer {} others).current = (run offer {} snapshots).current := by
      rw [run_newest, run_newest]
      refine (NewestWins.argmax_congr ?_ ?_).symm
      · intro snapshot
        rw [List.mem_filter, List.mem_filter, same]
      · intro a first b second versions
        rw [List.mem_filter] at first second
        exact single a first.1 b second.1 first.2 second.2 (UInt64.toNat_inj.mp versions)
    exact congrArg StateProjection.mk current

end StateProjection

end Kiosk.Protocol
