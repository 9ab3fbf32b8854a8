import Kiosk.Network.NetworkWorker
import Kiosk.Storage.SlotSafety

/-! `runtime/ui_sync_controller.cpp`: the check of what the server wants, and what a
check that finds nothing to do says of the bundle in memory. -/
namespace Kiosk.Runtime

open Library Library.KeySearch Library.TransitionSystem Protocol Network Storage

structure UiSyncController where
  downloadInFlight : Bool := false
  pendingVersion : UInt32 := 0
  lastDesiredVersion : UInt32 := 0

inductive UiDecision where
  | inFlight | noSync | sync
  deriving DecidableEq, Repr

namespace UiSyncController

/-- What `check_desired` decides. -/
def decision (sync : UiSyncController) (store : UiBundleStore) (desiredVersion : UInt32)
    (desiredHash : Bytes) :
    UiDecision :=
  if sync.downloadInFlight then .inFlight
  else if uiBundleNeedsSync store.activeVersion (cString store.activeHash) desiredVersion
    desiredHash then .sync
  else .noSync

def checkDesired (sync : UiSyncController) (store : UiBundleStore) (network : NetworkWorker)
    (baseEventsUrl : Bytes) (desiredVersion : UInt32) (desiredHash : Bytes) :
    UiSyncController × UiBundleStore × NetworkWorker :=
  let seen := { sync with lastDesiredVersion := desiredVersion }
  match sync.decision store desiredVersion desiredHash with
  | .inFlight => (seen, store, network)
  | .noSync => (seen, store, network)
  | .sync =>
    let bundleBase := deriveSiblingEndpoint baseEventsUrl (text "ui-bundles")
    if bundleBase = [] then (seen, { store with syncState := .updateAvailable }, network)
    else
      let (network, started) :=
        NetworkWorker.enqueueUiBundleFetch network
          (bundleBase ++ text "/" ++ decimal desiredVersion.toNat)
      ({ seen with pendingVersion := desiredVersion, downloadInFlight := started },
        { store with syncState := .downloading }, network)

end UiSyncController

/-- Where a check finds nothing to do, the wanted bundle is active in memory. -/
def InSync (store : UiBundleStore) : Prop :=
  ∀ (sync : UiSyncController) (desiredVersion : UInt32) (desiredHash : Bytes), desiredVersion ≠ 0 →
    sync.decision store desiredVersion desiredHash = .noSync →
      store.hasActive = true ∧ store.activeVersion = desiredVersion ∧
        (desiredHash ≠ [] → cString store.activeHash = desiredHash)

/-- A check with a version finds nothing to do exactly when version and hash agree. -/
theorem noSync_iff (wanted : desiredVersion ≠ 0) (sync : UiSyncController) (store : UiBundleStore)
    (desiredHash : Bytes) :
    sync.decision store desiredVersion desiredHash = .noSync ↔
      sync.downloadInFlight = false ∧ store.activeVersion = desiredVersion ∧
        (desiredHash ≠ [] → cString store.activeHash = desiredHash) := by
  rw [← uiBundleNeedsSync_eq_false wanted]
  unfold UiSyncController.decision
  cases sync.downloadInFlight <;>
    cases uiBundleNeedsSync store.activeVersion (cString store.activeHash) desiredVersion
      desiredHash <;> simp

/-- The object remembers a version only of a bundle it has. -/
theorem inSync_iff (store : UiBundleStore) :
    InSync store ↔ store.hasActive = true ∨ store.activeVersion = 0 := by
  constructor
  · intro inSync
    by_cases none : store.activeVersion = 0
    · exact .inr none
    · exact .inl (inSync {} store.activeVersion [] none
        ((noSync_iff none {} store []).mpr ⟨rfl, rfl, by simp⟩)).1
  · intro active sync desiredVersion desiredHash wanted settled
    obtain ⟨_, version, hash⟩ := (noSync_iff wanted sync store desiredHash).mp settled
    refine ⟨active.resolve_right fun none => wanted ?_, version, hash⟩
    rw [← version, none]

/-- The bundle of the slot can be loaded, or its version says that there is none. -/
def SlotLoads (flash : UiFlash) (slot : UiSlot) : Prop :=
  (parseUiBundleJson (cString ((flash.files slot.path).getD []))).isSome = true ∨
    (flash.slotMeta slot).version = 0

instance (flash : UiFlash) (slot : UiSlot) : Decidable (SlotLoads flash slot) := by
  unfold SlotLoads; infer_instance

theorem inSync_load (store : UiBundleStore) (flash : UiFlash)
    (selected : flash.metaSlot = some slot) :
    InSync (store.loadActiveFromNvs flash) ↔ SlotLoads flash slot := by
  rw [inSync_iff, SlotLoads]
  unfold UiBundleStore.loadActiveFromNvs
  simp only [selected]
  split
  · rename_i missing
    have empty : parseUiBundleJson (cString []) = none := by decide
    rw [missing, empty]
    simp
  · split
    · rename_i unparsed
      rw [unparsed]
      simp
    · rename_i parsed
      rw [parsed]
      simp

theorem inSync_same {before after : UiBundleStore} (active : after.hasActive = before.hasActive)
    (version : after.activeVersion = before.activeVersion) : InSync after ↔ InSync before := by
  rw [inSync_iff, inSync_iff, active, version]

theorem inSync_stage (sha256 : Bytes → Bytes) (store : UiBundleStore) (flash : UiFlash)
    (rawJson : Bytes) (version : UInt32) (expected : Bytes) (writes : UiStageWrites) :
    InSync (store.stage sha256 flash rawJson version expected writes).1 ↔ InSync store := by
  unfold UiBundleStore.stage
  split
  · exact inSync_same rfl rfl
  simp only
  split
  · exact inSync_same rfl rfl
  repeat' split
  all_goals exact inSync_same rfl rfl

theorem inSync_activate (store : UiBundleStore) (flash : UiFlash) (writes : UiActivateWrites) :
    InSync (store.activateStaged flash writes).1 ↔
      if store.staged && writes.metaSlot && writes.lastGoodVer then SlotLoads flash store.stagedSlot
        else InSync store := by
  unfold UiBundleStore.activateStaged
  cases store.staged with
  | false => exact Iff.rfl
  | true =>
    cases writes.metaSlot with
    | false => exact inSync_same rfl rfl
    | true =>
      cases writes.lastGoodVer with
      | false => exact inSync_same rfl rfl
      | true =>
        exact inSync_load { store with staged := false }
          { flash with metaSlot := some store.stagedSlot, lastGoodVer := store.stagedVersion } rfl

/-- Where there is an object, what it has is in sync. -/
def LifeInSync (life : UiLife) : Prop := ∀ store ∈ life.store, InSync store

/-- The slot that a boot or an activation loads can be loaded. -/
def SelectsLoadable (life : UiLife) : UiInput → Prop
  | .boot => ∀ slot ∈ life.flash.metaSlot, SlotLoads life.flash slot
  | .perform (.activateStaged writes) => ∀ store ∈ life.store,
      (store.staged && writes.metaSlot && writes.lastGoodVer) = true →
        SlotLoads life.flash store.stagedSlot
  | _ => True

theorem inSync_step (sha256 : Bytes → Bytes) (life : UiLife) (inSync : LifeInSync life)
    (input : UiInput) :
    LifeInSync (life.step sha256 input) ↔ SelectsLoadable life input := by
  cases input with
  | boot =>
    simp only [LifeInSync, SelectsLoadable, UiLife.step, Option.mem_some_iff, forall_eq']
    rw [UiBundleStore.init]
    cases selected : life.flash.metaSlot with
    | none =>
      refine iff_of_true ((inSync_iff _).mpr (.inr ?_)) (by rintro _ ⟨⟩)
      simp [UiBundleStore.loadActiveFromNvs, selected]
    | some slot => simpa using inSync_load {} life.flash selected
  | cut operation writesDone =>
    simp only [LifeInSync, SelectsLoadable, UiLife.step, iff_true]
    cases booted : life.store with
    | none => simp [booted]
    | some store => simp
  | perform operation =>
    cases booted : life.store with
    | none =>
      have off : life.step sha256 (.perform operation) = life := by simp only [UiLife.step, booted]
      rw [off]
      refine iff_of_true inSync ?_
      cases operation <;> simp [SelectsLoadable, booted]
    | some store =>
      have before := inSync store booted
      have after : life.step sha256 (.perform operation) = life.perform sha256 store operation := by
        simp only [UiLife.step, booted]
      rw [after]
      cases operation with
      | stage rawJson version expected writes =>
        have same := inSync_stage sha256 store life.flash rawJson version expected writes
        have next : (life.perform sha256 store (.stage rawJson version expected writes)).store =
            some (store.stage sha256 life.flash rawJson version expected writes).1 := by
          simp only [UiLife.perform]
          split <;> rfl
        simp [LifeInSync, SelectsLoadable, next, same, before]
      | activateStaged writes =>
        have loaded := inSync_activate store life.flash writes
        have next : (life.perform sha256 store (.activateStaged writes)).store =
            some (store.activateStaged life.flash writes).1 := by
          simp only [UiLife.perform]
          split <;> rfl
        simp only [LifeInSync, SelectsLoadable, next, booted, Option.mem_some_iff,
          forall_eq', loaded]
        split
        · rename_i loads
          simp [loads]
        · rename_i loads
          simp [loads, before]

/-- Over the life of a device, from any content of its flash on, a check that finds
nothing to do always finds the wanted bundle in memory if and only if every slot that a
boot or an activation loads can be loaded. -/
theorem inSync_along_iff (sha256 : Bytes → Bytes) (flash : UiFlash) (inputs : List UiInput) :
    Along (UiLife.step sha256) (fun life input => LifeInSync (life.step sha256 input))
        { flash := flash } inputs ↔
      Along (UiLife.step sha256) SelectsLoadable { flash := flash } inputs := by
  have start : LifeInSync { flash := flash } := by rintro _ ⟨⟩
  constructor
  · intro along
    exact along.entails start (fun _ _ _ after => after)
      fun life input inSync after => (inSync_step sha256 life inSync input).mp after
  · intro along
    exact along.entails start
      (fun life input inSync loads => (inSync_step sha256 life inSync input).mpr loads)
      fun life input inSync loads => (inSync_step sha256 life inSync input).mpr loads

/-- NVS selects a slot with a version, and its file is missing. -/
private def lostFile : UiFlash where
  metaSlot := some .b
  slotMeta := fun _ => { version := 7, hash := text "c0ffee", schemaVersion := 1 }

/-- A boot that finds no file keeps the version of the slot. -/
theorem lost_file_in_sync :
    ¬ Along (UiLife.step fun _ => []) (fun life input => LifeInSync (life.step (fun _ => []) input))
      { flash := lostFile } [.boot] := by
  rintro ⟨inSync, _⟩
  have active := (inSync _ rfl {} 7 [] (by decide) (by decide)).1
  revert active
  decide

end Kiosk.Runtime
