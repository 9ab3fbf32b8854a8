import Kiosk.Storage.SlotSafety

/-! A slot that holds the bundle published under the version stored for it, through every
write of a `stage` and an activation. -/
namespace Kiosk.Storage

open Library Protocol

/-- The hash a document's own manifest states, empty where it states none. -/
def manifestHash (content : Bytes) : Bytes :=
  jsonExtractString (jsonExtractObject content (text "manifest")) (text "sha256") []

/-- The slot holds the document published under its version, checked against its manifest,
with the hash of that document beside it. -/
structure HoldsPublished (sha256 : Bytes → Bytes) (published : UInt32 → Bytes) (flash : UiFlash)
    (slot : UiSlot) : Prop where
  known : slot = .a ∨ slot = .b
  file : flash.files slot.path = some (published (flash.slotMeta slot).version)
  hash : (flash.slotMeta slot).hash = sha256Hex sha256 (published (flash.slotMeta slot).version)
  nonzero : 0 ∉ published (flash.slotMeta slot).version
  checked : ∃ bundle, UiBundleStore.checkBundle sha256 (published (flash.slotMeta slot).version)
    (manifestHash (published (flash.slotMeta slot).version)) = .ok bundle

/-- A selected slot holds what its version says. -/
def SelectsPublished (sha256 : Bytes → Bytes) (published : UInt32 → Bytes) (flash : UiFlash) :
    Prop :=
  ∀ slot ∈ flash.metaSlot, HoldsPublished sha256 published flash slot

/-- What the object shows of the active bundle. -/
structure ShownBundle where
  hasActive : Bool := false
  activeBundle : UiBundle := {}
  activeVersion : UInt32 := 0
  activeHash : Bytes := []
  activeSchemaVersion : UInt32 := 0
  activeSlot : UiSlot := .a

def UiBundleStore.shown (store : UiBundleStore) : ShownBundle :=
  ⟨store.hasActive, store.activeBundle, store.activeVersion, store.activeHash,
    store.activeSchemaVersion, store.activeSlot⟩

variable {sha256 : Bytes → Bytes} {published : UInt32 → Bytes} {store : UiBundleStore}
  {flash after : UiFlash} {slot : UiSlot}

namespace UiSlot

theorem other_path (known : slot = a ∨ slot = b) : slot.other.path ≠ slot.path := by
  rcases known with rfl | rfl <;> decide

theorem other_known (slot : UiSlot) : slot.other = a ∨ slot.other = b := by
  unfold other
  split
  · exact .inr rfl
  · exact .inl rfl

end UiSlot

/-- Neither the selection nor anything of the slot is changed. -/
structure SlotKept (flash : UiFlash) (slot : UiSlot) (after : UiFlash) : Prop where
  metaSlot : after.metaSlot = flash.metaSlot
  file : after.files slot.path = flash.files slot.path
  slotMeta : after.slotMeta slot = flash.slotMeta slot

namespace SlotKept

theorem writeFile (kept : SlotKept flash slot after) (target : UiSlot)
    (other : target.path ≠ slot.path) (content : Bytes) :
    SlotKept flash slot (after.writeFile target content) where
  metaSlot := kept.metaSlot
  file := (Function.update_of_ne other.symm _ _).trans kept.file
  slotMeta := kept.slotMeta

theorem putMeta (kept : SlotKept flash slot after) (target : UiSlot)
    (other : target.path ≠ slot.path)
    (change : UiSlotMeta → UiSlotMeta) : SlotKept flash slot (after.putMeta target change) where
  metaSlot := kept.metaSlot
  file := kept.file
  slotMeta := (Function.update_of_ne (fun same => other (congrArg UiSlot.path same.symm)) _ _).trans
    kept.slotMeta

theorem holds (kept : SlotKept flash slot after)
    (holds : HoldsPublished sha256 published flash slot) :
    HoldsPublished sha256 published after slot := by
  obtain ⟨known, file, hash, nonzero, checked⟩ := holds
  rw [← kept.slotMeta] at file hash nonzero checked
  exact ⟨known, kept.file.trans file, hash, nonzero, checked⟩

end SlotKept

namespace UiBundleStore

/-- No write of a `stage` touches a slot with another file. -/
theorem stage_kept (rawJson : Bytes) (version : UInt32) (expected : Bytes) (writes : UiStageWrites)
    (other : store.activeSlot.other.path ≠ slot.path) :
    ∀ after ∈ (store.stage sha256 flash rawJson version expected writes).2.1,
      SlotKept flash slot after := by
  have file : ∀ content, SlotKept flash slot (flash.writeFile store.activeSlot.other content) :=
      fun content =>
    SlotKept.writeFile ⟨rfl, rfl, rfl⟩ _ other content
  unfold stage
  split
  · simp
  simp only
  split
  · simp
  rename_i taken _
  split
  · simpa using file _
  split
  · simpa using file _
  have ver :=
    (file (rawJson.take taken)).putMeta _ other fun slotMeta => { slotMeta with version := version }
  split
  · simpa using ⟨file _, ver⟩
  have hash :=
    ver.putMeta _ other fun slotMeta => { slotMeta with hash := sha256Hex sha256 rawJson }
  split
  · simpa using ⟨file _, ver, hash⟩
  · simpa using ⟨file _, ver, hash, hash.putMeta _ other _⟩

theorem stage_shown (sha256 : Bytes → Bytes) (store : UiBundleStore) (flash : UiFlash)
    (rawJson : Bytes) (version : UInt32) (expected : Bytes) (writes : UiStageWrites) :
    (store.stage sha256 flash rawJson version expected writes).1.shown = store.shown := by
  unfold stage
  repeat' split
  all_goals rfl

private theorem checkBundle_error (checked : checkBundle sha256 rawJson expected = .error result) :
    result ≠ .staged := by
  unfold checkBundle at checked
  split at checked
  · cases checked
    simp
  split at checked
  · cases checked
    simp
  split at checked
  · cases checked
    simp
  · cases checked

/-- A `stage` that succeeds leaves the document in its slot, with its version and hash. -/
theorem stage_staged
    (staged : (store.stage sha256 flash rawJson version expected writes).2.2 = .staged) :
    let after := (store.stage sha256 flash rawJson version expected writes).2.1.getLast?.getD flash
    let slot := store.activeSlot.other
    (∃ bundle, checkBundle sha256 rawJson expected = .ok bundle) ∧ after.metaSlot = flash.metaSlot ∧
      after.files slot.path = some rawJson ∧ (after.slotMeta slot).version = version ∧
        (after.slotMeta slot).hash = sha256Hex sha256 rawJson ∧
          (store.stage sha256 flash rawJson version expected writes).1.stagedSlot = slot ∧
            (store.stage sha256 flash rawJson version expected writes).1.staged = true := by
  revert staged
  unfold stage
  cases checked : checkBundle sha256 rawJson expected with
  | error result => exact fun staged => absurd staged (checkBundle_error checked)
  | ok bundle =>
    simp only
    split
    · simp
    rename_i taken _
    split
    · simp
    rename_i whole
    have all : rawJson.take taken = rawJson := List.take_of_length_le (by omega)
    split
    · simp
    split
    · simp
    split
    · simp
    · simp [all, UiFlash.writeFile, UiFlash.putMeta]

/-- What a load shows of a selected slot whose file parses does not depend on the object. -/
theorem load_shown (selected : flash.metaSlot = some slot)
    (file : flash.files slot.path = some rawJson) (filled : rawJson ≠ [])
    (parses : parseUiBundleJson (cString rawJson) = some bundle) :
    (store.loadActiveFromNvs flash).shown =
      ⟨true, bundle, (flash.slotMeta slot).version, (flash.slotMeta slot).hash,
        (flash.slotMeta slot).schemaVersion, slot⟩ := by
  unfold loadActiveFromNvs
  simp only [selected, file, Option.getD_some, filled, parses, if_false]
  rfl

end UiBundleStore

theorem cString_of_nonzero (nonzero : 0 ∉ content) : cString content = content := by
  rw [cString, List.takeWhile_eq_self_iff]
  intro byte member
  simpa using fun zero : byte = 0 => nonzero (zero ▸ member)

theorem HoldsPublished.parses (holds : HoldsPublished sha256 published flash slot) :
    ∃ bundle, parseUiBundleJson (cString (published (flash.slotMeta slot).version)) =
      some bundle := by
  obtain ⟨bundle, checked⟩ := holds.checked
  rw [cString_of_nonzero holds.nonzero]
  revert checked
  unfold UiBundleStore.checkBundle
  repeat' split
  all_goals
    intro checked
    cases checked
  rename_i parsed _
  exact ⟨_, parsed⟩

theorem HoldsPublished.filled (holds : HoldsPublished sha256 published flash slot) :
    published (flash.slotMeta slot).version ≠ [] := by
  intro empty
  obtain ⟨bundle, parses⟩ := holds.parses
  rw [empty] at parses
  have none : parseUiBundleJson (cString []) = none := by decide
  rw [none] at parses
  cases parses

namespace UiBundleStore

/-- A boot shows the published bundle of the selected slot. -/
theorem init_shown (selects : SelectsPublished sha256 published flash)
    (selected : flash.metaSlot = some slot) :
    ∃ bundle, parseUiBundleJson (published (flash.slotMeta slot).version) = some bundle ∧
      ∀ store : UiBundleStore, (store.loadActiveFromNvs flash).shown =
        ⟨true, bundle, (flash.slotMeta slot).version, (flash.slotMeta slot).hash,
          (flash.slotMeta slot).schemaVersion, slot⟩ := by
  have holds := selects slot selected
  obtain ⟨bundle, parses⟩ := holds.parses
  refine ⟨bundle, ?_, fun store => load_shown selected holds.file holds.filled parses⟩
  rwa [cString_of_nonzero holds.nonzero] at parses

theorem init_unselected (unselected : flash.metaSlot = none) : (init flash).shown = {} := by
  unfold init loadActiveFromNvs
  rw [unselected]
  rfl

theorem init_activeSlot (flash : UiFlash) : (init flash).activeSlot = flash.metaSlot.getD .a :=
  congrArg Prod.fst (load_slots {} flash)

/-- Writes to the other slot do not change what a boot shows. -/
theorem init_kept (selects : SelectsPublished sha256 published flash)
    (same : after.metaSlot = flash.metaSlot)
    (kept : ∀ slot ∈ flash.metaSlot, SlotKept flash slot after) :
    SelectsPublished sha256 published after ∧ (init after).shown = (init flash).shown := by
  have selectsAfter : SelectsPublished sha256 published after := by
    intro slot selected
    rw [same] at selected
    exact (kept slot selected).holds (selects slot selected)
  refine ⟨selectsAfter, ?_⟩
  cases selected : flash.metaSlot with
  | none => rw [init_unselected selected, init_unselected (same.trans selected)]
  | some slot =>
    have unchanged := (kept slot selected).slotMeta
    obtain ⟨bundle, parses, shown⟩ := init_shown selects selected
    obtain ⟨other, reparses, reshown⟩ := init_shown selectsAfter (same.trans selected)
    rw [unchanged] at reparses reshown
    obtain rfl : other = bundle := Option.some.inj (reparses.symm.trans parses)
    rw [init, init, shown, reshown]

/-- The slot that `stage` writes to is not the selected one. -/
theorem other_unselected (selects : SelectsPublished sha256 published flash)
    (shown : store.shown = (init flash).shown)
    (selected : slot ∈ flash.metaSlot) : store.activeSlot.other.path ≠ slot.path := by
  have active : store.activeSlot = slot := by
    rw [show store.activeSlot = (init flash).activeSlot from congrArg ShownBundle.activeSlot shown,
      init_activeSlot, selected]
    rfl
  rw [active]
  exact UiSlot.other_path (selects slot selected).known

/-- After any write of a `stage` a boot finds and shows what it did before. -/
theorem stage_init (selects : SelectsPublished sha256 published flash)
    (shown : store.shown = (init flash).shown)
    (rawJson : Bytes) (version : UInt32) (expected : Bytes) (writes : UiStageWrites) :
    ∀ after ∈ (store.stage sha256 flash rawJson version expected writes).2.1,
      SelectsPublished sha256 published after ∧ (init after).shown = (init flash).shown := by
  intro after member
  have same : after.metaSlot = flash.metaSlot := by
    have outcome := @stage_outcome sha256 store flash rawJson version expected writes
    generalize store.stage sha256 flash rawJson version expected writes = staged at outcome member
    cases outcome with
    | failed _ _ _ written => exact (written after member).metaSlot
    | staged _ _ written => exact (written after member).metaSlot
  exact init_kept selects same fun slot selected =>
    stage_kept rawJson version expected writes (other_unselected selects shown selected)
      after member

/-- A published document that was staged can be selected. -/
theorem stage_holds (rawJson : Bytes) (version : UInt32) (writes : UiStageWrites)
    (nonzero : 0 ∉ rawJson) (own : rawJson = published version)
    (staged : (store.stage sha256 flash rawJson version (manifestHash rawJson) writes).2.2 =
      .staged) :
    HoldsPublished sha256 published
      ((store.stage sha256 flash rawJson version (manifestHash rawJson) writes).2.1.getLast?.getD
        flash) store.activeSlot.other := by
  obtain ⟨checked, _, file, stored, hash, _⟩ := stage_staged staged
  refine ⟨UiSlot.other_known _, ?_, ?_, ?_, ?_⟩
  all_goals rw [stored, ← own]
  · exact file
  · exact hash
  · exact nonzero
  · exact checked

/-- After any write of an activation a boot finds a published bundle; and where an
activation that selects its slot is recorded too, the object shows what a boot would. -/
theorem activate_init (holds : HoldsPublished sha256 published flash store.stagedSlot)
    (staged : store.staged = true)
    (shown : store.shown = (init flash).shown) (writes : UiActivateWrites) :
    (∀ after ∈ (store.activateStaged flash writes).2.1, SelectsPublished sha256 published after) ∧
      ((writes.metaSlot = true → writes.lastGoodVer = true) →
        (store.activateStaged flash writes).1.shown =
        (init ((store.activateStaged flash writes).2.1.getLast?.getD flash)).shown) := by
  have reselected : ∀ version, SelectsPublished sha256 published
      { flash with metaSlot := some store.stagedSlot, lastGoodVer := version } := by
    intro version slot selected
    obtain rfl : store.stagedSlot = slot := Option.some.inj selected
    exact ⟨holds.known, holds.file, holds.hash, holds.nonzero, holds.checked⟩
  unfold activateStaged
  simp only [staged, Bool.not_true, Bool.false_eq_true, if_false]
  cases selecting : writes.metaSlot with
  | false => exact ⟨by simp, fun _ => shown⟩
  | true =>
    cases recording : writes.lastGoodVer with
    | false => exact ⟨by simpa using reselected flash.lastGoodVer, fun whole => by simp at whole⟩
    | true =>
      refine ⟨by simpa using ⟨reselected flash.lastGoodVer, reselected store.stagedVersion⟩,
        fun _ => ?_⟩
      obtain ⟨bundle, _, loaded⟩ := @init_shown sha256 published
        { flash with metaSlot := some store.stagedSlot, lastGoodVer := store.stagedVersion }
          store.stagedSlot
        (reselected store.stagedVersion) rfl
      exact (loaded { store with staged := false }).trans (loaded {}).symm

end UiBundleStore

end Kiosk.Storage
