import Kiosk.Library.TransitionSystem
import Kiosk.Storage.UiBundleStore

/-! The bundle store over the life of a device, with writes that fail and a loss of
power between any two of them. -/
namespace Kiosk.Storage

open Library Protocol TransitionSystem

inductive UiOperation where
  | stage (rawJson : Bytes) (version : UInt32) (expectedSha256Hex : Bytes) (writes : UiStageWrites)
  | activateStaged (writes : UiActivateWrites)

inductive UiInput where
  | boot
  | perform (operation : UiOperation)
  /-- The power fails when so many writes of the operation are done. -/
  | cut (operation : UiOperation) (writesDone : Nat)

/-- The device, the documents it has reported as staged, and two facts about this boot:
an activation wrote `meta_slot` and not `last_good_ver`, and a failed `stage` left
something else in the file of the staged slot. -/
structure UiLife where
  flash : UiFlash := {}
  store : Option UiBundleStore := none
  documents : List Bytes := []
  tornActivation : Bool := false
  spoiled : Bool := false

namespace UiOperation
variable (sha256 : Bytes → Bytes)

/-- The flash after each write of the operation. -/
def flashes (store : UiBundleStore) (flash : UiFlash) : UiOperation → List UiFlash
  | .stage rawJson version expected writes =>
    (store.stage sha256 flash rawJson version expected writes).2.1
  | .activateStaged writes => (store.activateStaged flash writes).2.1

/-- The flash when the power fails. -/
def flashAt (store : UiBundleStore) (flash : UiFlash) (operation : UiOperation) (writesDone : Nat) :
    UiFlash :=
  ((operation.flashes sha256 store flash).take writesDone).getLast?.getD flash

end UiOperation

namespace UiLife
variable (sha256 : Bytes → Bytes)

/-- The file of the slot is a document that was staged. -/
def Holds (life : UiLife) (slot : UiSlot) : Prop :=
  ∃ document ∈ life.documents, life.flash.files slot.path = some document

instance (life : UiLife) (slot : UiSlot) : Decidable (life.Holds slot) :=
  inferInstanceAs
    (Decidable (∃ document ∈ life.documents, life.flash.files slot.path = some document))

def perform (life : UiLife) (store : UiBundleStore) : UiOperation → UiLife
  | .stage rawJson version expected writes =>
    let (store', flashes, result) := store.stage sha256 life.flash rawJson version expected writes
    let life := { life with flash := flashes.getLast?.getD life.flash, store := some store' }
    if result = .staged then { life with documents := rawJson :: life.documents, spoiled := false }
    else { life with spoiled := store.staged && !decide (life.Holds store.stagedSlot) }
  | .activateStaged writes =>
    let (store', flashes, activated) := store.activateStaged life.flash writes
    let life := { life with flash := flashes.getLast?.getD life.flash, store := some store' }
    if activated then { life with tornActivation := false, spoiled := false }
    else { life with tornActivation := life.tornActivation || !flashes.isEmpty }

/-- Without a boot there is no object to call. -/
def step (life : UiLife) : UiInput → UiLife
  | .boot =>
    { life with
      store := some (UiBundleStore.init life.flash), tornActivation := false, spoiled := false }
  | .perform operation =>
    match life.store with
    | none => life
    | some store => life.perform sha256 store operation
  | .cut operation writesDone =>
    match life.store with
    | none => life
    | some store =>
      { life with
        flash := operation.flashAt sha256 store life.flash writesDone
        store := none, tornActivation := false, spoiled := false }

/-- How many writes of the operation are done in a step. -/
def writesDone (life : UiLife) : UiInput → Option (UiBundleStore × UiOperation × Nat)
  | .boot => none
  | .perform operation =>
    life.store.map fun store =>
      (store, operation, (operation.flashes sha256 store life.flash).length)
  | .cut operation done =>
    life.store.map fun store =>
      (store, operation, min done (operation.flashes sha256 store life.flash).length)

/-- The file the step writes to. -/
def overwrites (life : UiLife) (input : UiInput) : Option UiPath :=
  match life.writesDone sha256 input with
  | some (store, .stage .., _ + 1) => some store.activeSlot.other.path
  | _ => none

/-- The step writes `meta_slot`. -/
def selects (life : UiLife) (input : UiInput) : Bool :=
  match life.writesDone sha256 input with
  | some (_, .activateStaged _, _ + 1) => true
  | _ => false

/-- A boot now would find no selection, or load a document that was staged. -/
def Bootable (life : UiLife) : Prop := ∀ slot ∈ life.flash.metaSlot, life.Holds slot

/-- The file of the selected slot is not written to, and the next boot is safe. -/
def Safe (life : UiLife) (input : UiInput) : Prop :=
  (∀ path ∈ life.overwrites sha256 input, ∀ slot ∈ life.flash.metaSlot, slot.path ≠ path) ∧
    (life.step sha256 input).Bootable

/-- No `stage` writes after an activation that was cut short, and no activation selects
a slot whose staged file is gone. -/
def Careful (life : UiLife) (input : UiInput) : Prop :=
  ((life.overwrites sha256 input).isSome = true → life.tornActivation = false) ∧
    (life.selects sha256 input = true → life.spoiled = false)

end UiLife

namespace UiBundleStore

variable {sha256 : Bytes → Bytes} {store : UiBundleStore} {flash : UiFlash}

/-- What the object remembers about the slots. -/
def slots (store : UiBundleStore) : UiSlot × Bool × UiSlot :=
  (store.activeSlot, store.staged, store.stagedSlot)

theorem load_slots (store : UiBundleStore) (flash : UiFlash) :
    (store.loadActiveFromNvs flash).slots =
      (flash.metaSlot.getD store.activeSlot, store.staged, store.stagedSlot) := by
  unfold loadActiveFromNvs
  cases flash.metaSlot with
  | none => rfl
  | some slot =>
    simp only [slots, Option.getD_some]
    split
    · rfl
    split <;> rfl

/-- The flash after a write of `stage`. -/
structure Staging (store : UiBundleStore) (flash : UiFlash) (content : Bytes) (after : UiFlash) :
    Prop where
  metaSlot : after.metaSlot = flash.metaSlot
  files : after.files = Function.update flash.files store.activeSlot.other.path (some content)

inductive StageOutcome (store : UiBundleStore) (flash : UiFlash) (rawJson : Bytes) :
    UiBundleStore × List UiFlash × UiStageResult → Prop where
  | failed (content : Bytes) (slots : after.slots = store.slots) (unstaged : result ≠ .staged)
      (written : ∀ after ∈ flashes, Staging store flash content after) :
      StageOutcome store flash rawJson (after, flashes, result)
  | staged (slots : after.slots = (store.activeSlot, true, store.activeSlot.other))
      (nonempty : flashes ≠ []) (written : ∀ after ∈ flashes, Staging store flash rawJson after) :
      StageOutcome store flash rawJson (after, flashes, .staged)

theorem stage_outcome (store : UiBundleStore) (flash : UiFlash) (rawJson : Bytes) (version : UInt32)
    (expected : Bytes) (writes : UiStageWrites) :
    StageOutcome store flash rawJson
      (store.stage sha256 flash rawJson version expected writes) := by
  unfold stage
  split
  · rename_i result checked
    have unstaged : result ≠ .staged := by
      unfold checkBundle at checked
      split at checked
      · cases checked; decide
      split at checked
      · cases checked; decide
      split at checked
      · cases checked; decide
      · cases checked
    exact .failed [] rfl unstaged (by simp)
  simp only
  split
  · exact .failed [] rfl (by decide) (by simp)
  rename_i taken _
  have file : Staging store flash (rawJson.take taken)
      (flash.writeFile store.activeSlot.other (rawJson.take taken)) :=
    ⟨rfl, rfl⟩
  split
  · exact .failed _ rfl (by decide) (by simpa using file)
  rename_i whole
  have all : rawJson.take taken = rawJson := List.take_of_length_le (by omega)
  split
  · exact .failed _ rfl (by decide) (by simpa using file)
  split
  · refine .failed (rawJson.take taken) rfl (by decide) fun after member => ?_
    simp only [List.mem_cons, List.not_mem_nil, or_false] at member
    rcases member with rfl | rfl <;> exact ⟨file.metaSlot, file.files⟩
  split
  · refine .failed (rawJson.take taken) rfl (by decide) fun after member => ?_
    simp only [List.mem_cons, List.not_mem_nil, or_false] at member
    rcases member with rfl | rfl | rfl <;> exact ⟨file.metaSlot, file.files⟩
  · refine .staged rfl (by simp) fun after member => ?_
    rw [all] at file
    simp only [all, List.mem_cons, List.not_mem_nil, or_false] at member
    rcases member with rfl | rfl | rfl | rfl <;> exact ⟨file.metaSlot, file.files⟩

/-- The flash after a write of `activate_staged`. -/
structure Selecting (store : UiBundleStore) (flash : UiFlash) (after : UiFlash) : Prop where
  metaSlot : after.metaSlot = some store.stagedSlot
  files : after.files = flash.files

inductive ActivateOutcome (store : UiBundleStore) (flash : UiFlash) :
    UiBundleStore × List UiFlash × Bool → Prop where
  | refused (slots : after.slots = store.slots) : ActivateOutcome store flash (after, [], false)
  | torn (staged : store.staged = true) (slots : after.slots = store.slots)
      (selecting : Selecting store flash selected) :
      ActivateOutcome store flash (after, [selected], false)
  | activated (staged : store.staged = true)
      (slots : after.slots = (store.stagedSlot, false, store.stagedSlot))
      (selecting : Selecting store flash selected) (recording : Selecting store flash recorded) :
      ActivateOutcome store flash (after, [selected, recorded], true)

theorem activateStaged_outcome (store : UiBundleStore) (flash : UiFlash)
    (writes : UiActivateWrites) :
    ActivateOutcome store flash (store.activateStaged flash writes) := by
  unfold activateStaged
  split
  · exact .refused rfl
  rename_i staged
  have ready : store.staged = true := by simpa using staged
  simp only
  split
  · exact .refused rfl
  split
  · exact .torn ready rfl ⟨rfl, rfl⟩
  · refine .activated ready ?_ ⟨rfl, rfl⟩ ⟨rfl, rfl⟩
    have loaded := load_slots { store with staged := false }
      { flash with metaSlot := some store.stagedSlot, lastGoodVer := store.stagedVersion }
    exact loaded

end UiBundleStore

namespace UiLife

/-- What the object says about the slots, against the flash. -/
structure Agrees (life : UiLife) (store : UiBundleStore) : Prop where
  selected : life.tornActivation = false → ∀ slot ∈ life.flash.metaSlot, slot = store.activeSlot
  torn : life.tornActivation = true →
    store.staged = true ∧ life.flash.metaSlot = some store.stagedSlot
  target : store.staged = true → store.stagedSlot = store.activeSlot.other
  spoiled : life.spoiled = (store.staged && !decide (life.Holds store.stagedSlot))

structure Sound (life : UiLife) : Prop where
  bootable : life.Bootable
  agrees : ∀ store ∈ life.store, life.Agrees store

section Steps

variable {sha256 : Bytes → Bytes} {life : UiLife} {after : UiFlash} {store : UiBundleStore}
  {operation : UiOperation} {input : UiInput}

private theorem other_ne (slot : UiSlot) : slot.path ≠ slot.other.path := by
  unfold UiSlot.path UiSlot.other
  split <;> decide

private theorem flashAt_succ (flash : UiFlash) (n : Nat)
    (many : n + 1 ≤ (operation.flashes sha256 store flash).length) :
    operation.flashAt sha256 store flash (n + 1) ∈ operation.flashes sha256 store flash := by
  unfold UiOperation.flashAt
  cases listed : operation.flashes sha256 store flash with
  | nil => simp [listed] at many
  | cons head rest =>
    have nonempty : (head :: rest).take (n + 1) ≠ [] := by simp
    rw [List.getLast?_eq_some_getLast nonempty, Option.getD_some]
    exact List.mem_of_mem_take (List.getLast_mem nonempty)

private theorem writesDone_le (done : life.writesDone sha256 input = some (store, operation, n)) :
    life.store = some store ∧ n ≤ (operation.flashes sha256 store life.flash).length := by
  cases input with
  | boot => cases done
  | perform performed =>
    obtain ⟨found, booted, same⟩ := Option.map_eq_some_iff.mp done
    cases same
    exact ⟨booted, le_rfl⟩
  | cut interrupted count =>
    obtain ⟨found, booted, same⟩ := Option.map_eq_some_iff.mp done
    cases same
    exact ⟨booted, Nat.min_le_right _ _⟩

private theorem perform_flash (life : UiLife) (store : UiBundleStore) (operation : UiOperation) :
    (life.perform sha256 store operation).flash =
      operation.flashAt sha256 store life.flash (operation.flashes sha256 store life.flash).length ∧
    life.documents ⊆ (life.perform sha256 store operation).documents := by
  rw [UiOperation.flashAt, List.take_length]
  cases operation with
  | stage rawJson version expected writes =>
    simp only [perform, UiOperation.flashes]
    split
    · exact ⟨rfl, fun _ member => List.mem_cons_of_mem _ member⟩
    · exact ⟨rfl, fun _ member => member⟩
  | activateStaged writes =>
    simp only [perform, UiOperation.flashes]
    split <;> exact ⟨rfl, fun _ member => member⟩

private theorem step_flash (done : life.writesDone sha256 input = some (store, operation, n)) :
    (life.step sha256 input).flash = operation.flashAt sha256 store life.flash n ∧
      life.documents ⊆ (life.step sha256 input).documents := by
  obtain ⟨booted, _⟩ := writesDone_le done
  cases input with
  | boot => cases done
  | perform performed =>
    obtain ⟨found, known, same⟩ := Option.map_eq_some_iff.mp done
    cases same
    simp only [step, booted]
    exact perform_flash life store operation
  | cut interrupted count =>
    obtain ⟨found, known, same⟩ := Option.map_eq_some_iff.mp done
    cases same
    have cut : (operation.flashes sha256 store life.flash).take count =
        (operation.flashes sha256 store life.flash).take
          (min count (operation.flashes sha256 store life.flash).length) := by
      rw [List.take_eq_take_iff]
      omega
    simp only [step, booted, UiOperation.flashAt, ← cut]
    exact ⟨trivial, fun _ member => member⟩

private theorem step_still (still : life.writesDone sha256 input = none) :
    (life.step sha256 input).flash = life.flash ∧
      (life.step sha256 input).documents = life.documents := by
  cases input with
  | boot => exact ⟨rfl, rfl⟩
  | perform performed =>
    have off : life.store = none := by simpa [writesDone] using still
    simp [step, off]
  | cut interrupted count =>
    have off : life.store = none := by simpa [writesDone] using still
    simp [step, off]

private theorem activate_documents
    (done : life.writesDone sha256 input = some (store, .activateStaged writes, n)) :
    (life.step sha256 input).documents = life.documents := by
  obtain ⟨booted, _⟩ := writesDone_le done
  cases input with
  | boot => cases done
  | perform performed =>
    obtain ⟨found, known, same⟩ := Option.map_eq_some_iff.mp done
    cases same
    simp only [step, booted, perform]
    split <;> rfl
  | cut interrupted count =>
    obtain ⟨found, known, same⟩ := Option.map_eq_some_iff.mp done
    cases same
    simp [step, booted]

theorem Bootable.same {next : UiLife} (bootable : life.Bootable) (flash : next.flash = life.flash)
    (documents : life.documents ⊆ next.documents) : next.Bootable := by
  intro slot selected
  rw [flash] at selected
  obtain ⟨document, staged, content⟩ := bootable slot selected
  exact ⟨document, documents staged, by rw [flash, content]⟩

/-- A write to another slot than the selected one. -/
theorem Bootable.staging {next : UiLife} (bootable : life.Bootable)
    (staging : UiBundleStore.Staging store life.flash content next.flash)
    (documents : life.documents ⊆ next.documents)
    (apart : ∀ slot ∈ life.flash.metaSlot, slot = store.activeSlot) : next.Bootable := by
  intro slot selected
  rw [staging.metaSlot] at selected
  obtain ⟨document, staged, held⟩ := bootable slot selected
  refine ⟨document, documents staged, ?_⟩
  rw [staging.files, apart slot selected, Function.update_of_ne (other_ne _),
    ← apart slot selected, held]

private theorem stage_flashes (flash : UiFlash)
    (member : after ∈
    UiOperation.flashes sha256 store flash (.stage rawJson version expected writes)) :
    ∃ content, UiBundleStore.Staging store flash content after := by
  have outcome :
      UiBundleStore.StageOutcome store flash rawJson
      (store.stage sha256 flash rawJson version expected writes) :=
    UiBundleStore.stage_outcome store flash rawJson version expected writes
  rw [UiOperation.flashes] at member
  generalize store.stage sha256 flash rawJson version expected writes = result at outcome member
  cases outcome with
  | failed content slots unstaged written => exact ⟨content, written after member⟩
  | staged slots nonempty written => exact ⟨rawJson, written after member⟩

private theorem activate_flashes (flash : UiFlash)
    (member : after ∈ UiOperation.flashes sha256 store flash (.activateStaged writes)) :
    store.staged = true ∧ UiBundleStore.Selecting store flash after := by
  have outcome := UiBundleStore.activateStaged_outcome store flash writes
  rw [UiOperation.flashes] at member
  generalize store.activateStaged flash writes = result at outcome member
  cases outcome with
  | refused slots => simp at member
  | torn staged slots selecting =>
    obtain rfl := List.mem_singleton.mp member
    exact ⟨staged, selecting⟩
  | activated staged slots selecting recording =>
    simp only [List.mem_cons, List.not_mem_nil, or_false] at member
    rcases member with rfl | rfl
    · exact ⟨staged, selecting⟩
    · exact ⟨staged, recording⟩

/-- From a sound state a step is safe exactly when it is careful. -/
theorem safe_iff (sound : life.Sound) (input : UiInput) :
    life.Safe sha256 input ↔ life.Careful sha256 input := by
  unfold Safe Careful overwrites selects
  cases done : life.writesDone sha256 input with
  | none =>
    obtain ⟨flash, documents⟩ := step_still done
    have bootable := sound.bootable.same flash (fun _ member => documents ▸ member)
    simpa using bootable
  | some found =>
    obtain ⟨store, operation, n⟩ := found
    obtain ⟨booted, many⟩ := writesDone_le done
    obtain ⟨flash, documents⟩ := step_flash done
    have agrees := sound.agrees store booted
    cases n with
    | zero =>
      have bootable := sound.bootable.same flash documents
      cases operation <;> simpa using bootable
    | succ n =>
      have written := flashAt_succ life.flash n many
      rw [← flash] at written
      cases operation with
      | stage rawJson version expected writes =>
        obtain ⟨content, staging⟩ := stage_flashes life.flash written
        simp only [Option.mem_some_iff, forall_eq', Option.isSome_some, forall_const,
          Bool.false_eq_true, IsEmpty.forall_iff, and_true]
        constructor
        · rintro ⟨free, _⟩
          by_contra torn
          obtain ⟨staged, selected⟩ := agrees.torn (by simpa using torn)
          exact free store.stagedSlot selected (by rw [agrees.target staged])
        · intro whole
          have apart := agrees.selected whole
          refine ⟨fun slot selected => ?_, sound.bootable.staging staging documents apart⟩
          rw [apart slot selected]
          exact other_ne store.activeSlot
      | activateStaged writes =>
        obtain ⟨staged, selecting⟩ := activate_flashes life.flash written
        have documents := activate_documents done
        have holds : (life.step sha256 input).Bootable ↔ life.Holds store.stagedSlot := by
          simp only [Bootable, selecting.metaSlot, Option.mem_some_iff, forall_eq', Holds,
            selecting.files, documents]
        have spoiled := agrees.spoiled
        rw [staged, Bool.true_and] at spoiled
        simp [holds, spoiled]

private theorem agrees_init (life : UiLife) :
    (life.step sha256 .boot).Agrees (UiBundleStore.init life.flash) := by
  have slots := UiBundleStore.load_slots {} life.flash
  simp only [UiBundleStore.slots, Prod.mk.injEq] at slots
  obtain ⟨active, unstaged, _⟩ := slots
  refine ⟨fun _ slot selected => ?_, fun torn => (by cases torn), fun staged => ?_, ?_⟩
  · have known : life.flash.metaSlot = some slot := selected
    rw [UiBundleStore.init, active, known]
    rfl
  · rw [UiBundleStore.init, unstaged] at staged
    cases staged
  · simp [step, UiBundleStore.init, unstaged]

private theorem getLast_mem {flashes : List UiFlash} (nonempty : flashes ≠ []) (flash : UiFlash) :
    flashes.getLast?.getD flash ∈ flashes := by
  rw [List.getLast?_eq_some_getLast nonempty, Option.getD_some]
  exact List.getLast_mem nonempty

private theorem agrees_stage {rawJson expected : Bytes} {version : UInt32} {writes : UiStageWrites}
    (agrees : life.Agrees store)
    (careful : (store.stage sha256 life.flash rawJson version expected writes).2.1 ≠ [] →
      life.tornActivation = false) :
    ∀ next ∈ (life.perform sha256 store (.stage rawJson version expected writes)).store,
      (life.perform sha256 store (.stage rawJson version expected writes)).Agrees next := by
  have outcome :
      UiBundleStore.StageOutcome store life.flash rawJson
      (store.stage sha256 life.flash rawJson version expected writes) :=
    UiBundleStore.stage_outcome store life.flash rawJson version expected writes
  simp only [perform]
  generalize store.stage sha256 life.flash rawJson version expected writes =
    result at outcome careful ⊢
  cases outcome with
  | failed content slots unstaged written =>
    rename_i next flashes result
    simp only [UiBundleStore.slots, Prod.mk.injEq] at slots
    obtain ⟨active, staged, target⟩ := slots
    simp only [unstaged, ↓reduceIte]
    rintro _ ⟨⟩
    have metaSlot : (flashes.getLast?.getD life.flash).metaSlot = life.flash.metaSlot := by
      by_cases none : flashes = []
      · rw [none]
        rfl
      · exact (written _ (getLast_mem none _)).metaSlot
    refine ⟨?_, ?_, ?_, ?_⟩
    · intro whole
      rw [active]
      simpa only [metaSlot] using agrees.selected whole
    · intro torn
      rw [staged, target]
      simpa only [metaSlot] using agrees.torn torn
    · intro ready
      rw [active, target]
      exact agrees.target (staged ▸ ready)
    · rw [staged, target]
      rfl
  | staged slots nonempty written =>
    rename_i flashes next
    simp only [UiBundleStore.slots, Prod.mk.injEq] at slots
    obtain ⟨active, staged, target⟩ := slots
    simp only [↓reduceIte]
    rintro _ ⟨⟩
    have staging := written _ (getLast_mem nonempty life.flash)
    have whole := careful nonempty
    refine ⟨?_, ?_, ?_, ?_⟩
    · intro _
      rw [active]
      simpa only [staging.metaSlot] using agrees.selected whole
    · intro torn
      rw [whole] at torn
      cases torn
    · intro _
      rw [active, target]
    · have held : Holds { life with
          flash := flashes.getLast?.getD life.flash, store := some next, documents :=
            rawJson :: life.documents
          spoiled := false } store.activeSlot.other :=
        ⟨rawJson, by simp, by simp [staging.files]⟩
      simp [target, held]

private theorem agrees_activate {writes : UiActivateWrites} (agrees : life.Agrees store) :
    ∀ next ∈ (life.perform sha256 store (.activateStaged writes)).store,
      (life.perform sha256 store (.activateStaged writes)).Agrees next := by
  have outcome := UiBundleStore.activateStaged_outcome store life.flash writes
  simp only [perform]
  generalize store.activateStaged life.flash writes = result at outcome
  cases outcome with
  | refused slots =>
    simp only [UiBundleStore.slots, Prod.mk.injEq] at slots
    obtain ⟨active, staged, target⟩ := slots
    rintro _ ⟨⟩
    refine ⟨?_, ?_, ?_, ?_⟩
    · simpa [active] using agrees.selected
    · simpa [staged, target] using agrees.torn
    · simpa [staged, active, target] using agrees.target
    · rw [staged, target]
      exact agrees.spoiled
  | torn ready slots selecting =>
    simp only [UiBundleStore.slots, Prod.mk.injEq] at slots
    obtain ⟨active, staged, target⟩ := slots
    rintro _ ⟨⟩
    refine ⟨by simp, ?_, ?_, ?_⟩
    · intro _
      rw [staged, target]
      exact ⟨ready, selecting.metaSlot⟩
    · simpa [staged, active, target] using agrees.target
    · rw [staged, target]
      refine agrees.spoiled.trans (congrArg _ (congrArg _ (decide_eq_decide.mpr ?_)))
      simp [Holds, selecting.files]
  | activated ready slots selecting recording =>
    simp only [UiBundleStore.slots, Prod.mk.injEq] at slots
    obtain ⟨active, staged, _⟩ := slots
    rintro _ ⟨⟩
    refine ⟨?_, by simp, by simp [staged], by simp [staged]⟩
    intro _ slot selected
    rw [active]
    simpa [recording.metaSlot] using selected.symm

theorem sound_step (sound : life.Sound) (careful : life.Careful sha256 input) :
    (life.step sha256 input).Sound := by
  refine ⟨((safe_iff sound input).mpr careful).2, ?_⟩
  cases input with
  | boot =>
    rintro _ ⟨⟩
    exact agrees_init life
  | cut operation writesDone =>
    simp only [step]
    split
    · rename_i off
      simp [off]
    · rintro _ ⟨⟩
  | perform operation =>
    cases booted : life.store with
    | none => simp [step, booted]
    | some store =>
      have agrees := sound.agrees store booted
      simp only [step, booted]
      cases operation with
      | activateStaged writes => exact agrees_activate agrees
      | stage rawJson version expected writes =>
        refine agrees_stage agrees fun written => careful.1 ?_
        simp only [overwrites, writesDone, booted, Option.map_some, UiOperation.flashes]
        cases listed : (store.stage sha256 life.flash rawJson version expected writes).2.1 with
        | nil => exact absurd listed written
        | cons head rest => rfl

/-- From an empty flash on, the store is safe all along exactly when its use is careful
all along. -/
theorem safe_along_iff (sha256 : Bytes → Bytes) (inputs : List UiInput) :
    Along (step sha256) (Safe sha256) {} inputs ↔
      Along (step sha256) (Careful sha256) {} inputs := by
  have start : Sound {} := ⟨by rintro _ ⟨⟩, by rintro _ ⟨⟩⟩
  constructor
  · intro along
    refine along.entails start (fun life input sound safe => ?_) fun life input sound safe =>
      (safe_iff sound input).mp safe
    exact sound_step sound ((safe_iff sound input).mp safe)
  · intro along
    refine along.entails start (fun life input => sound_step) fun life input sound careful => ?_
    exact (safe_iff sound input).mpr careful

end Steps

/-- The shortest bundle the parser takes, with a version to tell two apart. -/
private def document (version : String) : Bytes :=
  text "\x7b\"manifest\":\x7b\"version\":" ++ text version ++
    text ",\"schema_version\":1\x7d,\"screens\":[\x7b\"id\":\"s\"\x7d]\x7d"

private def stageDocument (version : String) (writes : UiStageWrites) : UiInput :=
  .perform (.stage (document version) 1 [] writes)

/-- A failed second `stage` and a third one before the activation. -/
example : Along (step fun _ => []) (Careful fun _ => []) {} [.boot, stageDocument "1" {},
    stageDocument "2" { file := some 3 }, stageDocument "2" {}, .perform (.activateStaged {}),
      .boot] := by
  simp only [Along, Careful]
  decide +kernel

/-- After an activation that did not write `last_good_ver` the next `stage` writes to
the slot that is selected now, and a boot loads what is left of it. -/
theorem torn_activation_unsafe :
    ¬ Along (step fun _ => []) (Safe fun _ => []) {} [.boot, stageDocument "1" {},
      .perform (.activateStaged { lastGoodVer := false }),
        stageDocument "2" { file := some 3 }] := by
  rintro ⟨_, _, _, ⟨apart, _⟩, _⟩
  exact apart .b (by decide +kernel) .b (by decide +kernel) rfl

end UiLife

end Kiosk.Storage
