import Kiosk.Backend.EventServer
import Kiosk.Backend.JsonDumps
import Kiosk.Library.VersionedViews
import Kiosk.Protocol.ProjectionConvergence

/-! A snapshot is a function of its version: over every run of the backend, and at a
device that offers what it received to its projection. -/
namespace Kiosk.Backend

open Library TransitionSystem VersionedViews Protocol

/-- The view as the device keeps it, its texts in the bytes `spelled` gives: a field is
there where the backend's view has it. -/
@[mk_iff]
structure RepresentsView (spelled : PyStr → Bytes) (view : Option View) (onDevice : ViewModel) :
    Prop where
  employeeName : onDevice.employeeName = view.map fun view => spelled view.employeeName
  operationCode :
    onDevice.operationCode = (view.bind View.operation).map fun operation => spelled operation.1
  operationName : onDevice.operationName = ((view.bind View.operation).bind Prod.snd).map spelled
  sessionId : onDevice.sessionId = (view.bind View.activity).map fun activity => spelled activity.1
  startedAt : onDevice.startedAt =
    ((view.bind View.activity).bind fun activity => activity.2.1).map spelled
  targetQty : onDevice.targetQty.map Int32.toInt = (view.bind View.activity).map fun activity =>
    activity.2.2.1
  producedQty : onDevice.producedQty.map Int32.toInt = (view.bind View.activity).map fun activity =>
    activity.2.2.2

/-- A snapshot of the device with the content of one of the backend. -/
structure Represents (sent : Snapshot) (onDevice : StateSnapshot) : Prop where
  state : onDevice.state = businessStateFromString (utf8 sent.name)
  stateVersion : onDevice.stateVersion.toNat = sent.version
  workflowVersion : onDevice.workflowVersion.toNat = sent.workflowVersion
  view : RepresentsView utf8 sent.view onDevice.view

/-- The device knows every state name of the backend. -/
theorem snapshot_supported (dev : DeviceState) :
    businessStateFromString (utf8 (snapshot dev).name) ≠ .unsupported := by
  simp only [snapshot]
  split
  · decide
  split
  · decide
  · cases dev.stateName <;> decide

theorem RepresentsView.unique {spelled : PyStr → Bytes} {view : Option View}
    {first second : ViewModel}
    (one : RepresentsView spelled view first) (other : RepresentsView spelled view second) :
    first = second := by
  have injective : Function.Injective (Option.map Int32.toInt) :=
    Option.map_injective fun _ _ => Int32.toInt.inj
  obtain ⟨_, _, _, _, _, _, _⟩ := first
  obtain ⟨_, _, _, _, _, _, _⟩ := second
  rw [ViewModel.mk.injEq]
  exact ⟨one.employeeName.trans other.employeeName.symm,
    one.operationCode.trans other.operationCode.symm,
    one.operationName.trans other.operationName.symm, one.sessionId.trans other.sessionId.symm,
    one.startedAt.trans other.startedAt.symm, injective (one.targetQty.trans other.targetQty.symm),
    injective (one.producedQty.trans other.producedQty.symm)⟩

theorem Represents.unique {sent : Snapshot} {first second : StateSnapshot}
    (one : Represents sent first) (other : Represents sent second) : first = second := by
  obtain ⟨_, _, _, _⟩ := first
  obtain ⟨_, _, _, _⟩ := second
  rw [StateSnapshot.mk.injEq]
  exact ⟨one.state.trans other.state.symm,
    UInt64.toNat_inj.mp (one.stateVersion.trans other.stateVersion.symm),
    UInt32.toNat_inj.mp (one.workflowVersion.trans other.workflowVersion.symm),
      one.view.unique other.view⟩

def Response.snapshot : Response → Option Snapshot
  | .outcome _ _ _ snapshot _ => some snapshot
  | _ => none

/-- The backend with the snapshots it took, each with its device. A cached response is
no new snapshot. -/
structure SnapshotTrace (δ : Type) where
  backend : MockBackend δ := {}
  produced : List (PyStr × Snapshot) := []

namespace SnapshotTrace

variable {β δ : Type} [DecidableEq δ] (py : Python β δ)

/-- The backend after a request and the snapshot taken for it. -/
def serve (backend : MockBackend δ) : BackendStep β → MockBackend δ × Option (PyStr × Snapshot)
  | .postEvents none now => ((backend.postEvents py none now).1, none)
  | .postEvents (some body) now =>
    let result := backend.postEvents py (some body) now
    let key := (py.fields body).cacheKey
    (result.1, if (ReplyCache.lookup backend.idempotency key).isSome then none
      else result.2.snapshot.map fun taken => (key.1, taken))
  | .getState deviceId | .bootstrap deviceId =>
    let result := backend.readSnapshot deviceId
    (result.1, (truthy deviceId).bind fun id => result.2.map fun taken => (id, taken))
  | .mockState deviceId =>
    (backend, (backend.mockState deviceId).map fun taken => (deviceId, taken))
  | .admin deviceId body =>
    let backend := backend.admin deviceId body
    (backend, some (deviceId, snapshot (backend.device deviceId)))
  | .dropNext n => ({ backend with dropNextN := n }, none)

def step (trace : SnapshotTrace δ) (input : BackendStep β) : SnapshotTrace δ where
  backend := (serve py trace.backend input).1
  produced := trace.produced ++ (serve py trace.backend input).2.toList

abbrev Ordered (trace : SnapshotTrace δ) : Prop :=
  Consistent snapshot Snapshot.version trace.backend.device trace.produced

end SnapshotTrace

/-- A step of a device keeps it or takes it to a higher version. -/
abbrev DeviceState.Follows (before after : DeviceState) : Prop :=
  VersionedViews.Follows Snapshot.version (snapshot before) (snapshot after)

theorem DeviceState.administer_follows (dev : DeviceState) (body : AdminBody) :
    dev.Follows (dev.administer body) := by
  have set : ∀ (dev : DeviceState) (flag : Option Bool),
      dev.Follows (dev.setDisabled flag) ∧ dev.Follows (dev.setMaintenance flag) := by
    intro dev flag
    cases flag with
    | none => exact ⟨.refl _, .refl _⟩
    | some value => exact ⟨.inl (Nat.lt_succ_self _), .inl (Nat.lt_succ_self _)⟩
  unfold administer
  split
  · exact .inl (Nat.lt_succ_self _)
  · exact (set dev body.disabled).1.trans (set _ body.maintenance).2

theorem applyEvent_follows (isdigit : PyStr → Bool) (dev : DeviceState) (data : Fixtures)
    (input : EventInput) :
    dev.Follows (applyEvent isdigit dev data input).device := by
  rcases applyEvent_settled isdigit dev data input with ⟨_, version⟩ | ⟨_, same⟩
  · refine .inl ?_
    show dev.stateVersion < _
    rw [snapshot, version]
    exact Nat.lt_succ_self _
  · rw [same]
    exact .refl _

/-- What one request does to a device. -/
inductive DeviceState.Next (dev : DeviceState) : DeviceState → Prop where
  | same : dev.Next dev
  | admin (body : AdminBody) : dev.Next (dev.administer body)
  | event (isdigit : PyStr → Bool) (data : Fixtures) (input : EventInput) :
      dev.Next (applyEvent isdigit dev data input).device

theorem DeviceState.Next.follows {before after : DeviceState} (next : before.Next after) :
    before.Follows after := by
  cases next with
  | same => exact .refl _
  | admin body => exact administer_follows before body
  | event isdigit data input => exact applyEvent_follows isdigit before data input

namespace MockBackend

variable {β δ : Type} {backend : MockBackend δ}

theorem putDevice_device (id other : PyStr) (dev : DeviceState) :
    (backend.putDevice id dev).device other = if id = other then dev else backend.device other := by
  by_cases same : id = other <;> simp [device, putDevice, find_cons, same]

theorem putDevice_next (id : PyStr) {dev : DeviceState} (next : (backend.device id).Next dev)
    (other : PyStr) :
    (backend.device other).Next ((backend.putDevice id dev).device other) := by
  rw [putDevice_device]
  split
  · rename_i same
    exact same ▸ next
  · exact .same

theorem handleFresh_next (py : Python β δ) (backend : MockBackend δ) (body : β) (now : PyStr)
    (id : PyStr) :
    (backend.device id).Next ((backend.handleFresh py body now).1.device id) := by
  have touched := touchDevice_device backend (py.fields body).cacheKey.1
  simp only [handleFresh]
  rw [← touched id]
  split
  · exact .same
  · refine putDevice_next _ ?_ id
    rw [touched]
    exact .event _ _ _

theorem handleFresh_snapshot (py : Python β δ) (backend : MockBackend δ) (body : β) (now : PyStr) :
    ∀ taken ∈ (backend.handleFresh py body now).2.snapshot,
      taken = Backend.snapshot
        ((backend.handleFresh py body now).1.device (py.fields body).cacheKey.1) := by
  simp only [handleFresh]
  split
  · simp [Response.snapshot]
  · intro taken spelled
    cases spelled
    simp [device, putDevice, find_cons]

variable [DecidableEq δ]

/-- What a first arrival returns, but for the table. -/
theorem handleEvent_unknown (py : Python β δ) (backend : MockBackend δ) (body : β) (now : PyStr)
    (unknown : ReplyCache.lookup backend.idempotency (py.fields body).cacheKey = none) :
    ∃ table, backend.handleEvent py body now =
      ({ (backend.countEvent.handleFresh py body now).1 with idempotency := table },
        (backend.countEvent.handleFresh py body now).2) := by
  have unchanged :
      ReplyCache.lookup backend.countEvent.idempotency (py.fields body).cacheKey = none :=
    unknown
  simp only [handleEvent, unchanged]
  exact ⟨_, rfl⟩

theorem postEvents_next (py : Python β δ) (backend : MockBackend δ) (body : Option β) (now : PyStr)
    (id : PyStr) :
    (backend.device id).Next ((backend.postEvents py body now).1.device id) := by
  unfold postEvents
  split
  · exact .same
  rename_i body
  split
  · exact .same
  cases found : ReplyCache.lookup backend.idempotency (py.fields body).cacheKey with
  | some cached =>
    rw [EventTrace.handleEvent_known backend body now found]
    exact .same
  | none =>
    obtain ⟨table, fresh⟩ := handleEvent_unknown py backend body now found
    rw [fresh]
    exact handleFresh_next py backend.countEvent body now id

theorem postEvents_snapshot (py : Python β δ) (backend : MockBackend δ) (body : β) (now : PyStr)
    (unknown : ReplyCache.lookup backend.idempotency (py.fields body).cacheKey = none) :
    ∀ taken ∈ (backend.postEvents py (some body) now).2.snapshot,
      taken = Backend.snapshot
        ((backend.postEvents py (some body) now).1.device (py.fields body).cacheKey.1) := by
  simp only [postEvents]
  split
  · simp [Response.snapshot]
  · obtain ⟨table, fresh⟩ := handleEvent_unknown py backend body now unknown
    rw [fresh]
    exact handleFresh_snapshot py backend.countEvent body now

end MockBackend

namespace SnapshotTrace

variable {β δ : Type} [DecidableEq δ] (py : Python β δ)

theorem serve_next (backend : MockBackend δ) (input : BackendStep β) (id : PyStr) :
    (backend.device id).Next ((serve py backend input).1.device id) := by
  have read : ∀ deviceId, (backend.readSnapshot deviceId).1.device id = backend.device id := by
    intro deviceId
    unfold MockBackend.readSnapshot
    split
    · rfl
    · exact MockBackend.touchDevice_device backend _ id
  cases input with
  | postEvents body now =>
    cases body with
    | none => exact backend.postEvents_next py none now id
    | some body => exact backend.postEvents_next py (some body) now id
  | getState deviceId =>
    simp only [serve, read]
    exact .same
  | bootstrap deviceId =>
    simp only [serve, read]
    exact .same
  | mockState deviceId => exact .same
  | admin deviceId body => exact MockBackend.putDevice_next deviceId (.admin body) id
  | dropNext n => exact .same

/-- A snapshot shows its device as it is after the request. -/
theorem serve_snapshot (backend : MockBackend δ) (input : BackendStep β) :
    ∀ entry ∈ (serve py backend input).2,
      entry.2 = snapshot ((serve py backend input).1.device entry.1) := by
  have read : ∀ deviceId,
        ∀ entry ∈ (truthy deviceId).bind
        (fun id => (backend.readSnapshot deviceId).2.map fun taken => (id, taken)),
      entry.2 = snapshot ((backend.readSnapshot deviceId).1.device entry.1) := by
    intro deviceId entry mem
    cases named : truthy deviceId with
    | none => simp [named] at mem
    | some id =>
      simp only [MockBackend.readSnapshot, named, Option.bind_some, Option.map_some,
        Option.mem_some_iff] at mem ⊢
      subst mem
      simp
  cases input with
  | postEvents body now =>
    cases body with
    | none => simp [serve]
    | some body =>
      intro entry mem
      simp only [serve] at mem ⊢
      split at mem
      · cases mem
      · rename_i unknown
        obtain ⟨taken, spelled, rfl⟩ := Option.map_eq_some_iff.mp mem
        exact backend.postEvents_snapshot py body now (by simpa using unknown) taken spelled
  | getState deviceId => exact read deviceId
  | bootstrap deviceId => exact read deviceId
  | mockState deviceId =>
    intro entry mem
    obtain ⟨taken, spelled, rfl⟩ := Option.map_eq_some_iff.mp mem
    obtain ⟨dev, known, rfl⟩ := Option.map_eq_some_iff.mp spelled
    simp [serve, MockBackend.device, known]
  | admin deviceId body =>
    intro entry mem
    cases mem
    rfl
  | dropNext n => simp [serve]

variable {py}

theorem Ordered.step {trace : SnapshotTrace δ} (ordered : trace.Ordered) (input : BackendStep β) :
    (trace.step py input).Ordered := by
  have advanced := ordered.advance fun id => (serve_next py trace.backend input id).follows
  unfold Ordered SnapshotTrace.step
  cases taken : (serve py trace.backend input).2 with
  | none => simpa using advanced
  | some entry =>
    have shown := serve_snapshot py trace.backend input entry taken
    have seen := advanced.look entry.1
    rw [← shown] at seen
    exact seen

/-- A response that is sent again has a snapshot that was produced before. -/
def Recalls (trace : SnapshotTrace δ) : Prop :=
  ∀ entry ∈ trace.backend.idempotency, ∀ taken ∈ entry.2.2.snapshot,
    (entry.1.1, taken) ∈ trace.produced

theorem Recalls.aside {trace : SnapshotTrace δ} (recalls : trace.Recalls) (input : BackendStep β)
    (same : (serve py trace.backend input).1.idempotency = trace.backend.idempotency) :
    (trace.step py input).Recalls := by
  intro entry mem taken spelled
  refine List.mem_append_left _ (recalls entry ?_ taken spelled)
  rw [← same]
  exact mem

theorem Recalls.step {trace : SnapshotTrace δ} (recalls : trace.Recalls) (input : BackendStep β) :
    (trace.step py input).Recalls := by
  cases input with
  | postEvents body now =>
    cases body with
    | none => exact recalls.aside _ rfl
    | some body =>
      by_cases supported : EventTrace.Supported py body
      · have handled := EventTrace.postEvents_supported trace.backend now supported
        cases found : ReplyCache.lookup trace.backend.idempotency (EventTrace.keyOf py body) with
        | some cached =>
          refine recalls.aside _ ?_
          simp only [serve, handled, EventTrace.handleEvent_known trace.backend body now found]
          rfl
        | none =>
          have table := EventTrace.handleEvent_fresh trace.backend body now found
          intro entry mem taken spelled
          simp only [SnapshotTrace.step, serve, handled, table] at mem
          rcases List.mem_cons.mp mem with rfl | mem
          · refine List.mem_append_right _ ?_
            have unknown :
                ReplyCache.lookup trace.backend.idempotency (py.fields body).cacheKey = none :=
              found
            simp [serve, handled, unknown, Option.mem_def.mp spelled, EventTrace.keyOf]
          · exact List.mem_append_left _ (recalls entry mem taken spelled)
      · refine recalls.aside _ ?_
        unfold EventTrace.Supported at supported
        simp [serve, MockBackend.postEvents, supported]
  | getState deviceId => exact recalls.aside _ (EventTrace.readSnapshot_idempotency _ deviceId)
  | bootstrap deviceId => exact recalls.aside _ (EventTrace.readSnapshot_idempotency _ deviceId)
  | mockState deviceId => exact recalls.aside _ rfl
  | admin deviceId body => exact recalls.aside _ rfl
  | dropNext n => exact recalls.aside _ rfl

/-- A snapshot in a cached response is one of those produced, in every run. -/
theorem run_recalls (steps : List (BackendStep β)) :
    (run (SnapshotTrace.step py) {} steps).Recalls :=
  run_invariant (by simp [Recalls]) (fun _ input recalls => recalls.step input) steps

theorem run_ordered (steps : List (BackendStep β)) :
    (run (SnapshotTrace.step py) {} steps).Ordered :=
  run_invariant (motive := Ordered) consistent_start
    (fun _ input ordered => ordered.step input) steps

/-- Every name the backend produces is one the device knows. -/
def Named (trace : SnapshotTrace δ) : Prop :=
  ∀ entry ∈ trace.produced, businessStateFromString (utf8 entry.2.name) ≠ .unsupported

theorem run_named (steps : List (BackendStep β)) :
    (run (SnapshotTrace.step py) {} steps).Named := by
  refine run_invariant (by simp [Named]) ?_ steps
  intro trace input named entry mem
  rcases List.mem_append.mp mem with mem | mem
  · exact named entry mem
  · rw [serve_snapshot py trace.backend input entry (by simpa using mem)]
    exact snapshot_supported _

end SnapshotTrace

/-- Snapshots that differ by their version only where they differ keep the projection
consistent. -/
theorem consistent_offers {offered : List StateSnapshot}
    (single : ∀ a ∈ offered, ∀ b ∈ offered, a.stateVersion = b.stateVersion → a = b) :
    Along StateProjection.offer
      (fun projection incoming => (projection.apply incoming).2 ≠ .rejectedInconsistent) {}
      offered := by
  have inside : Along StateProjection.offer (fun _ incoming => incoming ∈ offered) {} offered :=
    Along.of_mem (fun _ mem _ => mem) _
  refine inside.entails
    (motive := fun projection => ∀ current ∈ projection.current, current ∈ offered) (by simp) ?_ ?_
  · intro projection incoming held mem current known
    rw [StateProjection.offer_current] at known
    split at known
    · unfold NewestWins.keep at known
      split at known
      · cases known
        exact mem
      · rename_i previous before
        split at known
        · cases known
          exact mem
        · cases known
          exact held _ before
    · exact held current known
  · intro projection incoming held mem
    unfold StateProjection.apply
    split
    · simp
    split
    · simp
    · rename_i current known
      split
      · simp
      split
      · rename_i level
        rw [if_pos (single incoming mem current (held current known) level)]
        simp
      · simp

namespace SnapshotTrace

variable {β δ : Type} [DecidableEq δ] {py : Python β δ}

/-- Over every run of the backend the versions of a device never fall and each stands
for one content. Snapshots of one device that reach the projection of a device, in any
order and any number, never contradict each other there, and it holds the newest. -/
theorem snapshots_by_version (steps : List (BackendStep β)) :
    let produced := (run (SnapshotTrace.step py) {} steps).produced
    (produced.Pairwise fun earlier later =>
      earlier.1 = later.1 → earlier.2.version ≤ later.2.version) ∧
    (∀ id first second,
      (id, first) ∈ produced → (id, second) ∈ produced → first.version = second.version →
      first = second) ∧
    ∀ id (offered : List StateSnapshot),
      (∀ incoming ∈ offered, ∃ sent, (id, sent) ∈ produced ∧ Represents sent incoming) →
        Along StateProjection.offer
          (fun projection incoming => (projection.apply incoming).2 ≠ .rejectedInconsistent)
            {} offered ∧
        (offered ≠ [] → ∃ current ∈ (run StateProjection.offer {} offered).current,
          (∃ sent, (id, sent) ∈ produced ∧ Represents sent current) ∧ current ∈ offered ∧
          ∀ incoming ∈ offered, incoming.stateVersion ≤ current.stateVersion) := by
  intro produced
  have ordered : (run (SnapshotTrace.step py) {} steps).Ordered := run_ordered steps
  have unique : ∀ id first second, (id, first) ∈ produced → (id, second) ∈ produced →
      first.version = second.version → first = second :=
    fun id first second one other level => ordered.unique one other level
  refine ⟨ordered.ordered.imp fun follows same => (follows same).le, unique, ?_⟩
  intro id offered received
  have single : ∀ a ∈ offered, ∀ b ∈ offered, a.stateVersion = b.stateVersion → a = b := by
    intro a first b second level
    obtain ⟨sent, mem, represents⟩ := received a first
    obtain ⟨other, otherMem, otherRepresents⟩ := received b second
    have same : sent = other := by
      refine unique id sent other mem otherMem ?_
      rw [← represents.stateVersion, ← otherRepresents.stateVersion, level]
    exact represents.unique (same ▸ otherRepresents)
  have supported : offered.filter StateSnapshot.supported = offered := by
    refine List.filter_eq_self.mpr fun incoming mem => ?_
    obtain ⟨sent, taken, represents⟩ := received incoming mem
    simpa [StateSnapshot.supported, represents.state] using run_named steps (id, sent) taken
  refine ⟨consistent_offers single, fun some => ?_⟩
  have newest := StateProjection.run_newest offered
  rw [supported] at newest
  have found : offered.argmax StateSnapshot.version ≠ none := mt List.argmax_eq_none.mp some
  obtain ⟨current, greatest⟩ := Option.ne_none_iff_exists'.mp found
  have mem := List.argmax_mem greatest
  refine ⟨current, by rw [newest]; exact greatest, received current mem, mem,
    fun incoming arrived => ?_⟩
  have level : incoming.version ≤ current.version := List.le_of_mem_argmax arrived greatest
  exact UInt64.le_iff_toNat_le.mpr level

end SnapshotTrace

end Kiosk.Backend
