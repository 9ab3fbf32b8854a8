import Kiosk.Backend.DeviceState
import Kiosk.Library.ReplyCache
import Kiosk.Library.TransitionSystem

/-! `mock_backend.py`: the handler of `/events` with its idempotency table, the other
operations on a device, and that an event takes effect once. Requests are handled one
at a time. UI bundles, heartbeats and the delay of a response are left out. -/
namespace Kiosk.Backend

open Library TransitionSystem ReplyCache

/-- What `body.get` finds in the body of an event, `none` for a member that is absent
or null. -/
structure EventFields where
  protocolVersion : Option Int := some 1
  deviceId : Option PyStr := none
  hardwareId : Option PyStr := none
  eventId : Option PyStr := none
  type : Option PyStr := none
  expectedStateVersion : Option Int := none
  raw : PyStr := []
  quantityGood : Option Int := none
  deriving DecidableEq, Repr

/-- What the handler has from Python: the members of a decoded body, the SHA-256 of its
sorted dump, and `str.isdigit`. -/
structure Python (β δ : Type) where
  fields : β → EventFields
  payloadHash : β → δ
  isdigit : PyStr → Bool

abbrev CacheKey := PyStr × Option PyStr

def EventFields.cacheKey (fields : EventFields) : CacheKey :=
  (((truthy fields.deviceId).or (truthy fields.hardwareId)).getD (chars "unknown"), fields.eventId)

inductive Response where
  | decodeFailed
  | unsupportedVersion
  | reuseMismatch (eventId : Option PyStr)
  | conflict (eventId : Option PyStr) (currentStateVersion serverSeq : Nat)
  | outcome (accepted : Bool) (eventId : Option PyStr) (serverSeq : Nat) (snapshot : Snapshot)
      (error : Option EventError)
  deriving DecidableEq, Repr

def Response.status : Response → Nat
  | .decodeFailed | .unsupportedVersion => 400
  | .reuseMismatch _ => 409
  | .conflict _ _ _ | .outcome _ _ _ _ _ => 200

/-- The globals of the module. The newest entry of a device stands first. -/
structure MockBackend (δ : Type) where
  devices : List (PyStr × DeviceState) := []
  idempotency : Table CacheKey δ Response := []
  serverSeqCounter : Nat := 0
  dropNextN : Nat := 0
  fixtures : Fixtures := Backend.fixtures

/-- The body `/mock/admin` was sent. -/
structure AdminBody where
  reset : Bool := false
  disabled : Option Bool := none
  maintenance : Option Bool := none
  deriving DecidableEq, Repr

def DeviceState.setDisabled (dev : DeviceState) : Option Bool → DeviceState
  | none => dev
  | some disabled => { dev with disabled := disabled, stateVersion := dev.stateVersion + 1 }

def DeviceState.setMaintenance (dev : DeviceState) : Option Bool → DeviceState
  | none => dev
  | some maintenance =>
    { dev with maintenance := maintenance, stateVersion := dev.stateVersion + 1 }

/-- The branch of `/mock/admin/<device_id>`. -/
def DeviceState.administer (dev : DeviceState) (body : AdminBody) : DeviceState :=
  if body.reset then
    { newDeviceState with
      stateVersion := dev.stateVersion + 1, workflowVersion := dev.workflowVersion }
  else (dev.setDisabled body.disabled).setMaintenance body.maintenance

namespace MockBackend

variable {β δ : Type}

/-- The state of a device, a new one's where there is no entry. -/
def device (backend : MockBackend δ) (id : PyStr) : DeviceState :=
  (find backend.devices id).getD newDeviceState

def putDevice (backend : MockBackend δ) (id : PyStr) (dev : DeviceState) : MockBackend δ :=
  { backend with devices := (id, dev) :: backend.devices }

/-- `get_device` as a statement: the entry is there afterwards. -/
def touchDevice (backend : MockBackend δ) (id : PyStr) : MockBackend δ :=
  match find backend.devices id with
  | some _ => backend
  | none => backend.putDevice id newDeviceState

@[simp] theorem touchDevice_idempotency (backend : MockBackend δ) (id : PyStr) :
    (backend.touchDevice id).idempotency = backend.idempotency := by
  unfold touchDevice
  split <;> rfl

@[simp] theorem touchDevice_device (backend : MockBackend δ) (id other : PyStr) :
    (backend.touchDevice id).device other = backend.device other := by
  unfold touchDevice
  split
  · rfl
  · rename_i missing
    by_cases same : id = other
    · subst same
      simp [device, putDevice, find_cons, missing]
    · simp [device, putDevice, find_cons, same]

/-- The handler past the idempotency check. -/
def handleFresh (py : Python β δ) (backend : MockBackend δ) (body : β) (now : PyStr) :
    MockBackend δ × Response :=
  let fields := py.fields body
  let id := fields.cacheKey.1
  let dev := backend.device id
  let backend := backend.touchDevice id
  if fields.expectedStateVersion.any (fun expected => expected < (dev.stateVersion : Int)) then
    (backend, .conflict fields.eventId dev.stateVersion backend.serverSeqCounter)
  else
    let applied := applyEvent py.isdigit dev backend.fixtures {
      type := fields.type
      raw := fields.raw
      quantityGood := fields.quantityGood
      serverSeq := backend.serverSeqCounter
      now := now }
    ({ backend.putDevice id applied.device with
        fixtures := applied.fixtures, dropNextN := backend.dropNextN - 1 },
      .outcome applied.error.isNone fields.eventId backend.serverSeqCounter
        (snapshot applied.device) applied.error)

@[simp] theorem handleFresh_idempotency (backend : MockBackend δ) (body : β) (now : PyStr) :
    (backend.handleFresh py body now).1.idempotency = backend.idempotency := by
  simp only [handleFresh]
  split <;> simp [putDevice]

def countEvent (backend : MockBackend δ) : MockBackend δ :=
  { backend with serverSeqCounter := backend.serverSeqCounter + 1 }

/-- No device of either backend is in another state. -/
def SameDevices (before after : MockBackend δ) : Prop :=
  ∀ entry ∈ before.devices ++ after.devices, after.device entry.1 = before.device entry.1

instance (before after : MockBackend δ) : Decidable (SameDevices before after) :=
  inferInstanceAs (Decidable (∀ entry ∈ _, _))

variable [DecidableEq δ]

/-- `POST /events` with a body that was decoded. -/
def handleEvent (py : Python β δ) (backend : MockBackend δ) (body : β) (now : PyStr) :
    MockBackend δ × Response :=
  let key := (py.fields body).cacheKey
  let backend := backend.countEvent
  match lookup backend.idempotency key with
  | some (cachedHash, cachedResponse) =>
    if cachedHash = py.payloadHash body then (backend, cachedResponse)
    else (backend, .reuseMismatch (py.fields body).eventId)
  | none =>
    match backend.handleFresh py body now with
    | (backend, resp) =>
      ({ backend with idempotency := (key, py.payloadHash body, resp) :: backend.idempotency },
        resp)

def postEvents (py : Python β δ) (backend : MockBackend δ) (body : Option β) (now : PyStr) :
    MockBackend δ × Response :=
  match body with
  | none => (backend, .decodeFailed)
  | some body =>
    if (py.fields body).protocolVersion ≠ some 1 then (backend, .unsupportedVersion)
      else backend.handleEvent py body now

/-- What `GET /state` and the bootstrap answer with for a device id that is not empty. -/
def readSnapshot (backend : MockBackend δ) (deviceId : Option PyStr) :
    MockBackend δ × Option Snapshot :=
  match truthy deviceId with
  | none => (backend, none)
  | some id => (backend.touchDevice id, some (snapshot (backend.device id)))

/-- `GET /mock/state/<device_id>`, which answers for known devices only. -/
def mockState (backend : MockBackend δ) (id : PyStr) : Option Snapshot :=
  (find backend.devices id).map snapshot

def admin (backend : MockBackend δ) (id : PyStr) (body : AdminBody) : MockBackend δ :=
  backend.putDevice id ((backend.device id).administer body)

end MockBackend

/-- The requests that touch a device. `body` is `none` where the text is no JSON. -/
inductive BackendStep (β : Type) where
  | postEvents (body : Option β) (now : PyStr)
  | getState (deviceId : Option PyStr)
  | bootstrap (deviceId : Option PyStr)
  | mockState (deviceId : PyStr)
  | admin (deviceId : PyStr) (body : AdminBody)
  | dropNext (n : Nat)

/-- The backend, the events it answered after the first checks, and the keys of those
that changed a device. -/
structure EventTrace (β δ : Type) where
  backend : MockBackend δ := {}
  answered : List (β × Response) := []
  changed : List CacheKey := []

namespace EventTrace

variable {β δ : Type} [DecidableEq δ] (py : Python β δ)

def keyOf (body : β) : CacheKey := (py.fields body).cacheKey

/-- An event of the one supported protocol version. -/
def Supported (body : β) : Prop := (py.fields body).protocolVersion = some 1

instance (body : β) : Decidable (Supported py body) := by unfold Supported; infer_instance

def step (trace : EventTrace β δ) : BackendStep β → EventTrace β δ
  | .postEvents body now =>
    let result := trace.backend.postEvents py body now
    match body.filter (Supported py ·) with
    | none => { trace with backend := result.1 }
    | some body =>
      { backend := result.1
        answered := trace.answered ++ [(body, result.2)]
        changed :=
          if trace.backend.SameDevices result.1 then trace.changed
            else trace.changed ++ [keyOf py body] }
  | .getState deviceId => { trace with backend := (trace.backend.readSnapshot deviceId).1 }
  | .bootstrap deviceId => { trace with backend := (trace.backend.readSnapshot deviceId).1 }
  | .mockState _ => trace
  | .admin deviceId body => { trace with backend := trace.backend.admin deviceId body }
  | .dropNext n => { trace with backend := { trace.backend with dropNextN := n } }

/-- The body a step posts to `/events`. -/
def posted : BackendStep β → Option β
  | .postEvents body _ => body
  | _ => none

/-- What a step owes a repeat: the first answer to the same body, 409 to another one,
and in both cases a backend that only counted it. -/
def AnswersRepeat (trace : EventTrace β δ) : BackendStep β → Prop
  | .postEvents (some body) now => Supported py body →
    ∀ first answer, firstOf (keyOf py) trace.answered (keyOf py body) = some (first, answer) →
      (body = first →
        trace.backend.postEvents py (some body) now = (trace.backend.countEvent, answer)) ∧
      (body ≠ first → trace.backend.postEvents py (some body) now =
        (trace.backend.countEvent, .reuseMismatch (py.fields body).eventId))
  | _ => True

/-- The table is that of the first answers to some of `bodies`, and only events in it
changed a device, each once. -/
structure Answered (bodies : List β) (trace : EventTrace β δ) : Prop where
  remembers : Remembers (keyOf py) py.payloadHash trace.backend.idempotency trace.answered
  offered : ∀ answered ∈ trace.answered, answered.1 ∈ bodies
  known : ∀ key ∈ trace.changed, lookup trace.backend.idempotency key ≠ none
  once : trace.changed.Nodup

variable {py} {trace : EventTrace β δ} {bodies : List β}

/-- Handling an event the first time enters it, whatever comes of it. -/
theorem handleEvent_fresh (backend : MockBackend δ) (body : β) (now : PyStr)
    (unknown : lookup backend.idempotency (keyOf py body) = none) :
    (backend.handleEvent py body now).1.idempotency =
      (keyOf py body, py.payloadHash body, (backend.handleEvent py body now).2)
        :: backend.idempotency := by
  have unchanged : lookup backend.countEvent.idempotency (py.fields body).cacheKey = none := unknown
  simp only [MockBackend.handleEvent, unchanged, MockBackend.handleFresh_idempotency]
  rfl

theorem handleEvent_known {cachedHash : δ} {answer : Response} (backend : MockBackend δ) (body : β)
    (now : PyStr) (known : lookup backend.idempotency (keyOf py body) = some (cachedHash, answer)) :
    backend.handleEvent py body now = (backend.countEvent,
      if cachedHash = py.payloadHash body then answer
        else .reuseMismatch (py.fields body).eventId) := by
  have unchanged :
      lookup backend.countEvent.idempotency (py.fields body).cacheKey = some (cachedHash, answer) :=
    known
  simp only [MockBackend.handleEvent, unchanged]
  split <;> rfl

theorem postEvents_supported (backend : MockBackend δ) {body : β} (now : PyStr)
    (supported : Supported py body) :
    backend.postEvents py (some body) now = backend.handleEvent py body now := by
  unfold Supported at supported
  simp [MockBackend.postEvents, supported]

/-- An event of the supported version is entered on its first arrival and only counted
on a repeat. -/
theorem Answered.post (answered : Answered py bodies trace) {body : β} (offered : body ∈ bodies)
    (now : PyStr) (supported : Supported py body) :
    Answered py bodies (trace.step py (.postEvents (some body) now)) := by
  have kept : (some body).filter (Supported py ·) = some body := by simp [supported]
  have bounded :
      ∀ response, ∀ handled ∈ trace.answered ++ [(body, response)], handled.1 ∈ bodies := by
    intro response handled mem
    rcases List.mem_append.mp mem with mem | mem
    · exact answered.offered handled mem
    · rw [List.mem_singleton.mp mem]
      exact offered
  simp only [EventTrace.step, kept, postEvents_supported _ _ supported]
  cases found : lookup trace.backend.idempotency (keyOf py body) with
  | some cached =>
    have handled := handleEvent_known trace.backend body now found
    have still : trace.backend.SameDevices (trace.backend.handleEvent py body now).1 := by
      rw [handled]
      exact fun _ _ => rfl
    have table :
        (trace.backend.handleEvent py body now).1.idempotency = trace.backend.idempotency := by
      rw [handled]
      rfl
    refine ⟨?_, bounded _, ?_, ?_⟩
    · rw [table]
      exact answered.remembers.repeated (by simp [found]) _
    · rw [if_pos still, table]
      exact answered.known
    · rw [if_pos still]
      exact answered.once
  | none =>
    have table := handleEvent_fresh trace.backend body now found
    refine ⟨?_, bounded _, ?_, ?_⟩
    · rw [table]
      exact answered.remembers.entered found _
    · rw [table]
      intro key mem
      rw [lookup_cons]
      by_cases same : keyOf py body = key
      · simp [same]
      · rw [if_neg same]
        split at mem
        · exact answered.known key mem
        · exact answered.known key (by simpa [Ne.symm same] using mem)
    · split
      · exact answered.once
      · refine List.Nodup.append answered.once (List.nodup_singleton _) ?_
        intro key mem other
        rw [List.mem_singleton.mp other] at mem
        exact answered.known _ mem found

omit [DecidableEq δ] in
/-- The other requests leave the table alone. -/
theorem Answered.aside (answered : Answered py bodies trace) (backend : MockBackend δ)
    (same : backend.idempotency = trace.backend.idempotency) :
    Answered py bodies { trace with backend := backend } where
  remembers := by
    rw [same]
    exact answered.remembers
  offered := answered.offered
  known := by
    rw [same]
    exact answered.known
  once := answered.once

omit [DecidableEq δ] in
theorem readSnapshot_idempotency (backend : MockBackend δ) (deviceId : Option PyStr) :
    (backend.readSnapshot deviceId).1.idempotency = backend.idempotency := by
  unfold MockBackend.readSnapshot
  split <;> simp

theorem Answered.step (answered : Answered py bodies trace) (input : BackendStep β)
    (offered : ∀ body, posted input = some body → body ∈ bodies) :
    Answered py bodies (trace.step py input) := by
  cases input with
  | postEvents body now =>
    cases body with
    | none => exact answered.aside _ rfl
    | some body =>
      by_cases supported : Supported py body
      · exact answered.post (offered body rfl) now supported
      · have dropped : (some body).filter (Supported py ·) = none := by simp [supported]
        unfold Supported at supported
        simp only [EventTrace.step, dropped]
        exact answered.aside _ (by simp [MockBackend.postEvents, supported])
  | getState deviceId => exact answered.aside _ (readSnapshot_idempotency _ deviceId)
  | bootstrap deviceId => exact answered.aside _ (readSnapshot_idempotency _ deviceId)
  | mockState => exact answered
  | admin deviceId body => exact answered.aside _ rfl
  | dropNext n => exact answered.aside _ rfl

theorem Answered.answersRepeat (answered : Answered py bodies trace) (input : BackendStep β)
    (offered : ∀ body, posted input = some body → body ∈ bodies)
    (noCollision : ∀ body ∈ bodies, ∀ other ∈ bodies,
      py.payloadHash body = py.payloadHash other → body = other) :
    AnswersRepeat py trace input := by
  cases input with
  | postEvents body now =>
    cases body with
    | none => trivial
    | some body =>
      intro supported first answer found
      have entered := answered.remembers (keyOf py body)
      rw [found, Option.map_some] at entered
      have mem : first ∈ bodies :=
        answered.offered (first, answer) (List.mem_of_find?_eq_some found)
      rw [postEvents_supported _ _ supported, handleEvent_known trace.backend body now entered]
      constructor
      · rintro rfl
        simp
      · intro different
        rw [if_neg fun same => different (noCollision first mem body (offered body rfl) same).symm]
  | _ => trivial

/-- Over any requests, in any order and repeated at will: a repeat of an event gets the
first answer or 409 and is only counted, and no event changes its device twice. The
bodies posted are told apart by their SHA-256. -/
theorem changes_once (steps : List (BackendStep β))
    (noCollision : ∀ body ∈ steps.filterMap posted, ∀ other ∈ steps.filterMap posted,
      py.payloadHash body = py.payloadHash other → body = other) :
    Along (EventTrace.step py) (AnswersRepeat py) {} steps ∧
      (run (EventTrace.step py) {} steps).changed.Nodup := by
  have offered : Along (EventTrace.step py)
      (fun _ input => ∀ body, posted input = some body → body ∈ steps.filterMap posted) {} steps :=
    Along.of_mem (fun input mem _ body spelled => List.mem_filterMap.mpr ⟨input, mem, spelled⟩) _
  have start : Answered py (steps.filterMap posted) ({} : EventTrace β δ) :=
    ⟨remembers_start, by simp, by simp, by simp⟩
  exact ⟨offered.entails start (fun _ input answered allowed => answered.step input allowed)
      fun _ input answered allowed => answered.answersRepeat input allowed noCollision,
    (offered.invariant start fun _ input answered allowed => answered.step input allowed).once⟩

/-- A body stands for itself, an ASCII digit for a digit. -/
def plain : Python EventFields EventFields where
  fields := id
  payloadHash := id
  isdigit text := text ≠ [] && text.all fun code => 48 ≤ code && code ≤ 57

private def scanned (raw : String) : EventFields where
  deviceId := some (chars "D1")
  eventId := some (chars "e1")
  type := some (chars "SCAN")
  expectedStateVersion := some 1
  raw := chars raw

/-- A scan sent twice, its device reset, and another scan under the same event id. -/
theorem changes_once_scan :
    let steps := [.postEvents (some (scanned "WF|EMP|00152")) [],
      .postEvents (some (scanned "WF|EMP|00152")) [],
      .admin (chars "D1") { reset := true }, .postEvents (some (scanned "WF|EMP|00200")) []]
    Along (EventTrace.step plain) (AnswersRepeat plain) {} steps ∧
      (run (EventTrace.step plain) {} steps).changed.Nodup :=
  changes_once _ fun _ _ _ _ same => same

end EventTrace

end Kiosk.Backend
