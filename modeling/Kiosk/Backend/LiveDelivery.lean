import Kiosk.Backend.EventEffects

/-! An event that carries the version the backend has, against one that carries the version
its device knew when it was created. Of events of one version at most one is accepted. -/
namespace Kiosk.Backend

open Library TransitionSystem ReplyCache

/-- A session without its id and the time it started. -/
def Session.undated (session : Session) : Session :=
  { session with
    sessionId := session.sessionId.map fun _ => []
    startedAt := session.startedAt.map fun _ => [] }

def DeviceState.undated (dev : DeviceState) : DeviceState :=
  { dev with session := dev.session.map Session.undated, seated := by simpa using dev.seated }

/-- An input with what the body of an event asks for, under any number and at any time. -/
structure Asks (fields : EventFields) (input : EventInput) : Prop where
  type : input.type = fields.type
  raw : input.raw = fields.raw
  quantityGood : input.quantityGood = fields.quantityGood

private theorem scanOperation_undated (dev : DeviceState) (session : Session) (data : Fixtures)
    (scan : Option (PyStr × PyStr)) (input other : EventInput) :
    (scanOperation dev session data scan input).error =
        (scanOperation dev session data scan other).error ∧
      (scanOperation dev session data scan input).device.undated =
        (scanOperation dev session data scan other).device.undated := by
  unfold scanOperation
  split
  · exact ⟨rfl, rfl⟩
  split
  · exact ⟨rfl, rfl⟩
  split
  · exact ⟨rfl, rfl⟩
  · exact ⟨rfl, rfl⟩

/-- What an event does depends on its number and its time in the session it opens only. -/
theorem applyEvent_undated (isdigit : PyStr → Bool) (dev : DeviceState) (data : Fixtures)
    (asks : Asks fields input) (again : Asks fields other) :
    (applyEvent isdigit dev data input).error = (applyEvent isdigit dev data other).error ∧
      (applyEvent isdigit dev data input).device.undated =
        (applyEvent isdigit dev data other).device.undated := by
  unfold applyEvent
  rw [asks.type, asks.raw, asks.quantityGood, again.type, again.raw, again.quantityGood]
  split
  · exact ⟨rfl, rfl⟩
  split
  · exact ⟨rfl, rfl⟩
  split
  · simp only
    split
    · exact ⟨rfl, rfl⟩
    · exact scanOperation_undated dev _ data _ input other
    · exact ⟨rfl, rfl⟩
  · split
    · exact ⟨rfl, rfl⟩
    · exact ⟨rfl, rfl⟩

variable {β δ : Type}

/-- Bodies that carry this version in place of their own. -/
def Python.carrying (py : Python β δ) (version : Nat) : Python β δ :=
  { py with fields := fun body => { py.fields body with expectedStateVersion := some version } }

namespace MockBackend

/-- What `apply_event` is given of a body. -/
def inputOf (py : Python β δ) (backend : MockBackend δ) (body : β) (now : PyStr) : EventInput where
  type := (py.fields body).type
  raw := (py.fields body).raw
  quantityGood := (py.fields body).quantityGood
  serverSeq := backend.serverSeqCounter
  now := now

@[simp] theorem touchDevice_fixtures (backend : MockBackend δ) (id : PyStr) :
    (backend.touchDevice id).fixtures = backend.fixtures := by
  unfold touchDevice
  split <;> rfl

@[simp] theorem touchDevice_serverSeqCounter (backend : MockBackend δ) (id : PyStr) :
    (backend.touchDevice id).serverSeqCounter = backend.serverSeqCounter := by
  unfold touchDevice
  split <;> rfl

/-- A body with an older version than the device has. -/
def Stale (py : Python β δ) (backend : MockBackend δ) (body : β) : Prop :=
  (py.fields body).expectedStateVersion.any
    (fun expected => expected < ((backend.device (py.fields body).cacheKey.1).stateVersion : Int)) =
      true

theorem handleFresh_stale {py : Python β δ} {backend : MockBackend δ} {body : β} {now : PyStr}
    (stale : Stale py backend body) :
    (∀ id, (backend.handleFresh py body now).1.device id = backend.device id) ∧
      (backend.handleFresh py body now).2.accepted = false := by
  unfold Stale at stale
  simp only [handleFresh, stale, if_true]
  exact ⟨fun id => touchDevice_device backend _ id, rfl⟩

theorem handleFresh_current {py : Python β δ} {backend : MockBackend δ} {body : β} {now : PyStr}
    (current : ¬ Stale py backend body) :
    (backend.handleFresh py body now).1.device (py.fields body).cacheKey.1 =
        (applyEvent py.isdigit (backend.device (py.fields body).cacheKey.1) backend.fixtures
          (backend.inputOf py body now)).device ∧
      (backend.handleFresh py body now).2.accepted =
        (applyEvent py.isdigit (backend.device (py.fields body).cacheKey.1) backend.fixtures
          (backend.inputOf py body now)).error.isNone := by
  unfold Stale at current
  simp only [handleFresh, current]
  simp [device, putDevice, find_cons, Response.accepted, inputOf]

/-- A handled event moves its device to the next version, or leaves it and is not accepted. -/
theorem handleFresh_settled {py : Python β δ} {backend : MockBackend δ} {body : β} {now : PyStr}
    (current : ¬ Stale py backend body) :
    ((backend.handleFresh py body now).2.accepted = true ∧
        ((backend.handleFresh py body now).1.device (py.fields body).cacheKey.1).stateVersion =
          (backend.device (py.fields body).cacheKey.1).stateVersion + 1) ∨
      (backend.handleFresh py body now).2.accepted = false ∧
        (backend.handleFresh py body now).1.device (py.fields body).cacheKey.1 =
          backend.device (py.fields body).cacheKey.1 := by
  obtain ⟨moved, answer⟩ := @handleFresh_current _ _ _ _ _ now current
  rw [moved, answer]
  rcases applyEvent_settled py.isdigit (backend.device (py.fields body).cacheKey.1) backend.fixtures
    (backend.inputOf py body now) with ⟨accepted, next⟩ | ⟨refused, same⟩
  · exact .inl ⟨by rw [accepted]; rfl, next⟩
  · exact .inr ⟨by simpa [Option.isSome_iff_ne_none] using refused, same⟩

variable [DecidableEq δ]

/-- The events of one device delivered one after another as they come, each with the version
the backend has when it arrives; none if one is not accepted. -/
def deliverLive (py : Python β δ) (id : PyStr) :
    MockBackend δ → List (β × PyStr) → Option (MockBackend δ)
  | backend, [] => some backend
  | backend, (body, now) :: rest =>
    let (after, response) :=
      backend.postEvents (py.carrying (backend.device id).stateVersion) (some body) now
    if response.accepted then after.deliverLive py id rest else none

/-- What a request to `/events` does: nothing but count, or a body is handled that is not
in the table. -/
inductive PostOutcome (py : Python β δ) (backend : MockBackend δ) (body : β) (now : PyStr)
    (after : MockBackend δ) : Prop where
  | counted (table : after.idempotency = backend.idempotency)
      (devices : ∀ id, after.device id = backend.device id)
      (data : after.fixtures = backend.fixtures)
  | entered (unknown : lookup backend.idempotency (py.fields body).cacheKey = none)
      (table : after.idempotency = ((py.fields body).cacheKey, py.payloadHash body,
        (backend.countEvent.handleFresh py body now).2) :: backend.idempotency)
      (devices : ∀ id, after.device id = (backend.countEvent.handleFresh py body now).1.device id)

theorem postEvents_outcome (py : Python β δ) (backend : MockBackend δ) (body : β) (now : PyStr) :
    PostOutcome py backend body now (backend.postEvents py (some body) now).1 := by
  by_cases supported : EventTrace.Supported py body
  · rw [EventTrace.postEvents_supported _ _ supported]
    cases found : lookup backend.idempotency (py.fields body).cacheKey with
    | some cached =>
      rw [EventTrace.handleEvent_known backend body now found]
      exact .counted rfl (fun _ => rfl) rfl
    | none =>
      have unchanged : lookup backend.countEvent.idempotency (py.fields body).cacheKey = none :=
        found
      refine .entered found ?_ fun id => ?_
      · simp only [handleEvent, unchanged, handleFresh_idempotency]
        rfl
      · simp only [handleEvent, unchanged]
        rfl
  · unfold EventTrace.Supported at supported
    simp only [postEvents, ne_eq, supported, not_false_eq_true, if_true]
    exact .counted rfl (fun _ => rfl) rfl

/-- A supported body that is not in the table is handled. -/
theorem postEvents_fresh {py : Python β δ} {backend : MockBackend δ} {body : β} (now : PyStr)
    (supported : EventTrace.Supported py body)
    (unknown : lookup backend.idempotency (py.fields body).cacheKey = none) :
    (∀ id, (backend.postEvents py (some body) now).1.device id =
        (backend.countEvent.handleFresh py body now).1.device id) ∧
      (backend.postEvents py (some body) now).2 =
        (backend.countEvent.handleFresh py body now).2 := by
  have unchanged : lookup backend.countEvent.idempotency (py.fields body).cacheKey = none := unknown
  rw [EventTrace.postEvents_supported _ _ supported]
  simp only [handleEvent, unchanged]
  exact ⟨fun _ => rfl, trivial⟩

/-- What the live delivery of one event leaves. -/
theorem deliverLive_one {py : Python β δ} {backend live : MockBackend δ} {id : PyStr} {body : β}
    {now : PyStr} (delivers : backend.deliverLive py id [(body, now)] = some live)
    (unknown : lookup backend.idempotency (py.fields body).cacheKey = none)
    (own : (py.fields body).cacheKey.1 = id) :
    ∃ input, Asks (py.fields body) input ∧
      (applyEvent py.isdigit (backend.device id) backend.fixtures input).error = none ∧
      live.device id =
        (applyEvent py.isdigit (backend.device id) backend.fixtures input).device := by
  let carrying := py.carrying (backend.device id).stateVersion
  have delivered : (backend.postEvents carrying (some body) now).2.accepted = true ∧
      (backend.postEvents carrying (some body) now).1 = live := by
    rw [deliverLive] at delivers
    split at delivers
    rename_i after response posted
    split at delivers
    · rename_i accepted
      have posted : backend.postEvents carrying (some body) now = (after, response) := posted
      rw [posted]
      exact ⟨accepted, Option.some.inj delivers⟩
    · cases delivers
  have supported : EventTrace.Supported carrying body := by
    by_contra unsupported
    unfold EventTrace.Supported at unsupported
    have refused := delivered.1
    simp [postEvents, unsupported, Response.accepted] at refused
  obtain ⟨devices, answer⟩ := postEvents_fresh now supported unknown
  have owner : (carrying.fields body).cacheKey.1 = id := own
  have current : ¬ Stale carrying backend.countEvent body := by
    rw [Stale, owner]
    simp [carrying, Python.carrying, device, countEvent]
  obtain ⟨moved, accepts⟩ := @handleFresh_current _ _ _ _ _ now current
  rw [owner] at moved accepts
  refine ⟨backend.countEvent.inputOf carrying body now, ⟨rfl, rfl, rfl⟩, ?_, ?_⟩
  · have accepted := delivered.1
    rw [answer, accepts] at accepted
    exact Option.isNone_iff_eq_none.mp accepted
  · rw [← delivered.2, devices, moved]
    rfl

end MockBackend

namespace EventTrace

variable [DecidableEq δ] {py : Python β δ} {trace : EventTrace β δ} {id : PyStr}

theorem step_postEvents (body : β) (now : PyStr) :
    (trace.step py (.postEvents (some body) now)).backend =
      (trace.backend.postEvents py (some body) now).1 := by
  rw [step]
  split <;> rfl

/-- A request that neither moves the device, nor what its events are checked against, nor what
is remembered of these keys. -/
structure Aside (py : Python β δ) (id : PyStr) (keys : List CacheKey) (trace : EventTrace β δ)
    (input : BackendStep β) : Prop where
  device : (trace.step py input).backend.device id = trace.backend.device id
  fixtures : (trace.step py input).backend.fixtures = trace.backend.fixtures
  table : ∀ key ∈ keys,
    lookup (trace.step py input).backend.idempotency key = lookup trace.backend.idempotency key

instance (py : Python β δ) (id : PyStr) (keys : List CacheKey) (trace : EventTrace β δ)
    (input : BackendStep β) :
    Decidable (Aside py id keys trace input) :=
  decidable_of_iff
    ((trace.step py input).backend.device id = trace.backend.device id ∧
      (trace.step py input).backend.fixtures = trace.backend.fixtures ∧
      ∀ key ∈ keys, lookup (trace.step py input).backend.idempotency key =
        lookup trace.backend.idempotency key)
    ⟨fun ⟨device, fixtures, table⟩ => ⟨device, fixtures, table⟩,
      fun ⟨device, fixtures, table⟩ => ⟨device, fixtures, table⟩⟩

/-- The one event the device has is still to come, or was accepted and has left the device
as a live delivery leaves it. -/
inductive Delivered (id : PyStr) (key : CacheKey) (start live : DeviceState) (data : Fixtures)
    (trace : EventTrace β δ) : Prop where
  | outstanding (unknown : lookup trace.backend.idempotency key = none)
      (device : trace.backend.device id = start) (fixtures : trace.backend.fixtures = data)
  | accepted (verdict : Verdict trace key true)
      (device : (trace.backend.device id).undated = live.undated)

/-- The device has left the version when an event of that version was accepted, and one was. -/
structure FirstWins (id : PyStr) (keys : List CacheKey) (version : Nat) (trace : EventTrace β δ) :
    Prop where
  reached : version ≤ (trace.backend.device id).stateVersion
  left : ∀ key ∈ keys, Verdict trace key true → version < (trace.backend.device id).stateVersion
  single : ∀ key ∈ keys, ∀ other ∈ keys, Verdict trace key true → Verdict trace other true →
    key = other

omit [DecidableEq δ] in
theorem Verdict.congr {after : EventTrace β δ}
    (same : lookup after.backend.idempotency key = lookup trace.backend.idempotency key) :
    Verdict after key accepted ↔ Verdict trace key accepted := by
  rw [Verdict, Verdict, same]

theorem Delivered.aside (delivered : Delivered id key start live data trace)
    (aside : Aside py id [key] trace input) :
    Delivered id key start live data (trace.step py input) := by
  have table := aside.table key (List.mem_singleton_self key)
  cases delivered with
  | outstanding unknown device fixtures =>
    exact .outstanding (table.trans unknown) (aside.device.trans device)
      (aside.fixtures.trans fixtures)
  | accepted verdict device =>
    exact .accepted ((Verdict.congr table).mpr verdict) (by rw [aside.device, device])

theorem FirstWins.aside (wins : FirstWins id keys version trace)
    (aside : Aside py id keys trace input) :
    FirstWins id keys version (trace.step py input) where
  reached := by
    rw [aside.device]
    exact wins.reached
  left key member verdict := by
    rw [aside.device]
    exact wins.left key member ((Verdict.congr (aside.table key member)).mp verdict)
  single key member other among first second :=
    wins.single key member other among ((Verdict.congr (aside.table key member)).mp first)
      ((Verdict.congr (aside.table other among)).mp second)

omit [DecidableEq δ] in
/-- An entry for one key decides about that key, and about no other. -/
theorem verdict_entered {after : EventTrace β δ} {entry : δ × Response}
    (table : after.backend.idempotency = (entered, entry) :: trace.backend.idempotency) :
    Verdict after key true ↔
      (entered = key ∧ entry.2.accepted = true) ∨ (entered ≠ key ∧ Verdict trace key true) := by
  rw [Verdict, table, lookup_cons]
  by_cases same : entered = key
  · simp [same]
  · simp [same, Verdict]

/-- The event arrives: it is applied as it would be live. -/
theorem Delivered.post (delivered : Delivered id (keyOf py body) start live data trace)
    (own : (keyOf py body).1 = id)
    (current : (py.fields body).expectedStateVersion = some (start.stateVersion : Int))
    (asks : Asks (py.fields body) input)
    (accepts : (applyEvent py.isdigit start data input).error = none)
    (leaves : live = (applyEvent py.isdigit start data input).device) (now : PyStr) :
    Delivered id (keyOf py body) start live data (trace.step py (.postEvents (some body) now)) := by
  have outcome := MockBackend.postEvents_outcome py trace.backend body now
  rw [← step_postEvents] at outcome
  cases outcome with
  | counted table devices fixtures =>
    have same : Verdict (trace.step py (.postEvents (some body) now)) (keyOf py body) true ↔
        Verdict trace (keyOf py body) true := Verdict.congr (by rw [table])
    cases delivered with
    | outstanding unknown device data =>
      exact .outstanding (by rw [table, unknown]) ((devices id).trans device) (fixtures.trans data)
    | accepted verdict device => exact .accepted (same.mpr verdict) (by rw [devices, device])
  | entered unknown table devices =>
    cases delivered with
    | accepted verdict device =>
      obtain ⟨entry, known, _⟩ := verdict
      rw [show lookup trace.backend.idempotency (keyOf py body) = none from unknown] at known
      cases known
    | outstanding _ device fixtures =>
      have here : trace.backend.countEvent.device (py.fields body).cacheKey.1 = start := by
        rw [show (py.fields body).cacheKey.1 = id from own]
        exact device
      have fresh : ¬ MockBackend.Stale py trace.backend.countEvent body := by
        rw [MockBackend.Stale, here, current]
        simp
      obtain ⟨moved, answer⟩ := @MockBackend.handleFresh_current _ _ _ _ _ now fresh
      obtain ⟨error, same⟩ := applyEvent_undated py.isdigit start data asks
        (⟨rfl, rfl, rfl⟩ : Asks (py.fields body) (trace.backend.countEvent.inputOf py body now))
      rw [here, show trace.backend.countEvent.fixtures = data from fixtures] at moved answer
      refine .accepted ⟨_, by rw [table]; exact (lookup_cons _ _ _ _).trans (if_pos rfl), ?_⟩ ?_
      · rw [answer, ← error, accepts]
        rfl
      · rw [devices, ← own, leaves, same]
        exact congrArg DeviceState.undated moved

/-- Of the events of one version the next to arrive is accepted only if none was before. -/
theorem FirstWins.post (wins : FirstWins id keys version trace) (own : (keyOf py body).1 = id)
    (frozen : (py.fields body).expectedStateVersion = some (version : Int)) (now : PyStr) :
    FirstWins id keys version (trace.step py (.postEvents (some body) now)) := by
  have outcome := MockBackend.postEvents_outcome py trace.backend body now
  rw [← step_postEvents] at outcome
  generalize trace.step py (.postEvents (some body) now) = after at outcome ⊢
  cases outcome with
  | counted table devices fixtures =>
    have same (key : CacheKey) : Verdict after key true ↔ Verdict trace key true :=
      Verdict.congr (by rw [table])
    refine ⟨by rw [devices]; exact wins.reached, fun key member verdict => ?_,
      fun key member other among first second => ?_⟩
    · rw [devices]
      exact wins.left key member ((same key).mp verdict)
    · exact wins.single key member other among ((same key).mp first) ((same other).mp second)
  | entered unknown table devices =>
    have owner : (py.fields body).cacheKey.1 = id := own
    -- an answer that does not accept the event leaves the device and the verdicts as they were
    have ignored (refused : (trace.backend.countEvent.handleFresh py body now).2.accepted = false)
        (device : after.backend.device id = trace.backend.device id) :
        FirstWins id keys version after := by
      have earlier (key : CacheKey) (verdict : Verdict after key true) :
          Verdict trace key true := by
        rcases (verdict_entered table).mp verdict with ⟨_, accepted⟩ | ⟨_, before⟩
        · rw [refused] at accepted
          cases accepted
        · exact before
      refine ⟨by rw [device]; exact wins.reached, fun key member verdict => ?_,
        fun key member other among first second => ?_⟩
      · rw [device]
        exact wins.left key member (earlier key verdict)
      · exact wins.single key member other among (earlier key first) (earlier other second)
    by_cases stale : MockBackend.Stale py trace.backend.countEvent body
    · obtain ⟨still, refused⟩ := @MockBackend.handleFresh_stale _ _ _ _ _ now stale
      exact ignored refused ((devices id).trans (still id))
    have settled := @MockBackend.handleFresh_settled _ _ _ _ _ now stale
    rw [owner, ← devices] at settled
    rcases settled with ⟨_, next⟩ | ⟨refused, same⟩
    · have reached : version = (trace.backend.device id).stateVersion := by
        refine Nat.le_antisymm wins.reached ?_
        rw [MockBackend.Stale, frozen, owner] at stale
        have upTo : (trace.backend.countEvent.device id).stateVersion ≤ version := by
          simpa using stale
        exact upTo
      have moved : (after.backend.device id).stateVersion = version + 1 := by
        rw [reached]
        exact next
      have only (key : CacheKey) (member : key ∈ keys) (verdict : Verdict after key true) :
          keyOf py body = key := by
        rcases (verdict_entered table).mp verdict with ⟨same, _⟩ | ⟨_, before⟩
        · exact same
        · exact absurd (wins.left key member before) (by omega)
      exact ⟨by omega, fun _ _ _ => by omega, fun key member other among first second =>
        (only key member first).symm.trans (only other among second)⟩
    · exact ignored refused same

end EventTrace

end Kiosk.Backend
