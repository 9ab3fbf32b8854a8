import Kiosk.Backend.ResponseWire

/-! What the backend answered against what it did. The first answer to an event accepts it
exactly when the event changed its device, and no later request alters either. -/
namespace Kiosk.Backend

open Library TransitionSystem ReplyCache

namespace MockBackend

variable {β δ : Type} {py : Python β δ}

/-- An event handled for the first time moves one device, or none and is not accepted. -/
theorem handleFresh_effect (backend : MockBackend δ) (body : β) (now : PyStr) :
    (∀ id, (backend.handleFresh py body now).1.device id = backend.device id) ∧
        (backend.handleFresh py body now).2.accepted = false ∨
      (∃ id dev, (id, dev) ∈ (backend.handleFresh py body now).1.devices ∧
        (backend.handleFresh py body now).1.device id ≠ backend.device id) ∧
        (backend.handleFresh py body now).2.accepted = true := by
  unfold handleFresh
  simp only
  split
  · exact .inl ⟨fun id => touchDevice_device backend _ id, rfl⟩
  · generalize (py.fields body).cacheKey.1 = id
    generalize input : EventInput.mk _ _ _ _ _ = fields
    generalize outcome :
      applyEvent py.isdigit (backend.device id) (backend.touchDevice id).fixtures fields = applied
    have after : ∀ other, ((backend.touchDevice id).putDevice id applied.device).device other =
        if id = other then applied.device else backend.device other := by simp [putDevice_device]
    have settled :=
      applyEvent_settled py.isdigit (backend.device id) (backend.touchDevice id).fixtures fields
    rw [outcome] at settled
    rcases settled with ⟨accepted, next⟩ | ⟨refused, same⟩
    · refine .inr ⟨⟨id, _, List.mem_cons_self, fun unchanged => ?_⟩,
        by simp [Response.accepted, accepted]⟩
      have version := congrArg DeviceState.stateVersion ((after id).symm.trans unchanged)
      rw [if_pos rfl, next] at version
      omega
    · refine .inl ⟨fun other => (after other).trans ?_,
        by simpa [Response.accepted, Option.isSome_iff_ne_none] using refused⟩
      split
      · rename_i here
        rw [same, here]
      · rfl

variable [DecidableEq δ]

theorem handleEvent_effect (backend : MockBackend δ) (body : β) (now : PyStr)
    (unknown : lookup backend.idempotency (py.fields body).cacheKey = none) :
    backend.SameDevices (backend.handleEvent py body now).1 ↔
      (backend.handleEvent py body now).2.accepted = false := by
  have missing : lookup backend.countEvent.idempotency (py.fields body).cacheKey = none := unknown
  simp only [handleEvent, missing]
  rcases @handleFresh_effect _ _ py backend.countEvent body
    now with ⟨same, refused⟩ | ⟨⟨id, dev, member, moved⟩, accepted⟩
  · exact iff_of_true (fun entry _ => same entry.1) refused
  · refine iff_of_false (fun same => moved ?_) (by simp [accepted])
    exact same (id, dev) (List.mem_append_right _ member)

end MockBackend

namespace EventTrace

variable {β δ : Type} [DecidableEq δ] (py : Python β δ)

/-- The first answer to a key accepts it, or does not. -/
def Verdict (trace : EventTrace β δ) (key : CacheKey) (accepted : Bool) : Prop :=
  ∃ entry, lookup trace.backend.idempotency key = some entry ∧ entry.2.accepted = accepted

/-- The accepted keys of the table are those that changed a device, and every answer is
the first one of its key or a refusal of another body under it. -/
structure Effective (trace : EventTrace β δ) : Prop where
  answered : ∃ bodies, Answered py bodies trace
  accepted : ∀ key entry, lookup trace.backend.idempotency key = some entry →
    (entry.2.accepted = true ↔ key ∈ trace.changed)
  answers : ∀ handled ∈ trace.answered, ∃ entry,
      lookup trace.backend.idempotency (keyOf py handled.1) = some entry ∧
    (handled.2 = entry.2 ∨ handled.2 = .reuseMismatch (py.fields handled.1).eventId)

variable {py} {trace : EventTrace β δ}

omit [DecidableEq δ] in
theorem Answered.mono (answered : Answered py bodies trace) (more : ∀ body ∈ bodies, body ∈ wider) :
    Answered py wider trace :=
  { answered with offered := fun handled member => more _ (answered.offered handled member) }

omit [DecidableEq δ] in
theorem effective_start : Effective py ({} : EventTrace β δ) :=
  ⟨⟨[], remembers_start, by simp, by simp, by simp⟩, by simp, by simp⟩

/-- The table only grows, and what is in it stays. -/
theorem step_lookup (input : BackendStep β)
    (known : lookup trace.backend.idempotency key = some entry) :
    lookup (trace.step py input).backend.idempotency key = some entry := by
  cases input with
  | postEvents body now =>
    cases body with
    | none => exact known
    | some body =>
      have kept : ∀ backend, (trace.backend.postEvents py (some body) now).1 = backend →
          lookup backend.idempotency key = some entry := by
        rintro _ rfl
        by_cases supported : Supported py body
        · rw [postEvents_supported _ _ supported]
          cases found : lookup trace.backend.idempotency (keyOf py body) with
          | some cached =>
            rw [handleEvent_known trace.backend body now found]
            exact known
          | none =>
            rw [handleEvent_fresh trace.backend body now found, lookup_cons, if_neg, known]
            rintro rfl
            rw [found] at known
            cases known
        · unfold Supported at supported
          simpa [MockBackend.postEvents, supported] using known
      rw [EventTrace.step]
      split <;> exact kept _ rfl
  | getState deviceId => rw [EventTrace.step, readSnapshot_idempotency]; exact known
  | bootstrap deviceId => rw [EventTrace.step, readSnapshot_idempotency]; exact known
  | mockState => exact known
  | admin deviceId body => exact known
  | dropNext n => exact known

theorem step_answered (input : BackendStep β) :
    ∀ handled ∈ trace.answered, handled ∈ (trace.step py input).answered := by
  intro handled member
  cases input with
  | postEvents body now =>
    rw [EventTrace.step]
    split
    · exact member
    · exact List.mem_append_left _ member
  | getState | bootstrap | mockState | admin | dropNext => exact member

theorem Verdict.step (verdict : Verdict trace key accepted) (input : BackendStep β) :
    Verdict (trace.step py input) key accepted := by
  obtain ⟨entry, known, same⟩ := verdict
  exact ⟨entry, step_lookup input known, same⟩

/-- The first arrival of an event enters its verdict, a repeat alters nothing. -/
theorem Effective.post (effective : Effective py trace) (body : β) (now : PyStr)
    (supported : Supported py body) :
    Effective py (trace.step py (.postEvents (some body) now)) := by
  obtain ⟨bodies, answered⟩ := effective.answered
  have next :=
    (answered.mono fun _ => List.mem_cons_of_mem body).post List.mem_cons_self now supported
  have kept : (some body).filter (Supported py ·) = some body := by simp [supported]
  refine ⟨⟨_, next⟩, ?_, ?_⟩
  · intro key entry
    simp only [EventTrace.step, kept, postEvents_supported _ _ supported]
    cases found : lookup trace.backend.idempotency (keyOf py body) with
    | some cached =>
      have handled := handleEvent_known trace.backend body now found
      have still : trace.backend.SameDevices (trace.backend.handleEvent py body now).1 := by
        rw [handled]
        exact fun _ _ => rfl
      rw [if_pos still, handled]
      exact effective.accepted key entry
    | none =>
      have fresh : keyOf py body ∉ trace.changed := fun member => answered.known _ member found
      have effect := @MockBackend.handleEvent_effect _ _ py _ trace.backend body now found
      rw [handleEvent_fresh trace.backend body now found, lookup_cons]
      split
      · rename_i same
        subst same
        rintro ⟨⟩
        split
        · rename_i still
          simp [effect.mp still, fresh]
        · rename_i moved
          simpa using effect.not.mp moved
      · rename_i other
        intro known
        rw [effective.accepted key entry known]
        split
        · rfl
        · simp [Ne.symm other]
  · intro handled member
    have among :
        handled ∈ trace.answered ∨ handled = (body, (trace.backend.handleEvent py body now).2) := by
      simpa [EventTrace.step, kept, postEvents_supported _ _ supported] using member
    rcases among with earlier | rfl
    · obtain ⟨entry, known, same⟩ := effective.answers handled earlier
      exact ⟨entry, step_lookup _ known, same⟩
    · cases found : lookup trace.backend.idempotency (keyOf py body) with
      | some cached =>
        refine ⟨cached, step_lookup _ found, ?_⟩
        rw [handleEvent_known trace.backend body now found]
        split
        · exact .inl rfl
        · exact .inr rfl
      | none =>
        refine ⟨(py.payloadHash body, (trace.backend.handleEvent py body now).2), ?_, .inl rfl⟩
        simp only [EventTrace.step, kept, postEvents_supported _ _ supported]
        rw [handleEvent_fresh trace.backend body now found, lookup_cons, if_pos rfl]

omit [DecidableEq δ] in
/-- The other requests leave the table alone. -/
theorem Effective.aside (effective : Effective py trace) (backend : MockBackend δ)
    (same : backend.idempotency = trace.backend.idempotency) :
    Effective py { trace with backend := backend } := by
  obtain ⟨bodies, answered⟩ := effective.answered
  refine ⟨⟨bodies, answered.aside backend same⟩, ?_, ?_⟩
  · rw [same]
    exact effective.accepted
  · rw [same]
    exact effective.answers

theorem Effective.step (effective : Effective py trace) (input : BackendStep β) :
    Effective py (trace.step py input) := by
  cases input with
  | postEvents body now =>
    cases body with
    | none => exact effective.aside _ rfl
    | some body =>
      by_cases supported : Supported py body
      · exact effective.post body now supported
      · have dropped : (some body).filter (Supported py ·) = none := by simp [supported]
        unfold Supported at supported
        simp only [EventTrace.step, dropped]
        exact effective.aside _ (by simp [MockBackend.postEvents, supported])
  | getState deviceId => exact effective.aside _ (readSnapshot_idempotency _ deviceId)
  | bootstrap deviceId => exact effective.aside _ (readSnapshot_idempotency _ deviceId)
  | mockState => exact effective
  | admin deviceId body => exact effective.aside _ rfl
  | dropNext n => exact effective.aside _ rfl

omit [DecidableEq δ] in
/-- What an answer of the event handler says of its event is the verdict on it. -/
theorem Effective.verdict (effective : Effective py trace) {response : Response}
    (sent : (body, response) ∈ trace.answered)
    (handled : response.status = 200) : Verdict trace (keyOf py body) response.accepted := by
  obtain ⟨entry, known, rfl | mismatch⟩ := effective.answers _ sent
  · exact ⟨entry, known, rfl⟩
  · simp only at mismatch
    rw [mismatch] at handled
    cases handled

omit [DecidableEq δ] in
theorem Effective.applied (effective : Effective py trace) (verdict : Verdict trace key true) :
    trace.changed.count key = 1 := by
  obtain ⟨entry, known, accepted⟩ := verdict
  obtain ⟨bodies, answered⟩ := effective.answered
  exact List.count_eq_one_of_mem answered.once ((effective.accepted key entry known).mp accepted)

omit [DecidableEq δ] in
theorem Effective.unapplied (effective : Effective py trace) (verdict : Verdict trace key false) :
    key ∉ trace.changed := by
  obtain ⟨entry, known, refused⟩ := verdict
  intro member
  rw [(effective.accepted key entry known).mpr member] at refused
  cases refused

end EventTrace

end Kiosk.Backend
