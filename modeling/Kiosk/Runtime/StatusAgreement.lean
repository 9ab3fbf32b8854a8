import Kiosk.Backend.EventEffects
import Kiosk.Runtime.Absorbing
import Kiosk.Storage.Provenance

/-! The device and the reference backend together. A request may be lost, answered more
than once, late, or with a failure of any kind on the way; a success that arrives is what
the backend sent for the body of the request. -/
namespace Kiosk.Network

open Library Library.KeySearch Protocol

/-- A status that is taken for a success. -/
def Succeeds (exchange : HttpExchange) : Prop := 200 ≤ exchange.status ∧ exchange.status < 300

instance (exchange : HttpExchange) : Decidable (Succeeds exchange) := by
  unfold Succeeds
  infer_instance

variable {env : NetworkEnv} {req : NetworkRequest} {attempt : Nat} {lastBody : Bytes}

/-- A success hands the text of its own exchange on. -/
theorem attemptOutcome_ok (ok : (attemptOutcome env attempt lastBody).1.ok = true) :
    Succeeds (env.exchange attempt) ∧
      (attemptOutcome env attempt lastBody).2 = cStr (env.exchange attempt).responseText := by
  have range : 200 ≤ (performHttpAttempt (env.exchange attempt) lastBody).1 ∧
      (performHttpAttempt (env.exchange attempt) lastBody).1 < 300 :=
        by simpa [attemptOutcome, classify_ok] using ok
  have body : (attemptOutcome env attempt lastBody).2 =
      (performHttpAttempt (env.exchange attempt) lastBody).2.1 :=
    rfl
  rw [body]
  revert range
  unfold performHttpAttempt
  split
  · simp [kDnsFailMarker]
  split
  · simp
  simp only
  split
  · split
    · simp [kResponseTooLargeMarker]
    · exact fun range => ⟨range, rfl⟩
  · rename_i failed
    exact fun range => absurd (lt_of_lt_of_le (by decide) range.1) failed

/-- A loop that ends with a success ends with one of its attempts. -/
theorem sendLoop_ok (left : Nat) (ok : (sendLoop env attempt lastBody left).1.ok = true) :
    ∃ made, attempt ≤ made ∧ made ≤ attempt + left ∧ Succeeds (env.exchange made) ∧
      (sendLoop env attempt lastBody left).2.2 = cStr (env.exchange made).responseText := by
  induction left generalizing attempt lastBody with
  | zero =>
    obtain ⟨succeeds, body⟩ := attemptOutcome_ok ok
    exact ⟨attempt, le_rfl, le_rfl, succeeds, body⟩
  | succ left later =>
    rw [sendLoop] at ok ⊢
    simp only at ok ⊢
    split at ok
    · rename_i ends
      rw [if_pos ends]
      obtain ⟨succeeds, body⟩ := attemptOutcome_ok ok
      exact ⟨attempt, le_rfl, by omega, succeeds, body⟩
    · rename_i again
      rw [if_neg again]
      obtain ⟨made, low, high, found⟩ := later ok
      exact ⟨made, by omega, by omega, found⟩

theorem execute_ok (event : req.kind = .businessEvent ∨ req.kind = .offlineReplay)
    (ok : (execute env req).outcome.ok = true) :
    ∃ made ∈ List.range' 1 kMaxAttempts, Succeeds (env.exchange made) ∧
      (execute env req).responseBody = cStr (env.exchange made).responseText := by
  unfold execute at ok ⊢
  split at ok
  · cases ok
  · rename_i connected
    rw [if_neg connected, if_pos event] at *
    obtain ⟨made, low, high, found⟩ := sendLoop_ok _ ok
    have tries : kMaxAttempts = 2 := rfl
    exact ⟨made, List.mem_range'_1.mpr ⟨low, by omega⟩, found⟩

end Kiosk.Network

namespace Kiosk.Runtime

open Library Library.KeySearch Library.TransitionSystem Protocol Network Storage Backend
open Backend.EventTrace (keyOf Verdict Effective)

/-- What a status says the backend did: it accepted the event, or it did not. -/
def verdictOf : JournalSyncStatus → Option Bool
  | .acked => some true
  | .rejected | .conflict => some false
  | _ => none

/-- Successes that reach the worker while it sends an event are answers of the backend to
the body of that event. -/
def Honest (answered : List (Bytes × Response)) (w : NetworkWorker) (env : NetworkEnv) : Prop :=
  match w.phase with
  | .executing ticket =>
    isEventKind ticket.request.kind = true →
        ∀ attempt ∈ List.range' 1 kMaxAttempts, Succeeds (env.exchange attempt) →
      ∃ handled ∈ answered,
          handled.1 = ticket.request.body ∧ (env.exchange attempt).status = handled.2.status ∧
        (env.exchange attempt).responseText = dumpsResponse handled.2
  | _ => True

instance (answered : List (Bytes × Response)) (w : NetworkWorker) (env : NetworkEnv) :
    Decidable (Honest answered w env) := by
  unfold Honest
  cases w.phase <;> infer_instance

/-- A success on its way to the device carries an answer of the backend. -/
def Vouched (answered : List (Bytes × Response))
    (answer : SlotWorker.Answer NetworkRequest NetworkResult) : Prop :=
  isEventKind answer.ticket.request.kind = true → answer.result.outcome.ok = true →
    ∃ handled ∈ answered, handled.1 = answer.ticket.request.body ∧ handled.2.status = 200 ∧
      answer.result.responseBody = cStr (dumpsResponse handled.2)

section Answers
variable {answered : List (Bytes × Response)}

theorem Vouched.mono {more : List (Bytes × Response)}
    {answer : SlotWorker.Answer NetworkRequest NetworkResult}
    (vouched : Vouched answered answer) (kept : ∀ handled ∈ answered, handled ∈ more) :
    Vouched more answer := by
  intro event ok
  obtain ⟨handled, member, same⟩ := vouched event ok
  exact ⟨handled, kept handled member, same⟩

theorem Honest.vouched {w : NetworkWorker} {env : NetworkEnv}
    {ticket : SlotWorker.Ticket NetworkRequest}
    (honest : Honest answered w env) (executing : w.phase = .executing ticket) :
    Vouched answered ⟨ticket, execute env ticket.request⟩ := by
  intro event ok
  have kind : ticket.request.kind = .businessEvent ∨ ticket.request.kind = .offlineReplay := by
    revert event
    cases ticket.request.kind <;> simp [isEventKind]
  obtain ⟨made, tried, succeeds, body⟩ := execute_ok kind ok
  simp only [Honest, executing] at honest
  obtain ⟨handled, member, sent, status, wire⟩ := honest event made tried succeeds
  refine ⟨handled, member, sent, ?_, by rw [body, wire]⟩
  have range := succeeds
  rw [Succeeds, status] at range
  revert range
  cases handled.2 <;> simp [Response.status]

/-- The verdict is read off the first member, which no zero byte cuts off. -/
theorem accepted_read (response : Response) :
    jsonExtractBool (cStr (dumpsResponse response)) (text "accepted") false =
      response.accepted := by
  have whole :
      ∀ accepted : Bool, (opening accepted).all (fun byte => decide (byte ≠ 0)) = true := by
    decide
  rw [dumpsResponse, cStr, List.takeWhile_append_of_pos (List.all_eq_true.mp (whole _))]
  exact jsonExtractBool_opening _ _

end Answers

namespace KioskRuntime

/-- A result that settles an event is a success whose body says how. -/
theorem resultTransition_verdict (env : LoopEnv) (result : NetworkResult) {verdict : Bool}
    (settles : verdictOf (resultTransition env result).syncStatus = some verdict) :
    result.outcome.ok = true ∧
      jsonExtractBool result.responseBody (text "accepted") false = verdict := by
  revert settles
  unfold resultTransition
  split
  · unfold failureTransition
    cases result.outcome.retryable <;> simp [verdictOf]
  · rename_i ok
    simp only
    split
    · simp [verdictOf]
    · rename_i known
      have formed : (parseEventResponseJson result.responseBody).1.kind ≠ .malformed :=
        fun bad => known (.inr bad)
      have success := parseEventResponse_accepted formed
      unfold settledTransition
      intro settles
      refine ⟨by simpa using ok, ?_⟩
      revert settles success formed
      cases (parseEventResponseJson result.responseBody).1.kind <;>
        cases jsonExtractBool result.responseBody (text "accepted") false <;> simp [verdictOf]

end KioskRuntime

/-- The device, and the backend with what it answered and changed. -/
structure Joint (δ : Type) where
  k : KioskRuntime
  server : EventTrace Bytes δ := {}

/-- Either side moves; what the device hears of the other is in its own inputs. -/
inductive JointStep where
  | device (input : RuntimeStep)
  | server (input : BackendStep Bytes)

namespace Joint
open KioskRuntime

section Steps
variable {δ : Type} [DecidableEq δ] [StdSort] (py : Python Bytes δ)

def step (s : Joint δ) : JointStep → Joint δ
  | .device input => { s with k := s.k.step input }
  | .server input => { s with server := s.server.step py input }

/-- No success is made up on the way, no id is drawn twice, and the medium refuses nothing. -/
structure Faithful (s : Joint δ) (input : RuntimeStep) : Prop where
  honest : Along (SlotWorker.Worker.tick execute) (Honest s.server.answered) (s.k.networkAt input)
    input.meanwhile
  drawn : ∀ env ∈ input.operatorEnv,
    generateRandomHexId 16 env.espRandom ∉ createdIds s.k.createdEvents
  healthy : (s.k.step input).journal.fs.failed = false

omit [StdSort] in
private theorem bytes_lawful : LawfulBEq Bytes := inferInstance

instance (s : Joint δ) (input : RuntimeStep) : Decidable (s.Faithful input) :=
  haveI := bytes_lawful
  decidable_of_iff
    (Along (SlotWorker.Worker.tick execute) (Honest s.server.answered) (s.k.networkAt input)
      input.meanwhile ∧
      (∀ env ∈ input.operatorEnv,
        generateRandomHexId 16 env.espRandom ∉ createdIds s.k.createdEvents) ∧
      (s.k.step input).journal.fs.failed = false)
    ⟨fun ⟨honest, drawn, healthy⟩ => ⟨honest, drawn, healthy⟩,
      fun ⟨honest, drawn, healthy⟩ => ⟨honest, drawn, healthy⟩⟩

def Allowed (s : Joint δ) : JointStep → Prop
  | .device input => s.Faithful input
  | .server _ => True

instance (s : Joint δ) : (input : JointStep) → Decidable (s.Allowed input)
  | .device input => inferInstanceAs (Decidable (s.Faithful input))
  | .server _ => inferInstanceAs (Decidable True)

/-- The key of the backend for the event of a record, by the body it is sent with. -/
def recordKey (record : JournalRecord) : CacheKey := keyOf py (fillBody record.payload)

/-- A status that says what the backend did goes back to its first answer. -/
def Grounds (events : List KioskEvent) (server : EventTrace Bytes δ) (eventId : Bytes)
    (status : JournalSyncStatus) : Prop :=
  ∀ verdict, verdictOf status = some verdict →
    ∃ event ∈ events,
      event.event.eventId = eventId ∧ Verdict server (keyOf py (liveBody event)) verdict

/-- Statuses in the journal, results on their way and the table of the backend agree. -/
structure Agreeing (s : Joint δ) : Prop where
  copied : Copied s.k.delivery
  ids : (createdIds s.k.createdEvents).Nodup
  own : ∀ answer ∈ s.k.network.answers, OwnResult answer
  vouched : ∀ answer ∈ s.k.network.answers, Vouched s.server.answered answer
  effective : Effective py s.server
  grounded : Grounded (Grounds py s.k.createdEvents s.server) s.k.journal

variable {py} {s : Joint δ} {input : RuntimeStep}

omit [DecidableEq δ] [StdSort] in
theorem Grounds.mono {events more : List KioskEvent} {server after : EventTrace Bytes δ}
    {eventId : Bytes}
    {status : JournalSyncStatus} (grounds : Grounds py events server eventId status)
    (created : ∀ event ∈ events, event ∈ more)
    (kept : ∀ key verdict, Verdict server key verdict → Verdict after key verdict) :
    Grounds py more after eventId status := by
  intro verdict settles
  obtain ⟨event, member, named, before⟩ := grounds verdict settles
  exact ⟨event, created event member, named, kept _ _ before⟩

omit [DecidableEq δ] [StdSort] in
/-- The statuses an event has before it is settled say nothing of the backend. -/
theorem Grounds.unsettled {events : List KioskEvent} {server : EventTrace Bytes δ} {eventId : Bytes}
    {status : JournalSyncStatus} (open_ : verdictOf status = none) :
    Grounds py events server eventId status := by
  intro verdict settles
  rw [open_] at settles
  cases settles

omit [DecidableEq δ] [StdSort] in
/-- The status a result gives its event is the verdict of the backend on that event. -/
theorem Agreeing.answer {answer : SlotWorker.Answer NetworkRequest NetworkResult}
    (agreeing : Agreeing py s) (env : LoopEnv)
    (read : s.k.eventAnswer (.pollResult env) = some answer) :
    Grounds py s.k.createdEvents s.server (resultTransition env answer.result).eventId
      (resultTransition env answer.result).syncStatus := by
  intro verdict settles
  obtain ⟨ok, tells⟩ := resultTransition_verdict env answer.result settles
  obtain ⟨slot, event⟩ := Option.filter_eq_some_iff.mp read
  have among : answer ∈ s.k.network.answers := by simp [SlotWorker.Worker.answers, slot]
  have outstanding : answer.ticket ∈ s.k.network.outstanding := by
    rw [SlotWorker.Worker.poll_outstanding, slot]
    simp
  obtain ⟨kind, names⟩ := agreeing.own answer among
  rw [kind] at event
  obtain ⟨⟨body, response⟩, handled, sent, status, wire⟩ := agreeing.vouched answer among event ok
  obtain ⟨source, created, named, same⟩ := agreeing.copied.requests answer.ticket outstanding event
  refine ⟨source, created, ?_, ?_⟩
  · rw [resultTransition_eventId, names event, named]
  · rw [wire, accepted_read] at tells
    rw [← same, ← sent, ← tells]
    exact agreeing.effective.verdict handled status

omit [DecidableEq δ] [StdSort] in
private theorem created_grounded {events : List KioskEvent} {k : KioskRuntime}
    {server : EventTrace Bytes δ} (env : LoopEnv) (event : KioskEvent) (drawn : Drawn event)
    (grounded : Grounded (Grounds py events server) k.journal)
    (healthy : (k.dispatched env (k.journalEvent env (journalRecordOf event)).1 event).1.fs.failed =
      false) :
    Grounded (Grounds py events server)
      (k.dispatched env (k.journalEvent env (journalRecordOf event)).1 event).1 := by
  have appended (before : (k.journalEvent env (journalRecordOf event)).1.fs.failed = false) :
      Grounded (Grounds py events server) (k.journalEvent env (journalRecordOf event)).1 :=
    (grounded.on env.medium).appendEvent drawn.plain.1 (.unsettled rfl) before
  simp only [dispatched] at healthy ⊢
  split
  · rename_i sent
    rw [if_pos sent] at healthy
    exact ((appended (journalTransition_healthy _ healthy)).on env.medium).appendTransition
      (.unsettled rfl) healthy
  · rename_i unsent
    rw [if_neg unsent] at healthy
    exact appended healthy

omit [DecidableEq δ] in
private theorem device_grounded (agreeing : Agreeing py s) (faithful : s.Faithful input) :
    Grounded (Grounds py (s.k.step input).createdEvents s.server) (s.k.step input).journal := by
  have outcome := s.k.step_delivery input
  have healthy : (s.k.step input).delivery.journal.fs.failed = false := faithful.healthy
  change Grounded (Grounds py (s.k.step input).delivery.createdEvents s.server)
    (s.k.step input).delivery.journal
  generalize (s.k.step input).delivery = after at outcome healthy ⊢
  cases outcome with
  | idle _ _ _ delivery => subst delivery; exact agreeing.grounded
  | answered env answer poll read _ _ delivery =>
    subst poll delivery
    exact (agreeing.grounded.on env.medium).appendTransition (agreeing.answer env read) healthy
  | unrecorded _ env event _ failed delivery =>
    subst delivery
    change Grounded _ (s.k.journalEvent env (journalRecordOf event)).1
    rw [journalEvent, unrecorded_same _ failed healthy]
    exact agreeing.grounded.on env.medium
  | created _ env event _ fresh _ _ delivery =>
    subst delivery
    refine created_grounded env event ⟨env.espRandom, fresh⟩
      (agreeing.grounded.mono fun id status grounds => ?_) healthy
    exact grounds.mono (fun _ => List.mem_cons_of_mem event) fun _ _ known => known
  | passStarted _ _ _ delivery => subst delivery; exact agreeing.grounded
  | skipped _ _ delivery => subst delivery; exact agreeing.grounded
  | replayed _ env record _ _ _ _ _ delivery =>
    rw [delivery_sendReplay] at delivery
    subst delivery
    exact agreeing.grounded
  | compacting _ medium call incremental delivery =>
    subst delivery
    rcases incremental with ⟨policy, rfl⟩ | rfl
    · exact (agreeing.grounded.on medium).beginCompaction policy
    · exact (agreeing.grounded.on medium).compactTick
  | rebooted _ _ delivery => subst delivery; exact agreeing.grounded.reboot

omit [DecidableEq δ] in
private theorem device_ids (agreeing : Agreeing py s) (faithful : s.Faithful input) :
    (createdIds (s.k.step input).createdEvents).Nodup := by
  change (createdIds (s.k.step input).delivery.createdEvents).Nodup
  have same : (createdIds s.k.delivery.createdEvents).Nodup := agreeing.ids
  cases s.k.step_delivery input with
  | created _ env event operator fresh _ _ delivery =>
    rw [delivery]
    have unused := faithful.drawn env operator
    rw [← fresh] at unused
    exact List.nodup_cons.mpr ⟨unused, agreeing.ids⟩
  | idle _ _ _ delivery => rw [delivery]; exact same
  | answered _ _ _ _ _ _ delivery => rw [delivery]; exact same
  | unrecorded _ _ _ _ _ delivery => rw [delivery]; exact same
  | passStarted _ _ _ delivery => rw [delivery]; exact same
  | skipped _ _ delivery => rw [delivery]; exact same
  | replayed _ _ _ _ _ _ _ _ delivery => rw [delivery, delivery_sendReplay]; exact same
  | compacting _ _ _ _ delivery => rw [delivery]; exact same
  | rebooted _ _ delivery => rw [delivery]; exact same

/-- Whichever side moves, they go on agreeing. -/
theorem step_agreeing (agreeing : Agreeing py s) (input : JointStep) (allowed : s.Allowed input) :
    Agreeing py (s.step py input) := by
  cases input with
  | device input =>
    exact {
      copied := step_copied agreeing.copied input allowed.healthy
      ids := device_ids agreeing allowed
      own := answers_step agreeing.own fun env _ ticket => ownResult_execute env ticket
      vouched := answers_step_along agreeing.vouched allowed.honest fun _ _ _ honest executing =>
        honest.vouched executing
      effective := agreeing.effective
      grounded := device_grounded agreeing allowed }
  | server input =>
    exact { agreeing with
      vouched :=
        fun answer member => (agreeing.vouched answer member).mono (EventTrace.step_answered input)
      effective := agreeing.effective.step input
      grounded := agreeing.grounded.mono fun _ _ grounds =>
        grounds.mono (fun _ => id) fun _ _ verdict => verdict.step input }

omit [DecidableEq δ] [StdSort] in
theorem agreeing_boot (config : BootConfig) (highWaterMark : UInt64) (capacityBytes : UInt32) :
    Agreeing py ({ k := boot config highWaterMark (EventJournal.fresh capacityBytes) } :
      Joint δ) := by
  refine ⟨copied_boot config highWaterMark capacityBytes, List.nodup_nil, ?_, ?_,
    EventTrace.effective_start, Grounded.start capacityBytes⟩ <;>
  · intro answer member
    simp [boot, SlotWorker.Worker.answers, SlotWorker.Phase.answer] at member

omit [DecidableEq δ] [StdSort] in
/-- A record says of its own event what the backend did. -/
theorem Agreeing.verdict {eventId : Bytes} {record : JournalRecord} {verdict : Bool}
    (agreeing : Agreeing py s) (found : s.k.journal.index.find eventId = some record)
    (settled : verdictOf record.syncStatus = some verdict) :
      Verdict s.server (recordKey py record) verdict := by
  obtain ⟨filed, _, grounds⟩ := agreeing.grounded.index eventId record found
  obtain ⟨event, created, named, known⟩ := grounds verdict settled
  obtain ⟨source, among, same⟩ := agreeing.copied.journal.copies eventId record found
  simp only [original, carried, Carried.mk.injEq] at same
  have own : event = source :=
    List.inj_on_of_nodup_map agreeing.ids created among (by rw [named, same.1, filed])
  rw [recordKey, ← same.2.1, ← own]
  exact known

/-- Over every run of the device and the backend, however requests and answers are lost
and repeated: no event changes the backend twice, an `ACKED` one has changed it once, and
one that is `REJECTED` or in `CONFLICT` has not and never will. -/
theorem statuses_agree (py : Python Bytes δ) (config : BootConfig) (highWaterMark : UInt64)
    (capacityBytes : UInt32) (steps : List JointStep) (along : Along (step py) Allowed
      { k := boot config highWaterMark (EventJournal.fresh capacityBytes) } steps) :
    let start : Joint δ := { k := boot config highWaterMark (EventJournal.fresh capacityBytes) }
    (run (step py) start steps).server.changed.Nodup ∧
      ∀ before, before <+: steps → ∀ eventId record,
        (run (step py) start before).k.journal.index.find eventId = some record →
          (record.syncStatus = .acked →
            (run (step py) start before).server.changed.count (recordKey py record) = 1) ∧
          (record.syncStatus = .rejected ∨ record.syncStatus = .conflict →
            recordKey py record ∉ (run (step py) start steps).server.changed) := by
  intro start
  have agreeing : ∀ before, before <+: steps → Agreeing py (run (step py) start before) := by
    rintro before ⟨rest, rfl⟩
    exact along.prefix.invariant (agreeing_boot config highWaterMark capacityBytes)
      fun s input agreeing allowed => step_agreeing agreeing input allowed
  obtain ⟨bodies, answered⟩ := (agreeing steps (List.prefix_refl _)).effective.answered
  refine ⟨answered.once,
    fun before shorter eventId record found => ⟨fun acked => ?_, fun refused => ?_⟩⟩
  · have now := agreeing before shorter
    exact now.effective.applied (now.verdict found (by rw [acked]; rfl))
  · have settled : verdictOf record.syncStatus = some false := by
      rcases refused with same | same <;> rw [same] <;> rfl
    have verdict := (agreeing before shorter).verdict found settled
    have final := agreeing steps (List.prefix_refl _)
    obtain ⟨rest, rfl⟩ := shorter
    rw [run_append] at final ⊢
    refine final.effective.unapplied ?_
    refine run_invariant (motive := fun s : Joint δ => Verdict s.server _ false) verdict
      (fun s input before => ?_) rest
    cases input with
    | device input => exact before
    | server input => exact before.step input

end Steps

private def online : KioskRuntime :=
  (boot { deviceId := text "D1", apiEndpoint := text "http://b/events" } 0
    (EventJournal.fresh 65536)).onBootstrapResult {}
    { status := .ok, snapshot := some { stateVersion := 1 } }

private def scannedBody : Bytes :=
  ((online.handleScan {} (text "WF|EMP|00152")).createdEvents.map liveBody).headD []

/-- Decodes the one body there is. -/
private def decoding : Python Bytes Bytes where
  fields body :=
    if body = scannedBody then {
      deviceId := some (chars "D1")
      eventId := some ((generateRandomHexId 16 fun _ => 0).map UInt8.toNat)
      type := some (chars "SCAN")
      expectedStateVersion := some 1
      raw := chars "WF|EMP|00152" }
    else { protocolVersion := none }
  payloadHash := id
  isdigit _ := false

/-- The answer to the first attempt is lost on the way, the second brings it. -/
private def losingOne (response : Response) : NetworkEnv where
  exchange attempt := if attempt = 1 then { status := -11 }
    else { status := 200, responseText := dumpsResponse response }

/-- A scan that the backend handles twice, while the first answer is lost. -/
private def answerLost : List JointStep :=
  let post : JointStep := .server (.postEvents (some scannedBody) [])
  let answer := losingOne (({} : MockBackend Bytes).postEvents decoding (some scannedBody) []).2
  [.device (.bootstrapResult {} { status := .ok, snapshot := some { stateVersion := 1 } }),
    .device (.scan {} (text "WF|EMP|00152")), .device (.task answer), .device (.task answer),
      post, post,
    .device (.task answer), .device (.task answer), .device (.task answer),
      .device (.pollResult {})]

private def unprovisioned : Joint Bytes where
  k := boot { deviceId := text "D1", apiEndpoint := text "http://b/events" } 0
    (EventJournal.fresh 65536)

theorem statuses_agree_answer_lost :
    (∃ record, (run (@step _ _ .insertion decoding) unprovisioned answerLost).k.journal.index.find
        (generateRandomHexId 16 fun _ => 0) = some record ∧
      record.syncStatus = .acked ∧
      (run (@step _ _ .insertion decoding) unprovisioned answerLost).server.changed.count
        (recordKey decoding record) = 1) ∧
    (run (@step _ _ .insertion decoding) unprovisioned answerLost).server.changed.Nodup := by
  obtain ⟨along, acked⟩ :
        Along (@step Bytes _ .insertion decoding) (@Allowed Bytes .insertion) unprovisioned
        answerLost ∧
      ((run (@step _ _ .insertion decoding) unprovisioned answerLost).k.journal.index.find
        (generateRandomHexId 16 fun _ => 0)).map JournalRecord.syncStatus = some .acked := by
    decide +kernel
  have agree := @statuses_agree _ _ .insertion decoding
    { deviceId := text "D1", apiEndpoint := text "http://b/events" } 0 65536 answerLost along
  have start :
      ({ k := boot { deviceId := text "D1", apiEndpoint := text "http://b/events" } 0
          (EventJournal.fresh 65536) } : Joint Bytes) = unprovisioned := rfl
  rw [start] at agree
  obtain ⟨record, found, status⟩ := Option.map_eq_some_iff.mp acked
  exact ⟨⟨record, found, status, (agree.2 answerLost List.prefix_rfl _ record found).1 status⟩,
    agree.1⟩

end Joint

end Kiosk.Runtime
