import Kiosk.Library.TransitionSystem
import Kiosk.Runtime.DeliverySteps
import Kiosk.Storage.JournalOps

/-! Answers of a server in trouble: what a 5xx or a 429 becomes on its way from the
attempt through the classification and the retry loop to the journal. -/
namespace Kiosk.Network

open Library Protocol

/-- The server was reached and answered 429 or 5xx. -/
structure AnsweredTransiently (exchange : HttpExchange) : Prop where
  resolves : exchange.resolves = true
  begins : exchange.begins = true
  status : exchange.status = 429 ∨ 500 ≤ exchange.status ∧ exchange.status < 600

/-- The answer announces its length, and the body may be read. -/
def AnnouncesBody (exchange : HttpExchange) : Prop :=
  0 ≤ exchange.contentLength ∧ exchange.contentLength ≤ kMaxResponseBodyBytes

instance (exchange : HttpExchange) : Decidable (AnnouncesBody exchange) := by
  unfold AnnouncesBody; infer_instance

theorem classify_transient (transient : status = 429 ∨ 500 ≤ status ∧ status < 600)
    (retryAfter : Int) :
    (classifyHttpResult status retryAfter).ok = false ∧
      (classifyHttpResult status retryAfter).retryable = true := by
  have high :
      status ≠ kResponseTooLargeMarker ∧ ¬ status ≤ 0 ∧ ¬ (200 ≤ status ∧ status < 300) := by
    unfold kResponseTooLargeMarker
    omega
  unfold classifyHttpResult
  simp only
  rw [if_neg high.2.2, if_neg high.1, if_neg high.2.1]
  rcases transient with limited | failing
  · rw [if_pos limited]
    exact ⟨rfl, rfl⟩
  · rw [if_neg (by omega), if_pos failing]
    exact ⟨rfl, rfl⟩

/-- A transient answer whose body may not be read is no longer transient. -/
theorem attemptOutcome_transient (answered : AnsweredTransiently (env.exchange attempt))
    (lastBody : Bytes) :
    (attemptOutcome env attempt lastBody).1.ok = false ∧
      ((attemptOutcome env attempt lastBody).1.retryable = true ↔
        AnnouncesBody (env.exchange attempt)) := by
  have positive : (env.exchange attempt).status > 0 := by
    have := answered.status
    omega
  unfold attemptOutcome performHttpAttempt AnnouncesBody
  simp only [answered.resolves, answered.begins, Bool.not_true, Bool.false_eq_true, ↓reduceIte,
    if_pos positive]
  by_cases unread :
    (env.exchange attempt).contentLength < 0 ∨
    (env.exchange attempt).contentLength > kMaxResponseBodyBytes
  · rw [if_pos unread]
    refine ⟨rfl, ?_⟩
    have masked :
        ∀ retryAfter, (classifyHttpResult kResponseTooLargeMarker retryAfter).retryable = false :=
      fun _ => rfl
    simp only [masked, Bool.false_eq_true, false_iff]
    omega
  · rw [if_neg unread]
    have transient := classify_transient answered.status
    refine ⟨(transient _).1, ?_⟩
    simp only [(transient _).2, true_iff]
    omega

theorem sendLoop_attempts (env : NetworkEnv) (attempt : Nat) (lastBody : Bytes) (left : Nat) :
    attempt ≤ (sendLoop env attempt lastBody left).2.1 := by
  induction left generalizing attempt lastBody with
  | zero => exact Nat.le_refl _
  | succ left later =>
    rw [sendLoop]
    simp only
    split
    · exact Nat.le_refl _
    · exact Nat.le_of_succ_le (later _ _)

/-- Where every attempt made is answered transiently, the loop ends with a transient
failure if and only if each attempt it may make announces its body. -/
theorem sendLoop_transient (left : Nat) (answered : ∀ made, attempt ≤ made →
      made ≤ (sendLoop env attempt lastBody left).2.1 → AnsweredTransiently (env.exchange made)) :
    (sendLoop env attempt lastBody left).1.ok = false ∧
      ((sendLoop env attempt lastBody left).1.retryable = true ↔
        ∀ made, attempt ≤ made → made ≤ attempt + left → AnnouncesBody (env.exchange made)) := by
  induction left generalizing attempt lastBody with
  | zero =>
    have first :=
      attemptOutcome_transient (answered attempt (Nat.le_refl _) (sendLoop_attempts ..)) lastBody
    refine ⟨first.1,
      first.2.trans ⟨fun announced made low high => ?_,
      fun all => all _ (Nat.le_refl _) (Nat.le_refl _)⟩⟩
    have same : made = attempt := by omega
    exact same ▸ announced
  | succ left later =>
    have first :=
      attemptOutcome_transient (answered attempt (Nat.le_refl _) (sendLoop_attempts ..)) lastBody
    rw [sendLoop] at answered ⊢
    simp only [first.1, Bool.false_or] at answered ⊢
    cases again : (attemptOutcome env attempt lastBody).1.retryable with
    | false =>
      simp only [again, Bool.not_false, ↓reduceIte, Bool.false_eq_true, false_iff]
      refine ⟨first.1, fun all => ?_⟩
      have announced := first.2.mpr (all attempt (Nat.le_refl _) (Nat.le_add_right _ _))
      rw [again] at announced
      cases announced
    | true =>
      simp only [again, Bool.not_true, Bool.false_eq_true, ↓reduceIte] at answered ⊢
      have rest := later fun made low high => answered made (by omega) high
      refine ⟨rest.1,
        rest.2.trans ⟨fun all made low high => ?_,
        fun all made low high => all made (by omega) (by omega)⟩⟩
      rcases Nat.eq_or_lt_of_le low with rfl | beyond
      · exact first.2.mp again
      · exact all made beyond (by omega)

/-- The request reached a server that answered every attempt with 429 or 5xx. -/
structure TransientDelivery (env : NetworkEnv) (req : NetworkRequest) : Prop where
  connected : env.wifiConnected = true
  answered : ∀ attempt, 1 ≤ attempt → attempt ≤ (execute env req).attempts →
    AnsweredTransiently (env.exchange attempt)

/-- Every attempt there may be announces its body. -/
def AnnouncesBodies (env : NetworkEnv) : Prop :=
  ∀ attempt, 1 ≤ attempt → attempt ≤ kMaxAttempts → AnnouncesBody (env.exchange attempt)

theorem execute_transient (event : req.kind = .businessEvent ∨ req.kind = .offlineReplay)
    (transient : TransientDelivery env req) :
    (execute env req).outcome.ok = false ∧
      ((execute env req).outcome.retryable = true ↔ AnnouncesBodies env) := by
  obtain ⟨connected, answered⟩ := transient
  unfold execute at answered ⊢
  simp only [connected, Bool.not_true, Bool.false_eq_true, ↓reduceIte, if_pos event] at answered ⊢
  exact sendLoop_transient _ answered

end Kiosk.Network

namespace Kiosk.Runtime

open Library Library.KeySearch Library.TransitionSystem Protocol Network Storage
open Protocol.EventJournalIndex (isLive)

namespace KioskRuntime

/-- A result on its way is what some execution of its request came to. -/
def Executed (answer : SlotWorker.Answer NetworkRequest NetworkResult) : Prop :=
  ∃ env, answer.result = execute env answer.ticket.request

section Delivery
variable [StdSort] {k : KioskRuntime}

theorem executed_run (k : KioskRuntime) (before : ∀ answer ∈ k.network.answers, Executed answer)
    (inputs : List RuntimeStep) :
    ∀ answer ∈ (run step k inputs).network.answers, Executed answer :=
  run_invariant (motive := fun k : KioskRuntime => ∀ answer ∈ k.network.answers, Executed answer)
    before
    (fun _ _ before => answers_step before fun env _ _ => ⟨env, rfl⟩) inputs

/-- The record of the event is `PENDING`, and among those a replay pass takes. -/
def AwaitsReplay (k : KioskRuntime) (eventId : Bytes) : Prop :=
  ∃ record, k.journal.index.find eventId = some record ∧ record.syncStatus = .pending ∧
    record ∈ k.journal.index.pendingInDeviceSeqOrder

theorem mem_pending {index : EventJournalIndex} (found : index.find eventId = some record)
    (live : isLive record.syncStatus = true) : record ∈ index.pendingInDeviceSeqOrder := by
  refine (StdSort.perm _ _).mem_iff.mpr
    (List.mem_filter.mpr ⟨List.mem_map.mpr ⟨(eventId, record), ?_, rfl⟩, live⟩)
  exact Std.ExtTreeMap.mem_toList_iff_getElem?_eq_some.mpr found

theorem awaitsReplay_iff (k : KioskRuntime) (eventId : Bytes) :
    k.AwaitsReplay eventId ↔
      (k.journal.index.find eventId).map JournalRecord.syncStatus = some .pending := by
  rw [Option.map_eq_some_iff]
  constructor
  · exact fun ⟨record, found, pending, _⟩ => ⟨record, found, pending⟩
  · exact fun ⟨record, found, pending⟩ =>
      ⟨record, found, pending, mem_pending found (by rw [pending]; rfl)⟩

/-- The result of an event is in the slot, and its request met a server in trouble. -/
structure EndsTransiently (k : KioskRuntime) (netEnv : NetworkEnv)
    (answer : SlotWorker.Answer NetworkRequest NetworkResult) : Prop where
  slot : k.network.slot = some answer
  event : answer.ticket.request.kind = .businessEvent ∨ answer.ticket.request.kind = .offlineReplay
  executed : answer.result = execute netEnv answer.ticket.request
  transient : TransientDelivery netEnv answer.ticket.request

/-- The journal takes the transition of a failed delivery. -/
def writesFailure (k : KioskRuntime) (env : LoopEnv) (result : NetworkResult) : Bool :=
  ((k.journal.on env.medium).appendTransition (failureTransition env result)).2

/-- The record is there, and the transition written for it, if one is, leaves it
`PENDING`. -/
def KeepsPending (k : KioskRuntime) (env : LoopEnv) (netEnv : NetworkEnv)
    (answer : SlotWorker.Answer NetworkRequest NetworkResult) : Prop :=
  ∃ before, k.journal.index.find answer.ticket.request.eventId = some before ∧
    if k.writesFailure env answer.result then AnnouncesBodies netEnv
      else before.syncStatus = .pending

private theorem poll_failed (slot : k.network.slot = some answer)
    (event : isEventKind answer.result.kind = true)
    (failed : answer.result.outcome.ok = false) (env : LoopEnv) :
    (k.step (.pollResult env)).journal =
      journalTransition k.journal env (failureTransition env answer.result) := by
  have journal : (k.step (.pollResult env)).journal = (k.step (.pollResult env)).delivery.journal :=
    rfl
  have read : k.eventAnswer (.pollResult env) = some answer := by simp [eventAnswer, slot, event]
  have loud : ¬ k.Quiet (.pollResult env) := by
    intro quiet
    have silent := quiet.silent
    rw [read] at silent
    cases silent
  rw [journal]
  cases k.step_delivery (.pollResult env) with
  | answered env' answer' poll read' _ _ delivery =>
    cases poll
    rw [read] at read'
    cases read'
    rw [delivery, resultTransition, if_pos (by rw [failed]; rfl)]
  | idle silent => rw [read] at silent; cases silent
  | unrecorded quiet => exact absurd quiet loud
  | created quiet => exact absurd quiet loud
  | passStarted quiet => exact absurd quiet loud
  | skipped quiet => exact absurd quiet loud
  | replayed _ _ _ _ check => cases check
  | compacting quiet => exact absurd quiet loud
  | rebooted _ restart => cases restart

omit [StdSort] in
/-- What an append of a transition does to the record it names. -/
private theorem find_appendTransition (j : EventJournal) (t : JournalTransition) :
    (j.appendTransition t).1.index.find t.eventId =
      if (j.appendTransition t).2 then (j.index.find t.eventId).map (·.transition t)
        else j.index.find t.eventId := by
  have outcome := EventJournal.appendTransition_outcome j t
  generalize j.appendTransition t = result at outcome
  cases outcome with
  | refused _ => rfl
  | cut _ _ => rfl
  | written _ _ =>
    simp only [EventJournalIndex.find, EventJournalIndex.recordAppendedTransition,
      KeyedLog.lookup_modify, ↓reduceIte]

/-- A delivery whose every attempt is answered by a 5xx or a 429 leaves the record
`PENDING` and to be replayed if and only if every answer announces its body. -/
theorem awaitsReplay_iff_announced (k : KioskRuntime) (env : LoopEnv) (netEnv : NetworkEnv)
    (answer : SlotWorker.Answer NetworkRequest NetworkResult)
    (ends : k.EndsTransiently netEnv answer) :
    (k.step (.pollResult env)).AwaitsReplay answer.ticket.request.eventId ↔
      k.KeepsPending env netEnv answer := by
  obtain ⟨slot, event, executed, transient⟩ := ends
  obtain ⟨kind, names⟩ := execute_kind netEnv answer.ticket.request
  have outcome := execute_transient event transient
  rw [← executed] at kind names outcome
  have delivered : isEventKind answer.result.kind = true := by
    rw [kind]
    rcases event with live | replay
    · rw [live]; rfl
    · rw [replay]; rfl
  have written :=
    find_appendTransition (k.journal.on env.medium) (failureTransition env answer.result)
  have about : (failureTransition env answer.result).eventId = answer.ticket.request.eventId :=
    names event
  rw [about] at written
  rw [awaitsReplay_iff, poll_failed slot delivered outcome.1, journalTransition, written,
    KeepsPending, writesFailure]
  have same : (k.journal.on env.medium).index = k.journal.index := rfl
  have status :
      (failureTransition env answer.result).syncStatus = .pending ↔ AnnouncesBodies netEnv := by
    rw [← outcome.2, failureTransition]
    cases answer.result.outcome.retryable <;> simp
  rw [same]
  cases ((k.journal.on env.medium).appendTransition (failureTransition env answer.result)).2 with
  | false => simp [Option.map_eq_some_iff]
  | true =>
    simp only [↓reduceIte, Option.map_map, Option.map_eq_some_iff, Function.comp_apply,
      JournalRecord.transition, status]

end Delivery

private theorem endsTransiently_of_slot {k : KioskRuntime}
    {p : SlotWorker.Answer NetworkRequest NetworkResult → Bool}
    (transient : ∀ req, TransientDelivery netEnv req)
    (slot : (k.network.slot.any fun answer => answer.ticket.request.kind = .businessEvent &&
      answer.result = execute netEnv answer.ticket.request && p answer) = true) :
    ∃ answer, k.EndsTransiently netEnv answer ∧ p answer = true := by
  rw [Option.any_eq_true] at slot
  obtain ⟨answer, stored, shape⟩ := slot
  simp only [Bool.and_eq_true, decide_eq_true_eq] at shape
  exact ⟨answer, ⟨stored, .inl shape.1.1, shape.1.2, transient _⟩, shape.2⟩

/-- The runtime before it reads the result of the first scan. -/
private def sentScan (netEnv : NetworkEnv) : KioskRuntime :=
  run (@step .insertion) (boot { apiEndpoint := text "http://b/events" } 0 (.init {} 65536))
    (.scan {} (text "CARD-1") :: List.replicate 5 (.task netEnv))

private def unavailable (contentLength : Int) : NetworkEnv where
  exchange := fun _ => { status := 503, contentLength := contentLength }

private theorem unavailable_transient (contentLength : Int) (req : NetworkRequest) :
    TransientDelivery (unavailable contentLength) req :=
  ⟨rfl, fun _ _ _ => ⟨rfl, rfl, .inr (by simp [unavailable])⟩⟩

theorem sentScan_pending :
    ∃ answer, (sentScan (unavailable 0)).EndsTransiently (unavailable 0) answer ∧
    @AwaitsReplay .insertion (@step .insertion (sentScan (unavailable 0)) (.pollResult {}))
      answer.ticket.request.eventId := by
  obtain ⟨answer, ends, kept⟩ := endsTransiently_of_slot (k := sentScan (unavailable 0))
    (p := fun answer =>
      ((sentScan (unavailable 0)).journal.index.find answer.ticket.request.eventId).isSome &&
      (sentScan (unavailable 0)).writesFailure {} answer.result)
    (unavailable_transient 0) (by decide +kernel)
  rw [Bool.and_eq_true, Option.isSome_iff_exists] at kept
  obtain ⟨⟨before, found⟩, writes⟩ := kept
  refine ⟨answer, ends,
    (@awaitsReplay_iff_announced .insertion _ {} _ answer ends).mpr ⟨before, found, ?_⟩⟩
  rw [if_pos writes]
  exact fun _ _ _ => (by decide : AnnouncesBody { status := 503, contentLength := 0 })

/-- A 503 without a `Content-Length` ends in `HUMAN_REVIEW`. -/
theorem chunked_unavailable_reviewed :
    ∃ answer, (sentScan (unavailable (-1))).EndsTransiently (unavailable (-1)) answer ∧
      (sentScan (unavailable (-1))).writesFailure {} answer.result = true ∧
      ¬ @AwaitsReplay .insertion (@step .insertion (sentScan (unavailable (-1))) (.pollResult {}))
        answer.ticket.request.eventId := by
  obtain ⟨answer, ends, lost⟩ := endsTransiently_of_slot (k := sentScan (unavailable (-1)))
    (p := fun answer => (sentScan (unavailable (-1))).writesFailure {} answer.result &&
      ((@step .insertion (sentScan (unavailable (-1))) (.pollResult {})).journal.index.find
        answer.ticket.request.eventId).map JournalRecord.syncStatus = some .humanReview)
    (unavailable_transient (-1)) (by decide +kernel)
  rw [Bool.and_eq_true, decide_eq_true_eq] at lost
  refine ⟨answer, ends, lost.1, fun awaits => ?_⟩
  rw [@awaitsReplay_iff .insertion, lost.2] at awaits
  cases awaits

end KioskRuntime

end Kiosk.Runtime
