import Kiosk.Runtime.DeliverySteps
import Kiosk.Storage.Fidelity

/-! The body of an event, from the first send through the journal to a replay. -/
namespace Kiosk.Runtime

open Library Library.KeySearch Library.TransitionSystem Protocol Network Storage

private theorem clean_hex8 (value : UInt32) : Clean (KioskRuntime.hex8 value) := by
  have all : ∀ value : Fin 256, isControl (hexDigit (UInt8.ofFin value &&& 15)) = false := by
    decide +kernel
  intro byte member
  obtain ⟨shift, _, rfl⟩ := List.mem_map.mp member
  simpa using all (value >>> shift).toUInt8.toFin

namespace KioskRuntime

/-- The strings of an event that a replay needs, as they are at its creation. -/
def original (event : KioskEvent) : Carried :=
  ⟨event.event.eventId, encodeEventJson event, hex8 (crc32 (encodeEventJson event))⟩

/-- What `enqueue_business_event` puts into the body of a live send. -/
def liveBody (event : KioskEvent) : Bytes := fillBody (encodeEventJson event)

/-- A step of the runtime, or a compaction in one go between two of them. -/
inductive DeviceStep where
  | runtime (input : RuntimeStep)
  | compact (medium : Medium) (policy : CompactionPolicy)

def deviceStep [StdSort] (k : KioskRuntime) : DeviceStep → KioskRuntime
  | .runtime input => k.step input
  | .compact medium policy => { k with journal := (k.journal.call medium (.compact policy)).1 }

/-- The strings of one of these events. -/
def OriginalOf (events : List KioskEvent) (strings : Carried) : Prop :=
  ∃ event ∈ events, original event = strings

/-- The id came from the generator. -/
def Drawn (event : KioskEvent) : Prop :=
  ∃ espRandom, event.event.eventId = generateRandomHexId 16 espRandom

/-- A request for an event carries the body of an event with the id it names. -/
def CarriesBody (events : List KioskEvent) (request : NetworkRequest) : Prop :=
  isEventKind request.kind = true →
    ∃ event ∈ events, request.eventId = event.event.eventId ∧ request.body = liveBody event

/-- Where the bodies of the created events are. -/
structure Copied (d : Delivery) : Prop where
  drawn : ∀ event ∈ d.createdEvents, Drawn event
  journal : EventJournal.Intact carried (OriginalOf d.createdEvents) d.journal
  requests : ∀ ticket ∈ d.network.outstanding, CarriesBody d.createdEvents ticket.request

section Events
variable {events : List KioskEvent}

theorem Drawn.sendable (drawn : Drawn event) :
    strncpy event.event.eventId kMaxQueuedEventIdBytes = event.event.eventId := by
  obtain ⟨espRandom, drawn⟩ := drawn
  rw [drawn]
  refine strncpy_short ?_ fun byte member => (generateRandomHexId_digits member).2
  rw [generateRandomHexId_length]
  decide

theorem Drawn.plain (drawn : Drawn event) : (original event).Plain := by
  refine ⟨?_, encodeEventJson_clean event, clean_hex8 _⟩
  obtain ⟨espRandom, drawn⟩ := drawn
  simp only [original, drawn]
  exact fun byte member => (generateRandomHexId_digits member).1

theorem Drawn.decodable (drawn : Drawn event) : (journalRecordOf event).Decodable := by
  refine ⟨rfl, ?_, ?_⟩
  · obtain ⟨espRandom, drawn⟩ := drawn
    intro empty
    have length := generateRandomHexId_length 16 espRandom
    rw [← drawn, show event.event.eventId = [] from empty] at length
    cases length
  · cases kind :
      event.event.type <;> simp [journalRecordOf, kind, eventTypeToString] <;> decide +kernel

private theorem plain_of_drawn (drawn : ∀ event ∈ events, Drawn event) (strings : Carried)
    (copied : OriginalOf events strings) : strings.Plain := by
  obtain ⟨event, member, rfl⟩ := copied
  exact (drawn event member).plain

private theorem CarriesBody.mono {request : NetworkRequest} (carries : CarriesBody events request)
    (event : KioskEvent) :
    CarriesBody (event :: events) request := by
  intro kind
  obtain ⟨sent, member, named⟩ := carries kind
  exact ⟨sent, List.mem_cons_of_mem _ member, named⟩

end Events

section Requests
variable {events : List KioskEvent} {w after : NetworkWorker}

private theorem carries_advance
    (carries : ∀ ticket ∈ w.outstanding, CarriesBody events ticket.request)
    (envs : List NetworkEnv) :
    ∀ ticket ∈ (w.advance execute envs).outstanding, CarriesBody events ticket.request :=
  fun ticket member =>
    carries ticket ((SlotWorker.Worker.advance_outstanding execute w envs).1.subset member)

private theorem carries_enqueue
    (carries : ∀ ticket ∈ w.outstanding, CarriesBody events ticket.request)
    (tier : SlotWorker.Tier) (request : NetworkRequest) (carried : CarriesBody events request) :
    ∀ ticket ∈ (w.enqueue queueDepth tier request).1.outstanding,
      CarriesBody events ticket.request := by
  intro ticket member
  have among := (SlotWorker.Worker.enqueue_outstanding queueDepth w tier request).mem_iff.mp member
  split at among
  · rcases List.mem_append.mp among with earlier | last
    · exact carries ticket earlier
    · rw [List.mem_singleton.mp last]
      exact carried
  · exact carries ticket among

private theorem carries_idle (idle : Idle w envs after)
    (carries : ∀ ticket ∈ w.outstanding, CarriesBody events ticket.request) :
    ∀ ticket ∈ after.outstanding, CarriesBody events ticket.request := by
  cases idle with
  | still => exact carries
  | ran => exact carries_advance carries envs
  | asked tier request plain =>
    refine carries_enqueue (carries_advance carries envs) tier request fun kind => ?_
    rw [plain] at kind
    cases kind

/-- The request for an event, live or replayed. -/
private theorem carries_event {eventId payload : Bytes} (drawn : Drawn event)
    (member : event ∈ events)
    (id : eventId = event.event.eventId) (body : payload = encodeEventJson event)
    (kind : NetworkRequestKind) (deviceSeq : UInt64) (url kioskToken : Bytes) :
    CarriesBody events (eventRequest kind eventId deviceSeq url payload kioskToken) := by
  intro _
  refine ⟨event, member, ?_, ?_⟩
  · simp only [eventRequest, id]
    exact drawn.sendable
  · simp only [eventRequest, body, liveBody]

end Requests

section Journals
variable {j : EventJournal} {env : LoopEnv}

theorem journalTransition_healthy (transition : JournalTransition)
    (healthy : (journalTransition j env transition).fs.failed = false) : j.fs.failed = false := by
  have outcome := EventJournal.appendTransition_outcome (j.on env.medium) transition
  unfold journalTransition at healthy
  generalize (j.on env.medium).appendTransition transition = result at outcome healthy
  cases outcome with
  | refused unguarded => exact healthy
  | cut guarded appended => exact appended.healthy healthy
  | written guarded appended => exact appended.healthy healthy

/-- An event that was not recorded left the journal alone, unless the medium refused it. -/
theorem unrecorded_same (record : JournalRecord)
    (failed : ((j.on env.medium).appendEvent record).2 = false)
    (healthy : ((j.on env.medium).appendEvent record).1.fs.failed = false) :
    ((j.on env.medium).appendEvent record).1 = j.on env.medium := by
  have outcome := EventJournal.appendEvent_outcome (j.on env.medium) record
  generalize (j.on env.medium).appendEvent record = result at outcome failed healthy ⊢
  cases outcome with
  | refused unguarded => rfl
  | cut guarded appended => exact absurd (appended.succeeds healthy) (by simp)
  | written guarded appended => cases failed

end Journals

section Steps
variable [StdSort] {k : KioskRuntime}

private theorem created_copied (copied : Copied k.delivery) (env : LoopEnv) (event : KioskEvent)
    (drawn : Drawn event)
    (healthy : (k.dispatched env (k.journalEvent env (journalRecordOf event)).1 event).1.fs.failed =
      false) :
    Copied { k.delivery with
      journal := (k.dispatched env (k.journalEvent env (journalRecordOf event)).1 event).1
      network := (k.dispatched env (k.journalEvent env (journalRecordOf event)).1 event).2
      createdEvents := event :: k.createdEvents } := by
  have every : ∀ other ∈ event :: k.createdEvents, Drawn other := by
    intro other member
    rcases List.mem_cons.mp member with rfl | earlier
    · exact drawn
    · exact copied.drawn other earlier
  have lossless := EventJournal.lossless_carried (plain_of_drawn every)
  have wider : EventJournal.Intact carried (OriginalOf (event :: k.createdEvents)) k.journal :=
    copied.journal.mono fun strings ⟨source, member, same⟩ =>
      ⟨source, List.mem_cons_of_mem _ member, same⟩
  have appended (before : (k.journalEvent env (journalRecordOf event)).1.fs.failed = false) :
      EventJournal.Intact carried (OriginalOf (event :: k.createdEvents))
        (k.journalEvent env (journalRecordOf event)).1 :=
    EventJournal.call_intact lossless wider env.medium (.appendEvent (journalRecordOf event))
      ⟨drawn.decodable, drawn.plain.1, event, List.mem_cons_self, rfl⟩ before
  refine ⟨every, ?_, ?_⟩
  · simp only [dispatched] at healthy ⊢
    split
    · rename_i sent
      rw [if_pos sent] at healthy
      exact EventJournal.call_intact lossless
        (appended (journalTransition_healthy _ healthy)) env.medium
        (.appendTransition _) (EventJournal.unseen_carried _ _) healthy
    · rename_i unsent
      rw [if_neg unsent] at healthy
      exact appended healthy
  · refine carries_enqueue (carries_advance ?_ env.meanwhile) .high _
      (carries_event drawn List.mem_cons_self rfl rfl _ _ _ _)
    exact fun ticket member => (copied.requests ticket member).mono event

theorem step_copied (copied : Copied k.delivery) (input : RuntimeStep)
    (healthy : (k.step input).journal.fs.failed = false) : Copied (k.step input).delivery := by
  have lossless := EventJournal.lossless_carried (plain_of_drawn copied.drawn)
  have arriving :
      ∀ ticket ∈ (k.networkAt input).outstanding, CarriesBody k.createdEvents ticket.request :=
    fun ticket member => copied.requests ticket ((networkAt_outstanding k input).subset member)
  have outcome := step_delivery k input
  replace healthy : (k.step input).delivery.journal.fs.failed = false := healthy
  generalize (k.step input).delivery = after at outcome healthy
  cases outcome with
  | idle _ network moved delivery =>
    subst delivery
    exact ⟨copied.drawn, copied.journal, carries_idle moved arriving⟩
  | answered env answer _ _ network moved delivery =>
    subst delivery
    exact ⟨copied.drawn,
      EventJournal.call_intact lossless copied.journal env.medium (.appendTransition _)
      (EventJournal.unseen_carried _ _) healthy,
      carries_idle moved arriving⟩
  | unrecorded _ env event _ failed delivery =>
    subst delivery
    refine ⟨copied.drawn, ?_, copied.requests⟩
    change EventJournal.Intact _ _ (k.journalEvent env (journalRecordOf event)).1
    rw [journalEvent, unrecorded_same _ failed healthy]
    exact copied.journal.on env.medium
  | created _ env event _ fresh _ _ delivery =>
    subst delivery
    exact created_copied copied env event ⟨env.espRandom, fresh⟩ healthy
  | passStarted _ _ _ delivery =>
    subst delivery
    exact ⟨copied.drawn, copied.journal, copied.requests⟩
  | skipped _ _ delivery =>
    subst delivery
    exact ⟨copied.drawn, copied.journal, copied.requests⟩
  | replayed _ env record eventId _ _ _ found delivery =>
    rw [delivery_sendReplay] at delivery
    subst delivery
    refine ⟨copied.drawn, copied.journal,
      carries_enqueue (carries_advance copied.requests env.meanwhile) .low _ ?_⟩
    obtain ⟨event, member, same⟩ := copied.journal.copies eventId record found
    simp only [original, carried, Carried.mk.injEq] at same
    exact carries_event (copied.drawn event member) member same.1.symm same.2.1.symm _ _ _ _
  | compacting _ medium call incremental delivery =>
    subst delivery
    have appendable :
        EventJournal.Appendable carried (OriginalOf k.createdEvents) k.journal call := by
      rcases incremental with ⟨policy, rfl⟩ | rfl <;> trivial
    exact ⟨copied.drawn,
      EventJournal.call_intact lossless copied.journal medium call appendable healthy,
      copied.requests⟩
  | rebooted config _ delivery =>
    subst delivery
    exact ⟨copied.drawn, copied.journal.reboot.1,
      by simp [SlotWorker.Worker.outstanding, SlotWorker.Worker.unfinished,
      SlotWorker.Phase.ticket]⟩

private theorem deviceStep_copied (copied : Copied k.delivery) (input : DeviceStep)
    (healthy : (k.deviceStep input).journal.fs.failed = false) :
    Copied (k.deviceStep input).delivery := by
  cases input with
  | runtime input => exact step_copied copied input healthy
  | compact medium policy =>
    exact ⟨copied.drawn,
      EventJournal.call_intact (EventJournal.lossless_carried (plain_of_drawn copied.drawn))
      copied.journal medium
      (.compact policy) trivial healthy, copied.requests⟩

omit [StdSort] in
theorem copied_boot (config : BootConfig) (highWaterMark : UInt64) (capacityBytes : UInt32) :
    Copied (boot config highWaterMark (EventJournal.fresh capacityBytes)).delivery := by
  refine ⟨by simp [delivery, boot], EventJournal.intact_fresh capacityBytes, ?_⟩
  simp [delivery, boot, SlotWorker.Worker.outstanding, SlotWorker.Worker.unfinished,
    SlotWorker.Phase.ticket]

/-- Along every run on a medium that refuses nothing, with any reboots and compactions:
a record holds the body, the id and the hash of an event as they were at its creation,
the next boot rebuilds exactly these, and what is sent for an event, live or replayed,
is the body of its live send. -/
theorem replay_fidelity (config : BootConfig) (highWaterMark : UInt64) (capacityBytes : UInt32)
    (inputs : List DeviceStep)
    (along : Along deviceStep (fun k input => (k.deviceStep input).journal.fs.failed = false)
      (boot config highWaterMark (EventJournal.fresh capacityBytes)) inputs) :
    let k := run deviceStep (boot config highWaterMark (EventJournal.fresh capacityBytes)) inputs
    (∀ eventId record, k.journal.index.find eventId = some record →
      record.eventId = eventId ∧ ∃ event ∈ k.createdEvents, carried.of record = original event) ∧
    (∀ eventId, (k.journal.reboot.index.find eventId).map carried.of =
      (k.journal.index.find eventId).map carried.of) ∧
    ∀ ticket ∈ k.network.outstanding, isEventKind ticket.request.kind = true →
      ∃ event ∈ k.createdEvents,
        ticket.request.eventId = event.event.eventId ∧ ticket.request.body = liveBody event := by
  have copied : Copied
      (run deviceStep (boot config highWaterMark (EventJournal.fresh capacityBytes))
      inputs).delivery := by
    exact along.invariant (motive := fun k : KioskRuntime => Copied k.delivery)
      (copied_boot config highWaterMark capacityBytes)
      fun k input copied healthy => deviceStep_copied copied input healthy
  refine ⟨?_, copied.journal.reboot.2, copied.requests⟩
  intro eventId record found
  refine ⟨(copied.journal.keyed eventId record found).1, ?_⟩
  obtain ⟨event, member, same⟩ := copied.journal.copies eventId record found
  exact ⟨event, member, same.symm⟩

end Steps

/-- A scan with a control byte and a quote, a reboot and the replay. -/
theorem replay_fidelity_control_byte :
    let inputs : List DeviceStep := [
      .runtime (.scan {} [1, 34]), .runtime (.reboot { apiEndpoint := text "http://b/events" }),
      .runtime .startOfflineReplay, .runtime (.checkOfflineReplay {})]
    let k := run (@deviceStep .insertion)
      (boot { apiEndpoint := text "http://b/events" } 0 (EventJournal.fresh 65536)) inputs
    (∀ eventId record, k.journal.index.find eventId = some record →
      record.eventId = eventId ∧ ∃ event ∈ k.createdEvents, carried.of record = original event) ∧
    (∀ eventId, (k.journal.reboot.index.find eventId).map carried.of =
      (k.journal.index.find eventId).map carried.of) ∧
    ∀ ticket ∈ k.network.outstanding, isEventKind ticket.request.kind = true →
      ∃ event ∈ k.createdEvents,
        ticket.request.eventId = event.event.eventId ∧ ticket.request.body = liveBody event :=
  @replay_fidelity .insertion { apiEndpoint := text "http://b/events" } 0 65536 _
    (by decide +kernel)

end KioskRuntime

end Kiosk.Runtime
