import Kiosk.Runtime.ReplayFidelity
import Kiosk.Storage.IndexSteps

/-! Final outcomes. The queue of a replay pass is a snapshot, and a result is written
down whatever the record says by then; an outcome stays final only while each event is
owed to one request or to the rest of the snapshot, never to both. -/
namespace Kiosk.Runtime

open Library Library.KeySearch Library.TransitionSystem Protocol Network Storage
open Protocol.EventJournalIndex (isLive isTerminal)

theorem isLive_eq_not_isTerminal (status : JournalSyncStatus) :
    isLive status = !isTerminal status := by
  cases status <;> rfl

section Index
variable {index after : EventJournalIndex}

/-- The record of the event, if there is one, has no final outcome. -/
def Unsettled (index : EventJournalIndex) (eventId : Bytes) : Prop :=
  ∀ record, index.find eventId = some record → isLive record.syncStatus = true

/-- What is known of the event afterwards was known before. -/
def NothingNew (index after : EventJournalIndex) (eventId : Bytes) : Prop :=
  ∀ record, after.find eventId = some record →
    (index.find eventId).map settled.of = some (settled.of record)

theorem NothingNew.refl (index : EventJournalIndex) (eventId : Bytes) :
    NothingNew index index eventId := by
  intro record found
  rw [found]
  rfl

theorem NothingNew.trans {middle : EventJournalIndex} (first : NothingNew index middle eventId)
    (second : NothingNew middle after eventId) : NothingNew index after eventId := by
  intro record found
  obtain ⟨between, here, same⟩ := Option.map_eq_some_iff.mp (second record found)
  rw [← same]
  exact first between here

theorem NothingNew.unsettled (same : NothingNew index after eventId)
    (unsettled : Unsettled index eventId) :
    Unsettled after eventId := by
  intro record found
  obtain ⟨before, here, shown⟩ := Option.map_eq_some_iff.mp (same record found)
  have live := unsettled before here
  rw [isLive_eq_not_isTerminal] at live ⊢
  rw [← live]
  exact congrArg (! ·) shown.symm

theorem nothingNew_event (record : JournalRecord) (size : UInt32)
    (other : record.eventId ≠ eventId) :
    NothingNew index (index.recordAppendedEvent record size) eventId := by
  intro found known
  rw [EventJournalIndex.find, EventJournalIndex.recordAppendedEvent, KeyedLog.lookup_insert,
    if_neg other] at known
  rw [EventJournalIndex.find, known]
  rfl

theorem nothingNew_transition (j : EventJournal) (t : JournalTransition)
    (other : t.eventId ≠ eventId) :
    NothingNew j.index (j.appendTransition t).1.index eventId := by
  rcases EventJournal.appendTransition_index j t with same | ⟨size, changed⟩
  · rw [same]
    exact .refl _ _
  · intro record found
    rw [changed, EventJournalIndex.find, EventJournalIndex.recordAppendedTransition,
      KeyedLog.lookup_modify, if_neg other] at found
    rw [EventJournalIndex.find, found]
    rfl

theorem nothingNew_compacting [StdSort] (j : EventJournal) (medium : Medium) {call : JournalCall}
    (incremental : (∃ policy, call = .beginCompaction policy) ∨ call = .compactTick)
    (eventId : Bytes) :
    NothingNew j.index (j.call medium call).1.index eventId := by
  rcases EventJournal.incremental_index j medium incremental with same | ⟨keep, rebuilt⟩
  · rw [same]
    exact .refl _ _
  · intro record found
    rw [rebuilt, EventJournalIndex.find, lookup_rebuild] at found
    split at found
    · rw [EventJournalIndex.find, found]
      rfl
    · cases found

theorem nothingNew_reboot {j : EventJournal} (intact : EventJournal.Intact settled copied j)
    (eventId : Bytes) :
    NothingNew j.index j.reboot.index eventId := by
  intro record found
  rw [← intact.reboot.2 eventId, found]
  rfl

theorem unsettled_event (record : JournalRecord) (size : UInt32)
    (live : isLive record.syncStatus = true) :
    Unsettled (index.recordAppendedEvent record size) record.eventId := by
  intro found known
  rw [EventJournalIndex.find, EventJournalIndex.recordAppendedEvent, KeyedLog.lookup_insert,
    if_pos rfl] at known
  cases known
  exact live

theorem unsettled_transition (j : EventJournal) (t : JournalTransition)
    (live : isLive t.syncStatus = true)
    (before : Unsettled j.index eventId) : Unsettled (j.appendTransition t).1.index eventId := by
  rcases EventJournal.appendTransition_index j t with same | ⟨size, changed⟩
  · rw [same]
    exact before
  · intro record found
    rw [changed, EventJournalIndex.find, EventJournalIndex.recordAppendedTransition,
      KeyedLog.lookup_modify] at found
    split at found
    · obtain ⟨_, _, rfl⟩ := Option.map_eq_some_iff.mp found
      exact live
    · exact before record found

/-- The snapshot of a pass takes events without a final outcome. -/
theorem unsettled_pending [StdSort] (filed : Filed index)
    (member : eventId ∈ index.pendingInDeviceSeqOrder.map JournalRecord.eventId) :
    Unsettled index eventId := by
  obtain ⟨record, pending, rfl⟩ := List.mem_map.mp member
  have among := (StdSort.perm _ _).mem_iff.mp pending
  obtain ⟨listed, live⟩ := List.mem_filter.mp among
  obtain ⟨entry, stored, rfl⟩ := List.mem_map.mp listed
  have here := Std.ExtTreeMap.mem_toList_iff_getElem?_eq_some.mp stored
  have same : entry.2.eventId = entry.1 := filed entry.1 entry.2 here
  intro found known
  rw [EventJournalIndex.find, same, here] at known
  cases known
  exact live

end Index

/-- The events whose requests were not answered to the runtime. -/
def deliveries (w : NetworkWorker) : List Bytes :=
  (w.outstanding.filter fun ticket => isEventKind ticket.request.kind).map fun ticket =>
    ticket.request.eventId

/-- A result names the event that was asked for. -/
def OwnResult (answer : SlotWorker.Answer NetworkRequest NetworkResult) : Prop :=
  answer.result.kind = answer.ticket.request.kind ∧
    (isEventKind answer.ticket.request.kind = true →
      answer.result.eventId = answer.ticket.request.eventId)

theorem ownResult_execute (env : NetworkEnv) (ticket : SlotWorker.Ticket NetworkRequest) :
    OwnResult ⟨ticket, execute env ticket.request⟩ := by
  obtain ⟨kind, names⟩ := execute_kind env ticket.request
  refine ⟨kind, fun event => names ?_⟩
  cases asked : ticket.request.kind <;> simp_all [isEventKind]

section Workers
variable {w after : NetworkWorker}

theorem mem_deliveries : eventId ∈ deliveries w ↔
    ∃ ticket ∈ w.outstanding,
      isEventKind ticket.request.kind = true ∧ ticket.request.eventId = eventId := by
  simp [deliveries, and_assoc]

/-- Fewer requests, and still one for each event. -/
theorem deliveries_subperm
    (fewer : (after.outstanding.filter fun ticket => isEventKind ticket.request.kind).Subperm
      (w.outstanding.filter fun ticket => isEventKind ticket.request.kind)) :
    (deliveries after).Subperm (deliveries w) := by
  obtain ⟨kept, same, some⟩ := fewer
  exact ⟨kept.map _, same.map _, some.map _⟩

theorem deliveries_idle (idle : Idle w envs after) : (deliveries after).Subperm (deliveries w) :=
  deliveries_subperm (idle.outstanding_subperm fun _ event => event)

theorem deliveries_advance (envs : List NetworkEnv) :
    (deliveries (w.advance execute envs)).Subperm (deliveries w) :=
  deliveries_subperm (outstanding_advance envs)

/-- One more event, if the queue takes the request. -/
theorem deliveries_enqueue (tier : SlotWorker.Tier) (request : NetworkRequest) :
    (deliveries (w.enqueue queueDepth tier request).1).Subperm
      (if (w.enqueue queueDepth tier request).2 then request.eventId :: deliveries w
        else deliveries w) := by
  have more := ((SlotWorker.Worker.enqueue_outstanding queueDepth w tier request).filter
    fun ticket => isEventKind ticket.request.kind).map fun ticket => ticket.request.eventId
  refine more.subperm.trans ?_
  split
  · rw [List.filter_append, List.map_append]
    by_cases event : isEventKind request.kind = true
    · rw [List.filter_cons_of_pos (by simpa using event), List.filter_nil]
      exact (List.perm_append_singleton _ _).subperm
    · rw [List.filter_cons_of_neg (by simpa using event), List.filter_nil, List.map_nil,
        List.append_nil]
      exact (List.sublist_cons_self _ _).subperm
  · exact .refl _

/-- What is read from the slot was owed. -/
theorem deliveries_poll (slot : w.slot = some answer)
    (event : isEventKind answer.ticket.request.kind = true) :
    (deliveries w).Perm (answer.ticket.request.eventId :: deliveries w.poll.1) := by
  have split : deliveries w = deliveries w.poll.1 ++ [answer.ticket.request.eventId] := by
    rw [deliveries, SlotWorker.Worker.poll_outstanding w, List.filter_append, List.map_append, slot,
      deliveries]
    simp [event]
  rw [split]
  exact List.perm_append_singleton _ _

end Workers

/-- The ids of the snapshot that were not handed over. -/
def ReplayPass.unsent (pass : ReplayPass) : List Bytes :=
  pass.replayEventIds.drop (pass.replayNext + if pass.replaying then 1 else 0)

def createdIds (events : List KioskEvent) : List Bytes :=
  events.map fun event => event.event.eventId

/-- Each event is owed to at most one request or to the rest of the snapshot, and an
event that is owed has no final outcome. -/
structure Owing (d : Delivery) : Prop where
  single : (deliveries d.network).Nodup
  owed : ∀ eventId ∈ deliveries d.network, Unsettled d.journal.index eventId
  snapshot : d.pass.replayEventIds.Nodup
  known : ∀ eventId ∈ d.pass.replayEventIds, eventId ∈ createdIds d.createdEvents
  unsent : ∀ eventId ∈ d.pass.unsent,
    Unsettled d.journal.index eventId ∧ eventId ∉ deliveries d.network

section Owing
variable {d : Delivery} {journal : EventJournal} {network : NetworkWorker} {pass : ReplayPass}
  {events : List KioskEvent}

/-- Nothing more is owed, and what still is has no final outcome. -/
theorem Owing.calm (owing : Owing d) (fewer : (deliveries network).Subperm (deliveries d.network))
    (same : pass.replayEventIds = d.pass.replayEventIds)
    (rest : ∀ eventId ∈ pass.unsent, eventId ∈ d.pass.unsent)
    (more : ∀ eventId ∈ createdIds d.createdEvents, eventId ∈ createdIds events)
    (unsettled : ∀ eventId, eventId ∈ deliveries network ∨ eventId ∈ pass.unsent →
      Unsettled d.journal.index eventId → Unsettled journal.index eventId) :
    Owing ⟨journal, network, pass, events⟩ := by
  refine ⟨?_, ?_, ?_, ?_, ?_⟩
  · obtain ⟨kept, perm, some⟩ := fewer
    exact perm.nodup_iff.mp (owing.single.sublist some)
  · intro eventId member
    exact unsettled eventId (.inl member) (owing.owed eventId (fewer.subset member))
  · rw [same]
    exact owing.snapshot
  · rw [same]
    exact fun eventId member => more eventId (owing.known eventId member)
  · intro eventId member
    obtain ⟨before, absent⟩ := owing.unsent eventId (rest eventId member)
    exact ⟨unsettled eventId (.inr member) before, fun late => absent (fewer.subset late)⟩

/-- A request for an event that was owed to none. -/
theorem Owing.ask (owing : Owing d)
    (fewer : (deliveries network).Subperm (eventId :: deliveries d.network))
    (unasked : eventId ∉ deliveries d.network) (left : eventId ∉ pass.unsent)
    (same : pass.replayEventIds = d.pass.replayEventIds)
    (rest : ∀ other ∈ pass.unsent, other ∈ d.pass.unsent)
    (more : ∀ other ∈ createdIds d.createdEvents, other ∈ createdIds events)
    (unsettled : ∀ other,
      other ≠ eventId → Unsettled d.journal.index other → Unsettled journal.index other)
    (asked : Unsettled journal.index eventId) :
    Owing ⟨journal, network, pass, events⟩ := by
  have others : ∀ other ∈ deliveries network, other = eventId ∨ other ∈ deliveries d.network :=
    fun other member => List.mem_cons.mp (fewer.subset member)
  refine ⟨?_, ?_, ?_, ?_, ?_⟩
  · obtain ⟨kept, perm, some⟩ := fewer
    exact perm.nodup_iff.mp ((List.nodup_cons.mpr ⟨unasked, owing.single⟩).sublist some)
  · intro other member
    rcases others other member with rfl | before
    · exact asked
    · exact unsettled other (fun here => unasked (here ▸ before)) (owing.owed other before)
  · rw [same]
    exact owing.snapshot
  · rw [same]
    exact fun other member => more other (owing.known other member)
  · intro other member
    obtain ⟨before, absent⟩ := owing.unsent other (rest other member)
    have different : other ≠ eventId := fun here => left (here ▸ member)
    refine ⟨unsettled other different before, fun late => ?_⟩
    rcases others other late with here | earlier
    · exact different here
    · exact absent earlier

end Owing

/-- Where the events of a run stand. -/
structure Absorbing (d : Delivery) : Prop where
  copied : KioskRuntime.Copied d
  outcomes : EventJournal.Intact settled (fun _ => True) d.journal
  own : ∀ answer ∈ d.network.answers, OwnResult answer
  owing : Owing d

namespace KioskRuntime

/-- A final outcome stays final over a step, and what the step hands over has none. -/
structure Absorbs [StdSort] (k : KioskRuntime) (input : RuntimeStep) : Prop where
  final : ∀ eventId before after, k.journal.index.find eventId = some before →
    (k.step input).journal.index.find eventId = some after →
      isTerminal before.syncStatus = true → isLive after.syncStatus = false
  handed : ∀ send, (k.step input).passSends = send :: k.passSends →
    isLive send.record.syncStatus = true

/-- No pass starts over an event that is on its way, no result comes for a record the
compaction already rewrote, no id is drawn twice, and the medium refuses nothing. -/
structure Orderly [StdSort] (k : KioskRuntime) (input : RuntimeStep) : Prop where
  apart : k.startsPass input = true →
    ∀ record ∈ k.journal.index.pendingInDeviceSeqOrder, record.eventId ∉ deliveries k.network
  unwritten : ∀ answer ∈ k.eventAnswer input, k.journal.compactionActive = true →
    answer.result.eventId ∉ k.journal.compactionKeep.take k.journal.compactionWriteIndex
  drawn : ∀ env ∈ input.operatorEnv,
    generateRandomHexId 16 env.espRandom ∉ createdIds k.createdEvents
  healthy : (k.step input).journal.fs.failed = false

private theorem ids_lawful : LawfulBEq Bytes := inferInstance

instance [StdSort] (k : KioskRuntime) (input : RuntimeStep) : Decidable (k.Orderly input) :=
  haveI := ids_lawful
  decidable_of_iff
    ((k.startsPass input = true →
        ∀ record ∈ k.journal.index.pendingInDeviceSeqOrder, record.eventId ∉ deliveries k.network) ∧
      (∀ answer ∈ k.eventAnswer input, k.journal.compactionActive = true →
        answer.result.eventId ∉ k.journal.compactionKeep.take k.journal.compactionWriteIndex) ∧
      (∀ env ∈ input.operatorEnv,
        generateRandomHexId 16 env.espRandom ∉ createdIds k.createdEvents) ∧
      (k.step input).journal.fs.failed = false)
    ⟨fun ⟨apart, unwritten, drawn, healthy⟩ => ⟨apart, unwritten, drawn, healthy⟩,
      fun ⟨apart, unwritten, drawn, healthy⟩ => ⟨apart, unwritten, drawn, healthy⟩⟩

variable {k : KioskRuntime} {input : RuntimeStep}

theorem resultTransition_eventId (env : LoopEnv) (result : NetworkResult) :
    (resultTransition env result).eventId = result.eventId := by
  unfold resultTransition
  split
  · rfl
  · simp only
    split
    · rfl
    split <;> rfl

theorem unsent_close (pass : ReplayPass) : pass.close.unsent = pass.unsent := by
  unfold ReplayPass.close ReplayPass.unsent
  cases replaying : pass.replaying <;> simp [replaying]

/-- The result a step reads is the one of a request for the event it names. -/
theorem eventAnswer_owed (own : ∀ answer ∈ k.network.answers, OwnResult answer)
    (read : k.eventAnswer (.pollResult env) = some answer) :
    (deliveries k.network).Perm (answer.result.eventId :: deliveries k.network.poll.1) := by
  obtain ⟨slot, event⟩ := Option.filter_eq_some_iff.mp read
  obtain ⟨kind, names⟩ := own answer (by simp [SlotWorker.Worker.answers, slot])
  rw [kind] at event
  rw [names event]
  exact deliveries_poll slot event

/-- Every request for an event names a created one. -/
theorem deliveries_created (copied : Copied k.delivery) :
    ∀ eventId ∈ deliveries k.network, eventId ∈ createdIds k.createdEvents := by
  intro eventId member
  obtain ⟨ticket, outstanding, event, rfl⟩ := mem_deliveries.mp member
  obtain ⟨source, created, named, _⟩ := copied.requests ticket outstanding event
  rw [named]
  exact List.mem_map_of_mem created

/-- A new event comes without a final outcome and leaves the other records alone. -/
private theorem created_index (env : LoopEnv) (event : KioskEvent)
    (recorded : (k.journalEvent env (journalRecordOf event)).2 = true) :
    let after := (k.dispatched env (k.journalEvent env (journalRecordOf event)).1 event).1
    k.journal.index.find event.event.eventId = none ∧
      (∀ other, event.event.eventId ≠ other → NothingNew k.journal.index after.index other) ∧
      Unsettled after.index event.event.eventId := by
  have appended := EventJournal.appendEvent_index (k.journal.on env.medium) (journalRecordOf event)
  rcases appended with ⟨failed, _⟩ | ⟨_, unknown, size, indexed⟩
  · rw [journalEvent, failed] at recorded
    cases recorded
  have first (other : Bytes) (different : event.event.eventId ≠ other) :
      NothingNew k.journal.index (k.journalEvent env (journalRecordOf event)).1.index other := by
    rw [journalEvent, indexed]
    exact nothingNew_event (journalRecordOf event) size different
  have fresh :
      Unsettled (k.journalEvent env (journalRecordOf event)).1.index event.event.eventId := by
    rw [journalEvent, indexed]
    exact unsettled_event (journalRecordOf event) size rfl
  refine ⟨unknown, ?_, ?_⟩
  · intro other different
    simp only [dispatched]
    split
    · exact (first other different).trans
        (nothingNew_transition (EventJournal.on _ env.medium) _ different)
    · exact first other different
  · simp only [dispatched]
    split
    · exact unsettled_transition (EventJournal.on _ env.medium) _ rfl fresh
    · exact fresh

/-- The event a replay asks for is the one at the cursor. -/
private theorem replay_named (copied : Copied k.delivery)
    (found : k.journal.index.find eventId = some record) :
    record.eventId = eventId ∧ strncpy record.eventId kMaxQueuedEventIdBytes = eventId := by
  have filed := (copied.journal.keyed eventId record found).1
  obtain ⟨event, member, same⟩ := copied.journal.copies eventId record found
  have named : event.event.eventId = record.eventId := congrArg Carried.eventId same
  refine ⟨filed, ?_⟩
  rw [← filed, ← named]
  exact (copied.drawn event member).sendable

/-- The replay at the cursor: it leaves the rest of the snapshot when the queue takes it. -/
private theorem owing_replay (absorbing : Absorbing k.delivery) (env : LoopEnv)
    (next : k.replayEventIds[k.replayNext]? = some eventId) (resting : k.replaying = false)
    (found : k.journal.index.find eventId = some record) :
    Owing (k.sendReplay env record).delivery := by
  obtain ⟨_, named⟩ := replay_named absorbing.copied found
  have owing := absorbing.owing
  have here : k.delivery.pass.unsent = eventId :: k.replayEventIds.drop (k.replayNext + 1) := by
    obtain ⟨bound, rfl⟩ := List.getElem?_eq_some_iff.mp next
    simp only [ReplayPass.unsent, KioskRuntime.delivery, KioskRuntime.pass, resting,
      Bool.false_eq_true, ↓reduceIte, Nat.add_zero]
    exact List.drop_eq_getElem_cons bound
  obtain ⟨unsettled, unasked⟩ := owing.unsent eventId (by rw [here]; exact List.mem_cons_self)
  have advanced :
      (deliveries (k.network.advance execute env.meanwhile)).Subperm (deliveries k.network) :=
    deliveries_advance env.meanwhile
  have queue := deliveries_enqueue (w := k.network.advance execute env.meanwhile) .low
    (eventRequest .offlineReplay record.eventId record.deviceSeq k.apiEndpoint record.payload
      env.kioskToken)
  change (deliveries (k.offered env record).1).Subperm (if (k.offered env record).2 then
    strncpy record.eventId kMaxQueuedEventIdBytes :: _ else _) at queue
  rw [named] at queue
  rw [delivery_sendReplay]
  cases taken : (k.offered env record).2 with
  | false =>
    rw [taken, if_neg (by simp)] at queue
    refine owing.calm (queue.trans advanced) rfl ?_ (fun _ created => created) fun _ _ before =>
      before
    intro other member
    simpa [ReplayPass.unsent, KioskRuntime.pass, KioskRuntime.delivery, resting] using member
  | true =>
    rw [taken, if_pos rfl] at queue
    have distinct : (eventId :: k.replayEventIds.drop (k.replayNext + 1)).Nodup := by
      rw [← here]
      exact owing.snapshot.sublist (List.drop_sublist _ _)
    refine owing.ask (queue.trans ((List.subperm_cons eventId).mpr advanced)) unasked ?_ rfl ?_
      (fun _ created => created) (fun _ _ before => before) unsettled
    · simpa [ReplayPass.unsent, KioskRuntime.pass] using (List.nodup_cons.mp distinct).1
    · intro other member
      rw [here]
      exact List.mem_cons_of_mem _ (by simpa [ReplayPass.unsent, KioskRuntime.pass] using member)

section Steps
variable [StdSort]

private theorem step_owing (absorbing : Absorbing k.delivery) (orderly : k.Orderly input) :
    Owing (k.step input).delivery ∧ ∀ eventId,
      Unsettled k.journal.index eventId ∨
        NothingNew k.journal.index (k.step input).journal.index eventId := by
  have owing := absorbing.owing
  have arriving : (deliveries (k.networkAt input)).Subperm (deliveries k.network) :=
    deliveries_subperm ((networkAt_outstanding k input).filter _)
  have outcome := step_delivery k input
  have healthy : (k.step input).delivery.journal.fs.failed = false := orderly.healthy
  change _ ∧ ∀ eventId, _ ∨ NothingNew _ (k.step input).delivery.journal.index eventId
  generalize (k.step input).delivery = after at outcome healthy
  cases outcome with
  | idle _ network moved delivery =>
    subst delivery
    refine ⟨?_, fun eventId => .inr (.refl _ _)⟩
    exact owing.calm ((deliveries_idle moved).trans arriving) rfl (fun _ left => left)
      (fun _ created => created)
      fun _ _ before => before
  | answered env answer poll read network moved delivery =>
    subst poll
    subst delivery
    have split := eventAnswer_owed absorbing.own read
    have single := split.nodup_iff.mp owing.single
    have now : answer.result.eventId ∈ deliveries k.network := split.mem_iff.mpr List.mem_cons_self
    have elsewhere (eventId : Bytes) (different : answer.result.eventId ≠ eventId) :
        NothingNew k.journal.index
          (journalTransition k.journal env (resultTransition env answer.result)).index eventId :=
      nothingNew_transition (k.journal.on env.medium) _
        (by rw [resultTransition_eventId]; exact different)
    refine ⟨?_, fun eventId => ?_⟩
    · refine owing.calm ((deliveries_idle moved).trans arriving)
        (by simp only [ReplayPass.close]; split <;> rfl)
        (by rw [unsent_close]; exact fun _ left => left) (fun _ created => created) ?_
      intro eventId involved before
      refine (elsewhere eventId ?_).unsettled before
      rintro rfl
      rcases involved with asked | left
      · exact (List.nodup_cons.mp single).1 ((deliveries_idle moved).subset asked)
      · rw [unsent_close] at left
        exact (owing.unsent _ left).2 now
    · by_cases same : answer.result.eventId = eventId
      · exact .inl (same ▸ owing.owed _ now)
      · exact .inr (elsewhere eventId same)
  | unrecorded _ env event _ failed delivery =>
    subst delivery
    have same : (k.journalEvent env (journalRecordOf event)).1.index = k.journal.index := by
      rw [journalEvent, unrecorded_same _ failed healthy]
      rfl
    simp only [same]
    refine ⟨?_, fun eventId => .inr (.refl _ _)⟩
    refine owing.calm (.refl _) rfl (fun _ left => left) (fun _ created => created) fun _ _
      before => ?_
    rw [same]
    exact before
  | created _ env event operator fresh _ recorded delivery =>
    subst delivery
    have unused : event.event.eventId ∉ createdIds k.createdEvents :=
      fresh ▸ orderly.drawn env operator
    have sendable : strncpy event.event.eventId kMaxQueuedEventIdBytes = event.event.eventId :=
      Drawn.sendable ⟨env.espRandom, fresh⟩
    obtain ⟨unknown, others, open'⟩ := created_index env event recorded
    have queue := deliveries_enqueue (w := k.network.advance execute env.meanwhile) .high
      (eventRequest .businessEvent event.event.eventId event.event.deviceSeq k.apiEndpoint
        (encodeEventJson event) env.kioskToken)
    change (deliveries
      (k.dispatched env (k.journalEvent env (journalRecordOf event)).1 event).2).Subperm (if _ then
      strncpy event.event.eventId kMaxQueuedEventIdBytes :: _ else _) at queue
    rw [sendable] at queue
    refine ⟨?_, fun eventId => ?_⟩
    · refine owing.ask ?_ (fun owed => unused (deliveries_created absorbing.copied _ owed)) ?_ rfl
        (fun _ left => left)
        (fun _ created => List.mem_cons_of_mem _ created)
        (fun other different before => (others other (Ne.symm different)).unsettled before) open'
      · refine queue.trans ?_
        split
        · exact (List.subperm_cons _).mpr (deliveries_advance env.meanwhile)
        · exact (deliveries_advance env.meanwhile).cons_right _
      · intro left
        exact unused (owing.known _ (List.mem_of_mem_drop left))
    · by_cases same : event.event.eventId = eventId
      · subst same
        exact .inl fun record found => by rw [unknown] at found; cases found
      · exact .inr (others eventId same)
  | passStarted _ done starts delivery =>
    subst delivery
    have filed : Filed k.journal.index :=
      fun id r found => (absorbing.copied.journal.keyed id r found).1
    refine ⟨⟨owing.single, owing.owed, filed.pending_nodup, ?_, ?_⟩,
      fun eventId => .inr (.refl _ _)⟩
    · intro eventId member
      obtain ⟨record, pending, rfl⟩ := List.mem_map.mp member
      have among := (StdSort.perm _ _).mem_iff.mp pending
      obtain ⟨entry, stored, rfl⟩ := List.mem_map.mp (List.mem_filter.mp among).1
      obtain ⟨event, created, same⟩ := absorbing.copied.journal.copies entry.1 entry.2
        (Std.ExtTreeMap.mem_toList_iff_getElem?_eq_some.mp stored)
      rw [show entry.2.eventId = event.event.eventId from (congrArg Carried.eventId same).symm]
      exact List.mem_map_of_mem created
    · intro eventId member
      have pending := List.mem_of_mem_drop member
      refine ⟨unsettled_pending filed pending, ?_⟩
      obtain ⟨record, among, rfl⟩ := List.mem_map.mp pending
      exact orderly.apart starts record among
  | skipped _ resting delivery =>
    subst delivery
    refine ⟨?_, fun eventId => .inr (.refl _ _)⟩
    refine owing.calm (.refl _) rfl ?_ (fun _ created => created) fun _ _ before => before
    intro eventId left
    simp only [ReplayPass.unsent, KioskRuntime.pass, KioskRuntime.delivery, resting,
      Bool.false_eq_true, ↓reduceIte, Nat.add_zero] at left ⊢
    rw [← List.drop_drop] at left
    exact List.mem_of_mem_drop left
  | replayed _ env record eventId _ next resting found delivery =>
    subst delivery
    refine ⟨owing_replay absorbing env next resting found, fun eventId => .inr ?_⟩
    rw [delivery_sendReplay]
    exact .refl _ _
  | compacting _ medium call incremental delivery =>
    subst delivery
    have same (eventId : Bytes) := nothingNew_compacting k.journal medium incremental eventId
    refine ⟨?_, fun eventId => .inr (same eventId)⟩
    exact owing.calm (.refl _) rfl (fun _ left => left) (fun _ created => created)
      fun eventId _ before => (same eventId).unsettled before
  | rebooted config _ delivery =>
    subst delivery
    refine ⟨⟨?_, ?_, by simp, by simp, by simp [ReplayPass.unsent]⟩,
      fun eventId => .inr (nothingNew_reboot absorbing.outcomes eventId)⟩
    · exact List.nodup_nil
    · intro eventId member
      cases member

private theorem created_outcomes (absorbing : Absorbing k.delivery) (env : LoopEnv)
    (event : KioskEvent) (drawn : Drawn event)
    (recorded : (k.journalEvent env (journalRecordOf event)).2 = true)
    (healthy : (k.dispatched env (k.journalEvent env (journalRecordOf event)).1 event).1.fs.failed =
      false) :
    EventJournal.Intact settled (fun _ => True)
      (k.dispatched env (k.journalEvent env (journalRecordOf event)).1 event).1 := by
  have appended (before : (k.journalEvent env (journalRecordOf event)).1.fs.failed = false) :
      EventJournal.Intact settled (fun _ => True) (k.journalEvent env (journalRecordOf event)).1 :=
    EventJournal.call_intact EventJournal.lossless_settled absorbing.outcomes env.medium
      (.appendEvent (journalRecordOf event))
      ⟨drawn.decodable, drawn.plain.1, trivial⟩ before
  simp only [dispatched] at healthy ⊢
  split
  · rename_i sent
    rw [if_pos sent] at healthy
    refine EventJournal.call_intact EventJournal.lossless_settled
      (appended (journalTransition_healthy _ healthy)) env.medium
      (.appendTransition _) ?_ healthy
    -- the record is `PENDING`, so the transition shows nothing new of it
    intro _ _ record found
    rcases EventJournal.appendEvent_index (k.journal.on env.medium)
      (journalRecordOf event) with ⟨failed, _⟩ | ⟨_, _, size, indexed⟩
    · rw [journalEvent, failed] at recorded
      cases recorded
    · have live := @unsettled_event k.journal.index (journalRecordOf event) size rfl record (by
        rw [journalEvent, indexed] at found
        exact found)
      rw [isLive_eq_not_isTerminal] at live
      simpa [settled, JournalRecord.transition, isTerminal] using live
  · rename_i unsent
    rw [if_neg unsent] at healthy
    exact appended healthy

private theorem step_outcomes (absorbing : Absorbing k.delivery) (orderly : k.Orderly input) :
    EventJournal.Intact settled (fun _ => True) (k.step input).delivery.journal := by
  have outcomes := absorbing.outcomes
  have outcome := step_delivery k input
  have healthy : (k.step input).delivery.journal.fs.failed = false := orderly.healthy
  generalize (k.step input).delivery = after at outcome healthy
  cases outcome with
  | idle _ network moved delivery =>
    subst delivery
    exact outcomes
  | answered env answer poll read network moved delivery =>
    subst delivery
    refine EventJournal.call_intact EventJournal.lossless_settled outcomes env.medium
      (.appendTransition _) ?_ healthy
    intro active written
    rw [resultTransition_eventId] at written
    exact absurd written (orderly.unwritten answer read active)
  | unrecorded _ env event _ failed delivery =>
    subst delivery
    change EventJournal.Intact _ _ (k.journalEvent env (journalRecordOf event)).1
    rw [journalEvent, unrecorded_same _ failed healthy]
    exact outcomes.on env.medium
  | created _ env event _ fresh _ recorded delivery =>
    subst delivery
    exact created_outcomes absorbing env event ⟨env.espRandom, fresh⟩ recorded healthy
  | passStarted _ _ _ delivery =>
    subst delivery
    exact outcomes
  | skipped _ _ delivery =>
    subst delivery
    exact outcomes
  | replayed _ env record eventId _ _ _ _ delivery =>
    subst delivery
    rw [delivery_sendReplay]
    exact outcomes
  | compacting _ medium call incremental delivery =>
    subst delivery
    refine EventJournal.call_intact EventJournal.lossless_settled outcomes medium call ?_ healthy
    rcases incremental with ⟨policy, rfl⟩ | rfl <;> trivial
  | rebooted config _ delivery =>
    subst delivery
    exact outcomes.reboot.1

private theorem step_absorbing (absorbing : Absorbing k.delivery) (orderly : k.Orderly input) :
    Absorbing (k.step input).delivery where
  copied := step_copied absorbing.copied input orderly.healthy
  outcomes := step_outcomes absorbing orderly
  own := answers_step absorbing.own fun env _ ticket => ownResult_execute env ticket
  owing := (step_owing absorbing orderly).1

/-- What is handed over stood at the cursor of the snapshot. -/
private theorem handed_unsettled (absorbing : Absorbing k.delivery)
    (handed : (k.step input).passSends = send :: k.passSends) :
    isLive send.record.syncStatus = true := by
  have outcome := step_delivery k input
  replace handed : (k.step input).delivery.pass.passSends = send :: k.delivery.pass.passSends :=
    handed
  have longer : ∀ sends : List ReplaySend, sends ≠ send :: sends := fun sends same => by
    have length := congrArg List.length same
    simp at length
  generalize (k.step input).delivery = after at outcome handed
  cases outcome with
  | idle _ _ _ delivery => rw [delivery] at handed; exact absurd handed (longer _)
  | answered _ _ _ _ _ _ delivery =>
    rw [delivery, ReplayPass.close] at handed
    split at handed <;> exact absurd handed (longer _)
  | unrecorded _ _ _ _ _ delivery => rw [delivery] at handed; exact absurd handed (longer _)
  | created _ _ _ _ _ _ _ delivery => rw [delivery] at handed; exact absurd handed (longer _)
  | passStarted _ _ _ delivery => rw [delivery] at handed; cases handed
  | skipped _ _ delivery => rw [delivery] at handed; exact absurd handed (longer _)
  | replayed _ env record eventId _ next resting found delivery =>
    rw [delivery, delivery_sendReplay] at handed
    cases handed
    obtain ⟨bound, here⟩ := List.getElem?_eq_some_iff.mp next
    refine (absorbing.owing.unsent eventId ?_).1 record found
    simp only [ReplayPass.unsent, KioskRuntime.delivery, KioskRuntime.pass, resting,
      Bool.false_eq_true, ↓reduceIte, Nat.add_zero]
    rw [List.drop_eq_getElem_cons bound, here]
    exact List.mem_cons_self
  | compacting _ _ _ _ delivery => rw [delivery] at handed; exact absurd handed (longer _)
  | rebooted _ _ delivery => rw [delivery] at handed; cases handed

private theorem absorbs_step (absorbing : Absorbing k.delivery) (orderly : k.Orderly input) :
    k.Absorbs input where
  final := by
    intro eventId before after known found final
    have live : isLive before.syncStatus = false := by rw [isLive_eq_not_isTerminal, final]; rfl
    rcases (step_owing absorbing orderly).2 eventId with unsettled | same
    · rw [unsettled before known] at live
      cases live
    · have shown := same after found
      rw [known] at shown
      rw [isLive_eq_not_isTerminal,
        ← show isTerminal before.syncStatus = isTerminal after.syncStatus from
        Option.some.inj shown, final]
      rfl
  handed := fun _ handed => handed_unsettled absorbing handed

/-- Along every orderly run a final outcome stays final, and no event that has one is
handed to a replay. -/
theorem absorbs_along (config : BootConfig) (highWaterMark : UInt64) (capacityBytes : UInt32)
    (inputs : List RuntimeStep) (along : Along step Orderly
      (boot config highWaterMark (EventJournal.fresh capacityBytes)) inputs) :
    Along step Absorbs (boot config highWaterMark (EventJournal.fresh capacityBytes)) inputs := by
  refine along.entails (motive := fun k : KioskRuntime => Absorbing k.delivery) ?_ ?_ ?_
  · refine ⟨copied_boot config highWaterMark capacityBytes,
      EventJournal.intact_fresh capacityBytes, ?_, ?_⟩
    · intro answer member
      simp [delivery, boot, SlotWorker.Worker.answers, SlotWorker.Phase.answer] at member
    · refine ⟨List.nodup_nil, ?_, List.nodup_nil, ?_, ?_⟩
      · intro eventId member
        cases member
      · intro eventId member
        cases member
      · intro eventId member
        simp [ReplayPass.unsent, delivery, pass, boot] at member
  · exact fun k input absorbing orderly => step_absorbing absorbing orderly
  · exact fun k input absorbing orderly => absorbs_step absorbing orderly

end Steps

private def offline : NetworkEnv := { wifiConnected := false, exchange := fun _ => { status := 0 } }

private def accepting : NetworkEnv where
  exchange _ := {
    status := 200
    responseText := text
      "\x7b\"accepted\": true, \"state\": \x7b\"name\": \"WAIT_OPERATION\", \"version\": 2\x7d\x7d"
      }

/-- An accepted event stays so over a reboot and the next pass. -/
theorem absorbs_along_accepted :
    Along (@step .insertion) (@Absorbs .insertion)
      (boot { apiEndpoint := text "http://b/events" } 0 (EventJournal.fresh 65536))
      ([.scan {} []] ++ List.replicate 6 (.task accepting) ++
        [.pollResult {}, .reboot {}, .startOfflineReplay]) :=
  @absorbs_along .insertion _ 0 65536 _ (by decide +kernel)

/-- A pass starts over an event that is still being sent. The answer makes it `ACKED`,
the pass hands it over all the same, and the replay fails. -/
theorem accepted_event_pending_again :
    let start := boot { apiEndpoint := text "http://b/events" } 0 (EventJournal.fresh 65536)
    let answered :=
      run (@step .insertion) start ([.scan {} []] ++ List.replicate 5 (.task accepting) ++
      [.startOfflineReplay, .task accepting, .pollResult {}])
    let replayed :=
      run (@step .insertion) answered ([.checkOfflineReplay {}] ++ List.replicate 6 (.task offline))
    let failed := @step .insertion replayed (.pollResult {})
    (answered.journal.index.find (generateRandomHexId 16 fun _ => 0)).map JournalRecord.syncStatus =
        some .acked ∧
      replayed.passSends.map (fun send => send.record.syncStatus) = [.acked] ∧
      (failed.journal.index.find (generateRandomHexId 16 fun _ => 0)).map JournalRecord.syncStatus =
        some .pending := by
  decide +kernel

end KioskRuntime

end Kiosk.Runtime
