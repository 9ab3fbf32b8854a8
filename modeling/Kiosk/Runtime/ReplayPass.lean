import Kiosk.Library.TransitionSystem
import Kiosk.Runtime.DeliverySteps
import Kiosk.Storage.IndexSteps

/-! The protocol of a replay pass: one replay outstanding, closed by its own result.
The pass knows only the flag `replaying`, and any event result closes it. -/
namespace Kiosk.Runtime

open Library Library.KeySearch Library.TransitionSystem Protocol Network Storage

def isReplay (ticket : SlotWorker.Ticket NetworkRequest) : Bool :=
  ticket.request.kind = .offlineReplay

theorem replay_event (ticket : SlotWorker.Ticket NetworkRequest) (replay : isReplay ticket = true) :
    isEventKind ticket.request.kind = true := by
  rw [isReplay, decide_eq_true_iff] at replay
  rw [replay]
  rfl

/-- The replays whose results were not read. -/
def replayTickets (w : NetworkWorker) : List (SlotWorker.Ticket NetworkRequest) :=
  w.outstanding.filter isReplay

namespace ReplayPass

/-- The sends of the pass that the queue took. -/
def queuedSends (pass : ReplayPass) : List ReplaySend := pass.passSends.filter ReplaySend.queued

/-- The replay at the cursor was sent under this number. -/
def SentAtCursor (pass : ReplayPass) (serial : Nat) : Prop :=
  ∃ send ∈ pass.queuedSends, send.position = pass.replayNext ∧ send.serial = serial

instance (pass : ReplayPass) (serial : Nat) : Decidable (pass.SentAtCursor serial) := by
  unfold SentAtCursor; infer_instance

end ReplayPass

namespace KioskRuntime

/-- The result a step reads. -/
def answerRead (k : KioskRuntime) :
    RuntimeStep → Option (SlotWorker.Answer NetworkRequest NetworkResult)
  | .pollResult _ => k.network.slot
  | _ => none

section Pass
variable [StdSort]

/-- What the protocol of a pass asks of a step: at most one replay is outstanding after
it, a result that ends the wait or moves the cursor answers the replay sent for the
cursor, and no id was queued twice in the pass. -/
structure PassProtocol (k : KioskRuntime) (input : RuntimeStep) : Prop where
  single : (replayTickets (k.step input).network).length ≤ 1
  closesOwn : ∀ answer ∈ k.answerRead input,
    ((k.step input).replaying ≠ k.replaying ∨ (k.step input).replayNext ≠ k.replayNext) →
      answer.ticket.request.kind = .offlineReplay ∧ k.pass.SentAtCursor answer.ticket.serial
  sentOnce : ((k.step input).pass.queuedSends.map fun send => send.record.eventId).Nodup

/-- No result of a live event is read while a replay is awaited. -/
def NoLiveResult (k : KioskRuntime) (input : RuntimeStep) : Prop :=
  ∀ answer ∈ k.answerRead input, k.replaying = true → answer.result.kind ≠ .businessEvent

omit [StdSort] in
instance (k : KioskRuntime) (input : RuntimeStep) : Decidable (k.NoLiveResult input) := by
  unfold NoLiveResult; infer_instance

end Pass

end KioskRuntime

/-- The results on their way are of the kind that was asked for. -/
def KindsAgree (w : NetworkWorker) : Prop :=
  ∀ answer ∈ w.answers, answer.result.kind = answer.ticket.request.kind

section Workers
variable {w after : NetworkWorker}

theorem kindsAgree_advance (agree : KindsAgree w) (envs : List NetworkEnv) :
    KindsAgree (w.advance execute envs) :=
  SlotWorker.Worker.advance_answers execute w envs agree fun env _ ticket =>
    (execute_kind env ticket.request).1

private theorem Idle.kindsAgree (idle : Idle w envs after) (agree : KindsAgree w) :
    KindsAgree after := by
  have any : Along (SlotWorker.Worker.tick execute) (fun _ _ => True) w envs :=
    .of_forall (fun _ _ => trivial) w envs
  exact idle.answers agree any fun _ env ticket _ _ => (execute_kind env ticket.request).1

end Workers

/-- Where a pass stands. -/
structure PassInvariant (d : Delivery) : Prop where
  kinds : KindsAgree d.network
  filed : Filed d.journal.index
  distinct : d.pass.replayEventIds.Nodup
  sends : ∀ send ∈ d.pass.queuedSends,
    d.pass.replayEventIds[send.position]? = some send.record.eventId
  behind : ∀ send ∈ d.pass.queuedSends,
    send.position < d.pass.replayNext ∨ d.pass.replaying = true ∧ send.position = d.pass.replayNext
  once : (d.pass.queuedSends.map ReplaySend.position).Nodup
  resting : d.pass.replaying = false → replayTickets d.network = []
  awaited : d.pass.replaying = true →
    (replayTickets d.network).length ≤ 1 ∧ ∀ ticket ∈ replayTickets d.network,
      d.pass.SentAtCursor ticket.serial

section Deliveries
variable {d : Delivery} {journal : EventJournal} {network : NetworkWorker}

/-- A journal with the same files and a worker with no more replays. -/
private theorem PassInvariant.calm (invariant : PassInvariant d) (filed : Filed journal.index)
    (kinds : KindsAgree network)
    (fewer : (replayTickets network).Subperm (replayTickets d.network)) :
    PassInvariant { d with journal := journal, network := network, createdEvents := events } := by
  refine ⟨kinds, filed, invariant.distinct, invariant.sends, invariant.behind, invariant.once,
    ?_, ?_⟩
  · intro resting
    rw [invariant.resting resting] at fewer
    exact List.subperm_nil.mp fewer
  · intro replaying
    obtain ⟨single, own⟩ := invariant.awaited replaying
    exact ⟨fewer.length_le.trans single, fun ticket member => own ticket (fewer.subset member)⟩

/-- Once nothing is awaited and no replay is outstanding the cursor may move on. -/
private theorem PassInvariant.moveOn (invariant : PassInvariant d) (filed : Filed journal.index)
    (kinds : KindsAgree network) (none : replayTickets network = []) :
    PassInvariant { d with
      journal := journal
      network := network
      pass := { d.pass with replaying := false, replayNext := d.pass.replayNext + 1 } } := by
  refine ⟨kinds, filed, invariant.distinct, invariant.sends, ?_, invariant.once,
    fun _ => none, by simp⟩
  intro send member
  have position : send.position < d.pass.replayNext + 1 := by
    rcases invariant.behind send member with before | ⟨_, same⟩ <;> omega
  exact .inl position

end Deliveries

namespace KioskRuntime

variable {k : KioskRuntime} {input : RuntimeStep}

section Pass
variable [StdSort]

/-- Every step keeps the kinds, whatever is read. -/
theorem kindsAgree_step (agree : KindsAgree k.network) : KindsAgree (k.step input).network :=
  answers_step agree fun env _ ticket => (execute_kind env ticket.request).1

omit [StdSort] in
/-- The result a good step closes the pass with is the only replay that was outstanding. -/
private theorem passInvariant_answer (invariant : PassInvariant k.delivery)
    (slot : k.network.slot = some answer)
    (replaying : k.replaying = true) (replay : answer.result.kind = .offlineReplay) :
    replayTickets k.network.poll.1 = [] ∧ answer.ticket.request.kind = .offlineReplay ∧
      k.pass.SentAtCursor answer.ticket.serial := by
  obtain ⟨single, own⟩ := invariant.awaited replaying
  have agrees : answer.ticket.request.kind = .offlineReplay :=
    replay ▸ (invariant.kinds answer (by simp [SlotWorker.Worker.answers, slot, delivery])).symm
  have split : replayTickets k.network = replayTickets k.network.poll.1 ++ [answer.ticket] := by
    rw [replayTickets, SlotWorker.Worker.poll_outstanding k.network, List.filter_append, slot,
      replayTickets]
    simp [isReplay, agrees]
  rw [show k.delivery.network = k.network from rfl, split] at single own
  rw [List.length_append, List.length_singleton] at single
  exact ⟨List.eq_nil_of_length_eq_zero (by omega), agrees, own answer.ticket (by simp)⟩

omit [StdSort] in
/-- With no replay outstanding an offered one is the only one, if the queue takes it. -/
private theorem offered_tickets (env : LoopEnv) (record : JournalRecord)
    (none : replayTickets k.network = []) :
    (replayTickets (k.offered env record).1).length ≤ 1 ∧
      (∀ ticket ∈ replayTickets (k.offered env record).1, ticket.serial = k.network.accepted) ∧
      ((k.offered env record).2 = false → replayTickets (k.offered env record).1 = []) := by
  have quiet :
      (replayTickets (k.network.advance execute env.meanwhile)).Subperm (replayTickets k.network) :=
    outstanding_advance env.meanwhile
  rw [none] at quiet
  have empty := List.subperm_nil.mp quiet
  have more := (SlotWorker.Worker.enqueue_outstanding queueDepth
    (k.network.advance execute env.meanwhile) .low
    (eventRequest .offlineReplay record.eventId record.deviceSeq k.apiEndpoint record.payload
      env.kioskToken)).filter isReplay
  have accepted := (SlotWorker.Worker.advance_outstanding execute k.network env.meanwhile).2
  change (replayTickets (k.offered env record).1).Perm
    (List.filter isReplay (if (k.offered env record).2 then _ else _)) at more
  cases taken : (k.offered env record).2 with
  | false =>
    rw [taken, if_neg (by simp)] at more
    have nothing : replayTickets (k.offered env record).1 = [] := by
      rw [show List.filter isReplay (SlotWorker.Worker.outstanding _) = [] from empty] at more
      exact List.perm_nil.mp more
    simp [nothing]
  | true =>
    rw [taken, if_pos rfl, List.filter_append,
      show List.filter isReplay (SlotWorker.Worker.outstanding _) = [] from empty,
      List.nil_append, List.filter_cons_of_pos (by rfl), accepted] at more
    rw [List.perm_singleton.mp more]
    simp

omit [StdSort] in
private theorem passInvariant_offer (env : LoopEnv) (invariant : PassInvariant k.delivery)
    (resting : k.replaying = false) (next : k.replayEventIds[k.replayNext]? = some eventId)
    (found : k.journal.index.find eventId = some record) :
    PassInvariant (k.sendReplay env record).delivery := by
  obtain ⟨single, serial, refused⟩ := offered_tickets env record (invariant.resting resting)
  have kinds : KindsAgree (k.offered env record).1 :=
    answers_enqueue (kindsAgree_advance invariant.kinds env.meanwhile) _ _
  have before : ∀ send ∈ k.pass.queuedSends, send.position < k.replayNext := by
    intro send member
    rcases invariant.behind send member with before | ⟨replaying, _⟩
    · exact before
    · rw [show k.delivery.pass.replaying = k.replaying from rfl, resting] at replaying
      cases replaying
  have own : k.replayEventIds[k.replayNext]? = some record.eventId := by
    rw [next, invariant.filed eventId record found]
  rw [delivery_sendReplay]
  cases taken : (k.offered env record).2 with
  | false =>
    have same : ∀ pass : ReplayPass, pass.passSends =
          ⟨k.replayNext, record, k.network.accepted, false⟩ :: k.passSends →
        pass.queuedSends = k.pass.queuedSends := by
      intro pass sends
      rw [ReplayPass.queuedSends, sends, List.filter_cons_of_neg (by simp)]
      rfl
    exact ⟨kinds, invariant.filed, invariant.distinct, by rw [same _ rfl]; exact invariant.sends,
      by rw [same _ rfl]; exact fun send member =>
        .inl (before send member), by rw [same _ rfl]; exact invariant.once,
      fun _ => refused taken, by simp⟩
  | true =>
    have more : ∀ pass : ReplayPass, pass.passSends =
          ⟨k.replayNext, record, k.network.accepted, true⟩ :: k.passSends →
        pass.queuedSends =
          ⟨k.replayNext, record, k.network.accepted, true⟩ :: k.pass.queuedSends := by
      intro pass sends
      rw [ReplayPass.queuedSends, sends, List.filter_cons_of_pos rfl]
      rfl
    refine ⟨kinds, invariant.filed, invariant.distinct, ?_, ?_, ?_, by simp, fun _ => ⟨single, ?_⟩⟩
    · rw [more _ rfl]
      intro send member
      rcases List.mem_cons.mp member with rfl | older
      · exact own
      · exact invariant.sends send older
    · rw [more _ rfl]
      intro send member
      rcases List.mem_cons.mp member with rfl | older
      · exact .inr ⟨rfl, rfl⟩
      · exact .inl (before send older)
    · rw [more _ rfl, List.map_cons, List.nodup_cons]
      refine ⟨fun repeated => ?_, invariant.once⟩
      obtain ⟨send, member, same⟩ := List.mem_map.mp repeated
      have := before send member
      simp only at same
      omega
    · intro ticket member
      rw [ReplayPass.SentAtCursor, more _ rfl]
      exact ⟨_, List.mem_cons_self, rfl, (serial ticket member).symm⟩

theorem passInvariant_step (invariant : PassInvariant k.delivery) (good : k.NoLiveResult input) :
    PassInvariant (k.step input).delivery := by
  have here := (networkAt_outstanding k input).filter isReplay
  have kindsHere : KindsAgree (k.networkAt input) := fun answer member =>
    invariant.kinds answer (networkAt_answers k input member)
  cases k.step_delivery input with
  | idle _ network moved delivery =>
    rw [delivery]
    exact invariant.calm invariant.filed (moved.kindsAgree kindsHere)
      (moved.outstanding_subperm replay_event |>.trans here)
  | answered env answer poll read network moved delivery =>
    subst poll
    obtain ⟨slot, event⟩ := Option.filter_eq_some_iff.mp read
    have filed := EventJournal.filed_appendTransition (j := k.journal.on env.medium) invariant.filed
      (resultTransition env answer.result)
    rw [delivery, ReplayPass.close]
    cases replaying : k.replaying with
    | false =>
      rw [if_neg (by simp [KioskRuntime.pass, replaying])]
      exact invariant.calm filed (moved.kindsAgree kindsHere)
        (moved.outstanding_subperm replay_event |>.trans here)
    | true =>
      have replay : answer.result.kind = .offlineReplay := by
        have other := good answer slot replaying
        cases kind : answer.result.kind <;> simp_all [isEventKind]
      obtain ⟨none, _⟩ := passInvariant_answer invariant slot replaying replay
      rw [if_pos (by simp [KioskRuntime.pass, replaying])]
      refine invariant.moveOn filed (moved.kindsAgree kindsHere) ?_
      exact List.subperm_nil.mp (none ▸ moved.outstanding_subperm replay_event)
  | unrecorded _ env event _ _ delivery =>
    rw [delivery]
    exact invariant.calm
      (EventJournal.filed_appendEvent (j := k.journal.on env.medium) invariant.filed _)
      invariant.kinds (.refl _)
  | created _ env event _ _ _ _ delivery =>
    rw [delivery]
    refine invariant.calm ?_
      (answers_enqueue (kindsAgree_advance invariant.kinds env.meanwhile) _ _)
      ((outstanding_enqueue .high (eventRequest .businessEvent _ _ _ _ _) rfl).trans
        (outstanding_advance env.meanwhile))
    have recorded := EventJournal.filed_appendEvent (j := k.journal.on env.medium) invariant.filed
      (journalRecordOf event)
    simp only [dispatched]
    split
    · exact EventJournal.filed_appendTransition (j := EventJournal.on _ env.medium) recorded _
    · exact recorded
  | passStarted _ done _ delivery =>
    have resting : k.replaying = false := by simp at done; exact done.1
    rw [delivery]
    exact ⟨invariant.kinds, invariant.filed, invariant.filed.pending_nodup,
      by simp [ReplayPass.queuedSends],
      by simp [ReplayPass.queuedSends], by simp [ReplayPass.queuedSends], fun _ =>
        invariant.resting resting, by simp⟩
  | skipped _ resting delivery =>
    rw [delivery]
    have moved := invariant.moveOn invariant.filed invariant.kinds (invariant.resting resting)
    simpa [KioskRuntime.delivery, KioskRuntime.pass, resting] using moved
  | replayed _ env record eventId _ next resting found delivery =>
    rw [delivery]
    exact passInvariant_offer env invariant resting next found
  | compacting _ medium call incremental delivery =>
    rw [delivery]
    refine invariant.calm ?_ invariant.kinds (.refl _)
    rcases EventJournal.incremental_index k.journal medium incremental with same | ⟨keep, rebuilt⟩
    · exact same ▸ invariant.filed
    · exact rebuilt ▸ invariant.filed.rebuilt keep
  | rebooted config _ delivery =>
    rw [delivery]
    refine ⟨?_, Filed.init _ _, by simp, ?_, ?_, ?_, fun _ => rfl, by simp⟩
    · intro answer member
      simp [SlotWorker.Worker.answers, SlotWorker.Phase.answer] at member
    · simp [ReplayPass.queuedSends]
    · simp [ReplayPass.queuedSends]
    · simp [ReplayPass.queuedSends]

omit [StdSort] in
private theorem Quiet.unread (quiet : Quiet k input) : k.answerRead input = none := by
  cases input with
  | pollResult env => exact (congrArg SlotWorker.Worker.slot quiet.network).symm
  | _ => rfl

omit [StdSort] in
private theorem sentOnce_of_invariant (invariant : PassInvariant k.delivery) :
    (k.pass.queuedSends.map fun send => send.record.eventId).Nodup := by
  refine List.Nodup.map_on (fun send member other inside same => ?_) invariant.once.of_map
  have first := invariant.sends send member
  have second := invariant.sends other inside
  rw [same, ← second] at first
  have bound : send.position < k.replayEventIds.length := by
    by_contra beyond
    rw [second] at first
    rw [show k.delivery.pass.replayEventIds = k.replayEventIds from rfl,
      List.getElem?_eq_none (by omega)] at first
    cases first
  exact List.inj_on_of_nodup_map invariant.once member inside
    (List.getElem?_inj bound invariant.distinct |>.mp first)

private theorem closesOwn_of_invariant (invariant : PassInvariant k.delivery)
    (good : k.NoLiveResult input)
    (answer : SlotWorker.Answer NetworkRequest NetworkResult) (read : answer ∈ k.answerRead input)
    (moved : (k.step input).replaying ≠ k.replaying ∨ (k.step input).replayNext ≠ k.replayNext) :
    answer.ticket.request.kind = .offlineReplay ∧ k.pass.SentAtCursor answer.ticket.serial := by
  have loud : ¬ Quiet k input := fun quiet => by rw [quiet.unread] at read; cases read
  have still : ¬ (k.step input).delivery.pass = k.pass := fun same => by
    rcases moved with flag | cursor
    · exact flag (congrArg ReplayPass.replaying same)
    · exact cursor (congrArg ReplayPass.replayNext same)
  cases k.step_delivery input with
  | idle _ network _ delivery => exact absurd (by rw [delivery]; rfl) still
  | answered env other poll taken network _ delivery =>
    subst poll
    obtain ⟨slot, event⟩ := Option.filter_eq_some_iff.mp taken
    obtain rfl : other = answer := Option.some.inj (slot.symm.trans read)
    cases replaying : k.replaying with
    | false =>
      refine absurd ?_ still
      rw [delivery, ReplayPass.close, if_neg (by simp [KioskRuntime.pass, replaying])]
    | true =>
      have replay : other.result.kind = .offlineReplay := by
        have live := good other slot replaying
        cases kind : other.result.kind <;> simp_all [isEventKind]
      exact (passInvariant_answer invariant slot replaying replay).2
  | unrecorded quiet _ _ _ _ _ => exact absurd quiet loud
  | created quiet _ _ _ _ _ _ _ => exact absurd quiet loud
  | passStarted quiet _ _ _ => exact absurd quiet loud
  | skipped quiet _ _ => exact absurd quiet loud
  | replayed quiet _ _ _ _ _ _ _ _ => exact absurd quiet loud
  | compacting quiet _ _ _ _ => exact absurd quiet loud
  | rebooted config restart _ => subst restart; cases read

/-- A step that reads no live result while a replay is awaited keeps the protocol. -/
theorem passProtocol_of_noLiveResult (invariant : PassInvariant k.delivery)
    (good : k.NoLiveResult input) :
    k.PassProtocol input := by
  have after := passInvariant_step invariant good
  refine ⟨?_, closesOwn_of_invariant invariant good, sentOnce_of_invariant after⟩
  cases replaying : (k.step input).replaying with
  | false => simp [show replayTickets (k.step input).network = [] from after.resting replaying]
  | true => exact (after.awaited replaying).1

/-- The protocol of a step excludes that a live result is read while a replay is
awaited: the result would end the wait. -/
theorem noLiveResult_of_passProtocol (kinds : KindsAgree k.network)
    (protocol : k.PassProtocol input) :
    k.NoLiveResult input := by
  intro answer read replaying live
  cases input with
  | pollResult env =>
    have ends : (k.step (.pollResult env)).replaying = false := by
      cases k.step_delivery (.pollResult env) with
      | idle silent _ _ _ =>
        have slot : k.network.slot = some answer := read
        simp [eventAnswer, slot, live, isEventKind] at silent
      | answered _ _ _ _ _ _ delivery =>
        have flag := congrArg (fun d => d.pass.replaying) delivery
        simpa [ReplayPass.close, KioskRuntime.pass, KioskRuntime.delivery, replaying] using flag
      | unrecorded quiet _ _ _ _ _ => rw [quiet.unread] at read; cases read
      | created quiet _ _ _ _ _ _ _ => rw [quiet.unread] at read; cases read
      | passStarted quiet _ _ _ => rw [quiet.unread] at read; cases read
      | skipped quiet _ _ => rw [quiet.unread] at read; cases read
      | replayed quiet _ _ _ _ _ _ _ _ => rw [quiet.unread] at read; cases read
      | compacting quiet _ _ _ _ => rw [quiet.unread] at read; cases read
      | rebooted _ restart _ => cases restart
    have own := (protocol.closesOwn answer read (.inl (by rw [ends, replaying]; simp))).1
    have slot : k.network.slot = some answer := read
    have agrees := kinds answer (by simp [SlotWorker.Worker.answers, slot])
    rw [own, live] at agrees
    cases agrees
  | _ => cases read

omit [StdSort] in
private theorem passInvariant_boot (config : BootConfig) (highWaterMark : UInt64) (fs : Spiffs)
    (capacityBytes : UInt32) :
    PassInvariant (boot config highWaterMark (.init fs capacityBytes)).delivery := by
  refine ⟨?_, Filed.init _ _, .nil, ?_, ?_, .nil, fun _ => rfl, by simp [delivery, pass, boot]⟩
  · intro answer member
    simp [delivery, boot, SlotWorker.Worker.answers, SlotWorker.Phase.answer] at member
  · simp [delivery, pass, boot, ReplayPass.queuedSends]
  · simp [delivery, pass, boot, ReplayPass.queuedSends]

/-- In a run that keeps the protocol no live result is read while a replay is awaited. -/
theorem noLiveResult_along {config : BootConfig} {fs : Spiffs} {inputs : List RuntimeStep}
    (along : Along step PassProtocol (boot config highWaterMark (.init fs capacityBytes)) inputs) :
    Along step NoLiveResult (boot config highWaterMark (.init fs capacityBytes)) inputs :=
  along.entails (motive := fun k => KindsAgree k.network)
    (passInvariant_boot config highWaterMark fs capacityBytes).kinds
    (fun _ _ kinds _ => kindsAgree_step kinds) fun _ _ kinds protocol =>
      noLiveResult_of_passProtocol kinds protocol

/-- A run keeps the protocol of the replay pass if and only if no result of a live
event is read while a replay is awaited. -/
theorem passProtocol_iff (config : BootConfig) (highWaterMark : UInt64) (fs : Spiffs)
    (capacityBytes : UInt32) (inputs : List RuntimeStep) :
    Along step PassProtocol (boot config highWaterMark (.init fs capacityBytes)) inputs ↔
      Along step NoLiveResult (boot config highWaterMark (.init fs capacityBytes)) inputs := by
  refine ⟨noLiveResult_along, fun along => ?_⟩
  exact along.entails (motive := fun k => PassInvariant k.delivery)
    (passInvariant_boot config highWaterMark fs capacityBytes)
    (fun _ _ invariant good => passInvariant_step invariant good)
    fun _ _ invariant good => passProtocol_of_noLiveResult invariant good

end Pass

private def wifiDown : NetworkEnv :=
  { wifiConnected := false, exchange := fun _ => { status := 0 } }

/-- A pass starts while the only event is still being sent; the result of that send
ends the wait for the replay. -/
theorem live_result_ends_replay :
    ¬ Along (@step .insertion) (@PassProtocol .insertion)
      (boot { apiEndpoint := text "http://b/events" } 0 (.init {} 65536))
      ([.scan {} [], .task wifiDown, .startOfflineReplay, .checkOfflineReplay {}] ++
        List.replicate 4 (.task wifiDown) ++ [.pollResult {}]) :=
  fun along => absurd (@noLiveResult_along .insertion _ _ _ _ _ along) (by decide +kernel)

end KioskRuntime

end Kiosk.Runtime
