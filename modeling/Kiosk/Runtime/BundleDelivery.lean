import Kiosk.Network.SiblingEndpoint
import Kiosk.Protocol.BodySize
import Kiosk.Runtime.BundleDownload
import Kiosk.Runtime.RequestUrl
import Kiosk.Storage.PublishedSlot

/-! Which bundle a device shows: over every run of the main loop, from the check of what the
backend wants to the slot that is selected, with writes that fail and power that is lost. -/
namespace Kiosk.Runtime

open Library Library.SlotWorker Library.TransitionSystem Protocol Network Storage

/-- The longest URL of a bundle fits into its place in the queue. -/
structure RoomForBundles (apiEndpoint : Bytes) : Prop where
  nonzero : 0 ∉ deriveSiblingEndpoint apiEndpoint (text "ui-bundles")
  short : (deriveSiblingEndpoint apiEndpoint (text "ui-bundles")).length ≤ 148

theorem queued_bundleUrl (room : RoomForBundles apiEndpoint) (version : UInt32) :
    (plainRequest .uiBundleFetch (UiSyncController.bundleUrl apiEndpoint version) [] []).url =
      UiSyncController.bundleUrl apiEndpoint version := by
  have digits : 0 ∉ decimal version.toNat :=
    fun zero => by simpa [isDigit] using isDigit_of_mem_decimal zero
  have few : (decimal version.toNat).length ≤ 10 := decimal32_length version
  have slash : 0 ∉ text "/" ∧ (text "/").length = 1 := by decide
  have short := room.short
  rw [plainRequest, strncpy_eq_iff _ _ (by decide), UiSyncController.bundleUrl, kMaxQueuedUrlBytes]
  refine ⟨by simp [room.nonzero, digits, slash.1], ?_⟩
  simp only [List.length_append, slash.2]
  omega

/-- Answers to the fetch of a bundle, as far as they reach the device as a success, are what
is published under the version asked for. -/
def Publishes (published : UInt32 → Bytes) (w : NetworkWorker) (env : NetworkEnv) : Prop :=
  ∀ ticket, w.phase = .executing ticket → ticket.request.kind = .uiBundleFetch →
    (execute env ticket.request).outcome.ok = true → ∀ apiEndpoint version,
      ticket.request.url = UiSyncController.bundleUrl apiEndpoint version →
        (execute env ticket.request).responseBody = published version

/-- The result of a fetch, as it may reach the loop. -/
def Published (published : UInt32 → Bytes) (answer : Answer NetworkRequest NetworkResult) : Prop :=
  answer.ticket.request.kind = .uiBundleFetch → answer.result.outcome.ok = true →
    0 ∉ answer.result.responseBody ∧ ∀ apiEndpoint version,
      answer.ticket.request.url = UiSyncController.bundleUrl apiEndpoint version →
        answer.result.responseBody = published version

private theorem zero_not_mem_cStr (content : Bytes) : 0 ∉ cStr content := fun zero => by
  simpa using List.mem_takeWhile_imp zero

private theorem performHttpAttempt_nonzero (exchange : HttpExchange) :
    0 ∉ (performHttpAttempt exchange []).2.1 := by
  unfold performHttpAttempt
  split
  · simp
  split
  · simp
  simp only
  split
  · split
    · simp
    · exact zero_not_mem_cStr _
  · simp

private theorem execute_nonzero (env : NetworkEnv) (bundle : request.kind = .uiBundleFetch) :
    0 ∉ (execute env request).responseBody := by
  unfold execute
  split
  · simp
  split
  · simp_all
  · exact performHttpAttempt_nonzero _

theorem Publishes.answer {w : NetworkWorker} (publishes : Publishes published w env)
    (running : w.phase = .executing ticket) :
    Published published ⟨ticket, execute env ticket.request⟩ := fun bundle ok =>
  ⟨execute_nonzero env bundle, publishes ticket running bundle ok⟩

namespace MainLoop

open KioskRuntime

variable {sha256 : Bytes → Bytes} {published : UInt32 → Bytes} {m : MainLoop} {env : LoopEnv}

/-- What a run may meet: fetches are answered with what is published, an activation that
selects its slot is recorded unless the power fails, and every endpoint leaves room. -/
def Allowed (published : UInt32 → Bytes) (m : MainLoop) : MainStep → Prop
  | .runtime input =>
    Along (Worker.tick execute) (Publishes published) (m.runtime.networkAt input.1)
      input.1.meanwhile
  | .pollUi _ writes => writes.activate.metaSlot = true → writes.activate.lastGoodVer = true
  | .restart _ config => RoomForBundles config.apiEndpoint
  | _ => True

/-- Where a download stands: what is on its way is of the pending version, and what is selected
was published. -/
structure Delivering (sha256 : Bytes → Bytes) (published : UInt32 → Bytes) (m : MainLoop) :
    Prop where
  one : SingleDownload m
  room : RoomForBundles m.runtime.apiEndpoint
  asked : ∀ ticket ∈ requestsOf .uiBundleFetch m.runtime.network,
    ticket.request.url = UiSyncController.bundleUrl m.runtime.apiEndpoint m.uiSync.pendingVersion
  answered : ∀ answer ∈ m.runtime.network.answers, Published published answer
  waiting : ∀ result, m.runtime.pendingUiBundleFetchResult = some result →
      result.outcome.ok = true →
    0 ∉ result.responseBody ∧ result.responseBody = published m.uiSync.pendingVersion
  selected : SelectsPublished sha256 published m.flash
  shown : m.uiBundleStore.shown = (UiBundleStore.init m.flash).shown

namespace Delivering

theorem asked_slot (delivering : Delivering sha256 published m)
    (slot : m.runtime.network.slot = some answer)
    (bundle : answer.result.kind = .uiBundleFetch) (ok : answer.result.outcome.ok = true) :
    0 ∉ answer.result.responseBody ∧
      answer.result.responseBody = published m.uiSync.pendingVersion := by
  have arriving : answer ∈ m.runtime.network.answers := by simp [Worker.answers, slot]
  have own : answer.ticket.request.kind = .uiBundleFetch :=
    (delivering.one.kinds answer arriving).symm.trans bundle
  have outstanding : answer.ticket ∈ requestsOf .uiBundleFetch m.runtime.network := by
    simp [requestsOf, Worker.outstanding, slot, own]
  obtain ⟨nonzero, body⟩ := delivering.answered answer arriving own ok
  exact ⟨nonzero, body _ _ (delivering.asked answer.ticket outstanding)⟩

/-- With nothing in flight there is nothing on its way. -/
theorem resting (delivering : Delivering sha256 published m)
    (resting : m.uiSync.downloadInFlight = false) :
    requestsOf .uiBundleFetch m.runtime.network = [] ∧
      m.runtime.pendingUiBundleFetchResult = none := by
  have none := delivering.one.noted resting
  simp only [downloads, uncollected, waitingOf] at none
  refine ⟨List.eq_nil_of_length_eq_zero (by omega), ?_⟩
  rw [← Option.toList_eq_nil_iff]
  exact List.eq_nil_of_length_eq_zero (by omega)

private theorem checkDesired_shown (sync : UiSyncController) (store : UiBundleStore)
    (network : NetworkWorker) (baseEventsUrl : Bytes) (version : UInt32) (hash : Bytes) :
    (sync.checkDesired store network baseEventsUrl version hash).2.1.shown = store.shown := by
  unfold UiSyncController.checkDesired
  split
  · rfl
  · rfl
  · simp only
    split <;> rfl

theorem checkDesired (delivering : Delivering sha256 published m)
    (result : BootstrapClient.Answer) :
    Delivering sha256 published (m.checkDesired result) := by
  have outcome :=
    m.uiSync.checkDesired_outcome m.uiBundleStore m.runtime.network m.runtime.apiEndpoint
    result.uiBundleVersion result.uiBundleHash
  have shown := checkDesired_shown m.uiSync m.uiBundleStore m.runtime.network m.runtime.apiEndpoint
    result.uiBundleVersion result.uiBundleHash
  have move : DownloadMove False m (m.checkDesired result) := checkDesired_move m result
  have one := delivering.one.of_move move (checkDesired_kinds delivering.one.kinds result)
  revert one
  unfold MainLoop.checkDesired
  split
  rename_i uiSync uiBundleStore network checked
  intro one
  rw [checked] at outcome shown
  dsimp only at outcome shown
  cases outcome with
  | idle flight pending =>
    refine ⟨one, delivering.room, ?_, delivering.answered, ?_, delivering.selected,
      shown.trans delivering.shown⟩
    · simp only [pending]
      exact delivering.asked
    · simp only [pending]
      exact delivering.waiting
  | full resting flight =>
    obtain ⟨none, nothing⟩ := delivering.resting resting
    refine ⟨one, delivering.room, ?_, delivering.answered, ?_, delivering.selected,
      shown.trans delivering.shown⟩
    · intro ticket member
      simp only [none] at member
      cases member
    · intro found waiting
      simp only [nothing] at waiting
      cases waiting
  | started resting flight pending offered =>
    obtain ⟨none, nothing⟩ := delivering.resting resting
    have answers :=
      Worker.enqueue_answers queueDepth m.runtime.network .low (plainRequest .uiBundleFetch
      (UiSyncController.bundleUrl m.runtime.apiEndpoint result.uiBundleVersion) [] [])
    have more :=
      @requestsOf_enqueue m.runtime.network .uiBundleFetch .low _ (congrArg Prod.snd offered)
    rw [offered] at answers more
    refine ⟨one, delivering.room, ?_, ?_, ?_, delivering.selected, shown.trans delivering.shown⟩
    · intro ticket member
      have only := more.mem_iff.mp member
      simp only [none, plainRequest, if_true, List.nil_append, List.mem_singleton] at only
      subst only
      rw [pending]
      exact queued_bundleUrl delivering.room result.uiBundleVersion
    · simp only [answers]
      exact delivering.answered
    · intro found waiting
      simp only [nothing] at waiting
      cases waiting

variable [StdSort]

/-- The runtime moves on its own, and what it hears is what is published. -/
theorem runtime (delivering : Delivering sha256 published m) (input : RuntimeStep)
    (other : input.ofLoop = false)
    (heard : Along (Worker.tick execute) (Publishes published) (m.runtime.networkAt input)
      input.meanwhile) :
    Delivering sha256 published { m with runtime := m.runtime.step input } := by
  have serves := step_serves m.runtime input other
  obtain ⟨kept, kinds⟩ := runtime_keeps delivering.one.kinds input other
  refine ⟨delivering.one.of_move (.keeps kept : DownloadMove False m _) kinds, ?_, ?_, ?_, ?_,
    delivering.selected, delivering.shown⟩
  · simp only [serves.endpoint]
    exact delivering.room
  · intro ticket member
    simp only [serves.endpoint]
    have sub := serves.network.requestsOf (show loopKind .uiBundleFetch = true from rfl)
    have earlier : ticket ∈ requestsOf .uiBundleFetch (m.runtime.networkAt input) :=
      sub.subset member
    refine delivering.asked ticket ?_
    rw [requestsOf, List.mem_filter] at earlier ⊢
    exact ⟨(networkAt_outstanding m.runtime input).subset earlier.1, earlier.2⟩
  · exact answers_step_along delivering.answered heard fun w env ticket publishes running =>
      publishes.answer running
  · intro result waiting ok
    simp only [serves.bundle] at waiting
    cases input with
    | pollResult env =>
      simp only [received] at waiting
      cases slot : m.runtime.network.slot with
      | none =>
        rw [slot] at waiting
        exact delivering.waiting result waiting ok
      | some answer =>
        rw [slot] at waiting
        simp only at waiting
        split at waiting
        · rename_i bundle
          obtain rfl := Option.some.inj waiting
          exact delivering.asked_slot slot bundle ok
        · exact delivering.waiting result waiting ok
    | _ => exact delivering.waiting result waiting ok

theorem attemptBootstrap (delivering : Delivering sha256 published m) :
    Delivering sha256 published (m.attemptBootstrap env) := by
  obtain ⟨kept, kinds⟩ := attemptBootstrap_keeps delivering.one.kinds env
  have one := delivering.one.of_move (.keeps kept : DownloadMove False m _) kinds
  revert one
  unfold MainLoop.attemptBootstrap
  split
  case isFalse => exact fun _ => delivering
  simp only
  split
  · have moved := delivering.runtime (.bootstrapResult env { status := .failed }) rfl trivial
    split
    · exact fun one =>
        ⟨one, moved.room, moved.asked, moved.answered, moved.waiting, moved.selected, moved.shown⟩
    · exact fun one =>
        ⟨one, delivering.room, delivering.asked, delivering.answered, delivering.waiting,
        delivering.selected, delivering.shown⟩
  · split
    · rename_i network queued
      intro one
      rw [NetworkWorker.enqueueBootstrap] at queued
      have answers :=
        Worker.enqueue_answers queueDepth m.runtime.network .high (plainRequest .bootstrap
        (deriveSiblingEndpoint m.runtime.apiEndpoint (text "bootstrap"))
        (BootstrapClient.buildRequestBody m.runtime.deviceId m.runtime.hardwareId m.runtime.bootId
          m.runtime.deviceSeq.current.toUInt32) [])
      have more :=
        @requestsOf_enqueue m.runtime.network .uiBundleFetch .high _ (congrArg Prod.snd queued)
      rw [queued] at answers more
      refine ⟨one, delivering.room, ?_, ?_, delivering.waiting, delivering.selected,
        delivering.shown⟩
      · intro ticket member
        refine delivering.asked ticket ?_
        simpa only [plainRequest, reduceCtorEq, if_false] using more.mem_iff.mp member
      · simp only [answers]
        exact delivering.answered
    · exact fun _ => delivering

theorem seeReconnects (delivering : Delivering sha256 published m) (reconnects : UInt32) :
    Delivering sha256 published (m.seeReconnects reconnects) := by
  have moved := delivering.runtime .startOfflineReplay rfl trivial
  unfold MainLoop.seeReconnects
  split
  · exact ⟨⟨moved.one.kinds, moved.one.single, moved.one.noted⟩, moved.room, moved.asked,
      moved.answered, moved.waiting, moved.selected, moved.shown⟩
  · exact delivering

theorem takeBootstrap (delivering : Delivering sha256 published m) :
    Delivering sha256 published (m.takeBootstrap env) := by
  unfold MainLoop.takeBootstrap
  split
  · exact delivering
  rename_i netResult waiting
  have settled : ∀ result, Delivering sha256 published (settleBootstrap { m with
      runtime := { m.runtime with pendingBootstrapResult := none }, bootstrapInflight := false } env
        result) := by
    intro result
    unfold settleBootstrap
    split <;> exact ⟨⟨delivering.one.kinds, delivering.one.single, delivering.one.noted⟩,
      delivering.room, delivering.asked,
      delivering.answered, delivering.waiting, delivering.selected, delivering.shown⟩
  have answered := (settled
    (BootstrapClient.parseResponse netResult.outcome.httpStatus netResult.responseBody)).runtime
    (.bootstrapResult env (BootstrapClient.parseResponse netResult.outcome.httpStatus
      netResult.responseBody).toBootstrapResult) rfl trivial
  have replayed := answered.runtime .startOfflineReplay rfl trivial
  simp only
  split
  · split
    · exact replayed
    · exact answered
  · split
    · exact replayed.checkDesired _
    · exact answered.checkDesired _

omit [StdSort] in
/-- What `poll` does with a result: every flash it leaves on its way selects a published bundle,
and unless an activation goes unrecorded the object shows what a boot would. -/
theorem poll (delivering : Delivering sha256 published m)
    (waiting : m.runtime.pendingUiBundleFetchResult = some result) (writes : UiPollWrites) :
    let polled := m.uiSync.poll sha256 m.uiBundleStore m.flash result writes
    (∀ after ∈ polled.2.2.1, SelectsPublished sha256 published after) ∧
      ((writes.activate.metaSlot = true → writes.activate.lastGoodVer = true) →
        polled.2.1.shown = (UiBundleStore.init (polled.2.2.1.getLast?.getD m.flash)).shown) := by
  have selected := delivering.selected
  have shown := delivering.shown
  unfold UiSyncController.poll
  simp only
  split
  · exact ⟨by simp, fun _ => shown⟩
  rename_i fetched
  simp only [Bool.not_eq_true', not_or, Bool.not_eq_false] at fetched
  obtain ⟨nonzero, own⟩ := delivering.waiting result waiting fetched.1
  have along := @UiBundleStore.stage_init sha256 published m.uiBundleStore m.flash selected shown
    result.responseBody
    m.uiSync.pendingVersion (manifestHash result.responseBody) writes.stage
  have after := UiBundleStore.stage_shown sha256 m.uiBundleStore m.flash result.responseBody
    m.uiSync.pendingVersion
    (manifestHash result.responseBody) writes.stage
  have holds :=
    @UiBundleStore.stage_holds sha256 published m.uiBundleStore m.flash result.responseBody
    m.uiSync.pendingVersion writes.stage nonzero own
  have target := @UiBundleStore.stage_staged sha256 m.uiBundleStore m.flash result.responseBody
    m.uiSync.pendingVersion
    (manifestHash result.responseBody) writes.stage
  rw [manifestHash] at along after holds target
  generalize m.uiBundleStore.stage sha256 m.flash result.responseBody m.uiSync.pendingVersion
    (jsonExtractString (jsonExtractObject result.responseBody (text "manifest")) (text "sha256") [])
      writes.stage = staged
    at along after holds target
  obtain ⟨store, staging, outcome⟩ := staged
  dsimp only at along after holds target
  have unstaged : SelectsPublished sha256 published (staging.getLast?.getD m.flash) ∧
      (UiBundleStore.init (staging.getLast?.getD m.flash)).shown =
        (UiBundleStore.init m.flash).shown := by
    cases final : staging.getLast? with
    | none => exact ⟨selected, rfl⟩
    | some flash => exact along flash (List.mem_of_getLast? final)
  have kept : store.shown = (UiBundleStore.init (staging.getLast?.getD m.flash)).shown :=
    after.trans (shown.trans unstaged.2.symm)
  cases outcome with
  | staged =>
    obtain ⟨_, _, _, _, _, slot, ready⟩ := target rfl
    have own := holds rfl
    rw [← slot] at own
    obtain ⟨activating, recorded⟩ := UiBundleStore.activate_init own ready kept writes.activate
    refine ⟨?_, fun whole => ?_⟩
    · intro flash member
      rcases List.mem_append.mp member with earlier | later
      · exact (along flash earlier).1
      · exact activating flash later
    · simp only [List.getLast?_append]
      have done := recorded whole
      cases final : (store.activateStaged (staging.getLast?.getD m.flash)
        writes.activate).2.1.getLast? with
      | none =>
        rw [final] at done
        simpa using done
      | some flash =>
        rw [final] at done
        simpa using done
  | hashMismatch | parseFailed | schemaUnsupported | storageFailed =>
    exact ⟨fun flash member => (along flash member).1, fun _ => kept⟩

omit [StdSort] in
/-- Wherever the power fails, a published bundle is selected. -/
theorem flashAt (delivering : Delivering sha256 published m) (cut : Option (UiPollWrites × Nat)) :
    SelectsPublished sha256 published (m.flashAt sha256 cut) := by
  cases cut with
  | none => exact delivering.selected
  | some cut =>
    obtain ⟨writes, done⟩ := cut
    have during :
        ∀ after ∈ (m.pollUi sha256 writes).2, SelectsPublished sha256 published after := by
      unfold MainLoop.pollUi
      split
      · simp
      · rename_i result waiting
        exact (delivering.poll waiting writes).1
    simp only [MainLoop.flashAt]
    cases final : ((m.pollUi sha256 writes).2.take done).getLast? with
    | none => exact delivering.selected
    | some flash => exact during flash (List.mem_of_mem_take (List.mem_of_getLast? final))

theorem step (delivering : Delivering sha256 published m) (input : MainStep)
    (allowed : m.Allowed published input) :
    Delivering sha256 published (m.step sha256 input) := by
  cases input with
  | runtime input => exact delivering.runtime input.1 input.2 allowed
  | seeReconnects reconnects => exact delivering.seeReconnects reconnects
  | attemptBootstrap env => exact delivering.attemptBootstrap
  | takeBootstrap env => exact delivering.takeBootstrap
  | pollUi safeMode writes =>
    have one := delivering.one.step sha256 (.pollUi safeMode writes)
    revert one
    simp only [MainLoop.step]
    split
    · exact fun _ => delivering
    unfold MainLoop.pollUi
    split
    · exact fun _ => delivering
    rename_i result waiting
    obtain ⟨during, shown⟩ := delivering.poll waiting writes
    have alone : requestsOf .uiBundleFetch m.runtime.network = [] := by
      have single := delivering.one.single
      simp only [downloads, uncollected, waitingOf, waiting, Option.toList_some,
        List.length_singleton] at single
      exact List.eq_nil_of_length_eq_zero (by omega)
    have unchanged := delivering.selected
    split
    rename_i uiSync uiBundleStore flashes activated polled
    rw [polled] at during shown
    dsimp only at during shown
    intro one
    refine ⟨one, delivering.room, ?_, delivering.answered, ?_, ?_, shown allowed⟩
    · intro ticket member
      simp only [alone] at member
      cases member
    · intro found none
      simp at none
    · cases final : flashes.getLast? with
      | none => simpa [final] using unchanged
      | some flash => simpa [final] using during flash (List.mem_of_getLast? final)
  | restart cut config =>
    refine ⟨delivering.one.step sha256 (.restart cut config), allowed, ?_, ?_, ?_,
      delivering.flashAt cut, rfl⟩
    · simp [MainLoop.step, reboot, KioskRuntime.boot, requestsOf, Worker.outstanding,
        Worker.unfinished, Phase.ticket]
    · simp [MainLoop.step, reboot, KioskRuntime.boot, Worker.answers, Phase.answer]
    · simp [MainLoop.step, reboot, KioskRuntime.boot]

omit [StdSort] in
theorem boot (config : BootConfig) (highWaterMark : UInt64) (journal : EventJournal)
    (flash : UiFlash) (room : RoomForBundles config.apiEndpoint)
    (selected : SelectsPublished sha256 published flash) :
    Delivering sha256 published (MainLoop.boot config highWaterMark journal flash) where
  one := boot_single config highWaterMark journal flash
  room := room
  asked := by
    simp [MainLoop.boot, KioskRuntime.boot, requestsOf, Worker.outstanding, Worker.unfinished,
      Phase.ticket]
  answered := by simp [MainLoop.boot, KioskRuntime.boot, Worker.answers, Phase.answer]
  waiting := by simp [MainLoop.boot, KioskRuntime.boot]
  selected := selected
  shown := rfl

end Delivering

/-- The object shows the bundle published under the version it reports, whole and with its own
hash; a boot would show the same, and a check with a version finds nothing to do only if the
bundle published under that version is the one that is shown. -/
structure ShowsPublished (sha256 : Bytes → Bytes) (published : UInt32 → Bytes) (m : MainLoop) :
    Prop where
  active : m.uiBundleStore.hasActive = true →
      parseUiBundleJson (published m.uiBundleStore.activeVersion) =
    some m.uiBundleStore.activeBundle ∧
      m.uiBundleStore.activeHash = sha256Hex sha256 (published m.uiBundleStore.activeVersion)
  reboot : (UiBundleStore.init m.flash).shown = m.uiBundleStore.shown
  settled : ∀ version hash, version ≠ 0 → m.uiSync.decision m.uiBundleStore version hash = .noSync →
    m.uiBundleStore.hasActive = true ∧ m.uiBundleStore.activeVersion = version

theorem Delivering.shows (delivering : Delivering sha256 published m) :
    ShowsPublished sha256 published m := by
  have shown := delivering.shown
  cases selected : m.flash.metaSlot with
  | none =>
    rw [UiBundleStore.init_unselected selected] at shown
    have inactive : m.uiBundleStore.hasActive = false := congrArg ShownBundle.hasActive shown
    have unversioned : m.uiBundleStore.activeVersion = 0 := congrArg ShownBundle.activeVersion shown
    refine ⟨fun active => ?_, delivering.shown.symm, fun version hash wanted settled => ?_⟩
    · rw [inactive] at active
      cases active
    · have same := ((noSync_iff wanted m.uiSync m.uiBundleStore hash).mp settled).2.1
      rw [unversioned] at same
      exact absurd same.symm wanted
  | some slot =>
    obtain ⟨bundle, parses, loaded⟩ := UiBundleStore.init_shown delivering.selected selected
    rw [UiBundleStore.init, loaded] at shown
    have active : m.uiBundleStore.hasActive = true := congrArg ShownBundle.hasActive shown
    have version : m.uiBundleStore.activeVersion = (m.flash.slotMeta slot).version :=
      congrArg ShownBundle.activeVersion shown
    have hash : m.uiBundleStore.activeHash = (m.flash.slotMeta slot).hash :=
      congrArg ShownBundle.activeHash shown
    have content : m.uiBundleStore.activeBundle = bundle := congrArg ShownBundle.activeBundle shown
    refine ⟨fun _ => ⟨?_, ?_⟩, delivering.shown.symm,
      fun wanted digest some settled => ⟨active, ?_⟩⟩
    · rw [version, content, parses]
    · rw [version, hash]
      exact (delivering.selected slot selected).hash
    · exact ((noSync_iff some m.uiSync m.uiBundleStore digest).mp settled).2.1

/-- Along every run in which fetches are answered with what is published, and whatever else
fails or is lost, the device shows under a version the bundle published under it. -/
theorem shows_published [StdSort] (sha256 : Bytes → Bytes) (published : UInt32 → Bytes)
    (config : BootConfig)
    (highWaterMark : UInt64) (journal : EventJournal) (flash : UiFlash) (inputs : List MainStep)
    (room : RoomForBundles config.apiEndpoint) (selected : SelectsPublished sha256 published flash)
    (along : Along (step sha256) (Allowed published)
      (boot config highWaterMark journal flash) inputs) :
    ShowsPublished sha256 published
      (run (step sha256) (boot config highWaterMark journal flash) inputs) := by
  have start := Delivering.boot config highWaterMark journal flash room selected
  have delivering :
      Delivering sha256 published
      (run (step sha256) (boot config highWaterMark journal flash) inputs) :=
    along.invariant start fun m input delivering allowed => delivering.step input allowed
  exact delivering.shows

section Witness

/-- An answer to a bootstrap that asks for version 7, and a bundle. -/
def bundleAnswer : Bytes :=
  text "\x7b\"accepted\":true,\"desired\":\x7b\"ui_bundle_version\":7\x7d," ++
    text "\"manifest\":\x7b\"version\":7,\"schema_version\":1\x7d," ++
    text "\"screens\":[\x7b\"id\":\"state_wait_employee\"\x7d]\x7d"

/-- A backend that gives one answer to everything. -/
def oneAnswer : NetworkEnv where
  exchange _ := { status := 200, contentLength := 200, responseText := bundleAnswer }

private theorem publishes_oneAnswer (w : NetworkWorker) :
    Publishes (fun _ => bundleAnswer) w oneAnswer := by
  intro ticket _ bundle _ _ _ _
  have whole : cStr bundleAnswer = bundleAnswer := by decide +kernel
  unfold execute
  simp only [bundle]
  simp [oneAnswer, performHttpAttempt, whole, kMaxResponseBodyBytes]

/-- A new device starts, asks, fetches the bundle and selects it. -/
theorem shows_published_first :
    let config : BootConfig := { apiEndpoint := text "http://b/v2/events" }
    let task : List MainStep :=
      List.replicate 7 (.runtime ⟨.task oneAnswer, rfl⟩) ++ [.runtime ⟨.pollResult {}, rfl⟩]
    let inputs : List MainStep :=
      .attemptBootstrap {} :: task ++ .takeBootstrap {} :: task ++ [.pollUi false {}]
    let m := run (@step .insertion fun _ => []) (boot config 0 (.init {} 65536) {}) inputs
    m.uiBundleStore.activeVersion = 7 ∧
      parseUiBundleJson bundleAnswer = some m.uiBundleStore.activeBundle := by
  intro config task inputs m
  have room : RoomForBundles config.apiEndpoint := by constructor <;> decide +kernel
  have during : ∀ input ∈ task, ∀ m : MainLoop, Allowed (fun _ => bundleAnswer) m input := by
    intro input member m
    rcases List.mem_append.mp member with ticks | polls
    · obtain ⟨_, rfl⟩ := List.mem_replicate.mp ticks
      exact ⟨publishes_oneAnswer _, trivial⟩
    · obtain rfl := List.mem_singleton.mp polls
      exact trivial
  have along : Along (@step .insertion fun _ => []) (@Allowed fun _ => bundleAnswer)
      (boot config 0 (.init {} 65536) {}) inputs := by
    apply Along.of_mem
    intro input member m
    rcases List.mem_append.mp member with earlier | last
    · rcases List.mem_append.mp earlier with first | second
      · rcases List.mem_cons.mp first with rfl | later
        · exact trivial
        · exact during input later m
      · rcases List.mem_cons.mp second with rfl | later
        · exact trivial
        · exact during input later m
    · obtain rfl := List.mem_singleton.mp last
      exact fun _ => rfl
  have shows : ShowsPublished (fun _ => []) (fun _ => bundleAnswer) m :=
    @shows_published .insertion (fun _ => []) (fun _ => bundleAnswer) config 0 (.init {} 65536) {}
      inputs room
      (fun slot selected => by cases selected) along
  have active : m.uiBundleStore.hasActive = true ∧ m.uiBundleStore.activeVersion = 7 := by
    decide +kernel
  obtain ⟨parses, _⟩ := shows.active active.1
  exact ⟨active.2, parses⟩

end Witness

end MainLoop

end Kiosk.Runtime
