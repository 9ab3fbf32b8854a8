import Kiosk.Runtime.BootstrapAttempts

/-! The download of a bundle as the main loop sees it: never two at once, and none ever again
before a restart once the result of one is lost to a later result in the slot of the worker. -/
namespace Kiosk.Runtime

open Library Library.SlotWorker Library.TransitionSystem Protocol Network Storage KioskRuntime

theorem UiSyncController.poll_resting (sha256 : Bytes → Bytes) (sync : UiSyncController)
    (store : UiBundleStore) (flash : UiFlash) (result : NetworkResult) (writes : UiPollWrites) :
    (sync.poll sha256 store flash result writes).1.downloadInFlight = false := by
  unfold UiSyncController.poll
  simp only
  split
  · rfl
  split
  · rfl
  · rfl

namespace MainLoop

/-- The downloads that were asked for and not collected. -/
def downloads (m : MainLoop) : Nat := m.runtime.uncollected .uiBundleFetch

/-- No download is asked for, or collected. -/
structure KeepsDownloads (m after : MainLoop) : Prop where
  flight : after.uiSync.downloadInFlight = m.uiSync.downloadInFlight
  fewer : after.downloads ≤ m.downloads

/-- Everything a step, or a part of one, can do to a download. -/
inductive DownloadMove (restarted : Prop) (m after : MainLoop) : Prop where
  | keeps (kept : KeepsDownloads m after)
  | asks (resting : m.uiSync.downloadInFlight = false)
      (flight : after.uiSync.downloadInFlight = true) (more : after.downloads ≤ m.downloads + 1)
  | collects (less : after.downloads + 1 ≤ m.downloads)
      (flight : after.uiSync.downloadInFlight = false)
  | restarts (power : restarted) (none : after.downloads = 0)
      (flight : after.uiSync.downloadInFlight = false)

variable {m middle after : MainLoop} {restarted : Prop}

theorem KeepsDownloads.trans (kept : KeepsDownloads m middle)
    (later : KeepsDownloads middle after) : KeepsDownloads m after :=
  ⟨later.flight.trans kept.flight, later.fewer.trans kept.fewer⟩

theorem KeepsDownloads.then (kept : KeepsDownloads m middle)
    (move : DownloadMove restarted middle after) : DownloadMove restarted m after := by
  have fewer := kept.fewer
  cases move with
  | keeps later => exact .keeps (kept.trans later)
  | asks resting flight more => exact .asks (kept.flight.symm.trans resting) flight (by omega)
  | collects less flight => exact .collects (by omega) flight
  | restarts power none flight => exact .restarts power none flight

theorem checkDesired_move (m : MainLoop) (result : BootstrapClient.Answer) :
    DownloadMove restarted m (m.checkDesired result) := by
  have outcome :=
    m.uiSync.checkDesired_outcome m.uiBundleStore m.runtime.network m.runtime.apiEndpoint
    result.uiBundleVersion result.uiBundleHash
  unfold MainLoop.checkDesired
  split
  rename_i uiSync uiBundleStore network checked
  rw [checked] at outcome
  dsimp only at outcome
  cases outcome with
  | idle flight => exact .keeps ⟨flight, le_rfl⟩
  | full resting flight => exact .keeps ⟨flight.trans resting.symm, le_rfl⟩
  | started resting flight pending offered =>
    have one := @uncollected_offered m.runtime .uiBundleFetch _ _ _ offered
    exact .asks resting flight one.le

theorem checkDesired_kinds (kinds : KindsAgree m.runtime.network)
    (result : BootstrapClient.Answer) :
    KindsAgree (m.checkDesired result).runtime.network := by
  have outcome :=
    m.uiSync.checkDesired_outcome m.uiBundleStore m.runtime.network m.runtime.apiEndpoint
    result.uiBundleVersion result.uiBundleHash
  unfold MainLoop.checkDesired
  split
  rename_i uiSync uiBundleStore network checked
  rw [checked] at outcome
  dsimp only at outcome
  cases outcome with
  | idle => exact kinds
  | full => exact kinds
  | started _ _ _ offered => exact kindsAgree_offered offered kinds

variable [StdSort]

/-- The runtime moves on its own. -/
theorem runtime_keeps (kinds : KindsAgree m.runtime.network) (input : RuntimeStep)
    (other : input.ofLoop = false) :
    KeepsDownloads m { m with runtime := m.runtime.step input } ∧
      KindsAgree (m.runtime.step input).network := by
  have serves := step_serves m.runtime input other
  exact ⟨⟨rfl, serves.uncollected_le kinds (show loopKind .uiBundleFetch = true from rfl)⟩,
    kindsAgree_step kinds⟩

theorem attemptBootstrap_keeps (kinds : KindsAgree m.runtime.network) (env : LoopEnv) :
    KeepsDownloads m (m.attemptBootstrap env) ∧
      KindsAgree (m.attemptBootstrap env).runtime.network := by
  unfold MainLoop.attemptBootstrap
  split
  case isFalse => exact ⟨⟨rfl, le_rfl⟩, kinds⟩
  simp only
  split
  · obtain ⟨kept, agree⟩ := runtime_keeps kinds (.bootstrapResult env { status := .failed }) rfl
    split
    · exact ⟨⟨rfl, kept.fewer⟩, agree⟩
    · exact ⟨⟨rfl, le_rfl⟩, kinds⟩
  · split
    · rename_i network queued
      rw [NetworkWorker.enqueueBootstrap] at queued
      have none := @uncollected_offered m.runtime .uiBundleFetch _ _ _ queued
      exact ⟨⟨rfl, none.le⟩, kindsAgree_offered queued kinds⟩
    · exact ⟨⟨rfl, le_rfl⟩, kinds⟩

theorem seeReconnects_keeps (kinds : KindsAgree m.runtime.network) (reconnects : UInt32) :
    KeepsDownloads m (m.seeReconnects reconnects) ∧
      KindsAgree (m.seeReconnects reconnects).runtime.network := by
  obtain ⟨kept, agree⟩ := runtime_keeps kinds .startOfflineReplay rfl
  unfold MainLoop.seeReconnects
  split
  · exact ⟨⟨rfl, kept.fewer⟩, agree⟩
  · exact ⟨⟨rfl, le_rfl⟩, kinds⟩

/-- The answer of a bootstrap may start a download, at its end. -/
theorem takeBootstrap_move (kinds : KindsAgree m.runtime.network) (env : LoopEnv) :
    DownloadMove restarted m (m.takeBootstrap env) ∧
      KindsAgree (m.takeBootstrap env).runtime.network := by
  unfold MainLoop.takeBootstrap
  split
  · exact ⟨.keeps ⟨rfl, le_rfl⟩, kinds⟩
  rename_i netResult waiting
  generalize BootstrapClient.parseResponse netResult.outcome.httpStatus netResult.responseBody =
    result
  have settled : ∀ settled : MainLoop, settled = settleBootstrap { m with
      runtime := { m.runtime with pendingBootstrapResult := none }, bootstrapInflight := false }
        env result →
      KeepsDownloads m settled ∧ KindsAgree settled.runtime.network := by
    rintro _ rfl
    unfold settleBootstrap
    split
    · exact ⟨⟨rfl, le_rfl⟩, kinds⟩
    · exact ⟨⟨rfl, le_rfl⟩, kinds⟩
  simp only
  generalize settleBootstrap { m with
    runtime := { m.runtime with pendingBootstrapResult := none }, bootstrapInflight := false } env
      result = middle at settled
  obtain ⟨kept, agree⟩ := settled middle rfl
  obtain ⟨answered, answeredKinds⟩ :=
    runtime_keeps agree (.bootstrapResult env result.toBootstrapResult) rfl
  obtain ⟨replayed, replayedKinds⟩ := @runtime_keeps { middle with
    runtime := middle.runtime.onBootstrapResult env result.toBootstrapResult } _ answeredKinds
      .startOfflineReplay rfl
  have heard := kept.trans answered
  have ready := heard.trans replayed
  split
  · split
    · exact ⟨.keeps ready, replayedKinds⟩
    · exact ⟨.keeps heard, answeredKinds⟩
  · split
    · exact ⟨ready.then (checkDesired_move _ _), checkDesired_kinds replayedKinds _⟩
    · exact ⟨heard.then (checkDesired_move _ _), checkDesired_kinds answeredKinds _⟩

omit [StdSort] in
theorem pollUi_move (kinds : KindsAgree m.runtime.network) (sha256 : Bytes → Bytes)
    (writes : UiPollWrites) :
    DownloadMove restarted m (m.pollUi sha256 writes).1 ∧
      KindsAgree (m.pollUi sha256 writes).1.runtime.network := by
  unfold MainLoop.pollUi
  split
  · exact ⟨.keeps ⟨rfl, le_rfl⟩, kinds⟩
  rename_i result waiting
  have resting := m.uiSync.poll_resting sha256 m.uiBundleStore m.flash result writes
  split
  rename_i uiSync uiBundleStore flashes activated polled
  rw [polled] at resting
  have taken : ({ m.runtime with pendingUiBundleFetchResult := none } : KioskRuntime).uncollected
      .uiBundleFetch + 1 = m.downloads := by
    simp [downloads, uncollected, waitingOf, waiting]
  exact ⟨.collects taken.le resting, kinds⟩

/-- What a step does to the download. -/
theorem step_move (kinds : KindsAgree m.runtime.network) (sha256 : Bytes → Bytes)
    (input : MainStep) :
    DownloadMove (∃ cut config, input = .restart cut config) m (m.step sha256 input) ∧
      KindsAgree (m.step sha256 input).runtime.network := by
  cases input with
  | runtime input =>
    obtain ⟨kept, agree⟩ := runtime_keeps kinds input.1 input.2
    exact ⟨.keeps kept, agree⟩
  | seeReconnects reconnects =>
    obtain ⟨kept, agree⟩ := seeReconnects_keeps kinds reconnects
    exact ⟨.keeps kept, agree⟩
  | attemptBootstrap env =>
    obtain ⟨kept, agree⟩ := attemptBootstrap_keeps kinds env
    exact ⟨.keeps kept, agree⟩
  | takeBootstrap env => exact takeBootstrap_move kinds env
  | pollUi safeMode writes =>
    simp only [MainLoop.step]
    split
    · exact ⟨.keeps ⟨rfl, le_rfl⟩, kinds⟩
    · exact pollUi_move kinds sha256 writes
  | restart cut config =>
    have nothing := @uncollected_boot .uiBundleFetch config m.runtime.deviceSeq.highWaterMark
      m.runtime.journal.reboot
    exact ⟨.restarts ⟨cut, config, rfl⟩ nothing rfl,
      by simp [MainLoop.step, reboot, KioskRuntime.boot, KindsAgree, Worker.answers, Phase.answer]⟩

/-- One download at most is on its way, and none unless one is noted as in flight. -/
structure SingleDownload (m : MainLoop) : Prop where
  kinds : KindsAgree m.runtime.network
  single : m.downloads ≤ 1
  noted : m.uiSync.downloadInFlight = false → m.downloads = 0

omit [StdSort] in
theorem SingleDownload.of_move (one : SingleDownload m) (move : DownloadMove restarted m after)
    (kinds : KindsAgree after.runtime.network) : SingleDownload after := by
  have single := one.single
  cases move with
  | keeps kept =>
    have fewer := kept.fewer
    refine ⟨kinds, by omega, fun resting => ?_⟩
    have before := one.noted (kept.flight.symm.trans resting)
    omega
  | asks resting flight more =>
    have before := one.noted resting
    exact ⟨kinds, by omega, fun quiet => absurd (flight.symm.trans quiet) Bool.noConfusion⟩
  | collects less flight => exact ⟨kinds, by omega, fun _ => by omega⟩
  | restarts power none flight => exact ⟨kinds, by omega, fun _ => none⟩

theorem SingleDownload.step (one : SingleDownload m) (sha256 : Bytes → Bytes) (input : MainStep) :
    SingleDownload (m.step sha256 input) := by
  obtain ⟨move, kinds⟩ := step_move one.kinds sha256 input
  exact one.of_move move kinds

omit [StdSort] in
theorem boot_single (config : BootConfig) (highWaterMark : UInt64) (journal : EventJournal)
    (flash : UiFlash) :
    SingleDownload (boot config highWaterMark journal flash) := by
  have nothing : (boot config highWaterMark journal flash).downloads = 0 :=
    @uncollected_boot .uiBundleFetch config highWaterMark journal
  exact ⟨by simp [boot, KioskRuntime.boot, KindsAgree, Worker.answers, Phase.answer], by omega,
    fun _ => nothing⟩

/-- A download is noted as in flight, and nothing of it is on its way. -/
def DownloadLost (m : MainLoop) : Prop := m.uiSync.downloadInFlight = true ∧ m.downloads = 0

theorem DownloadLost.step {input : MainStep} (lost : DownloadLost m)
    (kinds : KindsAgree m.runtime.network)
    (sha256 : Bytes → Bytes) (powered : ∀ cut config, input ≠ .restart cut config) :
    DownloadLost (m.step sha256 input) := by
  obtain ⟨flight, none⟩ := lost
  obtain ⟨move, -⟩ := step_move kinds sha256 input
  cases move with
  | keeps kept => exact ⟨kept.flight.trans flight, by have := kept.fewer; omega⟩
  | asks resting => exact absurd (flight.symm.trans resting) Bool.noConfusion
  | collects less => omega
  | restarts power =>
    obtain ⟨cut, config, restart⟩ := power
    exact absurd restart (powered cut config)

/-- Over every run, one download at most is on its way, and none unless one is noted as in
flight; and after one was lost none is ever asked for again before a restart. -/
theorem downloads_single (sha256 : Bytes → Bytes) (config : BootConfig) (highWaterMark : UInt64)
    (journal : EventJournal) (flash : UiFlash) (inputs : List MainStep) :
    let m := run (step sha256) (boot config highWaterMark journal flash) inputs
    m.downloads ≤ 1 ∧ (m.uiSync.downloadInFlight = false → m.downloads = 0) ∧
      (DownloadLost m → ∀ later, (∀ input ∈ later, ∀ cut config, input ≠ .restart cut config) →
        DownloadLost (run (step sha256) m later)) := by
  intro m
  have one : SingleDownload m :=
    run_invariant (boot_single config highWaterMark journal flash)
      (fun m input one => one.step sha256 input) inputs
  refine ⟨one.single, one.noted, fun lost later powered => ?_⟩
  have along : Along (MainLoop.step sha256)
      (fun _ input => ∀ cut config, input ≠ .restart cut config) m later :=
    Along.of_mem (fun input member _ => powered input member) m
  exact (along.invariant (motive := fun m => DownloadLost m ∧ KindsAgree m.runtime.network)
    ⟨lost, one.kinds⟩
    fun m input both stays =>
      ⟨both.1.step both.2 sha256 stays, (step_move both.2 sha256 input).2⟩).1

section Witness

/-- An answer to a bootstrap that asks for version 7. -/
def desiresBundle : NetworkEnv where
  exchange _ := {
    status := 200
    contentLength := 58
    responseText := text "\x7b\"accepted\":true,\"desired\":\x7b\"ui_bundle_version\":7\x7d\x7d" }

/-- The result of the download waits to be read when a heartbeat's takes its place. -/
def lostInputs : List MainStep :=
  let task : List MainStep := List.replicate 7 (.runtime ⟨.task desiresBundle, rfl⟩)
  .attemptBootstrap {} :: task ++ [.runtime ⟨.pollResult {}, rfl⟩, .takeBootstrap {}] ++ task ++
    [.runtime ⟨.enqueueHeartbeat (text "http://b/v2/heartbeat") [], rfl⟩] ++ task ++
      [.runtime ⟨.pollResult {}, rfl⟩]

omit [StdSort] in
/-- The lost download of version 7 is not asked for again, at a reconnect neither. -/
theorem downloads_single_lost :
    let boot := MainLoop.boot { apiEndpoint := text "http://b/v2/events" } 0 (.init {} 65536) {}
    let m := run (@step .insertion fun _ => []) boot lostInputs
    DownloadLost m ∧
      DownloadLost (run (@step .insertion fun _ => []) m
      [.seeReconnects 1, .attemptBootstrap {}, .pollUi false {}]) := by
  intro boot m
  have lost : DownloadLost m := by
    unfold DownloadLost
    decide +kernel
  refine ⟨lost, (@downloads_single .insertion (fun _ => []) _ 0 (.init {} 65536) {} lostInputs).2.2
    lost _ ?_⟩
  simp

end Witness

end MainLoop

end Kiosk.Runtime
