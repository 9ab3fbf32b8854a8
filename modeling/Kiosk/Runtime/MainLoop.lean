import Kiosk.Runtime.LoopMail
import Kiosk.Runtime.ReplayPass
import Kiosk.Runtime.UiSync

/-! `bootstrap_client.cpp`, `UiSyncController::poll` and the part of `loop()` in
`kiosk_runtime_v2.ino` that boots a device against the backend: when a bootstrap request is
made, what its answer leads to, and the download of a bundle that may follow. -/
namespace Kiosk.Runtime

open Library Library.SlotWorker Library.TransitionSystem Protocol Network Storage

def kioskRuntimeVersion : Bytes := text "0.16.0"

namespace BootstrapClient

/-- `BootstrapResult` with the members only the main loop and the screens read. -/
structure Answer extends BootstrapResult where
  acceptedProtocolVersion : UInt32 := 0
  deviceStatus : Bytes := []
  stateName : Bytes := []
  uiBundleVersion : UInt32 := 0
  uiBundleHash : Bytes := []
  serverEnvironment : Bytes := []
  serverVersion : Bytes := []
  rejectMessage : Bytes := []
  deriving DecidableEq, Repr

def buildRequestBody (deviceId hardwareId bootId : Bytes) (lastDeviceSeq : UInt32) : Bytes :=
  text "\x7b" ++
    text "\"device_id\":\"" ++ jsonEscape (cStr deviceId) ++ text "\"," ++
    text "\"hardware_id\":\"" ++ jsonEscape (cStr hardwareId) ++ text "\"," ++
    text "\"boot_id\":\"" ++ jsonEscape (cStr bootId) ++ text "\"," ++
    text "\"runtime\":\x7b\"version\":\"" ++ kioskRuntimeVersion ++
      text "\",\"protocol_version\":1\x7d," ++
    text "\"hardware\":\x7b\"chip\":\"ESP32-S3\",\"flash_mb\":16,\"psram_mb\":8," ++
    text "\"display\":\"ILI9341\",\"scanner\":\"GM65\",\"keypad\":\"PCF8574\"\x7d," ++
    text "\"current\":\x7b\"ui_bundle\":0,\"workflow\":0,\"state_version\":0," ++
      text "\"last_device_seq\":" ++ decimal lastDeviceSeq.toNat ++ text "\x7d\x7d"

def parseResponse (httpStatus : Int) (responseBody : Bytes) : Answer :=
  if httpStatus ≤ 0 then { status := .failed }
  else
    let accepted := jsonExtractBool responseBody (text "accepted") false
    let protocolObj := jsonExtractObject responseBody (text "protocol")
    let acceptedVersion :=
      if protocolObj = [] then 0 else jsonExtractInt protocolObj (text "accepted_version") 0
    if !accepted ∨ (acceptedVersion ≠ 0 ∧ acceptedVersion ≠ 1) then
      { status := .rejected
        acceptedProtocolVersion := UInt32.ofInt acceptedVersion
        rejectMessage := cStr (jsonExtractString responseBody (text "message") []) }
    else
      let stateObj := jsonExtractObject responseBody (text "state")
      let desiredObj := jsonExtractObject responseBody (text "desired")
      { status := .ok
        acceptedProtocolVersion := if acceptedVersion ≠ 0 then UInt32.ofInt acceptedVersion else 1
        deviceStatus := cStr (jsonExtractString responseBody (text "device_status") [])
        stateName :=
          if stateObj = [] then [] else cStr (jsonExtractString stateObj (text "name") [])
        snapshot := parseStateSnapshotJson responseBody
        uiBundleVersion :=
          if desiredObj = [] then 0
            else UInt32.ofInt (jsonExtractInt desiredObj (text "ui_bundle_version") 0)
        uiBundleHash := if desiredObj = [] then []
          else cStr (jsonExtractString desiredObj (text "ui_bundle_hash") [])
        serverEnvironment := cStr (jsonExtractString responseBody (text "environment") [])
        serverRole := cStr (jsonExtractString responseBody (text "server_role") [])
        serverVersion := cStr (jsonExtractString responseBody (text "version") []) }

end BootstrapClient

/-- How the writes of one `poll` of the bundle sync end. -/
structure UiPollWrites where
  stage : UiStageWrites := {}
  activate : UiActivateWrites := {}

/-- `poll` with a result to take: the controller and the store after it, the flash after
each write, and whether a bundle was activated. -/
def UiSyncController.poll (sha256 : Bytes → Bytes) (sync : UiSyncController) (store : UiBundleStore)
    (flash : UiFlash) (result : NetworkResult) (writes : UiPollWrites) :
    UiSyncController × UiBundleStore × List UiFlash × Bool :=
  let sync := { sync with downloadInFlight := false }
  if !result.outcome.ok ∨ result.responseBody = []
    then (sync, { store with syncState := .updateFailed }, [], false)
  else
    let manifestJson := jsonExtractObject result.responseBody (text "manifest")
    let expectedHash := jsonExtractString manifestJson (text "sha256") []
    match store.stage sha256 flash result.responseBody sync.pendingVersion expectedHash
      writes.stage with
    | (store, staging, .staged) =>
      match store.activateStaged (staging.getLast?.getD flash) writes.activate with
      | (store, activating, activated) => (sync, store, staging ++ activating, activated)
    | (store, staging, _) => (sync, store, staging, false)

/-- A full queue leaves the worker as it was. -/
theorem enqueue_refused {w network : NetworkWorker} {tier : Tier} {request : NetworkRequest}
    (offered : Worker.enqueue queueDepth w tier request = (network, false)) : network = w := by
  cases tier with
  | high =>
    simp only [Worker.enqueue] at offered
    split at offered
    · cases offered
    · exact (congrArg Prod.fst offered).symm
  | low =>
    simp only [Worker.enqueue] at offered
    split at offered
    · cases offered
    · exact (congrArg Prod.fst offered).symm

namespace UiSyncController

/-- The URL a bundle is fetched from, empty where the endpoint has no path. -/
def bundleUrl (baseEventsUrl : Bytes) (version : UInt32) : Bytes :=
  deriveSiblingEndpoint baseEventsUrl (text "ui-bundles") ++ text "/" ++ decimal version.toNat

/-- Everything a check can do: nothing, a request that finds the queue full, or a download. -/
inductive CheckOutcome (sync : UiSyncController) (network : NetworkWorker) (baseEventsUrl : Bytes)
    (version : UInt32) :
    UiSyncController → NetworkWorker → Prop where
  | idle (flight : after.downloadInFlight = sync.downloadInFlight)
      (pending : after.pendingVersion = sync.pendingVersion) :
      CheckOutcome sync network baseEventsUrl version after network
  | full (resting : sync.downloadInFlight = false) (flight : after.downloadInFlight = false) :
      CheckOutcome sync network baseEventsUrl version after network
  | started (resting : sync.downloadInFlight = false) (flight : after.downloadInFlight = true)
      (pending : after.pendingVersion = version)
      (offered : Worker.enqueue queueDepth network .low
        (plainRequest .uiBundleFetch (bundleUrl baseEventsUrl version) [] []) =
        (taken, true)) :
      CheckOutcome sync network baseEventsUrl version after taken

theorem checkDesired_outcome (sync : UiSyncController) (store : UiBundleStore)
    (network : NetworkWorker) (baseEventsUrl : Bytes) (version : UInt32) (hash : Bytes) :
    CheckOutcome sync network baseEventsUrl version
      (sync.checkDesired store network baseEventsUrl version hash).1
      (sync.checkDesired store network baseEventsUrl version hash).2.2 := by
  unfold checkDesired
  cases decided : sync.decision store version hash with
  | inFlight => exact .idle rfl rfl
  | noSync => exact .idle rfl rfl
  | sync =>
    have resting : sync.downloadInFlight = false := by
      unfold decision at decided
      cases flight : sync.downloadInFlight <;> simp_all
    simp only
    split
    · exact .idle rfl rfl
    · cases offered : NetworkWorker.enqueueUiBundleFetch network
          (deriveSiblingEndpoint baseEventsUrl (text "ui-bundles") ++ text "/" ++
            decimal version.toNat) with
      | mk taken started =>
        cases started with
        | false =>
          rw [enqueue_refused offered]
          exact .full resting rfl
        | true => exact .started resting rfl rfl offered

end UiSyncController

def kBootstrapMaxAttempts : Nat := 2
def kBootstrapRetryCooldownMs : UInt32 := 3000

/-- The objects and globals of the sketch that the bootstrap block uses. `armings` and
`bootstrapRequests` note how often the attempts were armed, at a start or a reconnect, and
how many requests a queue took; no code reads them. -/
structure MainLoop where
  runtime : KioskRuntime
  uiSync : UiSyncController := {}
  uiBundleStore : UiBundleStore := {}
  flash : UiFlash := {}
  bootstrapAttempted : Bool := false
  bootstrapInflight : Bool := false
  bootstrapAttemptCount : Nat := 0
  bootstrapNextAttemptMs : UInt32 := 0
  lastSeenReconnectCount : UInt32 := 0
  armings : Nat := 1
  bootstrapRequests : Nat := 0

/-- A call of the runtime or a step of its task, beside the requests of the loop itself. -/
abbrev OtherStep := { input : RuntimeStep // input.ofLoop = false }

/-- The blocks of `loop()` one at a time, with whatever the runtime and its task do between
them, and a loss of power at any time: within a `poll` of the bundle sync too. -/
inductive MainStep where
  | runtime (input : OtherStep)
  | seeReconnects (reconnects : UInt32)
  | attemptBootstrap (env : LoopEnv)
  | takeBootstrap (env : LoopEnv)
  | pollUi (safeMode : Bool) (writes : UiPollWrites)
  | restart (cut : Option (UiPollWrites × Nat)) (config : KioskRuntime.BootConfig)

namespace MainLoop

/-- `setup()`, over what flash and NVS hold. -/
def boot (config : KioskRuntime.BootConfig) (highWaterMark : UInt64) (journal : EventJournal)
    (flash : UiFlash) : MainLoop where
  runtime := .boot config highWaterMark journal
  uiBundleStore := .init flash
  flash := flash

def checkDesired (m : MainLoop) (result : BootstrapClient.Answer) : MainLoop :=
  match m.uiSync.checkDesired m.uiBundleStore m.runtime.network m.runtime.apiEndpoint
    result.uiBundleVersion
      result.uiBundleHash with
  | (uiSync, uiBundleStore, network) =>
    { m with
      uiSync := uiSync, uiBundleStore := uiBundleStore
      runtime := { m.runtime with network := network } }

/-- An attempt that cannot derive its URL counts too. -/
def attemptBootstrap (m : MainLoop) (env : LoopEnv) : MainLoop :=
  if m.bootstrapAttempted = false ∧ m.bootstrapInflight = false ∧
    env.millis ≥ m.bootstrapNextAttemptMs then
    let bootstrapUrl := deriveSiblingEndpoint m.runtime.apiEndpoint (text "bootstrap")
    if bootstrapUrl = [] then
      let m := { m with bootstrapAttemptCount := m.bootstrapAttemptCount + 1 }
      if m.bootstrapAttemptCount ≥ kBootstrapMaxAttempts then
        { m with
          bootstrapAttempted := true
          runtime := m.runtime.onBootstrapResult env { status := .failed } }
      else { m with bootstrapNextAttemptMs := env.millis + kBootstrapRetryCooldownMs }
    else
      let body :=
        BootstrapClient.buildRequestBody m.runtime.deviceId m.runtime.hardwareId m.runtime.bootId
        m.runtime.deviceSeq.current.toUInt32
      match NetworkWorker.enqueueBootstrap m.runtime.network bootstrapUrl body with
      | (network, true) =>
        { m with
          runtime := { m.runtime with network := network }
          bootstrapAttemptCount := m.bootstrapAttemptCount + 1
          bootstrapInflight := true
          bootstrapRequests := m.bootstrapRequests + 1 }
      | (_, false) => m
  else m

/-- Only a transport failure is tried again. -/
def settleBootstrap (m : MainLoop) (env : LoopEnv) (result : BootstrapClient.Answer) : MainLoop :=
  if result.status = .failed ∧ m.bootstrapAttemptCount < kBootstrapMaxAttempts then
    { m with bootstrapNextAttemptMs := env.millis + kBootstrapRetryCooldownMs }
  else { m with bootstrapAttempted := true }

def pollUi (sha256 : Bytes → Bytes) (m : MainLoop) (writes : UiPollWrites) :
    MainLoop × List UiFlash :=
  match m.runtime.pendingUiBundleFetchResult with
  | none => (m, [])
  | some result =>
    match m.uiSync.poll sha256 m.uiBundleStore m.flash result writes with
    | (uiSync, uiBundleStore, flashes, _) =>
      ({ m with
          runtime := { m.runtime with pendingUiBundleFetchResult := none }
          uiSync := uiSync
          uiBundleStore := uiBundleStore
          flash := flashes.getLast?.getD m.flash }, flashes)

/-- The flash when the power fails. -/
def flashAt (sha256 : Bytes → Bytes) (m : MainLoop) : Option (UiPollWrites × Nat) → UiFlash
  | none => m.flash
  | some (writes, done) => ((m.pollUi sha256 writes).2.take done).getLast?.getD m.flash

variable [StdSort]

/-- A reconnect arms the attempts again. -/
def seeReconnects (m : MainLoop) (reconnects : UInt32) : MainLoop :=
  if reconnects ≠ m.lastSeenReconnectCount then
    { m with
      lastSeenReconnectCount := reconnects
      bootstrapAttempted := false
      bootstrapInflight := false
      bootstrapAttemptCount := 0
      bootstrapNextAttemptMs := 0
      runtime := m.runtime.startOfflineReplayIfNeeded
      armings := m.armings + 1 }
  else m

def takeBootstrap (m : MainLoop) (env : LoopEnv) : MainLoop :=
  match m.runtime.pendingBootstrapResult with
  | none => m
  | some netResult =>
    let result := BootstrapClient.parseResponse netResult.outcome.httpStatus netResult.responseBody
    let m := { m with
      runtime := { m.runtime with pendingBootstrapResult := none }
      bootstrapInflight := false }
    let m := m.settleBootstrap env result
    let m := { m with runtime := m.runtime.onBootstrapResult env result.toBootstrapResult }
    let m :=
      if result.status = .ok then { m with runtime := m.runtime.startOfflineReplayIfNeeded } else m
    if env.safeMode then m else m.checkDesired result

def step (sha256 : Bytes → Bytes) (m : MainLoop) : MainStep → MainLoop
  | .runtime input => { m with runtime := m.runtime.step input }
  | .seeReconnects reconnects => m.seeReconnects reconnects
  | .attemptBootstrap env => m.attemptBootstrap env
  | .takeBootstrap env => m.takeBootstrap env
  | .pollUi safeMode writes => if safeMode then m else (m.pollUi sha256 writes).1
  | .restart cut config =>
    { runtime := m.runtime.reboot config
      uiBundleStore := .init (m.flashAt sha256 cut)
      flash := m.flashAt sha256 cut
      armings := m.armings + 1
      bootstrapRequests := m.bootstrapRequests }

end MainLoop

end Kiosk.Runtime
