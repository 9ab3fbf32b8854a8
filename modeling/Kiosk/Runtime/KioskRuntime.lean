import Kiosk.Network.NetworkWorker
import Kiosk.Protocol.EventResponse
import Kiosk.Protocol.ProtocolCodec
import Kiosk.Storage.EventJournal

/-! `kiosk_runtime.cpp`. What it draws and logs is left out, with the members only the
screens and the diagnostics read. A call reads its surroundings from a `LoopEnv`; the
worker task may step between any two uses of the worker. -/
namespace Kiosk.Runtime

open Library Library.KeySearch Protocol Network Storage

inductive QtyStep where
  | good | defect | reworkDecision | rework | summary
  deriving DecidableEq, Repr

inductive ProvisioningState where
  | unprovisioned | provisioning | active | suspended | revoked
  deriving DecidableEq, Repr

inductive Environment where
  | dev | test | prod | unknown
  deriving DecidableEq, Repr

def environmentFromServerRole (serverRole : Bytes) : Environment :=
  if serverRole = text "DEV" then .dev
  else if serverRole = text "PRODUCTION_TEST" then .test
  else if serverRole = text "PRODUCTION" then .prod
  else .unknown

def environmentFromConfigString (configured : Bytes) : Environment :=
  let upper := configured.map fun c => if 97 ≤ c ∧ c ≤ 122 then c - 32 else c
  if upper = text "DEV" then .dev
  else if upper = text "TEST" then .test
  else if upper = text "PROD" then .prod
  else .unknown

inductive BootstrapStatus where
  | notAttempted | ok | rejected | failed
  deriving DecidableEq, Repr

structure BootstrapResult where
  status : BootstrapStatus := .notAttempted
  snapshot : Option StateSnapshot := none
  serverRole : Bytes := []
  deriving DecidableEq, Repr

/-- The local entry within `QUANTITY_INPUT`: `qty_step_` and the members beside it. -/
structure QuantityFlow where
  qtyStep : QtyStep := .good
  qtyGood : Int32 := 0
  qtyDefect : Int32 := 0
  qtyRework : Int32 := 0
  localQtyBuffer : Bytes := []
  deriving DecidableEq, Repr

/-- What a call finds around it. `meanwhile` is what the worker task does between the
call's start and its own use of the queues. -/
structure LoopEnv where
  millis : UInt32 := 0
  espRandom : Nat → UInt8 := fun _ => 0
  timeSyncStatus : TimeSyncStatus := .unsynced
  syncAgeS : UInt32 := 0
  iso8601Now : Bytes := []
  safeMode : Bool := false
  identityState : ProvisioningState := .active
  kioskToken : Bytes := []
  expectedEnvironment : Bytes := []
  recoveryOverlayActive : Bool := false
  medium : Medium := { room := 65536 }
  meanwhile : List NetworkEnv := []

/-- A record handed to `enqueue_offline_replay`. -/
structure ReplaySend where
  position : Nat
  record : JournalRecord
  serial : Nat
  queued : Bool
  deriving DecidableEq, Repr

/-- `createdEvents` and `passSends` note what was created, and what was handed over in
the current pass; no code reads them. -/
structure KioskRuntime where
  deviceSeq : SequenceReservation
  deviceId : Bytes := []
  hardwareId : Bytes := []
  bootId : Bytes := []
  apiEndpoint : Bytes := []
  stateProjection : StateProjection := {}
  resyncing : Bool := false
  lastServerSeq : Int := -1
  flow : QuantityFlow := {}
  qtyTimeoutWarned : Bool := false
  lastActivityMs : UInt32 := 0
  serverEnvironment : Environment := .unknown
  envMismatch : Bool := false
  replayEventIds : List Bytes := []
  replayNext : Nat := 0
  replaying : Bool := false
  lastReplayFallbackCheckMs : UInt32 := 0
  pendingBootstrapResult : Option NetworkResult := none
  pendingUiBundleFetchResult : Option NetworkResult := none
  journal : EventJournal := {}
  network : NetworkWorker := {}
  createdEvents : List KioskEvent := []
  passSends : List ReplaySend := []

namespace QuantityFlow

def inputCap : Nat := 6

/-- The value `#` confirms. -/
def value (flow : QuantityFlow) : Int32 := Int32.ofNat (strtol flow.localQtyBuffer)

def clearBuffer (flow : QuantityFlow) : QuantityFlow := { flow with localQtyBuffer := [] }

/-- What `#` does in a step that enters digits. -/
def confirm (flow : QuantityFlow) : QuantityFlow :=
  match flow.qtyStep with
  | .good => { flow.clearBuffer with qtyGood := flow.value, qtyStep := .defect }
  | .defect =>
    if flow.value = 0 then
      { flow.clearBuffer with qtyDefect := flow.value, qtyRework := 0, qtyStep := .summary }
    else { flow.clearBuffer with qtyDefect := flow.value, qtyStep := .reworkDecision }
  | .rework =>
    if flow.value > flow.qtyDefect then flow.clearBuffer
    else { flow.clearBuffer with qtyRework := flow.value, qtyStep := .summary }
  | _ => flow

/-- A key in the quantity steps: the flow after it, and whether it submits. -/
def press (flow : QuantityFlow) (key : UInt8) : QuantityFlow × Bool :=
  if flow.qtyStep = .summary then
    if key = 35 then (flow, true) else if key = 48 then ({}, false) else (flow, false)
  else if flow.qtyStep = .reworkDecision then
    if key = 49 then ({ flow.clearBuffer with qtyStep := .rework }, false)
    else if key = 50 ∨ key = 35 then ({ flow with qtyRework := 0, qtyStep := .summary }, false)
    else (flow, false)
  else if isDigit key then
    (if flow.localQtyBuffer.length < inputCap
      then { flow with localQtyBuffer := flow.localQtyBuffer ++ [key] }
      else flow, false)
  else if key = 42 then (flow.clearBuffer, false)
  else if key = 35 then (flow.confirm, false)
  else (flow, false)

end QuantityFlow

/-! `ui_timeout_policy.cpp` -/

def uiTimeoutMsForState : BusinessState → UInt32
  | .waitOperation => 20000
  | .quantityInput => 60000
  | _ => 0

def uiStateShouldTimeout (state : BusinessState) (elapsedMs : UInt32) : Bool :=
  uiTimeoutMsForState state ≠ 0 && elapsedMs ≥ uiTimeoutMsForState state

def kReplayFallbackCheckIntervalMs : UInt32 := 30000

namespace KioskRuntime

def appendTransition (k : KioskRuntime) (env : LoopEnv) (transition : JournalTransition) :
    KioskRuntime :=
  { k with journal := ((k.journal.on env.medium).appendTransition transition).1 }

def clearQtyBuffer (k : KioskRuntime) : KioskRuntime := { k with flow := k.flow.clearBuffer }

def touchActivity (k : KioskRuntime) (env : LoopEnv) : KioskRuntime :=
  { k with lastActivityMs := env.millis }

def resetQuantityFlow (k : KioskRuntime) : KioskRuntime :=
  { k with flow := {}, qtyTimeoutWarned := false }

def stateEndpointUrl (k : KioskRuntime) : Bytes :=
  let base := deriveSiblingEndpoint k.apiEndpoint (text "state")
  if base = [] then [] else base ++ text "?device_id=" ++ k.deviceId

/-- The task runs for a while. -/
def letTaskRun (k : KioskRuntime) (env : LoopEnv) : KioskRuntime :=
  { k with network := k.network.advance execute env.meanwhile }

def startResync (k : KioskRuntime) (env : LoopEnv) : KioskRuntime :=
  let k := { k with resyncing := true }.letTaskRun env
  { k with network := (k.network.enqueueStateFetch k.stateEndpointUrl env.kioskToken).1 }

/-- The event `send_business_event` builds. Its texts go through `c_str`. -/
def newEvent (k : KioskRuntime) (env : LoopEnv) (deviceSeq : UInt64) (type : EventType)
    (rawPayload : Bytes)
    (quantity quantityDefect quantityRework : OptionalQuantity) : KioskEvent where
  device :=
    { deviceId := cStr k.deviceId, hardwareId := cStr k.hardwareId, bootId := cStr k.bootId }
  event := { eventId := generateRandomHexId 16 env.espRandom, deviceSeq := deviceSeq, type := type }
  time := {
    uptimeMs := env.millis.toUInt64
    syncStatus := env.timeSyncStatus
    syncAgeS := env.syncAgeS
    timestampDeviceIso := cStr env.iso8601Now }
  payload :=
    { source := if type = .scan then text "GM65" else text "KEYPAD", raw := cStr rawPayload }
  quantityGood := quantity
  quantityDefect := quantityDefect
  quantityRework := quantityRework
  context := {
    expectedStateVersion := (k.stateProjection.current.map StateSnapshot.stateVersion).getD 0
    workflowVersion := (k.stateProjection.current.map StateSnapshot.workflowVersion).getD 0 }

/-- Eight lower-case hexadecimal digits. -/
def hex8 (value : UInt32) : Bytes :=
  ([28, 24, 20, 16, 12, 8, 4, 0] : List UInt32).map fun shift =>
    hexDigit ((value >>> shift) &&& 15).toUInt8

/-- The `PENDING` record an event is journaled with. -/
def journalRecordOf (event : KioskEvent) : JournalRecord where
  recordVersion := 1
  eventId := event.event.eventId
  deviceSeq := event.event.deviceSeq
  bootId := event.device.bootId
  eventType := eventTypeToString event.event.type
  payload := encodeEventJson event
  payloadHash := hex8 (crc32 (encodeEventJson event))
  expectedStateVersion := event.context.expectedStateVersion
  createdUptimeMs := event.time.uptimeMs.toUInt32
  timeSyncStatus := timeSyncStatusToString event.time.syncStatus
  syncStatus := .pending

/-- The end of `send_business_event`, once the record is in the journal. -/
def dispatchEvent (k : KioskRuntime) (env : LoopEnv) (event : KioskEvent) : KioskRuntime :=
  let k := k.letTaskRun env
  match k.network.enqueueBusinessEvent event.event.eventId event.event.deviceSeq k.apiEndpoint
    (encodeEventJson event)
      env.kioskToken with
  | (network, true) =>
    { k with network := network }.appendTransition env
      { eventId := event.event.eventId, syncStatus := .inFlight, lastAttemptUptimeMs := env.millis }
  | (network, false) => { k with network := network }

def sendBusinessEvent (k : KioskRuntime) (env : LoopEnv) (type : EventType) (rawPayload : Bytes)
    (quantity quantityDefect quantityRework : OptionalQuantity) : KioskRuntime :=
  if k.apiEndpoint = [] then k
  else
    let (deviceSeq, seq) := k.deviceSeq.next
    let event := k.newEvent env seq type rawPayload quantity quantityDefect quantityRework
    let k := { k with deviceSeq := deviceSeq }
    match (k.journal.on env.medium).appendEvent (journalRecordOf event) with
    | (journal, false) => { k with journal := journal }
    | (journal, true) =>
      { k with journal := journal, createdEvents := event :: k.createdEvents }.dispatchEvent
        env event

def submitFinalQuantity (k : KioskRuntime) (env : LoopEnv) (good defect rework : Int32) :
    KioskRuntime :=
  k.sendBusinessEvent env .quantitySubmitted [] (some good) (some defect) (some rework)

def handleScan (k : KioskRuntime) (env : LoopEnv) (rawCode : Bytes) : KioskRuntime :=
  if env.safeMode then k
  else if k.envMismatch then k
  else
    let k := k.touchActivity env
    if env.identityState ≠ .active then k
    else k.sendBusinessEvent env .scan rawCode none none none

/-- A key in the quantity steps. Restarting from the summary is `reset_quantity_flow`. -/
def handleQuantityKey (k : KioskRuntime) (env : LoopEnv) (key : UInt8) : KioskRuntime :=
  match k.flow.press key with
  | (_, true) => k.submitFinalQuantity env k.flow.qtyGood k.flow.qtyDefect k.flow.qtyRework
  | (flow, false) =>
    if k.flow.qtyStep = .summary ∧ key = 48 then k.resetQuantityFlow else { k with flow := flow }

def handleBusinessKey (k : KioskRuntime) (env : LoopEnv) (key : UInt8) : KioskRuntime :=
  if env.safeMode then k
  else if k.envMismatch then k
  else if env.identityState ≠ .active then k
  else
    match k.stateProjection.current with
    | none => k
    | some snapshot =>
      if k.resyncing then k
      else
        let k := k.touchActivity env
        if snapshot.state = .waitOperation ∧ key = 35
          then k.sendBusinessEvent env .cancelRequested [] none none none
        else if snapshot.state = .quantityInput then k.handleQuantityKey env key
        else if snapshot.state = .sessionActive ∧ key = 35 then
          k.sendBusinessEvent env .finishRequested [] none none none
        else k

/-- `handle_local_event` for `KEY_DOWN`. -/
def handleKeyDown (k : KioskRuntime) (env : LoopEnv) (key : UInt8) : KioskRuntime :=
  if key ≠ 42 ∧ env.recoveryOverlayActive = false then k.handleBusinessKey env key else k

def applyServerEnvironment (k : KioskRuntime) (env : LoopEnv) (result : BootstrapResult) :
    KioskRuntime × Bool :=
  let actual := environmentFromServerRole result.serverRole
  let expected := environmentFromConfigString env.expectedEnvironment
  let genuineMismatch := expected ≠ .unknown ∧ actual ≠ .unknown ∧ expected ≠ actual
  if genuineMismatch then ({ k with serverEnvironment := actual, envMismatch := true }, false)
  else ({ k with serverEnvironment := actual, envMismatch := false }, true)

def onBootstrapResult (k : KioskRuntime) (env : LoopEnv) (result : BootstrapResult) :
    KioskRuntime :=
  if result.status ≠ .ok then k
  else
    match k.applyServerEnvironment env result with
    | (k, false) => k
    | (k, true) =>
      match result.snapshot with
      | none => k
      | some snapshot =>
        match k.stateProjection.apply snapshot with
        | (projection, applyResult) =>
          let k := { k with stateProjection := projection }
          if StateProjection.taken applyResult then k.touchActivity env else k

def handleResyncResult (k : KioskRuntime) (env : LoopEnv) (result : NetworkResult) : KioskRuntime :=
  if !result.outcome.ok then k
  else
    match parseStateSnapshotJson result.responseBody with
    | none => k
    | some snapshot =>
      match k.stateProjection.apply snapshot with
      | (projection, applyResult) =>
        let k := { k with stateProjection := projection }
        if StateProjection.taken applyResult then
          { k with resyncing := false }.clearQtyBuffer.touchActivity env
        else k

/-- The transition for an answer that accepts or rejects the event, whatever becomes
of the snapshot in it. -/
def settledTransition (env : LoopEnv) (resp : EventResponse) (eventId : Bytes) :
    JournalTransition where
  eventId := eventId
  syncStatus := if resp.kind ≠ .businessRejected then .acked else .rejected
  lastErrorCode := if resp.kind ≠ .businessRejected then [] else resp.errorCode
  lastAttemptUptimeMs := env.millis

/-- The `switch` of `apply_event_response`. -/
def finishApply (k : KioskRuntime) (env : LoopEnv) (applyResult : ApplyResult)
    (state : BusinessState) (prevState : BusinessState) : KioskRuntime :=
  match applyResult with
  | .applied | .appliedIdentical =>
    if state = .quantityInput ∧ prevState ≠ .quantityInput then k.resetQuantityFlow else k
  | .rejectedStale | .rejectedInconsistent => k.startResync env
  | .rejectedUnsupported => k

/-- The part of `apply_event_response` for a response that carries a snapshot. -/
def applySnapshotResponse (k : KioskRuntime) (env : LoopEnv) (resp : EventResponse)
    (eventId : Bytes) : KioskRuntime :=
  let prevState := (k.stateProjection.current.map StateSnapshot.state).getD .waitEmployee
  let (projection, applyResult) := k.stateProjection.apply resp.snapshot
  let k := ({ k with stateProjection := projection }).appendTransition env
    (settledTransition env resp eventId)
  k.clearQtyBuffer.finishApply env applyResult resp.snapshot.state prevState

def noteServerSeq (k : KioskRuntime) (serverSeq : Int) : KioskRuntime :=
  if serverSeq ≥ 0 then { k with lastServerSeq := serverSeq } else k

def applyEventResponse (k : KioskRuntime) (env : LoopEnv) (parsed : Bool) (resp : EventResponse)
    (eventId : Bytes) :
    KioskRuntime :=
  let k := k.touchActivity env
  if !parsed ∨ resp.kind = .malformed then
    k.appendTransition env {
      eventId := eventId
      lastErrorCode := text "EVENT_RESPONSE_MALFORMED"
      lastAttemptUptimeMs := env.millis }
  else
    let k := k.noteServerSeq resp.serverSeq
    if resp.kind = .conflictResync then
      (k.appendTransition env {
        eventId := eventId
        syncStatus := .conflict
        lastErrorCode := text "STATE_CONFLICT"
        lastAttemptUptimeMs := env.millis }).startResync env
    else k.applySnapshotResponse env resp eventId

/-- The transition for a result without a usable answer. -/
def failureTransition (env : LoopEnv) (result : NetworkResult) : JournalTransition where
  eventId := result.eventId
  syncStatus := if result.outcome.retryable then .pending else .humanReview
  retryCount := UInt32.ofNat (result.attempts - 1)
  lastAttemptUptimeMs := env.millis
  lastErrorCode := result.outcome.errorCode

/-- A result read while `replaying_` is set counts as the replay's. -/
def closeReplay (k : KioskRuntime) : KioskRuntime :=
  if k.replaying then { k with replaying := false, replayNext := k.replayNext + 1 } else k

/-- What `poll` does with the result of an event. -/
def handleEventResult (k : KioskRuntime) (env : LoopEnv) (result : NetworkResult) : KioskRuntime :=
  let k := k.closeReplay
  if !result.outcome.ok then k.appendTransition env (failureTransition env result)
  else
    let (resp, parsed) := parseEventResponseJson result.responseBody
    k.applyEventResponse env parsed resp result.eventId

/-- The first part of `poll`: at most one result of the worker. -/
def pollResult (k : KioskRuntime) (env : LoopEnv) : KioskRuntime :=
  match k.network.poll with
  | (network, none) => { k with network := network }
  | (network, some answer) =>
    let k := { k with network := network }
    match answer.result.kind with
    | .stateFetch => k.handleResyncResult env answer.result
    | .bootstrap => { k with pendingBootstrapResult := some answer.result }
    | .uiBundleFetch => { k with pendingUiBundleFetchResult := some answer.result }
    | .heartbeat => k
    | .businessEvent | .offlineReplay => k.handleEventResult env answer.result

def checkUiTimeout (k : KioskRuntime) (env : LoopEnv) : KioskRuntime :=
  if env.safeMode then k
  else if k.envMismatch then k
  else if env.identityState ≠ .active then k
  else
    match k.stateProjection.current with
    | none => k
    | some snapshot =>
      if k.resyncing || NetworkWorker.highPriorityBusy k.network then k
      else if !uiStateShouldTimeout snapshot.state (env.millis - k.lastActivityMs) then k
      else
        match snapshot.state with
        | .waitOperation =>
          (k.touchActivity env).sendBusinessEvent env .cancelRequested [] none none none
        | .quantityInput => { k.touchActivity env with qtyTimeoutWarned := true }
        | _ => k

section Replay
variable [StdSort]

def startOfflineReplayIfNeeded (k : KioskRuntime) : KioskRuntime :=
  if k.replaying || k.replayNext < k.replayEventIds.length then k
  else
    let pending := k.journal.index.pendingInDeviceSeqOrder
    if pending = [] then k
    else
      { k with
        replayEventIds := pending.map JournalRecord.eventId, replayNext := 0, passSends := [] }

/-- The periodic trigger in `poll`. -/
def replayFallback (k : KioskRuntime) (env : LoopEnv) : KioskRuntime :=
  if env.millis - k.lastReplayFallbackCheckMs ≥ kReplayFallbackCheckIntervalMs then
    { k with lastReplayFallbackCheckMs := env.millis }.startOfflineReplayIfNeeded
  else k

end Replay

/-- The send of one queued record. -/
def sendReplay (k : KioskRuntime) (env : LoopEnv) (record : JournalRecord) : KioskRuntime :=
  let k := k.letTaskRun env
  match NetworkWorker.enqueueOfflineReplay k.network record.eventId record.deviceSeq k.apiEndpoint
    record.payload
      env.kioskToken with
  | (network, queued) =>
    { k with
      network := network
      replaying := queued
      passSends := ⟨k.replayNext, record, k.network.accepted, queued⟩ :: k.passSends }

def checkOfflineReplay (k : KioskRuntime) (env : LoopEnv) : KioskRuntime :=
  match k.replayEventIds[k.replayNext]? with
  | none => k
  | some eventId =>
    if k.replaying then k
    else if NetworkWorker.highPriorityBusy k.network then k
    else if env.identityState ≠ .active || k.envMismatch then k
    else
      match k.journal.index.find eventId with
      | none => { k with replayNext := k.replayNext + 1 }
      | some record => k.sendReplay env record

def requestManualResync (k : KioskRuntime) (env : LoopEnv) : KioskRuntime :=
  if env.identityState ≠ .active then k else k.startResync env

/-- What the other components hold when the device starts. -/
structure BootConfig where
  deviceId : Bytes := []
  hardwareId : Bytes := []
  bootId : Bytes := []
  apiEndpoint : Bytes := []

def kDeviceSeqReserveBlock : UInt64 := 1000

/-- Power on and `begin`, over what flash and NVS hold. -/
def boot (config : BootConfig) (highWaterMark : UInt64) (journal : EventJournal) :
    KioskRuntime where
  deviceSeq := .load highWaterMark kDeviceSeqReserveBlock
  deviceId := config.deviceId
  hardwareId := config.hardwareId
  bootId := config.bootId
  apiEndpoint := config.apiEndpoint
  journal := journal

def reboot (k : KioskRuntime) (config : BootConfig) : KioskRuntime :=
  { boot config k.deviceSeq.highWaterMark k.journal.reboot with createdEvents := k.createdEvents }

end KioskRuntime

/-- What can happen to the runtime: the calls the main loop makes, the parts of
`poll()` in the order it runs them, and a step of the worker task. -/
inductive RuntimeStep where
  | scan (env : LoopEnv) (rawCode : Bytes)
  | keyDown (env : LoopEnv) (key : UInt8)
  | pollResult (env : LoopEnv)
  | checkUiTimeout (env : LoopEnv)
  | replayFallback (env : LoopEnv)
  | checkOfflineReplay (env : LoopEnv)
  | startOfflineReplay
  | bootstrapResult (env : LoopEnv) (result : BootstrapResult)
  | requestManualResync (env : LoopEnv)
  | enqueueBootstrap (url body : Bytes)
  | enqueueHeartbeat (url body : Bytes)
  | enqueueUiBundleFetch (url : Bytes)
  | takeBootstrapResult
  | takeUiBundleFetchResult
  | task (env : NetworkEnv)
  | beginCompaction (medium : Medium) (policy : CompactionPolicy)
  | compactTick (medium : Medium)
  | reboot (config : KioskRuntime.BootConfig)

namespace KioskRuntime
variable [StdSort]

def step (k : KioskRuntime) : RuntimeStep → KioskRuntime
  | .scan env rawCode => k.handleScan env rawCode
  | .keyDown env key => k.handleKeyDown env key
  | .pollResult env => k.pollResult env
  | .checkUiTimeout env => k.checkUiTimeout env
  | .replayFallback env => k.replayFallback env
  | .checkOfflineReplay env => k.checkOfflineReplay env
  | .startOfflineReplay => k.startOfflineReplayIfNeeded
  | .bootstrapResult env result => k.onBootstrapResult env result
  | .requestManualResync env => k.requestManualResync env
  | .enqueueBootstrap url body =>
    { k with network := (NetworkWorker.enqueueBootstrap k.network url body).1 }
  | .enqueueHeartbeat url body =>
    { k with network := (NetworkWorker.enqueueHeartbeat k.network url body).1 }
  | .enqueueUiBundleFetch url =>
    { k with network := (NetworkWorker.enqueueUiBundleFetch k.network url).1 }
  | .takeBootstrapResult => { k with pendingBootstrapResult := none }
  | .takeUiBundleFetchResult => { k with pendingUiBundleFetchResult := none }
  | .task env => { k with network := NetworkWorker.taskStep k.network env }
  | .beginCompaction medium policy =>
    { k with journal := (k.journal.call medium (.beginCompaction policy)).1 }
  | .compactTick medium => { k with journal := (k.journal.call medium .compactTick).1 }
  | .reboot config => k.reboot config

end KioskRuntime

end Kiosk.Runtime
