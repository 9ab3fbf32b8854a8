import Kiosk.Library.SlotWorker
import Kiosk.Protocol.RetryPolicy

/-! `network_worker.cpp`: the requests, what one execution of each does, and the task
with its two queues and its result slot. Latencies and delays are left out.
`endpoint_utils.h` is here too. -/
namespace Kiosk.Network

open Library Library.KeySearch Library.SlotWorker Protocol

/-- `derive_sibling_endpoint`: the last path segment replaced, empty where the URL has
no path. -/
def deriveSiblingEndpoint (eventsUrl name : Bytes) : Bytes :=
  let path := (findAfter (text "://") eventsUrl).getD eventsUrl
  if path.contains 47 then (eventsUrl.reverse.dropWhile (· ≠ 47)).reverse ++ name else []

inductive NetworkRequestKind where
  | businessEvent | offlineReplay | stateFetch | bootstrap | heartbeat | uiBundleFetch
  deriving DecidableEq, Repr

def kMaxQueuedUrlBytes : Nat := 160
def kMaxQueuedBodyBytes : Nat := 2560
def kMaxQueuedEventIdBytes : Nat := 40
def kMaxQueuedTokenBytes : Nat := 64
def kMaxResponseBodyBytes : Int := 16384

structure NetworkRequest where
  kind : NetworkRequestKind
  url : Bytes := []
  eventId : Bytes := []
  deviceSeq : UInt64 := 0
  body : Bytes := []
  kioskToken : Bytes := []
  deriving DecidableEq, Repr

structure NetworkResult where
  kind : NetworkRequestKind
  outcome : HttpOutcome := {}
  attempts : Nat := 0
  eventId : Bytes := []
  deviceSeq : UInt64 := 0
  responseBody : Bytes := []
  deriving DecidableEq, Repr

/-- `c_str`: what stands before the first zero byte. -/
def cStr (content : Bytes) : Bytes := content.takeWhile (· ≠ 0)

/-- `strncpy` into a buffer of zeros that keeps its last byte. -/
def strncpy (content : Bytes) (size : Nat) : Bytes := (cStr content).take (size - 1)

def fillBody (body : Bytes) : Bytes := body.take (kMaxQueuedBodyBytes - 1)

/-- What the network does to one attempt. -/
structure HttpExchange where
  resolves : Bool := true
  begins : Bool := true
  status : Int
  contentLength : Int := 0
  responseText : Bytes := []
  retryAfter : Bytes := []

/-- The headers `collectHeaders` was told to keep: nothing calls it. -/
def collectedHeaders : List Bytes := []

/-- `HTTPClient::header`: a header of the answer is there only if it was to be kept. -/
def httpHeader (name value : Bytes) : Bytes := if name ∈ collectedHeaders then cStr value else []

@[simp] theorem httpHeader_eq (name value : Bytes) : httpHeader name value = [] :=
  if_neg List.not_mem_nil

/-- `perform_http_attempt`: the status or marker, the body buffer after it, and the text
that is taken for the `Retry-After` header. -/
def performHttpAttempt (exchange : HttpExchange) (outBody : Bytes) : Int × Bytes × Bytes :=
  if !exchange.resolves then (kDnsFailMarker, outBody, [])
  else if !exchange.begins then (-1, outBody, [])
  else
    let retryAfter :=
      if exchange.status = 429 then httpHeader (text "Retry-After") exchange.retryAfter else []
    if exchange.status > 0 then
      if exchange.contentLength < 0 ∨ exchange.contentLength > kMaxResponseBodyBytes then
        (kResponseTooLargeMarker, outBody, retryAfter)
      else (exchange.status, cStr exchange.responseText, retryAfter)
    else (exchange.status, outBody, retryAfter)

/-- What the outside does while one request is executed. -/
structure NetworkEnv where
  wifiConnected : Bool := true
  exchange : Nat → HttpExchange

def kMaxAttempts : Nat := 2

/-- The outcome of an attempt with the body buffer after it. -/
def attemptOutcome (env : NetworkEnv) (attempt : Nat) (lastBody : Bytes) : HttpOutcome × Bytes :=
  let (status, body, retryAfterHeader) := performHttpAttempt (env.exchange attempt) lastBody
  let retryAfter : Int :=
    match parseRetryAfter retryAfterHeader with
    | some seconds => Int32.ofNat seconds.toNat |>.toInt
    | none => -1
  (classifyHttpResult status retryAfter, body)

/-- The retry loop, with the number of further attempts it may make. -/
def sendLoop (env : NetworkEnv) (attempt : Nat) (lastBody : Bytes) : Nat → HttpOutcome × Nat × Bytes
  | 0 =>
    let (outcome, body) := attemptOutcome env attempt lastBody
    (outcome, attempt, body)
  | left + 1 =>
    let (outcome, body) := attemptOutcome env attempt lastBody
    if outcome.ok || !outcome.retryable then (outcome, attempt, body)
    else sendLoop env (attempt + 1) body left

def execute (env : NetworkEnv) (req : NetworkRequest) : NetworkResult :=
  if !env.wifiConnected then
    { kind := req.kind
      outcome := { errorCode := text "WIFI_DOWN", retryable := true }
      eventId := req.eventId
      deviceSeq := req.deviceSeq }
  else if req.kind = .businessEvent ∨ req.kind = .offlineReplay then
    let (outcome, attempts, body) := sendLoop env 1 [] (kMaxAttempts - 1)
    { kind := req.kind
      outcome := outcome
      attempts := attempts
      eventId := req.eventId
      deviceSeq := req.deviceSeq
      responseBody := body }
  else
    -- a single attempt, without the retry header
    let (status, body, _) := performHttpAttempt (env.exchange 1) []
    { kind := req.kind, outcome := classifyHttpResult status (-1), attempts := 1,
      responseBody := body }

abbrev NetworkWorker := Worker NetworkRequest NetworkResult

/-- The queue depths of `begin`. -/
def queueDepth : Tier → Nat
  | .high => 3
  | .low => 2

/-- The request an event is sent with, live or replayed. -/
def eventRequest (kind : NetworkRequestKind) (eventId : Bytes) (deviceSeq : UInt64)
    (url payload kioskToken : Bytes) :
    NetworkRequest where
  kind := kind
  url := strncpy url kMaxQueuedUrlBytes
  eventId := strncpy eventId kMaxQueuedEventIdBytes
  deviceSeq := deviceSeq
  body := fillBody payload
  kioskToken := strncpy kioskToken kMaxQueuedTokenBytes

/-- The request of a kind that carries a URL and at most a body or a token. -/
def plainRequest (kind : NetworkRequestKind) (url body kioskToken : Bytes) : NetworkRequest where
  kind := kind
  url := strncpy url kMaxQueuedUrlBytes
  body := fillBody body
  kioskToken := strncpy kioskToken kMaxQueuedTokenBytes

namespace NetworkWorker

def enqueueBusinessEvent (w : NetworkWorker) (eventId : Bytes) (deviceSeq : UInt64)
    (url payload kioskToken : Bytes) :
    NetworkWorker × Bool :=
  w.enqueue queueDepth .high (eventRequest .businessEvent eventId deviceSeq url payload kioskToken)

def enqueueOfflineReplay (w : NetworkWorker) (eventId : Bytes) (deviceSeq : UInt64)
    (url payload kioskToken : Bytes) :
    NetworkWorker × Bool :=
  w.enqueue queueDepth .low (eventRequest .offlineReplay eventId deviceSeq url payload kioskToken)

def enqueueStateFetch (w : NetworkWorker) (url kioskToken : Bytes) : NetworkWorker × Bool :=
  w.enqueue queueDepth .high (plainRequest .stateFetch url [] kioskToken)

def enqueueUiBundleFetch (w : NetworkWorker) (url : Bytes) : NetworkWorker × Bool :=
  w.enqueue queueDepth .low (plainRequest .uiBundleFetch url [] [])

def enqueueBootstrap (w : NetworkWorker) (url body : Bytes) : NetworkWorker × Bool :=
  w.enqueue queueDepth .high (plainRequest .bootstrap url body [])

def enqueueHeartbeat (w : NetworkWorker) (url body : Bytes) : NetworkWorker × Bool :=
  w.enqueue queueDepth .low (plainRequest .heartbeat url body [])

/-- A LOW request being executed counts too. -/
def highPriorityBusy (w : NetworkWorker) : Bool := w.executing || !w.high.isEmpty

def busy (w : NetworkWorker) : Bool := w.executing || !w.high.isEmpty || !w.low.isEmpty

/-- One step of `task_entry`. -/
def taskStep (w : NetworkWorker) (env : NetworkEnv) : NetworkWorker := w.tick execute env

end NetworkWorker

/-- The result of a request is of its kind, and an event's result names the event. -/
theorem execute_kind (env : NetworkEnv) (req : NetworkRequest) :
    (execute env req).kind = req.kind ∧
      (req.kind = .businessEvent ∨ req.kind = .offlineReplay →
        (execute env req).eventId = req.eventId) := by
  unfold execute
  split
  · exact ⟨rfl, fun _ => rfl⟩
  split
  · exact ⟨rfl, fun _ => rfl⟩
  · rename_i other
    exact ⟨rfl, fun event => absurd event other⟩

theorem strncpy_short (short : content.length < size) (nonzero : ∀ byte ∈ content, byte ≠ 0) :
    strncpy content size = content := by
  rw [strncpy, cStr, List.takeWhile_eq_self_iff.mpr (by simpa using nonzero)]
  exact List.take_of_length_le (by omega)

end Kiosk.Network
