import Kiosk.Network.SiblingEndpoint
import Kiosk.Runtime.KioskRuntime
import Kiosk.Runtime.UiSync

/-! The URLs the runtime asks for, from the configured endpoint, and what a queue slot of
`kMaxQueuedUrlBytes` keeps of them. -/
namespace Kiosk.Runtime

open Library Library.KeySearch Library.SlotWorker Network Protocol Storage

/-- A buffer keeps the whole of what fits before its terminator. -/
theorem strncpy_eq_iff (content : Bytes) (size : Nat) (room : 0 < size) :
    strncpy content size = content ↔ 0 ∉ content ∧ content.length < size := by
  constructor
  · intro whole
    have inside : strncpy content size <+: cStr content := List.take_prefix _ _
    have bare : ∀ byte ∈ cStr content, byte ≠ 0 :=
      fun byte member => by simpa using List.mem_takeWhile_imp member
    rw [whole] at inside
    refine ⟨fun zero => bare 0 (inside.subset zero) rfl, ?_⟩
    have bound : (strncpy content size).length ≤ size - 1 := List.length_take_le _ _
    rw [whole] at bound
    omega
  · rintro ⟨nonzero, short⟩
    exact strncpy_short short fun byte member zero => nonzero (zero ▸ member)

/-- The requests that address the backend through the configured endpoint. -/
inductive UrlRequest where
  | businessEvent (eventId : Bytes) (deviceSeq : UInt64) (payload kioskToken : Bytes)
  | offlineReplay (eventId : Bytes) (deviceSeq : UInt64) (payload kioskToken : Bytes)
  | stateFetch (kioskToken : Bytes)
  | bootstrap (body : Bytes)
  | uiBundleFetch (desiredVersion : UInt32)

namespace UrlRequest

/-- The URL string handed to the enqueue function; without one nothing is enqueued. -/
def passedUrl (k : KioskRuntime) : UrlRequest → Option Bytes
  | businessEvent .. => Option.some k.apiEndpoint
  | offlineReplay .. => Option.some k.apiEndpoint
  | stateFetch _ => Option.some k.stateEndpointUrl
  | bootstrap _ =>
    let bootstrapUrl := deriveSiblingEndpoint k.apiEndpoint (text "bootstrap")
    if bootstrapUrl = [] then Option.none else Option.some bootstrapUrl
  | uiBundleFetch desiredVersion =>
    let bundleBase := deriveSiblingEndpoint k.apiEndpoint (text "ui-bundles")
    if bundleBase = [] then Option.none
      else Option.some (bundleBase ++ text "/" ++ decimal desiredVersion.toNat)

def enqueue (worker : NetworkWorker) (url : Bytes) : UrlRequest → NetworkWorker × Bool
  | businessEvent eventId deviceSeq payload kioskToken =>
    NetworkWorker.enqueueBusinessEvent worker eventId deviceSeq url payload kioskToken
  | offlineReplay eventId deviceSeq payload kioskToken =>
    NetworkWorker.enqueueOfflineReplay worker eventId deviceSeq url payload kioskToken
  | stateFetch kioskToken => NetworkWorker.enqueueStateFetch worker url kioskToken
  | bootstrap body => NetworkWorker.enqueueBootstrap worker url body
  | uiBundleFetch _ => NetworkWorker.enqueueUiBundleFetch worker url

def tier : UrlRequest → Tier
  | businessEvent .. => .high
  | offlineReplay .. => .low
  | stateFetch _ => .high
  | bootstrap _ => .high
  | uiBundleFetch _ => .low

/-- The slot the request takes in its queue. -/
def queued (url : Bytes) : UrlRequest → NetworkRequest
  | businessEvent eventId deviceSeq payload kioskToken =>
    eventRequest .businessEvent eventId deviceSeq url payload kioskToken
  | offlineReplay eventId deviceSeq payload kioskToken =>
    eventRequest .offlineReplay eventId deviceSeq url payload kioskToken
  | stateFetch kioskToken => plainRequest .stateFetch url [] kioskToken
  | bootstrap body => plainRequest .bootstrap url body []
  | uiBundleFetch _ => plainRequest .uiBundleFetch url [] []

theorem enqueue_queued (worker : NetworkWorker) (url : Bytes) (request : UrlRequest) :
    request.enqueue worker url =
      Worker.enqueue queueDepth worker request.tier (request.queued url) := by
  cases request <;> rfl

theorem queued_url (url : Bytes) (request : UrlRequest) :
    (request.queued url).url = strncpy url kMaxQueuedUrlBytes := by
  cases request <;> rfl

/-- A resync asks for the state with the URL of `stateFetch`. -/
theorem startResync_enqueues (k : KioskRuntime) (env : LoopEnv) :
    (passedUrl k (stateFetch env.kioskToken)).map (fun url =>
      ((stateFetch env.kioskToken).enqueue (k.letTaskRun env).network url).1) =
        Option.some (k.startResync env).network := rfl

/-- A check that decides to sync asks for the bundle with the URL of `uiBundleFetch`. -/
theorem checkDesired_enqueues (k : KioskRuntime) (sync : UiSyncController) (store : UiBundleStore)
    (decided : sync.decision store desiredVersion desiredHash = .sync)
    (passed : passedUrl k (uiBundleFetch desiredVersion) = Option.some url) :
    (sync.checkDesired store k.network k.apiEndpoint desiredVersion desiredHash).2.2 =
      ((uiBundleFetch desiredVersion).enqueue k.network url).1 := by
  simp only [passedUrl] at passed
  split at passed
  · cases passed
  · rename_i found
    cases passed
    simp only [UiSyncController.checkDesired, decided, if_neg found]
    rfl

/-- What the endpoint and the id must leave room for. A sibling is the endpoint up to its
last slash with something after it. -/
def Fits (k : KioskRuntime) : UrlRequest → Prop
  | businessEvent .. => 0 ∉ k.apiEndpoint ∧ k.apiEndpoint.length ≤ 159
  | offlineReplay .. => 0 ∉ k.apiEndpoint ∧ k.apiEndpoint.length ≤ 159
  | stateFetch _ => urlPath k.apiEndpoint ≠ [] →
      0 ∉ urlBase k.apiEndpoint ∧ 0 ∉ k.deviceId ∧
        (urlBase k.apiEndpoint).length + (text "state?device_id=").length + k.deviceId.length ≤ 159
  | bootstrap _ => urlPath k.apiEndpoint ≠ [] →
      0 ∉ urlBase k.apiEndpoint ∧ (urlBase k.apiEndpoint).length + (text "bootstrap").length ≤ 159
  | uiBundleFetch desiredVersion => urlPath k.apiEndpoint ≠ [] →
      0 ∉ urlBase k.apiEndpoint ∧
        (urlBase k.apiEndpoint).length + (text "ui-bundles/").length +
          (decimal desiredVersion.toNat).length ≤ 159

end UrlRequest

/-- `char url[]` as the HTTP attempt reads it. -/
def attemptUrl (req : NetworkRequest) : Bytes := cStr req.url

theorem attemptUrl_queued (url : Bytes) (request : UrlRequest) :
    attemptUrl (request.queued url) = url ↔ 0 ∉ url ∧ url.length ≤ 159 := by
  have bare : ∀ byte ∈ strncpy url kMaxQueuedUrlBytes, byte ≠ 0 := fun byte member => by
    simpa using List.mem_takeWhile_imp (List.mem_of_mem_take member)
  rw [attemptUrl, request.queued_url, cStr, List.takeWhile_eq_self_iff.mpr (by simpa using bare),
    strncpy_eq_iff _ _ (by decide), kMaxQueuedUrlBytes]
  exact and_congr_right fun _ => Nat.lt_succ_iff

/-- A derived URL is whole in its slot when what was put together fits. -/
private theorem derived_fits (accepted : validateBackendUrl url allowHttp maxLength = .ok)
    (name rest : Bytes) (path : urlPath url ≠ []) :
    (0 ∉ deriveSiblingEndpoint url name ++ rest ∧
        (deriveSiblingEndpoint url name ++ rest).length ≤ 159) ↔
      0 ∉ urlBase url ∧ 0 ∉ name ∧ 0 ∉ rest ∧
        (urlBase url).length + name.length + rest.length ≤ 159 := by
  rw [deriveSiblingEndpoint_eq (knownScheme_of_ok accepted), if_neg path]
  simp only [List.mem_append, List.length_append, not_or, and_assoc]

private theorem derived_empty_iff (accepted : validateBackendUrl url allowHttp maxLength = .ok)
    (name : Bytes)
    (named : name ≠ []) : deriveSiblingEndpoint url name = [] ↔ urlPath url = [] := by
  rw [deriveSiblingEndpoint_eq (knownScheme_of_ok accepted)]
  split
  · simp_all
  · simp_all

/-- For an accepted endpoint, the URL of an attempt is the one the request was enqueued
with exactly when the endpoint, or the sibling put together from it, leaves room for the
terminator of the slot. -/
theorem attemptUrl_whole_iff (k : KioskRuntime) (allowHttp : Bool)
    (accepted : validateBackendUrl k.apiEndpoint allowHttp backendUrlMaxLength = .ok)
    (request : UrlRequest) :
    (∀ url, request.passedUrl k = some url → attemptUrl (request.queued url) = url) ↔
      request.Fits k := by
  have plain : 0 ∉ text "bootstrap" ∧ 0 ∉ text "state" ∧ 0 ∉ text "?device_id=" ∧
      0 ∉ text "ui-bundles" ∧ 0 ∉ text "/" := by
    decide
  have digits : ∀ value, 0 ∉ decimal value := fun value zero => by
    simpa [isDigit] using isDigit_of_mem_decimal zero
  simp only [attemptUrl_queued]
  cases request with
  | businessEvent | offlineReplay => simp [UrlRequest.passedUrl, UrlRequest.Fits]
  | stateFetch kioskToken =>
    have empty := derived_empty_iff accepted (text "state") (by decide)
    by_cases path : urlPath k.apiEndpoint = []
    · simp [UrlRequest.passedUrl, UrlRequest.Fits, KioskRuntime.stateEndpointUrl, empty, path]
    · have fits := derived_fits accepted (text "state") (text "?device_id=" ++ k.deviceId) path
      have pieces : (text "state?device_id=").length =
          (text "state").length + (text "?device_id=").length := by
        decide
      simp only [UrlRequest.passedUrl, KioskRuntime.stateEndpointUrl, empty, path, if_false,
        Option.some.injEq,
        forall_eq', List.append_assoc, fits, UrlRequest.Fits, ne_eq, not_false_eq_true,
          forall_const, pieces]
      simp [plain, Nat.add_assoc]
  | bootstrap body =>
    have empty := derived_empty_iff accepted (text "bootstrap") (by decide)
    by_cases path : urlPath k.apiEndpoint = []
    · simp [UrlRequest.passedUrl, UrlRequest.Fits, empty, path]
    · have fits := derived_fits accepted (text "bootstrap") [] path
      simp only [List.append_nil] at fits
      simp [UrlRequest.passedUrl, UrlRequest.Fits, empty, path, fits, plain]
  | uiBundleFetch desiredVersion =>
    have empty := derived_empty_iff accepted (text "ui-bundles") (by decide)
    by_cases path : urlPath k.apiEndpoint = []
    · simp [UrlRequest.passedUrl, UrlRequest.Fits, empty, path]
    · have fits :=
        derived_fits accepted (text "ui-bundles") (text "/" ++ decimal desiredVersion.toNat) path
      have pieces :
          (text "ui-bundles/").length = (text "ui-bundles").length + (text "/").length := by
        decide
      simp only [UrlRequest.passedUrl, empty, path, if_false, Option.some.injEq, forall_eq',
        List.append_assoc, fits, UrlRequest.Fits, ne_eq, not_false_eq_true, forall_const, pieces]
      simp [plain, digits, Nat.add_assoc]

/-- A new kiosk with an endpoint. -/
private def configured (apiEndpoint deviceId : Bytes) : KioskRuntime :=
  .boot { apiEndpoint := apiEndpoint, deviceId := deviceId } 0 {}

theorem attemptUrl_whole_state :
    (∀ url, (UrlRequest.stateFetch []).passedUrl
      (configured (text "https://h/v2/events") (text "K1")) = some url →
      attemptUrl ((UrlRequest.stateFetch []).queued url) = url) ↔
      (UrlRequest.stateFetch []).Fits (configured (text "https://h/v2/events") (text "K1")) :=
  attemptUrl_whole_iff (configured (text "https://h/v2/events") (text "K1")) false
    (by decide +kernel) (.stateFetch [])

/-- An endpoint of 81 bytes and an id of 86, both short enough for a serial line. -/
private def typedEndpoint : Bytes := text "https://h/" ++ List.replicate 64 97 ++ text "/events"

private def typedId : Bytes := List.replicate 86 65

/-- The URL of a state fetch loses the end of the id, and an endpoint of the greatest
accepted length its last byte. -/
theorem attemptUrl_truncated :
    (validateBackendUrl typedEndpoint false backendUrlMaxLength = .ok ∧
      (UrlRequest.stateFetch []).passedUrl (configured typedEndpoint typedId) =
        some (text "https://h/" ++ List.replicate 64 97 ++ text "/state?device_id=" ++ typedId) ∧
      attemptUrl ((UrlRequest.stateFetch []).queued
          (text "https://h/" ++ List.replicate 64 97 ++ text "/state?device_id=" ++ typedId)) =
        text "https://h/" ++ List.replicate 64 97 ++ text "/state?device_id=" ++
          List.replicate 68 65) ∧
    validateBackendUrl (text "https://h/" ++ List.replicate 150 97) false backendUrlMaxLength =
        .ok ∧
      (UrlRequest.businessEvent [] 1 [] []).passedUrl
          (configured (text "https://h/" ++ List.replicate 150 97) (text "K1")) =
        some (text "https://h/" ++ List.replicate 150 97) ∧
      attemptUrl ((UrlRequest.businessEvent [] 1 [] []).queued
          (text "https://h/" ++ List.replicate 150 97)) =
        text "https://h/" ++ List.replicate 149 97 := by
  decide +kernel

end Kiosk.Runtime
