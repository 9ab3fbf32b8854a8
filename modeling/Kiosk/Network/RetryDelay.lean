import Kiosk.Network.NetworkWorker
import Kiosk.Protocol.Backoff

/-! The wait between two attempts of the retry loop of `network_worker.cpp`. -/
namespace Kiosk.Network

open Library Library.KeySearch Protocol

def retryBackoffBaseMs : UInt32 := 1000
def retryBackoffMaxMs : UInt32 := 30000
def retryJitterPctMax : UInt32 := 25

/-- The `backoff_ms` after an attempt, a 32-bit product where the server named the wait. -/
def retryDelayMs (outcome : HttpOutcome) (attempt : Nat) (espRandom : UInt32) : UInt32 :=
  if outcome.errorCode = text "API_RATE_LIMITED" ∧ outcome.retryAfterS > 0
    then outcome.retryAfterS * 1000
  else computeBackoffMs attempt retryBackoffBaseMs retryBackoffMaxMs (espRandom % 101)
    retryJitterPctMax

/-- The delays of `sendLoop`, one before each attempt after the first. -/
def sendLoopDelays (env : NetworkEnv) (espRandom : Nat → UInt32) (attempt : Nat)
    (lastBody : Bytes) :
    Nat → List UInt32
  | 0 => []
  | left + 1 =>
    let (outcome, body) := attemptOutcome env attempt lastBody
    if outcome.ok || !outcome.retryable then []
    else retryDelayMs outcome attempt (espRandom attempt) :: sendLoopDelays env espRandom
      (attempt + 1) body left

/-- The delays of one execution of an event's request. -/
def retryDelays (env : NetworkEnv) (espRandom : Nat → UInt32) : List UInt32 :=
  if !env.wifiConnected then [] else sendLoopDelays env espRandom 1 [] (kMaxAttempts - 1)

private theorem sendLoopDelays_length (env : NetworkEnv) (espRandom : Nat → UInt32) (attempt : Nat)
    (lastBody : Bytes) (left : Nat) :
    (sendLoop env attempt lastBody left).2.1 =
      attempt + (sendLoopDelays env espRandom attempt lastBody left).length := by
  induction left generalizing attempt lastBody with
  | zero => rfl
  | succ left ih =>
    simp only [sendLoop, sendLoopDelays]
    split
    · rfl
    · rw [ih, List.length_cons]
      omega

/-- Every attempt after the first has its delay. -/
theorem retryDelays_length (env : NetworkEnv) (espRandom : Nat → UInt32)
    (connected : env.wifiConnected = true)
    (event : req.kind = .businessEvent ∨ req.kind = .offlineReplay) :
    (execute env req).attempts = 1 + (retryDelays env espRandom).length := by
  rw [execute, retryDelays, if_neg (by simp [connected]), if_pos event,
    if_neg (by simp [connected])]
  exact sendLoopDelays_length env espRandom 1 [] _

/-- An exchange that ends with a 429 answer. -/
structure RateLimited (exchange : HttpExchange) : Prop where
  resolves : exchange.resolves = true
  begins : exchange.begins = true
  status : exchange.status = 429

/-- A rate-limited attempt names no wait to the loop, and nothing is worth a retry where its
body is not announced or too large. -/
private theorem limited_outcome (env : NetworkEnv) (attempt : Nat) (lastBody : Bytes)
    (limited : RateLimited (env.exchange attempt)) :
    (attemptOutcome env attempt lastBody).1 =
      if (env.exchange attempt).contentLength < 0 ∨
        (env.exchange attempt).contentLength > kMaxResponseBodyBytes then
        { errorCode := text "RESPONSE_TOO_LARGE" }
      else { httpStatus := 429, errorCode := text "API_RATE_LIMITED", retryable := true } := by
  have missing : parseRetryAfter [] = none := rfl
  simp only [attemptOutcome, performHttpAttempt, limited.resolves, limited.begins, limited.status,
    httpHeader_eq, Bool.not_true, Bool.false_eq_true, if_false, if_true, Int.reduceGT]
  split
  · simp [classifyHttpResult, kResponseTooLargeMarker]
  · simp [missing, classifyHttpResult, kResponseTooLargeMarker]

/-- The ordinary delay before the second attempt. -/
theorem firstDelay_bounds (random : UInt32) :
    1000 ≤ (computeBackoffMs 1 retryBackoffBaseMs retryBackoffMaxMs (random % 101)
        retryJitterPctMax).toNat ∧
      (computeBackoffMs 1 retryBackoffBaseMs retryBackoffMaxMs (random % 101)
        retryJitterPctMax).toNat ≤ 1250 := by
  have exact : exactBackoff 1 retryBackoffBaseMs.toNat retryBackoffMaxMs.toNat = 1000 := by decide
  have cap : (totalCap retryBackoffMaxMs retryJitterPctMax).toNat = 37500 := by decide
  have jitter : retryJitterPctMax.toNat = 25 := rfl
  have share := Nat.mod_lt (random % 101).toNat (show 0 < 25 + 1 by decide)
  rw [computeBackoffMs_toNat _ _ _ _ _ (by decide), exact, cap, jitter, withJitter]
  omega

/-- The delay after a rate-limited first attempt, where a second one is made. -/
private theorem limited_delay (env : NetworkEnv) (espRandom : Nat → UInt32)
    (limited : RateLimited (env.exchange 1)) (second : (retryDelays env espRandom).length = 1) :
    retryDelays env espRandom =
      [computeBackoffMs 1 retryBackoffBaseMs retryBackoffMaxMs (espRandom 1 % 101)
        retryJitterPctMax] := by
  have outcome := limited_outcome env 1 [] limited
  revert second
  rw [retryDelays]
  split
  · simp
  simp only [kMaxAttempts, sendLoopDelays, outcome]
  split
  · simp
  · simp [retryDelayMs]

/-- The wait a 429 answer names in digits is honoured before the second attempt only where
it is one second: the header never reaches the loop. -/
theorem retryAfter_honoured_iff (env : NetworkEnv) (espRandom : Nat → UInt32) (req : NetworkRequest)
    (event : req.kind = .businessEvent ∨ req.kind = .offlineReplay)
    (limited : RateLimited (env.exchange 1)) (named : 1 ≤ digitsValue (env.exchange 1).retryAfter)
    (second : (execute env req).attempts = 2) :
    ∃ delay, retryDelays env espRandom = [delay] ∧
      (min (digitsValue (env.exchange 1).retryAfter * 1000) (2 ^ 32 - 1) ≤ delay.toNat ↔
        digitsValue (env.exchange 1).retryAfter = 1) := by
  have connected : env.wifiConnected = true := by
    by_contra down
    rw [execute, if_pos (by simpa using down)] at second
    simp at second
  have length := retryDelays_length env espRandom connected event
  have bounds := firstDelay_bounds (espRandom 1)
  exact ⟨_, limited_delay env espRandom limited (by omega), by omega⟩

/-- A first attempt turned away for the seconds of the header, and a success. -/
private def turnedAway (header : Bytes) : NetworkEnv where
  exchange
    | 1 => { status := 429, retryAfter := header }
    | _ => { status := 200 }

theorem retryAfter_honoured_thirty :
    ∃ delay, retryDelays (turnedAway (text "30")) (fun _ => 0) = [delay] ∧
      (min (digitsValue (text "30") * 1000) (2 ^ 32 - 1) ≤ delay.toNat ↔
        digitsValue (text "30") = 1) :=
  retryAfter_honoured_iff (turnedAway (text "30")) (fun _ => 0)
    { kind := .businessEvent } (.inl rfl)
    ⟨rfl, rfl, rfl⟩ (by decide +kernel) (by decide +kernel)

/-- Half a minute named in the header, and the second attempt follows after a second. -/
theorem retryAfter_ignored :
    RateLimited ((turnedAway (text "30")).exchange 1) ∧
      (execute (turnedAway (text "30")) { kind := .businessEvent }).attempts = 2 ∧
      ∃ delay, retryDelays (turnedAway (text "30")) (fun _ => 0) = [delay] ∧
        delay.toNat < min (digitsValue (text "30") * 1000) (2 ^ 32 - 1) :=
  ⟨⟨rfl, rfl, rfl⟩, by decide +kernel, 1000, by decide +kernel, by decide +kernel⟩

/-- Were the header kept, the wait it names would be honoured up to the largest number of
seconds whose milliseconds fit in 32 bits; past it the product wraps. -/
theorem namedDelay_iff (attempt : Nat) (random : UInt32) (value : Nat) (named : 1 ≤ value) :
    let outcome : HttpOutcome :=
      { errorCode := text "API_RATE_LIMITED", retryAfterS := UInt32.ofNat (min (2 ^ 31 - 1) value) }
    min (value * 1000) (2 ^ 32 - 1) ≤ (retryDelayMs outcome attempt random).toNat ↔
      value ≤ 4294967 := by
  intro outcome
  have seconds : outcome.retryAfterS.toNat = min (2 ^ 31 - 1) value := by
    rw [UInt32.toNat_ofNat', Nat.mod_eq_of_lt (by omega)]
  have positive : outcome.retryAfterS > 0 := by
    rw [gt_iff_lt, UInt32.lt_iff_toNat_lt, seconds]
    simp
    omega
  have product : (outcome.retryAfterS * 1000).toNat = min (2 ^ 31 - 1) value * 1000 % 2 ^ 32 := by
    rw [UInt32.toNat_mul, seconds]
    rfl
  rw [retryDelayMs, if_pos ⟨rfl, positive⟩, product]
  constructor
  · intro honoured
    by_contra large
    omega
  · intro small
    rw [Nat.min_eq_right (by omega : value ≤ 2 ^ 31 - 1)]
    omega

end Kiosk.Network
