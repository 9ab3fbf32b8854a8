import Kiosk.Protocol.JsonExtract

/-! `retry_policy.cpp`: what one attempt's status means. -/
namespace Kiosk.Protocol

open Library Library.KeySearch

structure HttpOutcome where
  ok : Bool := false
  httpStatus : Int := 0
  errorCode : Bytes := []
  retryable : Bool := false
  retryAfterS : UInt32 := 0
  deriving DecidableEq, Repr

def kDnsFailMarker : Int := -1000
def kResponseTooLargeMarker : Int := -1001

/-- `retryAfterHeaderS` is negative where no header was read. -/
def classifyHttpResult (rawStatus retryAfterHeaderS : Int) : HttpOutcome :=
  let httpStatus := if rawStatus > 0 then rawStatus else 0
  if 200 ≤ rawStatus ∧ rawStatus < 300 then { ok := true, httpStatus := httpStatus }
  else if rawStatus = kResponseTooLargeMarker then
    { httpStatus := httpStatus, errorCode := text "RESPONSE_TOO_LARGE" }
  else if rawStatus ≤ 0 then
    { httpStatus := httpStatus
      errorCode :=
        if rawStatus = kDnsFailMarker then text "DNS_FAIL"
        else if rawStatus = -11 then text "HTTP_TIMEOUT"
        else if rawStatus = -1 ∨ rawStatus = -4 ∨ rawStatus = -5 then text "TCP_CONNECT_FAIL"
        else if rawStatus = 0 then text "HTTP_TIMEOUT"
        else text "TCP_CONNECT_FAIL"
      retryable := true }
  else if rawStatus = 429 then
    { httpStatus := httpStatus
      errorCode := text "API_RATE_LIMITED"
      retryable := true
      retryAfterS := if retryAfterHeaderS ≥ 0 then UInt32.ofInt retryAfterHeaderS else 0 }
  else if 500 ≤ rawStatus ∧ rawStatus < 600 then
    { httpStatus := httpStatus, errorCode := text "HTTP_5XX", retryable := true }
  else if 400 ≤ rawStatus ∧ rawStatus < 500 then
    { httpStatus := httpStatus, errorCode := text "HTTP_4XX" }
  else { httpStatus := httpStatus, errorCode := text "PROTOCOL_INVALID_RESPONSE" }

/-- `std::strtol` of digits where `long` has 32 bits: out of range saturates. -/
def strtol (digits : Bytes) : Nat := min (2 ^ 31 - 1) (digitsValue digits)

def parseRetryAfter (headerValue : Bytes) : Option UInt32 :=
  if headerValue = [] then none
  else if headerValue.all isDigit then some (UInt32.ofNat (strtol headerValue))
  else none

theorem classify_ok (rawStatus retryAfterHeaderS : Int) :
    (classifyHttpResult rawStatus retryAfterHeaderS).ok = true ↔
      200 ≤ rawStatus ∧ rawStatus < 300 := by
  unfold classifyHttpResult
  simp only
  repeat' split
  all_goals simp_all

end Kiosk.Protocol
