import Kiosk.Protocol.StateProjection

/-! `event_response.cpp`: the body of a response to `/events`. -/
namespace Kiosk.Protocol

open Library Library.KeySearch

inductive EventOutcomeKind where
  | success | businessRejected | conflictResync | malformed
  deriving DecidableEq, Repr

structure EventResponse where
  kind : EventOutcomeKind := .malformed
  eventId : Bytes := []
  serverSeq : Int := -1
  errorCode : Bytes := []
  errorMessage : Bytes := []
  snapshot : StateSnapshot := {}
  currentStateVersion : UInt64 := 0
  deriving DecidableEq, Repr

/-- A member of the `error` object, empty where there is none. -/
def errorField (json key : Bytes) : Bytes :=
  let errorObj := jsonExtractObject json (text "error")
  if errorObj = [] then [] else jsonExtractString errorObj key []

/-- The response and whether it has one of the known shapes. -/
def parseEventResponseJson (json : Bytes) : EventResponse × Bool :=
  if !jsonHasKey json (text "accepted") then ({}, false)
  else
    let accepted := jsonExtractBool json (text "accepted") false
    let out : EventResponse := {
      eventId := jsonExtractString json (text "event_id") []
      serverSeq := jsonExtractInt json (text "server_seq") (-1)
      errorCode := errorField json (text "code")
      errorMessage := errorField json (text "message") }
    let action := jsonExtractString json (text "action") []
    if !accepted && out.errorCode = text "STATE_CONFLICT" && action = text "RESYNC" then
      ({ out with
         kind := .conflictResync
         currentStateVersion :=
           UInt64.ofInt (jsonExtractInt json (text "current_state_version") 0) }, true)
    else
      match parseStateSnapshotJson json with
      | none => (out, false)
      | some snapshot =>
        ({ out with
            snapshot := snapshot, kind := if accepted then .success else .businessRejected },
          true)

/-- A response with a known shape is a success exactly when it says `accepted`. -/
theorem parseEventResponse_accepted (known : (parseEventResponseJson json).1.kind ≠ .malformed) :
    (parseEventResponseJson json).1.kind = .success ↔
      jsonExtractBool json (text "accepted") false = true := by
  revert known
  unfold parseEventResponseJson
  split
  · simp
  cases jsonExtractBool json (text "accepted") false with
  | true => cases parseStateSnapshotJson json <;> simp
  | false =>
    simp only [Bool.not_false, Bool.true_and]
    cases decide (errorField json (text "code") = text "STATE_CONFLICT") &&
        decide (jsonExtractString json (text "action") [] = text "RESYNC") with
    | true => simp
    | false => cases parseStateSnapshotJson json <;> simp

end Kiosk.Protocol
