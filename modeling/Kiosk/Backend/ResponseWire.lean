import Kiosk.Backend.EventServer
import Kiosk.Backend.SnapshotWire
import Kiosk.Protocol.EventResponse

/-! The bodies the backend answers events with, and what the device takes their verdict to
be. -/
namespace Kiosk.Backend

open Library Library.KeySearch Protocol

def keyAccepted : Key := wireKey "accepted" (by decide) (by decide)
def keyCode : Key := wireKey "code" (by decide) (by decide)
def keyMessage : Key := wireKey "message" (by decide) (by decide)

def Response.accepted : Response → Bool
  | .outcome accepted _ _ _ _ => accepted
  | _ => false

/-- A member behind others. -/
def field (name : String) (value : Bytes) : Bytes :=
  text ", \"" ++ text name ++ text "\": " ++ value

def errorCodeField (code : String) : Bytes :=
  field "error" (dumpsObject [(keyCode, .string (chars code))])

def eventIdField (eventId : Option PyStr) : Bytes :=
  field "event_id" (dumpsValue (stringOrNull eventId))

/-- What `json.dumps` writes behind `accepted`. -/
def Response.fields : Response → Bytes
  | .decodeFailed => errorCodeField "PROTOCOL_DECODE_FAILED"
  | .unsupportedVersion => errorCodeField "PROTOCOL_UNSUPPORTED_VERSION"
  | .reuseMismatch eventId =>
    eventIdField eventId ++ errorCodeField "IDEMPOTENCY_KEY_REUSE_MISMATCH"
  | .conflict eventId currentStateVersion serverSeq =>
    eventIdField eventId ++ errorCodeField "STATE_CONFLICT" ++
      field "action" (dumpsValue (.string (chars "RESYNC"))) ++
    field "current_state_version" (decimal currentStateVersion) ++
      field "server_seq" (decimal serverSeq)
  | .outcome _ eventId serverSeq sent error =>
    eventIdField eventId ++ field "server_seq" (decimal serverSeq) ++
    field "state" (dumpsObject (stateMembers sent)) ++
      field "workflow" (dumpsObject (workflowMembers sent)) ++
    field "view" (dumpsObject (viewMembers sent.view)) ++
    match error with
    | none => []
    | some (code, message) =>
      field "error" (dumpsObject [(keyCode, .string code), (keyMessage, .string message)])

/-- How every body begins. -/
def opening (accepted : Bool) : Bytes :=
  text "\x7b\"accepted\": " ++ if accepted then text "true" else text "false"

def dumpsResponse (response : Response) : Bytes :=
  opening response.accepted ++ (response.fields ++ text "\x7d")

/-- The first member is the one the device finds. -/
theorem jsonExtractBool_opening (accepted : Bool) (rest : Bytes) :
    jsonExtractBool (opening accepted ++ rest) (text "accepted") false = accepted := by
  have start : findValueStart (opening accepted ++ rest) keyAccepted.bytes =
      some (32 :: ((if accepted then text "true" else text "false") ++ rest)) := by
    have spelled : opening accepted ++ rest = 123 :: quote :: (keyAccepted.bytes ++
        quote :: colon :: 32 :: ((if accepted then text "true" else text "false") ++ rest)) := by
      simp [opening,
        show text "\x7b\"accepted\": " =
        123 :: quote :: (keyAccepted.bytes ++ [quote, colon, 32]) from rfl]
    rw [spelled, findValueStart]
    exact (findAfter_cons keyAccepted (by decide)).trans (findAfter_found keyAccepted)
  change jsonExtractBool (opening accepted ++ rest) keyAccepted.bytes false = accepted
  cases accepted with
  | true =>
    simp [jsonExtractBool, start, skipWs, isSpace, show text "true" = [116, 114, 117, 101] from rfl]
  | false =>
    simp [jsonExtractBool, start, skipWs, isSpace, show text "true" = [116, 114, 117, 101] from rfl,
      show text "false" = [102, 97, 108, 115, 101] from rfl]

end Kiosk.Backend
