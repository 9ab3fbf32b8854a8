import Kiosk.Protocol.JsonExtract
import Kiosk.Library.TransitionSystem

/-! `network/wifi_setup_portal.cpp`: the life of the setup portal. The access point, the
name server and the pages are left out; `millis()`, the request a poll serves and the state
of the station are inputs. -/
namespace Kiosk.Network

open Library Library.KeySearch Library.TransitionSystem Protocol

def wifiRecoveryTestTimeoutMs : UInt32 := 15000
def wifiRecoveryPortalTimeoutMs : UInt32 := 720000

inductive WifiRecoveryState where
  | inactive | apActive | testing | failed
  deriving DecidableEq, Repr

/-- `String::trim`. -/
def trim (text : Bytes) : Bytes := ((text.dropWhile isSpace).reverse.dropWhile isSpace).reverse

/-- What `web_.handleClient` serves in one poll. -/
inductive PortalRequest where
  | page
  | save (ssid : Bytes)
  | cancel
  deriving DecidableEq, Repr

/-- One call of `poll`: the clock, the request served and whether the station is connected. -/
structure PortalPoll where
  now : UInt32
  request : Option PortalRequest := none
  connected : Bool := false
  deriving DecidableEq, Repr

/-- Only a network with a name is ever tested. -/
structure WifiSetupPortal where
  state : WifiRecoveryState := .inactive
  pendingSsid : Bytes := []
  lastActivityMs : UInt32 := 0
  testingStartedMs : UInt32 := 0
  named : state = .testing → pendingSsid ≠ [] := by decide

namespace WifiSetupPortal

def active (portal : WifiSetupPortal) : Bool := portal.state != .inactive

def touchActivity (portal : WifiSetupPortal) (now : UInt32) : WifiSetupPortal :=
  { portal with lastActivityMs := now }

def start (portal : WifiSetupPortal) (now : UInt32) : WifiSetupPortal :=
  if portal.active then portal
  else { portal.touchActivity now with state := .apActive, named := nofun }

def stop (portal : WifiSetupPortal) : WifiSetupPortal :=
  { portal with state := .inactive, named := nofun }

def handleSave (portal : WifiSetupPortal) (now : UInt32) (ssid : Bytes) : WifiSetupPortal :=
  let portal := portal.touchActivity now
  if empty : trim ssid = [] then portal
  else
    { portal with
      pendingSsid := trim ssid, testingStartedMs := now
      state := .testing, named := fun _ => empty }

def handleClient (portal : WifiSetupPortal) (now : UInt32) : Option PortalRequest → WifiSetupPortal
  | none => portal
  | some .page => portal.touchActivity now
  | some (.save ssid) => portal.handleSave now ssid
  | some .cancel => (portal.touchActivity now).stop

/-- What a poll leaves: the portal, or a restart into the network it stored. -/
inductive Polled where
  | goesOn (portal : WifiSetupPortal)
  | restarts (ssid : Bytes) (named : ssid ≠ [])

def poll (portal : WifiSetupPortal) (input : PortalPoll) : Polled :=
  if !portal.active then .goesOn portal
  else
    let portal := portal.handleClient input.now input.request
    if testing : portal.state = .testing then
      if input.connected then .restarts portal.pendingSsid (portal.named testing)
      else if input.now - portal.testingStartedMs > wifiRecoveryTestTimeoutMs then
        .goesOn { portal with state := .failed, named := nofun }
      else .goesOn portal
    else if input.now - portal.lastActivityMs > wifiRecoveryPortalTimeoutMs then .goesOn portal.stop
    else .goesOn portal

/-- The portal after a poll that does not restart the device. -/
def advance (portal : WifiSetupPortal) (input : PortalPoll) : WifiSetupPortal :=
  match portal.poll input with
  | .goesOn portal => portal
  | .restarts _ _ => portal

/-- A poll ends the setup: the page's cancel button, a station that joined the network
under test, or twelve minutes without a request. -/
def Closes (portal : WifiSetupPortal) (input : PortalPoll) : Prop :=
  match input.request with
  | some .cancel => True
  | some (.save ssid) => input.connected = true ∧ (trim ssid ≠ [] ∨ portal.state = .testing)
  | some .page => input.connected = true ∧ portal.state = .testing
  | none =>
    if portal.state = .testing then input.connected = true
    else input.now - portal.lastActivityMs > wifiRecoveryPortalTimeoutMs

instance (portal : WifiSetupPortal) (input : PortalPoll) : Decidable (portal.Closes input) := by
  unfold Closes
  cases input.request with
  | none => infer_instance
  | some request => cases request <;> infer_instance

/-- No poll of a run closes the portal. -/
abbrev StaysOpen (portal : WifiSetupPortal) (inputs : List PortalPoll) : Prop :=
  Along advance (fun portal input => ¬ portal.Closes input) portal inputs

variable {portal : WifiSetupPortal} {now : UInt32} {input : PortalPoll}

theorem start_active : (portal.start now).active = true := by
  unfold start
  split
  · assumption
  · rfl

theorem active_iff : portal.active = true ↔ portal.state ≠ .inactive := by simp [active]

/-- The request counts before the poll looks at the state. -/
private theorem closes_iff_served (active : portal.active = true) :
    portal.Closes input ↔
      let served := portal.handleClient input.now input.request
      served.state = .inactive ∨
        if served.state = .testing then input.connected = true
        else input.now - served.lastActivityMs > wifiRecoveryPortalTimeoutMs := by
  have running := active_iff.mp active
  unfold Closes
  cases input.request with
  | none => simp [handleClient, running]
  | some request =>
    cases request with
    | page =>
      by_cases testing : portal.state = .testing <;>
        simp [handleClient, touchActivity, running, testing]
    | save ssid =>
      by_cases empty : trim ssid = []
      · by_cases testing : portal.state = .testing <;>
          simp [handleClient, handleSave, touchActivity, running, empty, testing]
      · simp [handleClient, handleSave, empty]
    | cancel => simp [handleClient, stop]

/-- Everything a poll of an active portal can do. -/
inductive PollOutcome (portal : WifiSetupPortal) (input : PortalPoll) : Prop where
  | stays (next : WifiSetupPortal) (polled : portal.poll input = .goesOn next)
      (active : next.active = true) (stays : ¬ portal.Closes input)
  | ends (next : WifiSetupPortal) (polled : portal.poll input = .goesOn next)
      (inactive : next.active = false) (closes : portal.Closes input)
  | restarts (ssid : Bytes) (named : ssid ≠ []) (polled : portal.poll input = .restarts ssid named)
      (closes : portal.Closes input)

theorem poll_outcome (active : portal.active = true) (input : PortalPoll) :
    PollOutcome portal input := by
  let served := portal.handleClient input.now input.request
  have closes : portal.Closes input ↔ served.state = .inactive ∨ if served.state = .testing
    then input.connected = true
      else input.now - served.lastActivityMs > wifiRecoveryPortalTimeoutMs :=
        closes_iff_served active
  by_cases testing : served.state = .testing
  · rw [if_pos testing] at closes
    by_cases connected : input.connected = true
    · exact .restarts served.pendingSsid (served.named testing)
        (by simp [poll, active, served, testing, connected])
        (closes.mpr (.inr connected))
    · have stays : ¬ portal.Closes input := fun closed =>
        (closes.mp closed).elim (fun inactive => by simp [testing] at inactive) connected
      by_cases late : input.now - served.testingStartedMs > wifiRecoveryTestTimeoutMs
      · exact .stays _ (by simp [poll, active, served, testing, connected, late]; rfl) rfl stays
      · exact .stays served (by simp [poll, active, served, testing, connected, late])
          (active_iff.mpr (by simp [testing])) stays
  · rw [if_neg testing] at closes
    by_cases idle : input.now - served.lastActivityMs > wifiRecoveryPortalTimeoutMs
    · exact .ends served.stop (by simp [poll, active, served, testing, idle]) rfl
        (closes.mpr (.inr idle))
    · have polled : portal.poll input = .goesOn served := by
        simp [poll, active, served, testing, idle]
      by_cases inactive : served.state = .inactive
      · exact .ends served polled (by simp [WifiSetupPortal.active, inactive])
          (closes.mpr (.inl inactive))
      · exact .stays served polled (active_iff.mpr inactive) fun closed =>
          (closes.mp closed).elim inactive idle

end WifiSetupPortal

end Kiosk.Network
