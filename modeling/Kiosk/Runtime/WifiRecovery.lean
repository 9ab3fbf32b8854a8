import Kiosk.Network.WifiSetupPortal

/-! `runtime/wifi_recovery_controller.cpp` with the flag of `recovery_overlay.h` and the boot
of `setup` that concerns it. Drawing and the callbacks of the menu are left out. -/
namespace Kiosk.Runtime

open Library Library.TransitionSystem Protocol Network

def recoveryMenuHoldMs : UInt32 := 5000
def wifiRecoveryHoldMs : UInt32 := 10000

/-- The bus events that the controller acts on. The portal publishes its states
synchronously; all but `INACTIVE` are only drawn. -/
inductive RecoveryEvent where
  | keyDown (key : UInt8) (timestampMs : UInt32)
  | keyUp (key : UInt8)
  | portalInactive
  deriving DecidableEq, Repr

structure WifiRecoveryController where
  starHeld : Bool := false
  starDownMs : UInt32 := 0
  lastShownSeconds : Int := -1
  menuActive : Bool := false
  deviceInfoActive : Bool := false
  portal : WifiSetupPortal := {}
  recoveryOverlayActive : Bool := false
  /-- What `ConfigStore` holds; it outlives a restart. -/
  wifiSsid : Bytes

namespace WifiRecoveryController

/-- The end of `setup`. -/
def boot (wifiSsid : Bytes) (now : UInt32) : WifiRecoveryController :=
  let c : WifiRecoveryController := { wifiSsid }
  if wifiSsid = [] then { c with portal := c.portal.start now } else c

def enterMenu (c : WifiRecoveryController) : WifiRecoveryController :=
  { c with menuActive := true, recoveryOverlayActive := true }

def exitMenuToCurrentState (c : WifiRecoveryController) : WifiRecoveryController :=
  { c with menuActive := false, recoveryOverlayActive := c.portal.active }

/-- The digits `1` to `6`. -/
def handleMenuSelection (c : WifiRecoveryController) (now : UInt32) (key : UInt8) :
    WifiRecoveryController :=
  let c := { c with starHeld := false, lastShownSeconds := -1 }
  match key with
  | 49 => c.exitMenuToCurrentState
  | 50 => { c with menuActive := false, recoveryOverlayActive := c.portal.active }
  | 51 => { c with menuActive := false, portal := c.portal.start now }
  | 52 => c.exitMenuToCurrentState
  | 53 => boot c.wifiSsid now
  | 54 => { c with menuActive := false, deviceInfoActive := true }
  | _ => c

/-- `now` is what `millis()` returns when the handler asks for it. -/
def handleLocalEvent (c : WifiRecoveryController) (now : UInt32) :
    RecoveryEvent → WifiRecoveryController
  | .keyDown key timestampMs =>
    if c.portal.active then c
    else if c.deviceInfoActive then { c with deviceInfoActive := false, menuActive := true }
    else if c.menuActive ∧ 49 ≤ key ∧ key ≤ 54 then c.handleMenuSelection now key
    else if key ≠ 42 then c
    else { c with starHeld := true, starDownMs := timestampMs, lastShownSeconds := -1 }
  | .keyUp key =>
    if c.portal.active then c
    else if key ≠ 42 then c
    else { c with starHeld := false, lastShownSeconds := -1 }
  | .portalInactive => { c with recoveryOverlayActive := false }

def tick (c : WifiRecoveryController) (input : PortalPoll) : WifiRecoveryController :=
  if c.portal.active then
    match c.portal.poll input with
    | .goesOn portal =>
      if portal.active then { c with portal }
        else { c with portal }.handleLocalEvent input.now .portalInactive
    | .restarts ssid _ => boot ssid input.now
  else if c.menuActive then c
  else if !c.starHeld then c
  else
    let heldMs := input.now - c.starDownMs
    if heldMs ≥ wifiRecoveryHoldMs then
      { c with
        starHeld := false, menuActive := false, recoveryOverlayActive := true, portal :=
          c.portal.start input.now }
    else if heldMs ≥ recoveryMenuHoldMs ∧ c.menuActive = false then c.enterMenu
    else
      let secondsHeld := (heldMs / 1000).toNat
      { c with lastShownSeconds := if secondsHeld < 3 then 0 else secondsHeld }

/-- No menu, device information or portal is shown. -/
def Clear (c : WifiRecoveryController) : Prop :=
  c.menuActive = false ∧ c.deviceInfoActive = false ∧ c.portal.active = false

instance (c : WifiRecoveryController) : Decidable c.Clear := by
  unfold Clear
  infer_instance

/-- `*` went down at `down` and the hold is still being timed. -/
structure Holding (c : WifiRecoveryController) (down : UInt32) : Prop where
  closed : c.portal.active = false
  menu : c.menuActive = false
  held : c.starHeld = true
  since : c.starDownMs = down

/-- Nothing but a key wakes the controller. -/
structure Resting (c : WifiRecoveryController) : Prop where
  closed : c.portal.active = false
  idle : c.menuActive = true ∨ c.starHeld = false

/-- The portal has taken the hold over. -/
structure Recovering (c : WifiRecoveryController) : Prop where
  active : c.portal.active = true
  released : c.starHeld = false

variable {c : WifiRecoveryController} {down : UInt32} {input : PortalPoll}
  {inputs : List PortalPoll}

theorem tick_resting (resting : Resting c) : c.tick input = c := by
  rcases resting.idle with menu | released
  · simp [tick, resting.closed, menu]
  · simp [tick, resting.closed, released]

theorem run_resting (resting : Resting c) : run tick c inputs = c := by
  induction inputs with
  | nil => rfl
  | cons input rest ih => rw [run_cons, tick_resting resting, ih]

theorem tick_timed (holding : Holding c down) : c.tick input =
    if input.now - down ≥ wifiRecoveryHoldMs then
      { c with
        starHeld := false, menuActive := false, recoveryOverlayActive := true, portal :=
          c.portal.start input.now }
    else if input.now - down ≥ recoveryMenuHoldMs then c.enterMenu
    else
      let secondsHeld := ((input.now - down) / 1000).toNat
      { c with lastShownSeconds := if secondsHeld < 3 then 0 else secondsHeld } := by
  simp [tick, holding.closed, holding.menu, holding.held, holding.since]

/-- What the tick of a hold does is decided by how long `*` has been down. -/
theorem tick_holding (holding : Holding c down) (input : PortalPoll) :
    if input.now - down < recoveryMenuHoldMs
      then Holding (c.tick input) down ∧ (c.tick input).portal = c.portal
    else if input.now - down < wifiRecoveryHoldMs then Resting (c.tick input)
    else Recovering (c.tick input) ∧ (c.tick input).portal = c.portal.start input.now := by
  rw [tick_timed holding]
  split
  · rename_i short
    have menu : ¬ input.now - down ≥ recoveryMenuHoldMs := UInt32.not_le.mpr short
    have early : ¬ input.now - down ≥ wifiRecoveryHoldMs :=
      fun long => menu (UInt32.le_trans (by decide) long)
    rw [if_neg early, if_neg menu]
    exact ⟨⟨holding.closed, holding.menu, holding.held, holding.since⟩, rfl⟩
  · rename_i menu
    split
    · rename_i early
      rw [if_neg (UInt32.not_le.mpr early), if_pos (UInt32.not_lt.mp menu)]
      exact ⟨holding.closed, .inl rfl⟩
    · rename_i long
      rw [if_pos (UInt32.not_lt.mp long)]
      exact ⟨⟨WifiSetupPortal.start_active, rfl⟩, rfl⟩

/-- A portal that closes leaves nothing running; with credentials no restart opens it again. -/
theorem tick_recovering (recovering : Recovering c) (input : PortalPoll) :
    if c.portal.Closes input then Resting (c.tick input)
    else Recovering (c.tick input) ∧ (c.tick input).portal = c.portal.advance input := by
  cases WifiSetupPortal.poll_outcome recovering.active input with
  | stays next polled active stays =>
    rw [if_neg stays]
    simp only [tick, recovering.active, if_true, polled, active, WifiSetupPortal.advance]
    exact ⟨⟨active, recovering.released⟩, trivial⟩
  | ends next polled inactive closes =>
    rw [if_pos closes]
    simp only [tick, recovering.active, if_true, polled, inactive, Bool.false_eq_true, if_false]
    exact ⟨inactive, .inr recovering.released⟩
  | restarts ssid named polled closes =>
    rw [if_pos closes]
    simp only [tick, recovering.active, if_true, polled, boot, named, if_false]
    exact ⟨rfl, .inr rfl⟩

theorem run_recovering (recovering : Recovering c) :
    (run tick c inputs).portal.active = true ↔ c.portal.StaysOpen inputs := by
  induction inputs generalizing c with
  | nil => exact iff_of_true recovering.active trivial
  | cons input rest ih =>
    have outcome := tick_recovering recovering input
    rw [run_cons, WifiSetupPortal.StaysOpen, Along]
    split at outcome
    · rename_i closes
      rw [run_resting outcome, outcome.closed]
      exact iff_of_false Bool.false_ne_true fun stays => stays.1 closes
    · rename_i stays
      rw [ih outcome.1, outcome.2]
      exact (and_iff_right stays).symm

/-- Up to the first tick ten seconds after `down` none comes after the first five, and no
tick after that one closes the portal it opens. -/
def HeldThrough (portal : WifiSetupPortal) (down : UInt32) (inputs : List PortalPoll) : Prop :=
  (∀ input ∈ inputs.takeWhile (fun input => input.now - down < wifiRecoveryHoldMs),
    input.now - down < recoveryMenuHoldMs) ∧
  match inputs.dropWhile (fun input => input.now - down < wifiRecoveryHoldMs) with
  | [] => True
  | opening :: rest => (portal.start opening.now).StaysOpen rest

theorem run_holding (holding : Holding c down)
    (long : ∃ input ∈ inputs, wifiRecoveryHoldMs ≤ input.now - down) :
    (run tick c inputs).portal.active = true ↔ HeldThrough c.portal down inputs := by
  induction inputs generalizing c with
  | nil => obtain ⟨_, member, _⟩ := long; cases member
  | cons input rest ih =>
    have outcome := tick_holding holding input
    rw [run_cons, HeldThrough]
    split at outcome
    · rename_i short
      have early : input.now - down < wifiRecoveryHoldMs := UInt32.lt_trans short (by decide)
      have later : ∃ input ∈ rest, wifiRecoveryHoldMs ≤ input.now - down := by
        obtain ⟨other, member, long⟩ := long
        rcases List.mem_cons.mp member with rfl | member
        · exact absurd early (UInt32.not_lt.mpr long)
        · exact ⟨other, member, long⟩
      rw [ih outcome.1 later, outcome.2, HeldThrough]
      simp [early, short]
    · rename_i menu
      split at outcome
      · rename_i early
        rw [run_resting outcome, outcome.closed]
        refine iff_of_false Bool.false_ne_true fun through => menu (through.1 input ?_)
        simp [early]
      · rename_i open_
        rw [run_recovering outcome.1, outcome.2]
        simp [open_]

/-- Ten seconds of `*` end in the portal, whatever the ticks, exactly when no tick opens
the menu on the way and the portal is not closed again. -/
theorem hold_reaches_portal_iff (c : WifiRecoveryController) (clear : c.Clear) (now down : UInt32)
    (inputs : List PortalPoll) (last : PortalPoll) (long : wifiRecoveryHoldMs ≤ last.now - down) :
    (run tick (c.handleLocalEvent now (.keyDown 42 down)) (inputs ++ [last])).portal.active = true ↔
      HeldThrough c.portal down (inputs ++ [last]) := by
  obtain ⟨menu, info, closed⟩ := clear
  have pressed : c.handleLocalEvent now (.keyDown 42 down) =
      { c with starHeld := true, starDownMs := down, lastShownSeconds := -1 } := by
    simp [handleLocalEvent, menu, info, closed]
  rw [pressed]
  exact run_holding ⟨closed, menu, rfl, rfl⟩ ⟨last, by simp, long⟩

/-- Two ticks within the first five seconds, then one after ten, and a visit of the page. -/
theorem hold_reaches_portal_unobserved :
    (run tick ((boot [97] 0).handleLocalEvent 1000 (.keyDown 42 1000))
      ([{ now := 5000 }, { now := 5990 }, { now := 11020 }] ++
        [{ now := 11032, request := some .page }])).portal.active =
      true :=
  (hold_reaches_portal_iff (boot [97] 0) (by decide) 1000 1000 _ _ (by decide)).mpr
    ⟨by decide, by decide, trivial⟩

/-- A tick six seconds into the hold opens the menu, and the tick at ten seconds stops there. -/
theorem hold_stuck_in_menu :
    (boot [97] 0).Clear ∧ wifiRecoveryHoldMs ≤ 10000 - 0 ∧
      (run tick ((boot [97] 0).handleLocalEvent 0 (.keyDown 42 0))
          ([{ now := 6000 }] ++ [{ now := 10000 }])).portal.active =
        false ∧
      (run tick ((boot [97] 0).handleLocalEvent 0 (.keyDown 42 0))
          ([{ now := 6000 }] ++ [{ now := 10000 }])).menuActive =
        true := by
  decide

end WifiRecoveryController

end Kiosk.Runtime
