import Kiosk.Runtime.WifiRecovery
import Kiosk.Runtime.KioskRuntime

/-! The overlay flag against the screens that it stands for, over every run of key events,
ticks and restarts. -/
namespace Kiosk.Runtime

open Library Library.TransitionSystem Protocol Network

/-- What happens to the controller: a key, a pass of the loop, a reset from outside, or
the `wifi:` command of the serial console. -/
inductive RecoveryStep where
  | keyDown (now : UInt32) (key : UInt8) (timestampMs : UInt32)
  | keyUp (now : UInt32) (key : UInt8)
  | tick (input : PortalPoll)
  | restart (now : UInt32)
  | setWifi (now : UInt32) (ssid : Bytes)
  deriving DecidableEq, Repr

namespace WifiRecoveryController

def step (c : WifiRecoveryController) : RecoveryStep → WifiRecoveryController
  | .keyDown now key timestampMs => c.handleLocalEvent now (.keyDown key timestampMs)
  | .keyUp now key => c.handleLocalEvent now (.keyUp key)
  | .tick input => c.tick input
  | .restart now => boot c.wifiSsid now
  | .setWifi now ssid => if ssid = [] then c else boot ssid now

/-- The menu, the device information or the portal is shown. -/
def shown (c : WifiRecoveryController) : Bool :=
  c.menuActive || c.deviceInfoActive || c.portal.active

/-- The flag is up exactly when an overlay is shown, and the runtime, which reads the flag
first, then leaves every key to the overlay. -/
def Guarded (c : WifiRecoveryController) : Prop :=
  (c.recoveryOverlayActive = true ↔ c.shown = true) ∧
    ∀ (k : KioskRuntime) (env : LoopEnv) (key : UInt8),
        env.recoveryOverlayActive = c.recoveryOverlayActive →
      c.shown = true → k.handleKeyDown env key = k

/-- The device starts without a stored network: on a reset, or by `5` in the menu. -/
def BootsBare (c : WifiRecoveryController) : RecoveryStep → Prop
  | .restart _ => c.wifiSsid = []
  | .keyDown _ key _ =>
    c.wifiSsid = [] ∧ key = 53 ∧ c.menuActive = true ∧ c.deviceInfoActive = false ∧
      c.portal.active = false
  | _ => False

instance (c : WifiRecoveryController) (input : RecoveryStep) : Decidable (c.BootsBare input) := by
  unfold BootsBare
  cases input <;> infer_instance

/-- The flag agrees with the screens, and no two of them are shown at once. -/
structure Agreed (c : WifiRecoveryController) : Prop where
  flag : c.recoveryOverlayActive = c.shown
  portal : c.portal.active = true → c.menuActive = false ∧ c.deviceInfoActive = false
  info : c.deviceInfoActive = true → c.menuActive = false ∧ c.starHeld = false

variable {c : WifiRecoveryController} {now : UInt32}

theorem Agreed.guarded (agreed : Agreed c) : c.Guarded := by
  refine ⟨by rw [agreed.flag], fun k env key same shown => ?_⟩
  simp [KioskRuntime.handleKeyDown, same, agreed.flag, shown]

theorem boot_agreed {ssid : Bytes} (named : ssid ≠ []) : Agreed (boot ssid now) := by
  simp only [boot, named, if_false]
  exact ⟨rfl, by simp, by simp⟩

/-- The portal of a bare boot comes up without the flag. -/
theorem boot_bare_not_guarded : ¬ (boot [] now).Guarded := by
  intro guarded
  have shown : (boot [] now).shown = true := by simp [boot, shown, WifiSetupPortal.start_active]
  exact Bool.false_ne_true (guarded.1.mpr shown)

theorem handleMenuSelection_agreed (agreed : Agreed c) (closed : c.portal.active = false)
    (info : c.deviceInfoActive = false) (menu : c.menuActive = true) (key : UInt8)
    (stored : key = 53 → c.wifiSsid ≠ []) : Agreed (c.handleMenuSelection now key) := by
  have flag : c.recoveryOverlayActive = true := by rw [agreed.flag, shown, menu]; rfl
  unfold handleMenuSelection
  simp only
  split
  · exact ⟨by simp [exitMenuToCurrentState, shown, closed, info],
      by simp [exitMenuToCurrentState, closed], by simp [exitMenuToCurrentState, info]⟩
  · exact ⟨by simp [shown, closed, info], by simp [closed], by simp [info]⟩
  · exact ⟨by simp [shown, WifiSetupPortal.start_active, flag], by simp [info], by simp [info]⟩
  · exact ⟨by simp [exitMenuToCurrentState, shown, closed, info],
      by simp [exitMenuToCurrentState, closed], by simp [exitMenuToCurrentState, info]⟩
  · exact boot_agreed (stored rfl)
  · exact ⟨by simp [shown, flag], by simp [closed], by simp⟩
  · exact ⟨by simp [shown, flag, menu], by simp [closed], by simp [info]⟩

theorem keyDown_agreed (agreed : Agreed c) (key : UInt8) (timestampMs : UInt32)
    (stored : ¬ c.BootsBare (.keyDown now key timestampMs)) :
    Agreed (c.handleLocalEvent now (.keyDown key timestampMs)) := by
  unfold handleLocalEvent
  simp only
  split
  · exact agreed
  rename_i closed
  have closed := Bool.not_eq_true _ ▸ closed
  split
  · rename_i info
    refine ⟨?_, by simp [closed], nofun⟩
    rw [agreed.flag]
    simp [shown, info]
  rename_i info
  have info := Bool.not_eq_true _ ▸ info
  split
  · rename_i selected
    refine handleMenuSelection_agreed agreed closed info selected.1 key fun five bare => stored ?_
    exact ⟨bare, five, selected.1, info, closed⟩
  split
  · exact agreed
  · exact ⟨agreed.flag, agreed.portal, by simp [info]⟩

theorem keyUp_agreed (agreed : Agreed c) (now : UInt32) (key : UInt8) :
    Agreed (c.handleLocalEvent now (.keyUp key)) := by
  unfold handleLocalEvent
  simp only
  split
  · exact agreed
  split
  · exact agreed
  · exact ⟨agreed.flag, agreed.portal, fun info => ⟨(agreed.info info).1, rfl⟩⟩

theorem tick_agreed (agreed : Agreed c) (input : PortalPoll) : Agreed (c.tick input) := by
  by_cases active : c.portal.active = true
  · obtain ⟨menu, info⟩ := agreed.portal active
    cases WifiSetupPortal.poll_outcome active input with
    | stays next polled open_ =>
      simp only [tick, active, if_true, polled, open_]
      exact ⟨by rw [agreed.flag]; simp [shown, active, open_], fun _ => ⟨menu, info⟩, agreed.info⟩
    | ends next polled inactive =>
      simp only [tick, active, if_true, polled, inactive, Bool.false_eq_true, if_false,
        handleLocalEvent]
      exact ⟨by simp [shown, menu, info, inactive], by simp [inactive], agreed.info⟩
    | restarts ssid named polled =>
      simp only [tick, active, if_true, polled]
      exact boot_agreed named
  have closed := Bool.not_eq_true _ ▸ active
  by_cases resting : c.menuActive = true ∨ c.starHeld = false
  · rwa [tick_resting ⟨closed, resting⟩]
  obtain ⟨menu, held⟩ := not_or.mp resting
  have info : c.deviceInfoActive = false :=
    Bool.eq_false_iff.mpr fun info => held (agreed.info info).2
  rw [tick_timed ⟨closed, Bool.eq_false_iff.mpr menu, Bool.not_eq_false _ ▸ held, rfl⟩]
  split
  · exact ⟨by simp [shown, WifiSetupPortal.start_active], by simp [info], by simp [info]⟩
  split
  · exact ⟨by simp [enterMenu, shown], by simp [enterMenu, closed], by simp [enterMenu, info]⟩
  · exact ⟨agreed.flag, agreed.portal, agreed.info⟩

/-- Only a bare boot takes the flag from the screens. -/
theorem step_agreed (agreed : Agreed c) (input : RecoveryStep) (stored : ¬ c.BootsBare input) :
    Agreed (c.step input) := by
  cases input with
  | keyDown now key timestampMs => exact keyDown_agreed agreed key timestampMs stored
  | keyUp now key => exact keyUp_agreed agreed now key
  | tick input => exact tick_agreed agreed input
  | restart now => exact boot_agreed stored
  | setWifi now ssid =>
    rw [step]
    split
    · exact agreed
    · rename_i named
      exact boot_agreed named

theorem step_bare {input : RecoveryStep} (bare : c.BootsBare input) :
    ∃ now, c.step input = boot [] now := by
  cases input with
  | keyDown now key timestampMs =>
    obtain ⟨empty, rfl, menu, info, closed⟩ := bare
    exact ⟨now, by simp [step, handleLocalEvent, handleMenuSelection, menu, info, closed, empty]⟩
  | restart now => exact ⟨now, by rw [step, show c.wifiSsid = [] from bare]⟩
  | keyUp | tick | setWifi => exact bare.elim

/-- Over any run the flag goes with the screens, and no key of an overlay reaches the
business behind it, exactly when the device never starts without a stored network. -/
theorem overlay_guarded_iff (ssid : Bytes) (now : UInt32) (inputs : List RecoveryStep) :
    (∀ before, before <+: inputs → (run step (boot ssid now) before).Guarded) ↔
      ssid ≠ [] ∧ Along step (fun c input => ¬ c.BootsBare input) (boot ssid now) inputs := by
  by_cases bare : ssid = []
  · refine iff_of_false (fun guarded => ?_) fun named => named.1 bare
    rw [bare] at guarded
    exact boot_bare_not_guarded (guarded [] List.nil_prefix)
  · rw [and_iff_right bare]
    refine reached_iff_along (boot_agreed bare)
      (fun c input agreed stored => step_agreed agreed input stored)
      (fun c => Agreed.guarded) fun c input _ boots => ?_
    obtain ⟨later, starts⟩ := step_bare (not_not.mp boots)
    rw [starts]
    exact boot_bare_not_guarded

/-- A new board: the portal is up, the flag is down, and a digit goes to the business. -/
theorem overlay_not_guarded_bare :
    (boot [] 0).shown = true ∧ (boot [] 0).recoveryOverlayActive = false ∧
      ∀ (k : KioskRuntime) (env : LoopEnv),
          env.recoveryOverlayActive = (boot [] 0).recoveryOverlayActive →
        k.handleKeyDown env 49 = k.handleBusinessKey env 49 :=
  ⟨by decide, by decide, fun k env down => by
    rw [KioskRuntime.handleKeyDown, down]
    exact if_pos (by decide)⟩

end WifiRecoveryController

end Kiosk.Runtime
