import Kiosk.Library.KeySearch

/-! `network/wifi_manager.cpp`. The radio is what the manager asks of it; whether
`WiFi.status()` is `WL_CONNECTED` is an input of a poll. -/
namespace Kiosk.Network

open Library Library.KeySearch

def wifiConnectTimeoutMs : UInt32 := 15000
def kRetryCooldownMs : UInt32 := 10000

inductive WifiState where
  | disconnected
  | connecting
  | connected
  deriving DecidableEq, Repr

def stateName : WifiState → Bytes
  | .disconnected => text "DISCONNECTED"
  | .connecting => text "CONNECTING"
  | .connected => text "CONNECTED"

/-- What a call does to the radio and on the bus. -/
inductive WifiEffect where
  | modeSta
  | setSleepFalse
  | begin (ssid password : Bytes)
  | disconnect
  | publish (stateText : Bytes) (timestampMs : UInt32)
  deriving DecidableEq, Repr

structure WifiManager where
  state : WifiState := .disconnected
  ssid : Bytes := []
  password : Bytes := []
  connectStartedMs : UInt32 := 0
  nextRetryMs : UInt32 := 0
  reconnectCount : UInt32 := 0
  everConnected : Bool := false
  deriving DecidableEq, Repr

namespace WifiManager

def setState (m : WifiManager) (now : UInt32) (newState : WifiState) :
    WifiManager × List WifiEffect :=
  if newState = m.state then (m, [])
  else
    let m := { m with state := newState }
    let m :=
      if newState = .connected then
        if m.everConnected then { m with reconnectCount := m.reconnectCount + 1 }
        else { m with everConnected := true }
      else m
    (m, [.publish (stateName newState) now])

def begin (m : WifiManager) (now : UInt32) (ssid password : Bytes) :
    WifiManager × List WifiEffect :=
  let m := { m with ssid, password }
  if m.ssid = [] then (m, [])
  else
    let (m, published) := { m with connectStartedMs := now }.setState now .connecting
    (m, [.modeSta, .setSleepFalse, .begin m.ssid m.password] ++ published)

/-- `now` is the clock a poll compares with, `settled` the clock once it has acted. -/
def poll (m : WifiManager) (now settled : UInt32) (linkUp : Bool) : WifiManager × List WifiEffect :=
  if m.ssid = [] then (m, [])
  else match m.state with
    | .connecting =>
      if linkUp then m.setState settled .connected
      else if now - m.connectStartedMs > wifiConnectTimeoutMs then
        let (m, published) := m.setState settled .disconnected
        ({ m with nextRetryMs := settled + kRetryCooldownMs }, .disconnect :: published)
      else (m, [])
    | .connected =>
      if !linkUp then
        let (m, published) := m.setState settled .disconnected
        ({ m with nextRetryMs := settled + kRetryCooldownMs }, published)
      else (m, [])
    | .disconnected =>
      if now ≥ m.nextRetryMs then
        let (m, published) := { m with connectStartedMs := settled }.setState settled .connecting
        (m, .begin m.ssid m.password :: published)
      else (m, [])

def forceReconnect (m : WifiManager) (now : UInt32) : WifiManager × List WifiEffect :=
  let (m, published) := m.setState now .disconnected
  ({ m with nextRetryMs := now }, .disconnect :: published)

@[simp] theorem setState_ssid (m : WifiManager) : (m.setState now newState).1.ssid = m.ssid := by
  grind [setState]

@[simp] theorem setState_password (m : WifiManager) :
    (m.setState now newState).1.password = m.password := by
  grind [setState]

@[simp] theorem setState_state (m : WifiManager) :
    (m.setState now newState).1.state = newState := by
  grind [setState]

@[simp] theorem begin_not_mem_setState (m : WifiManager) (name key : Bytes) :
    .begin name key ∉ (m.setState now newState).2 := by
  grind [setState]

/-- A poll that finds the link lost, or the attempt timed out. -/
def Notices (m : WifiManager) (now settled : UInt32) (linkUp : Bool) : Prop :=
  m.state ≠ .disconnected ∧ (m.poll now settled linkUp).1.state = .disconnected

/-- A poll that asks the radio to connect with the stored credentials. -/
def StartsAttempt (m : WifiManager) (now settled : UInt32) (linkUp : Bool) : Prop :=
  .begin m.ssid m.password ∈ (m.poll now settled linkUp).2

instance (m : WifiManager) : Decidable (m.Notices now settled linkUp) :=
  inferInstanceAs (Decidable (_ ∧ _))

instance (m : WifiManager) : Decidable (m.StartsAttempt now settled linkUp) :=
  inferInstanceAs (Decidable (_ ∈ _))

/-- A manager that waits for its next attempt. -/
structure Waiting (m : WifiManager) (deadline : UInt32) : Prop where
  configured : m.ssid ≠ []
  idle : m.state = .disconnected
  stored : m.nextRetryMs = deadline

theorem Notices.waiting {m : WifiManager} (notices : m.Notices now settled linkUp) :
    (m.poll now settled linkUp).1.Waiting (settled + kRetryCooldownMs) := by
  obtain ⟨busy, idle⟩ := notices
  have configured : m.ssid ≠ [] := by
    intro empty
    rw [poll, if_pos empty] at idle
    exact busy idle
  revert idle
  rw [poll, if_neg configured]
  cases state : m.state with
  | disconnected => exact absurd state busy
  | connecting =>
    dsimp only
    split
    · simp
    split
    · exact fun _ => ⟨by simpa using configured, by simp, rfl⟩
    · simp [state]
  | connected =>
    dsimp only
    split
    · exact fun _ => ⟨by simpa using configured, by simp, rfl⟩
    · simp [state]

theorem Waiting.startsAttempt_iff {m : WifiManager} {deadline : UInt32}
    (waiting : m.Waiting deadline) :
    m.StartsAttempt now settled linkUp ↔ deadline ≤ now := by
  rw [StartsAttempt, poll, if_neg waiting.configured, waiting.idle]
  simp only [waiting.stored, ge_iff_le]
  split
  · rename_i due
    simp [due]
  · rename_i early
    simp [early]

/-- A deadline and a later clock value compare as the times they stand for exactly when both
or neither have passed the wrap. -/
theorem deadline_exact_iff (clock wait : UInt32) (elapsed : Nat) (waitSmall : wait.toNat < 2 ^ 31)
    (small : elapsed < 2 ^ 31) :
    (clock + wait ≤ clock + UInt32.ofNat elapsed ↔ wait.toNat ≤ elapsed) ↔
      (clock.toNat + elapsed < 2 ^ 32 ↔ clock.toNat + wait.toNat < 2 ^ 32) := by
  have bound := clock.toNat_lt
  rw [UInt32.le_iff_toNat_le, UInt32.toNat_add, UInt32.toNat_add, UInt32.toNat_ofNat',
    Nat.mod_eq_of_lt (by omega : elapsed < 2 ^ 32)]
  omega

/-- The retry comes after the cooldown and not before it exactly where the poll's clock has
wrapped since the loss if and only if the deadline has. -/
theorem startsAttempt_after_cooldown_iff (m : WifiManager) (now noticedAt : UInt32) (linkUp : Bool)
    (notices : m.Notices now noticedAt linkUp) (elapsed : Nat) (small : elapsed < 2 ^ 31)
    (settled : UInt32) (linkUpLater : Bool) :
    ((m.poll now noticedAt linkUp).1.StartsAttempt (noticedAt + UInt32.ofNat elapsed) settled
        linkUpLater ↔
        10000 ≤ elapsed) ↔
      (noticedAt.toNat + elapsed < 2 ^ 32 ↔ noticedAt.toNat + 10000 < 2 ^ 32) := by
  rw [notices.waiting.startsAttempt_iff]
  exact deadline_exact_iff noticedAt kRetryCooldownMs elapsed (by decide) small

private def online : WifiManager where
  state := .connected
  ssid := text "plant"
  everConnected := true

theorem startsAttempt_after_cooldown_online :
    online.Notices 1000 1000 false ∧
      (((online.poll 1000 1000 false).1.StartsAttempt (1000 + UInt32.ofNat 10000) 11000 false ↔
        10000 ≤ 10000) ↔
        ((1000 : UInt32).toNat + 10000 < 2 ^ 32 ↔ (1000 : UInt32).toNat + 10000 < 2 ^ 32)) :=
  ⟨by decide, startsAttempt_after_cooldown_iff online 1000 1000 false (by decide) 10000 (by decide)
    11000 false⟩

/-- A link lost five seconds before the wrap is retried a millisecond later; lost twenty
seconds before it, it is not retried half a minute later. -/
theorem startsAttempt_at_wrap :
    (online.Notices 4294962296 4294962296 false ∧
        (online.poll 4294962296 4294962296 false).1.StartsAttempt (4294962296 + UInt32.ofNat 1)
          4294962297 false) ∧
      online.Notices 4294947296 4294947296 false ∧
        ¬ (online.poll 4294947296 4294947296 false).1.StartsAttempt
          (4294947296 + UInt32.ofNat 30000) 10000 false := by
  decide +kernel

end WifiManager
end Kiosk.Network
