import Kiosk.Library.LatestRun
import Kiosk.Network.WifiManager
import Kiosk.Runtime.DeliverySteps

/-! The network self-recovery of `loop()`: the count of events in a row that could not connect,
kept by `poll` of the runtime, and the reconnects that are forced at it. -/
namespace Kiosk.Runtime

open Library Library.KeySearch Library.LatestRun Library.TransitionSystem Network

def kNetworkStuckReconnectThreshold : UInt32 := 2
def kNetworkStuckReconnectRepeatEvery : UInt32 := 3

/-- What one pass of the loop meets of its network: the clock before and after the poll of the
Wi-Fi, the link, the recovery portal, and the result that the worker has ready. -/
structure NetworkPass where
  now : UInt32
  settled : UInt32
  linkUp : Bool := true
  portalActive : Bool := false
  result : Option NetworkResult := none
  deriving DecidableEq, Repr

/-- The Wi-Fi, the counter of the runtime and the global of the ladder; `results` notes what the
worker handed over, newest first. -/
structure NetworkRecovery where
  wifi : WifiManager := {}
  consecutiveTcpConnectFail : UInt32 := 0
  lastReconnectAtStreak : UInt32 := 0
  results : List NetworkResult := []
  deriving DecidableEq, Repr

/-- An event of which no attempt came through to the backend. -/
def connectFails (result : NetworkResult) : Bool :=
  !result.outcome.ok && result.outcome.errorCode = text "TCP_CONNECT_FAIL"

namespace NetworkRecovery

/-- The results of events alone are counted. -/
def noteResult (streak : UInt32) (result : NetworkResult) : UInt32 :=
  if isEventKind result.kind then if connectFails result then streak + 1 else 0 else streak

/-- The polls of the Wi-Fi and of the runtime. -/
def polled (s : NetworkRecovery) (pass : NetworkPass) : NetworkRecovery :=
  { s with
    wifi := if pass.portalActive then s.wifi else (s.wifi.poll pass.now pass.settled pass.linkUp).1
    consecutiveTcpConnectFail :=
      pass.result.elim s.consecutiveTcpConnectFail (noteResult s.consecutiveTcpConnectFail)
    results := pass.result.toList ++ s.results }

/-- How far the streak has to grow beyond the last reconnect. -/
def patience (s : NetworkRecovery) : UInt32 :=
  if s.lastReconnectAtStreak = 0 then kNetworkStuckReconnectThreshold
    else kNetworkStuckReconnectRepeatEvery

/-- The block of the ladder, and whether it forces a reconnect. -/
def selfRecover (s : NetworkRecovery) (now : UInt32) : NetworkRecovery × Bool :=
  let streak := s.consecutiveTcpConnectFail
  if streak = 0 then ({ s with lastReconnectAtStreak := 0 }, false)
  else if streak ≥ kNetworkStuckReconnectThreshold ∧
    streak - s.lastReconnectAtStreak ≥ s.patience then
    ({ s with lastReconnectAtStreak := streak, wifi := (s.wifi.forceReconnect now).1 }, true)
  else (s, false)

def step (s : NetworkRecovery) (pass : NetworkPass) : NetworkRecovery :=
  ((s.polled pass).selfRecover pass.settled).1

/-- Whether a pass forces a reconnect. -/
def forces (s : NetworkRecovery) (pass : NetworkPass) : Bool :=
  ((s.polled pass).selfRecover pass.settled).2

end NetworkRecovery

def connectTick (result : NetworkResult) : Tick Unit :=
  if isEventKind result.kind then if connectFails result then .hit () else .clear else .pass

/-- The events in a row, up to the latest one, that could not connect. -/
def connectFailures (results : List NetworkResult) : Nat := latestRun connectTick results

/-- The streak at which the ladder last forced a reconnect: 2, 5, 8 and so on. -/
def ladderMark (streak : Nat) : Nat := if streak < 2 then 0 else streak - (streak - 2) % 3

section ConnectFailures

variable {result : NetworkResult} {older : List NetworkResult}

theorem connectFailures_hit (hit : connectTick result = .hit ()) :
    connectFailures (result :: older) = connectFailures older + 1 :=
  @latestRun_hit_single _ _ connectTick _ result () older _ hit

theorem connectFailures_clear (clear : connectTick result = .clear) :
    connectFailures (result :: older) = 0 :=
  latestRun_clear clear

theorem connectFailures_pass (pass : connectTick result = .pass) :
    connectFailures (result :: older) = connectFailures older :=
  latestRun_pass pass

end ConnectFailures

namespace NetworkRecovery

variable {s : NetworkRecovery} {pass : NetworkPass} {before : Nat}

/-- The counter is the run of failures as a 32-bit number, and the mark is where that left it. -/
structure Marked (s : NetworkRecovery) : Prop where
  streak : s.consecutiveTcpConnectFail.toNat = connectFailures s.results % 2 ^ 32
  mark : s.lastReconnectAtStreak.toNat = ladderMark s.consecutiveTcpConnectFail.toNat

/-- How a pass may move the streak. -/
inductive StreakMove (before : Nat) : Nat → Prop where
  | stays : StreakMove before before
  | cleared : StreakMove before 0
  | grows : StreakMove before (before + 1)

/-- The block forces a reconnect exactly when the streak came to 2, 5, 8 and so on. -/
theorem selfRecover_marked (now : UInt32) (mark : s.lastReconnectAtStreak.toNat = ladderMark before)
    (move : StreakMove before s.consecutiveTcpConnectFail.toNat) :
    (s.selfRecover now).1.lastReconnectAtStreak.toNat =
        ladderMark s.consecutiveTcpConnectFail.toNat ∧
      ((s.selfRecover now).2 = true ↔
        s.consecutiveTcpConnectFail.toNat = before + 1 ∧
          s.consecutiveTcpConnectFail.toNat % 3 = 2) := by
  have none : s.consecutiveTcpConnectFail = 0 ↔ s.consecutiveTcpConnectFail.toNat = 0 :=
    UInt32.toNat_inj.symm
  unfold selfRecover
  dsimp only
  by_cases zero : s.consecutiveTcpConnectFail = 0
  · have cleared := none.mp zero
    rw [if_pos zero, cleared]
    exact ⟨rfl, by simp⟩
  · have counted :
        s.consecutiveTcpConnectFail.toNat = before ∨
        s.consecutiveTcpConnectFail.toNat = before + 1 := by
      have positive := mt none.mpr zero
      generalize s.consecutiveTcpConnectFail.toNat = streak at move positive
      cases move with
      | stays => exact .inl rfl
      | cleared => exact absurd rfl positive
      | grows => exact .inr rfl
    have fresh : s.lastReconnectAtStreak = 0 ↔ ladderMark before = 0 := by
      rw [← mark]
      exact UInt32.toNat_inj.symm
    have behind : ladderMark before ≤ s.consecutiveTcpConnectFail.toNat := by
      unfold ladderMark
      split <;> omega
    have grown : (s.consecutiveTcpConnectFail - s.lastReconnectAtStreak).toNat =
        s.consecutiveTcpConnectFail.toNat - ladderMark before := by
      rw [UInt32.toNat_sub_of_le _ _ (UInt32.le_iff_toNat_le.mpr (mark ▸ behind)), mark]
    have due : (s.consecutiveTcpConnectFail ≥ kNetworkStuckReconnectThreshold ∧
        s.consecutiveTcpConnectFail - s.lastReconnectAtStreak ≥ s.patience) ↔
        s.consecutiveTcpConnectFail.toNat = before + 1 ∧
          s.consecutiveTcpConnectFail.toNat % 3 = 2 := by
      have two : kNetworkStuckReconnectThreshold.toNat = 2 := rfl
      have three : kNetworkStuckReconnectRepeatEvery.toNat = 3 := rfl
      rw [ge_iff_le, ge_iff_le, UInt32.le_iff_toNat_le, UInt32.le_iff_toNat_le, grown, patience,
        apply_ite UInt32.toNat, two, three]
      simp only [fresh]
      unfold ladderMark
      split <;> split <;> omega
    rw [if_neg zero]
    by_cases forced :
      s.consecutiveTcpConnectFail.toNat = before + 1 ∧ s.consecutiveTcpConnectFail.toNat % 3 = 2
    · rw [if_pos (due.mpr forced)]
      refine ⟨?_, iff_of_true rfl forced⟩
      dsimp only
      unfold ladderMark
      split <;> omega
    · rw [if_neg (mt due.mp forced)]
      refine ⟨?_, iff_of_false Bool.false_ne_true forced⟩
      rw [mark]
      unfold ladderMark
      split <;> split <;> omega

theorem start_marked (wifi : WifiManager) : Marked { wifi } := ⟨rfl, rfl⟩

/-- A pass moves the streak by the result it takes, and only a failure to connect prolongs it. -/
theorem polled_streak (marked : Marked s) :
    (s.polled pass).consecutiveTcpConnectFail.toNat =
        connectFailures (s.polled pass).results % 2 ^ 32 ∧
      StreakMove s.consecutiveTcpConnectFail.toNat (s.polled pass).consecutiveTcpConnectFail.toNat ∧
      ((s.polled pass).consecutiveTcpConnectFail.toNat = s.consecutiveTcpConnectFail.toNat + 1 →
        ∃ result, pass.result = some result ∧ connectTick result = .hit ()) ∧
      ∀ result, pass.result = some result → connectTick result = .hit () →
        (s.polled pass).consecutiveTcpConnectFail.toNat ≠ 0 →
          (s.polled pass).consecutiveTcpConnectFail.toNat =
            s.consecutiveTcpConnectFail.toNat + 1 := by
  have streak := marked.streak
  unfold polled
  cases pass.result with
  | none => exact ⟨streak, .stays, by simp, by simp⟩
  | some result =>
    simp only [Option.elim_some, Option.toList_some, List.singleton_append, noteResult]
    by_cases event : isEventKind result.kind
    · by_cases fails : connectFails result
      · have hit : connectTick result = .hit () := by rw [connectTick, if_pos event, if_pos fails]
        have sum : (s.consecutiveTcpConnectFail + 1).toNat =
            (s.consecutiveTcpConnectFail.toNat + 1) % 2 ^ 32 :=
          UInt32.toNat_add _ _
        have small := s.consecutiveTcpConnectFail.toNat_lt
        rw [if_pos event, if_pos fails, sum, connectFailures_hit hit]
        refine ⟨by omega, ?_, fun _ => ⟨result, rfl, hit⟩, fun _ _ _ nonzero => by omega⟩
        by_cases wraps : s.consecutiveTcpConnectFail.toNat + 1 = 2 ^ 32
        · rw [wraps, Nat.mod_self]
          exact .cleared
        · rw [Nat.mod_eq_of_lt (by omega)]
          exact .grows
      · have clear : connectTick result = .clear := by rw [connectTick, if_pos event, if_neg fails]
        rw [if_pos event, if_neg fails, connectFailures_clear clear]
        refine ⟨rfl, .cleared, fun grown => absurd grown (Nat.succ_ne_zero _).symm, ?_⟩
        intro _ same hit
        rw [← Option.some.inj same, clear] at hit
        cases hit
    · have passes : connectTick result = .pass := by rw [connectTick, if_neg event]
      rw [if_neg event, connectFailures_pass passes]
      refine ⟨streak, .stays, by simp, ?_⟩
      intro _ same hit
      rw [← Option.some.inj same, passes] at hit
      cases hit

theorem selfRecover_apart (s : NetworkRecovery) (now : UInt32) :
    (s.selfRecover now).1.consecutiveTcpConnectFail = s.consecutiveTcpConnectFail ∧
      (s.selfRecover now).1.results = s.results := by
  unfold selfRecover
  dsimp only
  split
  · exact ⟨rfl, rfl⟩
  split
  · exact ⟨rfl, rfl⟩
  · exact ⟨rfl, rfl⟩

theorem step_marked (s : NetworkRecovery) (pass : NetworkPass) (marked : Marked s) :
    Marked (s.step pass) := by
  obtain ⟨streak, move, -⟩ := @polled_streak s pass marked
  obtain ⟨counter, results⟩ := selfRecover_apart (s.polled pass) pass.settled
  have mark := (@selfRecover_marked (s.polled pass) _ pass.settled marked.mark move).1
  constructor
  · rw [step, counter, results]
    exact streak
  · rw [step, counter]
    exact mark

/-- A forced reconnect leaves the Wi-Fi waiting for nothing but its next poll. -/
theorem forced_wifi (forced : s.forces pass = true) :
    (s.step pass).wifi.state = .disconnected ∧ (s.step pass).wifi.nextRetryMs = pass.settled := by
  unfold forces selfRecover at forced
  unfold step selfRecover
  dsimp only at forced ⊢
  split at forced
  · cases forced
  split at forced
  · rename_i zero due
    rw [if_neg zero, if_pos due]
    exact ⟨WifiManager.setState_state _, rfl⟩
  · cases forced

/-- Over every run of the loop, a reconnect is forced exactly by the second, fifth, eighth and so
on of the events in a row that could not connect, as a 32-bit number counts them; no other result
moves the ladder but one of an event, which starts it again. The Wi-Fi then tries at once. -/
theorem forces_iff (wifi : WifiManager) (passes : List NetworkPass) (pass : NetworkPass) :
    let s := run step { wifi } passes
    (s.forces pass = true ↔ ∃ result, pass.result = some result ∧ connectTick result = .hit () ∧
      connectFailures (result :: s.results) % 2 ^ 32 % 3 = 2) ∧
    (s.forces pass = true →
      (s.step pass).wifi.state = .disconnected ∧
      (s.step pass).wifi.nextRetryMs = pass.settled) := by
  intro s
  have marked : Marked s := run_invariant (start_marked wifi) step_marked passes
  obtain ⟨streak, move, grew, grows⟩ := @polled_streak s pass marked
  have forced := (@selfRecover_marked (s.polled pass) _ pass.settled marked.mark move).2
  refine ⟨forced.trans ⟨?_, ?_⟩, forced_wifi⟩
  · rintro ⟨grown, third⟩
    obtain ⟨result, taken, hit⟩ := grew grown
    have results : (s.polled pass).results = result :: s.results := by rw [polled, taken]; rfl
    rw [streak, results] at third
    exact ⟨result, taken, hit, third⟩
  · rintro ⟨result, taken, hit, third⟩
    have results : (s.polled pass).results = result :: s.results := by rw [polled, taken]; rfl
    rw [← results, ← streak] at third
    exact ⟨grows result taken hit (fun zero => by omega), third⟩

end NetworkRecovery

end Kiosk.Runtime
