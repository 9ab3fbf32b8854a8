import Kiosk.Library.KeySearch
import Kiosk.Library.LatestRun
import Kiosk.Library.TransitionSystem

/-! The reboot-loop protection of `health/recovery_supervisor.cpp`. The ring of recovery
events, which lives in RAM only, is left out. -/
namespace Kiosk.Health

open Library Library.LatestRun Library.TransitionSystem

inductive RecoveryCode where
  | lowMemory
  | journalPressure
  | taskCreateFailed
  | networkTimeout
  | stateDesync
  | uiStall
  | watchdog
  | rebootLoop
  | scannerReinit
  | keypadReinit
  deriving DecidableEq, Repr

def recoveryCodeToString : RecoveryCode → Bytes
  | .lowMemory => text "RECOVERY_LOW_MEMORY"
  | .journalPressure => text "RECOVERY_JOURNAL_PRESSURE"
  | .taskCreateFailed => text "RECOVERY_TASK_CREATE_FAILED"
  | .networkTimeout => text "RECOVERY_NETWORK_TIMEOUT"
  | .stateDesync => text "RECOVERY_STATE_DESYNC"
  | .uiStall => text "RECOVERY_UI_STALL"
  | .watchdog => text "RECOVERY_WATCHDOG"
  | .rebootLoop => text "RECOVERY_REBOOT_LOOP"
  | .scannerReinit => text "RECOVERY_SCANNER_REINIT"
  | .keypadReinit => text "RECOVERY_KEYPAD_REINIT"

def kSafeModeThreshold : UInt32 := 3

/-- The keys of the NVS namespace `recovery` that are read back. -/
structure RecoveryPrefs where
  lastCode : Bytes := []
  streak : UInt32 := 0
  deriving DecidableEq, Repr

structure RecoverySupervisor where
  /-- What outlives a boot; no namespace before the first write. -/
  prefs : Option RecoveryPrefs := none
  safeMode : Bool := false
  sameFaultStreak : UInt32 := 0
  markedStableThisBoot : Bool := false
  safeModeReason : Bytes := []
  deriving DecidableEq, Repr

namespace RecoverySupervisor

def init (prefs : Option RecoveryPrefs) : RecoverySupervisor :=
  match prefs with
  | none => { prefs }
  | some stored =>
    { prefs
      sameFaultStreak := stored.streak
      safeModeReason := stored.lastCode
      safeMode := stored.streak ≥ kSafeModeThreshold }

def markStable (s : RecoverySupervisor) : RecoverySupervisor :=
  if s.markedStableThisBoot then s
  else
    let s := { s with markedStableThisBoot := true }
    if s.sameFaultStreak = 0 then s
    else
      { s with
        prefs := some { s.prefs.getD {} with streak := 0 }
        sameFaultStreak := 0
        safeMode := false }

/-- Up to the restart. -/
def requestControlledReboot (s : RecoverySupervisor) (code : RecoveryCode) : RecoverySupervisor :=
  let stored := s.prefs.getD {}
  let thisCode := recoveryCodeToString code
  let streak := if stored.lastCode = thisCode then stored.streak + 1 else 1
  { s with
    prefs := some { lastCode := thisCode, streak }
    sameFaultStreak := streak
    safeMode := streak ≥ kSafeModeThreshold }

end RecoverySupervisor

/-- What a boot does that matters here, and how it ends. -/
inductive SupervisorEvent where
  | markStable
  | reset
  | controlledReboot (code : RecoveryCode)
  deriving DecidableEq, Repr

/-- After the end of a boot comes the next one. -/
def supervise (s : RecoverySupervisor) : SupervisorEvent → RecoverySupervisor
  | .markStable => s.markStable
  | .reset => .init s.prefs
  | .controlledReboot code => .init (s.requestControlledReboot code).prefs

/-- The supervisor after a history that starts with the first boot of the device. -/
def afterHistory (history : List SupervisorEvent) : RecoverySupervisor :=
  run supervise (.init none) history

/-- The last three controlled reboots exist and carry one code; only plain resets stand between
and after them. -/
def LastThreeAgree (history : List SupervisorEvent) : Prop :=
  ∃ code before second third after,
    history = before ++ .controlledReboot code :: second ++ .controlledReboot code :: third ++
      .controlledReboot code :: after ∧
    ∀ event ∈ second ++ third ++ after, event = .reset

def tick : SupervisorEvent → Tick RecoveryCode
  | .markStable => .clear
  | .reset => .pass
  | .controlledReboot code => .hit code

/-- The controlled reboots with the code of the latest one, back to another code or a stable
mark. -/
def agreeingReboots (history : List SupervisorEvent) : Nat := latestRun tick history.reverse

theorem tick_eq_hit : tick event = .hit code ↔ event = .controlledReboot code := by
  cases event <;> simp [tick]

theorem tick_eq_pass : tick event = .pass ↔ event = .reset := by
  cases event <;> simp [tick]

private def recoveryCodes :
    List RecoveryCode := [.lowMemory, .journalPressure, .taskCreateFailed, .networkTimeout,
  .stateDesync, .uiStall, .watchdog, .rebootLoop, .scannerReinit, .keypadReinit]

private theorem mem_recoveryCodes (code : RecoveryCode) : code ∈ recoveryCodes := by
  cases code <;> simp [recoveryCodes]

theorem recoveryCodeToString_injective : Function.Injective recoveryCodeToString := by
  have distinct : (recoveryCodes.map recoveryCodeToString).Nodup := by decide +kernel
  exact fun first second same =>
    List.inj_on_of_nodup_map distinct (mem_recoveryCodes first) (mem_recoveryCodes second) same

theorem recoveryCodeToString_ne_nil (code : RecoveryCode) : recoveryCodeToString code ≠ [] := by
  cases code <;> simp [recoveryCodeToString, text]

/-- A shorter run, plain resets and one more reboot, in the order of the history. -/
private theorem lt_runOf_reverse_iff {history : List SupervisorEvent} {count : Nat} :
    count < runOf tick code history.reverse ↔
      ∃ before after : List SupervisorEvent, history = before ++ .controlledReboot code :: after ∧
        (∀ event ∈ after, event = .reset) ∧
        count ≤ runOf tick code before.reverse := by
  rw [lt_runOf_iff]
  constructor
  · rintro ⟨passes, entry, older, split, pass, hit, shorter⟩
    refine ⟨older.reverse, passes.reverse, ?_, ?_, by rwa [List.reverse_reverse]⟩
    · rw [← tick_eq_hit.mp hit]
      simpa using congrArg List.reverse split
    · intro event member
      exact tick_eq_pass.mp (pass event (List.mem_reverse.mp member))
  · rintro ⟨before, after, rfl, resets, shorter⟩
    refine ⟨after.reverse, .controlledReboot code, before.reverse, by simp, ?_, rfl, shorter⟩
    intro event member
    exact tick_eq_pass.mpr (resets event (List.mem_reverse.mp member))

theorem lastThreeAgree_iff (history : List SupervisorEvent) :
    LastThreeAgree history ↔ 3 ≤ agreeingReboots history := by
  rw [agreeingReboots, Nat.succ_le_iff, lt_latestRun_iff]
  simp only [lt_runOf_reverse_iff, Nat.succ_le_iff]
  constructor
  · rintro ⟨code, before, second, third, after, rfl, resets⟩
    simp only [List.mem_append, or_imp, forall_and] at resets
    exact ⟨code, _, after, rfl, resets.2, _, third, rfl, resets.1.2, before, second, rfl,
      resets.1.1, Nat.zero_le _⟩
  · rintro ⟨code, _, after, rfl, afterResets, _, third, rfl, thirdResets, before, second, rfl,
      secondResets, -⟩
    refine ⟨code, before, second, third, after, by simp, ?_⟩
    simp only [List.mem_append]
    rintro event ((member | member) | member)
    · exact secondResets event member
    · exact thirdResets event member
    · exact afterResets event member

/-- What NVS holds once a history has passed: the latest code and its run, modulo 2³². -/
def Recorded (prefs : Option RecoveryPrefs) (newestFirst : List SupervisorEvent) : Prop :=
  (prefs.getD {}).lastCode = ((latestHit tick newestFirst).map recoveryCodeToString).getD [] ∧
    (prefs.getD {}).streak = UInt32.ofNat (latestRun tick newestFirst)

/-- The flags in RAM follow what NVS holds, all through a boot. -/
structure InStep (s : RecoverySupervisor) : Prop where
  streak : s.sameFaultStreak = (s.prefs.getD {}).streak
  marked : s.markedStableThisBoot = true → s.sameFaultStreak = 0
  safeMode : s.safeMode = decide (s.sameFaultStreak ≥ kSafeModeThreshold)

theorem init_inStep (prefs : Option RecoveryPrefs) : InStep (.init prefs) := by
  cases prefs with
  | none => exact ⟨rfl, nofun, rfl⟩
  | some stored => exact ⟨rfl, nofun, rfl⟩

@[simp] theorem init_prefs (prefs : Option RecoveryPrefs) :
    (RecoverySupervisor.init prefs).prefs = prefs := by
  cases prefs <;> rfl

variable {s : RecoverySupervisor} {newestFirst : List SupervisorEvent}

theorem supervise_inStep (inStep : InStep s) (event : SupervisorEvent) :
    InStep (supervise s event) := by
  cases event with
  | markStable =>
    rw [supervise, RecoverySupervisor.markStable]
    split
    · exact inStep
    dsimp only
    split
    · rename_i clear
      exact ⟨inStep.streak, fun _ => clear, inStep.safeMode⟩
    · exact ⟨rfl, fun _ => rfl, rfl⟩
  | reset => exact init_inStep s.prefs
  | controlledReboot code => exact init_inStep (s.requestControlledReboot code).prefs

/-- The streak after a reboot is the one before it with one more, or a new one. -/
theorem Recorded.controlledReboot (recorded : Recorded s.prefs newestFirst) (code : RecoveryCode) :
    Recorded (s.requestControlledReboot code).prefs (.controlledReboot code :: newestFirst) := by
  have same : (s.prefs.getD {}).lastCode = recoveryCodeToString code ↔
      latestHit tick newestFirst = some code := by
    rw [recorded.1]
    cases latestHit tick newestFirst with
    | none => simpa using (recoveryCodeToString_ne_nil code).symm
    | some latest => simpa using recoveryCodeToString_injective.eq_iff
  refine ⟨?_, ?_⟩
  · rw [latestHit_hit (tick_eq_hit.mpr rfl)]
    rfl
  · rw [latestRun_hit (tick_eq_hit.mpr rfl)]
    simp only [RecoverySupervisor.requestControlledReboot, Option.getD_some, same, recorded.2]
    split
    · exact (UInt32.ofNat_add _ 1).symm
    · rfl

/-- A stable mark leaves no streak behind: where it writes nothing there was none. -/
theorem Recorded.markStable (recorded : Recorded s.prefs newestFirst) (inStep : InStep s) :
    Recorded s.markStable.prefs (.markStable :: newestFirst) := by
  have latest : latestHit tick (.markStable :: newestFirst) = latestHit tick newestFirst :=
    latestHit_clear rfl
  have cleared : latestRun tick (.markStable :: newestFirst) = 0 := latestRun_clear rfl
  rw [Recorded, latest, cleared, RecoverySupervisor.markStable]
  split
  · rename_i marked
    exact ⟨recorded.1, inStep.streak.symm.trans (inStep.marked marked)⟩
  dsimp only
  split
  · rename_i zero
    exact ⟨recorded.1, inStep.streak.symm.trans zero⟩
  · exact ⟨recorded.1, rfl⟩

theorem Recorded.reset (recorded : Recorded prefs newestFirst) :
    Recorded prefs (.reset :: newestFirst) := by
  rwa [Recorded, latestHit_pass rfl, latestRun_pass rfl]

theorem supervise_recorded (recorded : Recorded s.prefs newestFirst) (inStep : InStep s)
    (event : SupervisorEvent) :
    Recorded (supervise s event).prefs (event :: newestFirst) := by
  cases event with
  | markStable => exact recorded.markStable inStep
  | reset =>
    rw [supervise, init_prefs]
    exact recorded.reset
  | controlledReboot code =>
    rw [supervise, init_prefs]
    exact recorded.controlledReboot code

theorem afterHistory_inStep (history : List SupervisorEvent) : InStep (afterHistory history) :=
  run_invariant (init_inStep none) (fun _ event inStep => supervise_inStep inStep event) history

/-- The persisted streak and code are those of the whole history. -/
theorem afterHistory_recorded (history : List SupervisorEvent) :
    Recorded (afterHistory history).prefs history.reverse := by
  induction history using List.reverseRecOn with
  | nil => exact ⟨rfl, rfl⟩
  | append_singleton older event ih =>
    rw [afterHistory, run_append, List.reverse_append]
    exact supervise_recorded ih (afterHistory_inStep older) event

/-- Safe mode is the run of agreeing reboots as a 32-bit number against the threshold. -/
theorem afterHistory_safeMode (history : List SupervisorEvent) :
    (afterHistory history).safeMode = true ↔ 3 ≤ agreeingReboots history % 2 ^ 32 := by
  have inStep := afterHistory_inStep history
  rw [inStep.safeMode, inStep.streak, (afterHistory_recorded history).2,
    decide_eq_true_iff, ge_iff_le, UInt32.le_iff_toNat_le, UInt32.toNat_ofNat']
  rfl

/-- Safe mode is on exactly after three agreeing reboots, unless the streak has wrapped to less
than three. -/
theorem safeMode_exact_iff (history : List SupervisorEvent) :
    ((afterHistory history).safeMode = true ↔ LastThreeAgree history) ↔
      (agreeingReboots history < 3 ∨ 3 ≤ agreeingReboots history % 2 ^ 32) := by
  rw [afterHistory_safeMode, lastThreeAgree_iff]
  have := Nat.mod_le (agreeingReboots history) (2 ^ 32)
  omega

/-- No device that has run for fewer events than a 32-bit number counts has wrapped. -/
theorem safeMode_of_length_lt {history : List SupervisorEvent} (short : history.length < 2 ^ 32) :
    (afterHistory history).safeMode = true ↔ LastThreeAgree history := by
  have bound : agreeingReboots history ≤ history.length := by
    simpa [agreeingReboots] using @latestRun_le_length _ _ tick _ history.reverse
  rw [afterHistory_safeMode, lastThreeAgree_iff, Nat.mod_eq_of_lt (by omega)]

theorem agreeingReboots_replicate (code : RecoveryCode) (count : Nat) :
    agreeingReboots (List.replicate count (.controlledReboot code)) = count := by
  rw [agreeingReboots, List.reverse_replicate]
  cases count with
  | zero => rfl
  | succ count =>
    rw [latestRun, List.replicate_succ, latestHit_hit (tick_eq_hit.mpr rfl), ← List.replicate_succ]
    exact runOf_replicate (tick_eq_hit.mpr rfl) _

/-- After 2³² reboots for low memory in a row the streak reads zero. -/
theorem safeMode_wraps :
    LastThreeAgree (List.replicate (2 ^ 32) (.controlledReboot .lowMemory)) ∧
      (afterHistory (List.replicate (2 ^ 32) (.controlledReboot .lowMemory))).safeMode = false := by
  constructor
  · rw [lastThreeAgree_iff, agreeingReboots_replicate]
    norm_num
  · rw [Bool.eq_false_iff, Ne, afterHistory_safeMode, agreeingReboots_replicate]
    norm_num

end Kiosk.Health
