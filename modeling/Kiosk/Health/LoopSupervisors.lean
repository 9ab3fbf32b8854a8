import Kiosk.Health.RecoverySupervisor

/-! `low_memory_supervisor.cpp` and the supervisors at the end of `loop()` in
`kiosk_runtime_v2.ino`: the check of the internal memory, the stable mark, and the watch over
a screen that is not drawn. What they restart the device for is what safe mode counts. -/
namespace Kiosk.Health

open Library Library.LatestRun Library.TransitionSystem

inductive LowMemoryLevel where
  | normal | warning | critical
  deriving DecidableEq, Repr

def kLowMemoryWarningLargestBlockBytes : UInt32 := 18000
def kLowMemoryCriticalLargestBlockBytes : UInt32 := 9000

def classifyLowMemory (largestInternalFreeBlockBytes : UInt32) : LowMemoryLevel :=
  if largestInternalFreeBlockBytes ≤ kLowMemoryCriticalLargestBlockBytes then .critical
  else if largestInternalFreeBlockBytes ≤ kLowMemoryWarningLargestBlockBytes then .warning
  else .normal

def kLowMemoryCheckIntervalMs : UInt32 := 1000
def kCriticalRebootPatienceChecks : UInt32 := 10
def kDiagnosticsPrintIntervalMs : UInt32 := 30000
def kUiStallThresholdMs : UInt32 := 300000

/-- What one pass of the loop reads beside the clock: the heap, the journal and the display. -/
structure Readings where
  internalLargest : UInt32 := 180000
  compactionActive : Bool := false
  recordCount : UInt32 := 0
  frameId : UInt32 := 0
  deriving DecidableEq, Repr

inductive WatchEffect where
  | beginCompaction
  | refreshIdleScreen
  | displayInit
  deriving DecidableEq, Repr

/-- The globals of the supervisors, and the recovery supervisor. -/
structure LoopWatch where
  lastLowMemoryCheckMs : UInt32 := 0
  consecutiveCriticalLowMemoryChecks : UInt32 := 0
  lastDiagnosticsPrintMs : UInt32 := 0
  lastSeenFrameId : UInt32 := 0
  lastRenderProgressMs : UInt32 := 0
  uiStallRedrawAttempted : Bool := false
  uiStallDisplayReinitAttempted : Bool := false
  supervisor : RecoverySupervisor
  deriving DecidableEq, Repr

namespace LoopWatch

def lowMemoryDue (w : LoopWatch) (now : UInt32) : Bool :=
  now - w.lastLowMemoryCheckMs ≥ kLowMemoryCheckIntervalMs

def diagnosticsDue (w : LoopWatch) (now : UInt32) : Bool :=
  now - w.lastDiagnosticsPrintMs ≥ kDiagnosticsPrintIntervalMs

/-- What is done for the journal at a level that is not normal. -/
def relief (r : Readings) : List WatchEffect :=
  if r.compactionActive = false ∧ r.recordCount > 0 then [.beginCompaction] else []

/-- The memory block: the watch after it, what it does, and the code it restarts with. -/
def checkLowMemory (w : LoopWatch) (now : UInt32) (r : Readings) :
    LoopWatch × List WatchEffect × Option RecoveryCode :=
  if w.lowMemoryDue now then
    let w := { w with lastLowMemoryCheckMs := now }
    match classifyLowMemory r.internalLargest with
    | .warning => (w, relief r, none)
    | .critical =>
      let w :=
        { w with consecutiveCriticalLowMemoryChecks := w.consecutiveCriticalLowMemoryChecks + 1 }
      (w, relief r, if w.consecutiveCriticalLowMemoryChecks ≥ kCriticalRebootPatienceChecks
        then some .lowMemory else none)
    | .normal => ({ w with consecutiveCriticalLowMemoryChecks := 0 }, [], none)
  else (w, [], none)

/-- The watch over the screen. -/
def checkUiStall (w : LoopWatch) (now : UInt32) (r : Readings) :
    LoopWatch × List WatchEffect × Option RecoveryCode :=
  if r.frameId ≠ w.lastSeenFrameId then
    ({ w with
        lastSeenFrameId := r.frameId
        lastRenderProgressMs := now
        uiStallRedrawAttempted := false
        uiStallDisplayReinitAttempted := false }, [], none)
  else if now - w.lastRenderProgressMs ≥ kUiStallThresholdMs then
    if !w.uiStallRedrawAttempted
      then ({ w with uiStallRedrawAttempted := true }, [.refreshIdleScreen], none)
    else if !w.uiStallDisplayReinitAttempted then
      ({ w with uiStallDisplayReinitAttempted := true }, [.displayInit, .refreshIdleScreen], none)
    else (w, [], some .uiStall)
  else (w, [], none)

/-- The block of the diagnostics: the mark comes before the watch over the screen. -/
def checkDiagnostics (w : LoopWatch) (now : UInt32) (r : Readings) :
    LoopWatch × List WatchEffect × Option RecoveryCode :=
  if w.diagnosticsDue now then
    { w with lastDiagnosticsPrintMs := now, supervisor := w.supervisor.markStable }.checkUiStall
      now r
  else (w, [], none)

/-- One pass of the loop; a restart does not return. -/
def iterate (w : LoopWatch) (now : UInt32) (r : Readings) :
    LoopWatch × List WatchEffect × Option RecoveryCode :=
  match w.checkLowMemory now r with
  | (w, relieved, some code) => (w, relieved, some code)
  | (w, relieved, none) =>
    match w.checkDiagnostics now r with
    | (w, effects, restart) => (w, relieved ++ effects, restart)

end LoopWatch

/-- A pass of the loop some time after the one before, or a restart that the supervisors do not
ask for. -/
inductive WatchStep where
  | iterate (elapsed : Nat) (r : Readings)
  | reset
  deriving DecidableEq, Repr

/-- A memory check that was due. -/
structure MemoryCheck where
  time : Nat
  level : LowMemoryLevel
  deriving DecidableEq, Repr

/-- A look at the screen. -/
structure Look where
  time : Nat
  frameId : UInt32
  deriving DecidableEq, Repr

/-- The watch over the life of a device. The rest notes what happened, for statements: the time
since the boot, what the recovery supervisor was told, and the checks and looks of this boot,
newest first. -/
structure WatchLife where
  watch : LoopWatch
  uptime : Nat := 0
  history : List SupervisorEvent := []
  checks : List MemoryCheck := []
  looks : List Look := []

namespace WatchLife

/-- A new device. -/
def start : WatchLife := { watch := { supervisor := .init none } }

def restart (life : WatchLife) (prefs : Option RecoveryPrefs) (event : SupervisorEvent) :
    WatchLife where
  watch := { supervisor := .init prefs }
  history := life.history ++ [event]

/-- `millis()` at a pass. -/
def millis (life : WatchLife) (elapsed : Nat) : UInt32 := .ofNat (life.uptime + elapsed)

/-- The memory check of a pass, if one is due. -/
def noteCheck (life : WatchLife) (elapsed : Nat) (r : Readings) : List MemoryCheck :=
  if life.watch.lowMemoryDue (life.millis elapsed) then
    ⟨life.uptime + elapsed, classifyLowMemory r.internalLargest⟩ :: life.checks
  else life.checks

/-- The look of a pass, if one is due. -/
def noteLook (life : WatchLife) (elapsed : Nat) (r : Readings) : List Look :=
  if life.watch.diagnosticsDue (life.millis elapsed)
    then ⟨life.uptime + elapsed, r.frameId⟩ :: life.looks else life.looks

/-- The mark that comes with a look. -/
def noteMark (life : WatchLife) (elapsed : Nat) : List SupervisorEvent :=
  if life.watch.diagnosticsDue (life.millis elapsed) then [.markStable] else []

def step (life : WatchLife) : WatchStep → WatchLife
  | .reset => life.restart life.watch.supervisor.prefs .reset
  | .iterate elapsed r =>
    match life.watch.checkLowMemory (life.millis elapsed) r with
    | (w, _, some code) =>
      life.restart (w.supervisor.requestControlledReboot code).prefs (.controlledReboot code)
    | (w, _, none) =>
      match w.checkDiagnostics (life.millis elapsed) r with
      | (w, _, some code) =>
        { life with history := life.history ++ life.noteMark elapsed }.restart
          (w.supervisor.requestControlledReboot code).prefs (.controlledReboot code)
      | (w, _, none) =>
        { watch := w
          uptime := life.uptime + elapsed
          history := life.history ++ life.noteMark elapsed
          checks := life.noteCheck elapsed r
          looks := life.noteLook elapsed r }

end WatchLife

/-! Times of periodic work, newest first. -/

/-- The latest time; the boot is time zero. -/
def lastTime : List Nat → Nat
  | [] => 0
  | time :: _ => time

/-- No two times are closer than the interval, and none is that close to the boot. -/
def Spaced (interval : Nat) : List Nat → Prop
  | [] => True
  | time :: older => lastTime older + interval ≤ time ∧ Spaced interval older

/-- A difference of clock readings that is long enough is a long enough time, however often the
clock wrapped. -/
theorem elapsed_of_due {since time : Nat} {interval : UInt32} (past : since ≤ time)
    (due : UInt32.ofNat time - UInt32.ofNat since ≥ interval) : since + interval.toNat ≤ time := by
  rw [ge_iff_le, UInt32.le_iff_toNat_le, UInt32.toNat_sub, UInt32.toNat_ofNat',
    UInt32.toNat_ofNat'] at due
  omega

/-! The memory checks, as a run of critical ones. -/

/-- A warning neither counts nor clears. -/
def memoryTick (check : MemoryCheck) : Tick Unit :=
  match check.level with
  | .critical => .hit ()
  | .warning => .pass
  | .normal => .clear

/-- The critical checks since the last normal one. -/
def criticalChecks (checks : List MemoryCheck) : Nat := latestRun memoryTick checks

/-- When the memory was last found normal; the boot, if it was not since. -/
def lastNormal : List MemoryCheck → Nat
  | [] => 0
  | check :: older => if check.level = .normal then check.time else lastNormal older

section MemoryChecks

variable {check : MemoryCheck} {older : List MemoryCheck}

theorem criticalChecks_normal (level : check.level = .normal) :
    criticalChecks (check :: older) = 0 :=
  latestRun_clear (by rw [memoryTick, level])

theorem criticalChecks_warning (level : check.level = .warning) :
    criticalChecks (check :: older) = criticalChecks older :=
  latestRun_pass (by rw [memoryTick, level])

theorem criticalChecks_critical (level : check.level = .critical) :
    criticalChecks (check :: older) = criticalChecks older + 1 :=
  @latestRun_hit_single _ _ memoryTick _ check () older _ (by rw [memoryTick, level])

/-- Every critical check took its interval. -/
theorem lastNormal_add_le {interval : Nat} {checks : List MemoryCheck}
    (spaced : Spaced interval (checks.map MemoryCheck.time)) :
    lastNormal checks + interval * criticalChecks checks ≤
      lastTime (checks.map MemoryCheck.time) := by
  induction checks with
  | nil => exact le_rfl
  | cons check older ih =>
    obtain ⟨apart, olderSpaced⟩ := spaced
    have sooner := ih olderSpaced
    have latest : lastTime ((check :: older).map MemoryCheck.time) = check.time := rfl
    cases level : check.level with
    | normal =>
      rw [criticalChecks_normal level, lastNormal, if_pos level, latest]
      exact le_rfl
    | warning =>
      have kept : lastNormal (check :: older) = lastNormal older := if_neg (by rw [level]; decide)
      rw [criticalChecks_warning level, kept, latest]
      exact sooner.trans (Nat.le_of_add_right_le apart)
    | critical =>
      have kept : lastNormal (check :: older) = lastNormal older := if_neg (by rw [level]; decide)
      rw [criticalChecks_critical level, kept, latest, Nat.mul_succ, ← Nat.add_assoc]
      exact (Nat.add_le_add_right sooner interval).trans apart

end MemoryChecks

/-! The looks at the screen, as a run of those that find it stalled. -/

def shownFrame : List Look → UInt32
  | [] => 0
  | look :: _ => look.frameId

/-- When the frame that is shown was first seen. -/
def shownSince : List Look → Nat
  | [] => 0
  | look :: older => if look.frameId ≠ shownFrame older then look.time else shownSince older

/-- A look finds another frame, or the same one for too long, or for not so long. -/
def lookTick (look : Look) (older : List Look) : Tick Unit :=
  if look.frameId ≠ shownFrame older then .clear
  else if UInt32.ofNat look.time - UInt32.ofNat (shownSince older) ≥ kUiStallThresholdMs
    then .hit ()
  else .pass

deriving instance DecidableEq for Tick

def lookTicks : List Look → List (Tick Unit)
  | [] => []
  | look :: older => lookTick look older :: lookTicks older

/-- The looks that found the screen stalled since the frame last changed. -/
def stalledLooks (looks : List Look) : Nat := latestRun id (lookTicks looks)

section Looks

variable {look : Look} {older : List Look}

theorem stalledLooks_clear (clear : lookTick look older = .clear) :
    stalledLooks (look :: older) = 0 :=
  @latestRun_clear _ _ id _ (lookTick look older) (lookTicks older) clear

theorem stalledLooks_pass (pass : lookTick look older = .pass) :
    stalledLooks (look :: older) = stalledLooks older :=
  @latestRun_pass _ _ id _ (lookTick look older) (lookTicks older) pass

theorem stalledLooks_hit (hit : lookTick look older = .hit ()) :
    stalledLooks (look :: older) = stalledLooks older + 1 :=
  @latestRun_hit_single _ _ id _ (lookTick look older) () (lookTicks older) _ hit

theorem lookTick_changed (changed : look.frameId ≠ shownFrame older) :
    lookTick look older = .clear :=
  if_pos changed

theorem lookTick_late (same : look.frameId = shownFrame older)
    (late : UInt32.ofNat look.time - UInt32.ofNat (shownSince older) ≥ kUiStallThresholdMs) :
    lookTick look older = .hit () :=
  (if_neg (not_not.mpr same)).trans (if_pos late)

theorem lookTick_early (same : look.frameId = shownFrame older)
    (early : ¬ UInt32.ofNat look.time - UInt32.ofNat (shownSince older) ≥ kUiStallThresholdMs) :
    lookTick look older = .pass :=
  (if_neg (not_not.mpr same)).trans (if_neg early)

theorem shownSince_same (same : look.frameId = shownFrame older) :
    shownSince (look :: older) = shownSince older :=
  if_neg (not_not.mpr same)

/-- A frame was seen before the first look that found it stalled, and each further one took its
interval. -/
theorem shownSince_add_le {interval : Nat} {looks : List Look}
    (spaced : Spaced interval (looks.map Look.time)) :
    shownSince looks ≤ lastTime (looks.map Look.time) ∧
      (0 < stalledLooks looks →
        shownSince looks + 300000 + interval * (stalledLooks looks - 1) ≤
          lastTime (looks.map Look.time)) := by
  induction looks with
  | nil => exact ⟨le_rfl, fun stalled => absurd stalled (lt_irrefl 0)⟩
  | cons look older ih =>
    obtain ⟨apart, olderSpaced⟩ := spaced
    obtain ⟨seen, sooner⟩ := ih olderSpaced
    have latest : lastTime ((look :: older).map Look.time) = look.time := rfl
    rw [latest]
    by_cases same : look.frameId = shownFrame older
    · have before : shownSince older ≤ look.time := seen.trans (Nat.le_of_add_right_le apart)
      rw [shownSince_same same]
      refine ⟨before, fun stalled => ?_⟩
      by_cases late : UInt32.ofNat look.time - UInt32.ofNat (shownSince older) ≥ kUiStallThresholdMs
      · rw [stalledLooks_hit (lookTick_late same late), Nat.add_sub_cancel]
        cases count : stalledLooks older with
        | zero => exact elapsed_of_due before late
        | succ fewer =>
          have bound := sooner (count ▸ Nat.succ_pos fewer)
          rw [count, Nat.succ_sub_one] at bound
          rw [Nat.mul_succ, ← Nat.add_assoc]
          exact (Nat.add_le_add_right bound interval).trans apart
      · have passed := stalledLooks_pass (lookTick_early same late)
        rw [passed] at stalled ⊢
        exact (sooner stalled).trans (Nat.le_of_add_right_le apart)
    · have fresh : shownSince (look :: older) = look.time := if_pos same
      rw [fresh, stalledLooks_clear (lookTick_changed same)]
      exact ⟨le_rfl, fun stalled => absurd stalled (lt_irrefl 0)⟩

end Looks

/-- What is done at the looks that find the screen stalled, one after the other. -/
def stallResponse : Nat → List WatchEffect × Option RecoveryCode
  | 1 => ([.refreshIdleScreen], none)
  | 2 => ([.displayInit, .refreshIdleScreen], none)
  | _ => ([], some .uiStall)

namespace LoopWatch

/-- The watch agrees with the memory checks noted up to a time. -/
structure MemoryAgrees (w : LoopWatch) (time : Nat) (checks : List MemoryCheck) : Prop where
  latest : w.lastLowMemoryCheckMs = .ofNat (lastTime (checks.map MemoryCheck.time))
  past : lastTime (checks.map MemoryCheck.time) ≤ time
  spaced : Spaced 1000 (checks.map MemoryCheck.time)
  critical : w.consecutiveCriticalLowMemoryChecks.toNat = criticalChecks checks
  patient : criticalChecks checks < 10

/-- The ladder of the stalled screen stands where the looks left it. -/
structure StallAgrees (w : LoopWatch) (looks : List Look) : Prop where
  frame : w.lastSeenFrameId = shownFrame looks
  since : w.lastRenderProgressMs = .ofNat (shownSince looks)
  redraw : w.uiStallRedrawAttempted = decide (1 ≤ stalledLooks looks)
  reinit : w.uiStallDisplayReinitAttempted = decide (2 ≤ stalledLooks looks)
  few : stalledLooks looks ≤ 2

/-- The watch agrees with the looks noted up to a time. -/
structure ScreenAgrees (w : LoopWatch) (time : Nat) (looks : List Look) :
    Prop extends StallAgrees w looks where
  latest : w.lastDiagnosticsPrintMs = .ofNat (lastTime (looks.map Look.time))
  past : lastTime (looks.map Look.time) ≤ time
  spaced : Spaced 30000 (looks.map Look.time)

variable {w : LoopWatch} {checks : List MemoryCheck} {looks : List Look} {time later : Nat}
  {r : Readings}

theorem memoryAgrees_start (s : RecoverySupervisor) : MemoryAgrees { supervisor := s } 0 [] :=
  ⟨rfl, le_rfl, trivial, rfl, by decide⟩

theorem screenAgrees_start (s : RecoverySupervisor) : ScreenAgrees { supervisor := s } 0 [] :=
  ⟨⟨rfl, rfl, rfl, rfl, by decide⟩, rfl, le_rfl, trivial⟩

theorem MemoryAgrees.until (agrees : MemoryAgrees w time checks) (passes : time ≤ later) :
    MemoryAgrees w later checks :=
  { agrees with past := agrees.past.trans passes }

theorem ScreenAgrees.until (agrees : ScreenAgrees w time looks) (passes : time ≤ later) :
    ScreenAgrees w later looks :=
  { agrees with past := agrees.past.trans passes }

/-- A due check comes after its interval. -/
theorem MemoryAgrees.check_spaced (agrees : MemoryAgrees w time checks)
    (due : w.lowMemoryDue (.ofNat time) = true) :
    Spaced 1000 (time :: checks.map MemoryCheck.time) := by
  rw [lowMemoryDue, decide_eq_true_iff, agrees.latest] at due
  exact ⟨elapsed_of_due agrees.past due, agrees.spaced⟩

theorem ScreenAgrees.look_spaced (agrees : ScreenAgrees w time looks)
    (due : w.diagnosticsDue (.ofNat time) = true) :
    Spaced 30000 (time :: looks.map Look.time) := by
  rw [diagnosticsDue, decide_eq_true_iff, agrees.latest] at due
  exact ⟨elapsed_of_due agrees.past due, agrees.spaced⟩

/-- A due check restarts exactly if it is the tenth critical one since the last normal one. -/
theorem checkLowMemory_due (agrees : MemoryAgrees w time checks)
    (due : w.lowMemoryDue (.ofNat time) = true) :
    (w.checkLowMemory (.ofNat time) r).2.2 =
        (if classifyLowMemory r.internalLargest = .critical ∧ criticalChecks checks = 9
          then some .lowMemory else none) ∧
      ((w.checkLowMemory (.ofNat time) r).2.2 = none →
        MemoryAgrees (w.checkLowMemory (.ofNat time) r).1 time
          (⟨time, classifyLowMemory r.internalLargest⟩ :: checks)) := by
  have spaced := agrees.check_spaced due
  obtain ⟨-, -, -, critical, patient⟩ := agrees
  unfold checkLowMemory
  rw [if_pos due]
  cases level : classifyLowMemory r.internalLargest with
  | normal =>
    have cleared : criticalChecks (⟨time, .normal⟩ :: checks) = 0 := criticalChecks_normal rfl
    refine ⟨rfl, fun _ => ⟨rfl, le_rfl, spaced, ?_, ?_⟩⟩
    · rw [cleared]
      rfl
    · rw [cleared]
      exact Nat.succ_pos 9
  | warning =>
    have passed : criticalChecks (⟨time, .warning⟩ :: checks) = criticalChecks checks :=
      criticalChecks_warning rfl
    exact ⟨rfl, fun _ => ⟨rfl, le_rfl, spaced, critical.trans passed.symm, passed.trans_lt patient⟩⟩
  | critical =>
    have one : criticalChecks (⟨time, .critical⟩ :: checks) = criticalChecks checks + 1 :=
      criticalChecks_critical rfl
    have counted :
        (w.consecutiveCriticalLowMemoryChecks + 1).toNat = criticalChecks checks + 1 := by
      rw [UInt32.toNat_add, critical]
      exact Nat.mod_eq_of_lt (show criticalChecks checks + 1 < 2 ^ 32 by omega)
    have enough : w.consecutiveCriticalLowMemoryChecks + 1 ≥ kCriticalRebootPatienceChecks ↔
        criticalChecks checks = 9 := by
      rw [ge_iff_le, UInt32.le_iff_toNat_le, counted]
      have patience : kCriticalRebootPatienceChecks.toNat = 10 := rfl
      omega
    simp only [enough, true_and]
    intro stays
    have fewer : criticalChecks checks ≠ 9 := by
      intro nine
      rw [if_pos nine] at stays
      cases stays
    exact ⟨rfl, le_rfl, spaced, counted.trans one.symm, by omega⟩

theorem checkLowMemory_not_due (due : w.lowMemoryDue now = false) :
    w.checkLowMemory now r = (w, [], none) := by
  unfold checkLowMemory
  simp [due]

/-- Another watch that differs in the counters of the memory only. -/
def SameScreen (w other : LoopWatch) : Prop :=
  ∃ last count, other =
    { w with lastLowMemoryCheckMs := last, consecutiveCriticalLowMemoryChecks := count }

theorem checkLowMemory_sameScreen (w : LoopWatch) (now : UInt32) (r : Readings) :
    w.SameScreen (w.checkLowMemory now r).1 := by
  unfold checkLowMemory
  split
  · cases classifyLowMemory r.internalLargest with
    | normal => exact ⟨_, _, rfl⟩
    | warning => exact ⟨_, _, rfl⟩
    | critical => exact ⟨_, _, rfl⟩
  · exact ⟨_, _, rfl⟩

section SameScreen

variable {other : LoopWatch} (same : w.SameScreen other)
include same

theorem SameScreen.supervisor : other.supervisor = w.supervisor := by
  obtain ⟨last, count, rfl⟩ := same
  rfl

theorem SameScreen.diagnosticsDue (now : UInt32) :
    other.diagnosticsDue now = w.diagnosticsDue now := by
  obtain ⟨last, count, rfl⟩ := same
  rfl

theorem SameScreen.agrees (agrees : ScreenAgrees w time looks) : ScreenAgrees other time looks := by
  obtain ⟨last, count, rfl⟩ := same
  exact { agrees with }

end SameScreen

/-- What the memory block asks of the journal is no redraw. -/
theorem checkLowMemory_effects (w : LoopWatch) (now : UInt32) (r : Readings) :
    ∀ effect ∈ (w.checkLowMemory now r).2.1, effect = .beginCompaction := by
  have relieved : ∀ effect ∈ relief r, effect = .beginCompaction := by
    unfold relief
    split
    · simp
    · simp
  unfold checkLowMemory
  split
  · cases classifyLowMemory r.internalLargest with
    | normal => simp
    | warning => exact relieved
    | critical => exact relieved
  · simp

/-- A look restarts the device, or does what its number among the stalled ones asks for. -/
theorem checkUiStall_look (agrees : StallAgrees w looks) :
    (w.checkUiStall (.ofNat time) r).2 =
        (if lookTick ⟨time, r.frameId⟩ looks = .hit () then stallResponse (stalledLooks looks + 1)
          else ([], none)) ∧
      ((w.checkUiStall (.ofNat time) r).2.2 = none →
        StallAgrees (w.checkUiStall (.ofNat time) r).1 (⟨time, r.frameId⟩ :: looks)) := by
  obtain ⟨frame, since, redraw, reinit, few⟩ := agrees
  unfold checkUiStall
  by_cases changed : r.frameId ≠ w.lastSeenFrameId
  · have other : r.frameId ≠ shownFrame looks := frame ▸ changed
    have tick : lookTick ⟨time, r.frameId⟩ looks = .clear := lookTick_changed other
    have none := stalledLooks_clear tick
    have fresh : shownSince (⟨time, r.frameId⟩ :: looks) = time := if_pos other
    rw [if_pos changed, tick]
    exact ⟨rfl, fun _ => ⟨rfl, by rw [fresh], by rw [none]; rfl, by rw [none]; rfl, by omega⟩⟩
  have same : r.frameId = shownFrame looks := (not_not.mp changed).trans frame
  have still : w.lastSeenFrameId = shownFrame (⟨time, r.frameId⟩ :: looks) :=
    (not_not.mp changed).symm
  have progress : w.lastRenderProgressMs = .ofNat (shownSince (⟨time, r.frameId⟩ :: looks)) := by
    rw [shownSince_same same]
    exact since
  rw [if_neg changed]
  by_cases long : UInt32.ofNat time - w.lastRenderProgressMs ≥ kUiStallThresholdMs
  · have tick : lookTick ⟨time, r.frameId⟩ looks = .hit () := lookTick_late same (since ▸ long)
    have one := stalledLooks_hit tick
    rw [if_pos long, if_pos tick, redraw, reinit]
    constructor
    · interval_cases stalledLooks looks <;> rfl
    · intro stays
      interval_cases counted : stalledLooks looks
      · exact ⟨still, progress, by rw [one]; rfl, by rw [one]; rfl, by omega⟩
      · exact ⟨still, progress, by rw [one]; rfl, by rw [one]; rfl, by omega⟩
      · cases stays
  · have tick : lookTick ⟨time, r.frameId⟩ looks = .pass := lookTick_early same (since ▸ long)
    have passed := stalledLooks_pass tick
    rw [if_neg long, tick]
    exact ⟨rfl, fun _ =>
      ⟨still, progress, by rw [passed]; exact redraw, by rw [passed]; exact reinit, by omega⟩⟩

/-- The watch over the screen changes nothing but its own ladder. -/
theorem checkUiStall_apart (w : LoopWatch) (now : UInt32) (r : Readings) :
    ∃ frame since redraw reinit, (w.checkUiStall now r).1 =
      { w with
        lastSeenFrameId := frame
        lastRenderProgressMs := since
        uiStallRedrawAttempted := redraw
        uiStallDisplayReinitAttempted := reinit } := by
  unfold checkUiStall
  split
  · exact ⟨_, _, _, _, rfl⟩
  split
  · split
    · exact ⟨_, _, _, _, rfl⟩
    split
    · exact ⟨_, _, _, _, rfl⟩
    · exact ⟨_, _, _, _, rfl⟩
  · exact ⟨_, _, _, _, rfl⟩

theorem checkDiagnostics_not_due (due : w.diagnosticsDue now = false) :
    w.checkDiagnostics now r = (w, [], none) := by
  unfold checkDiagnostics
  simp [due]

/-- A due block marks the boot stable and looks at the screen. -/
theorem checkDiagnostics_due (memory : MemoryAgrees w time checks)
    (agrees : ScreenAgrees w time looks) (due : w.diagnosticsDue (.ofNat time) = true) :
    (w.checkDiagnostics (.ofNat time) r).2 =
        (if lookTick ⟨time, r.frameId⟩ looks = .hit () then stallResponse (stalledLooks looks + 1)
          else ([], none)) ∧
      (w.checkDiagnostics (.ofNat time) r).1.supervisor = w.supervisor.markStable ∧
      MemoryAgrees (w.checkDiagnostics (.ofNat time) r).1 time checks ∧
      ((w.checkDiagnostics (.ofNat time) r).2.2 = none →
        ScreenAgrees (w.checkDiagnostics (.ofNat time) r).1 time (⟨time, r.frameId⟩ :: looks)) := by
  have spaced := agrees.look_spaced due
  let marked : LoopWatch :=
    { w with lastDiagnosticsPrintMs := .ofNat time, supervisor := w.supervisor.markStable }
  have block : w.checkDiagnostics (.ofNat time) r = marked.checkUiStall (.ofNat time) r :=
    if_pos due
  obtain ⟨response, kept⟩ := @checkUiStall_look marked looks time r { agrees.toStallAgrees with }
  rw [block]
  obtain ⟨frame, since, redraw, reinit, after⟩ := checkUiStall_apart marked (.ofNat time) r
  refine ⟨response, ?_, ?_, fun stays => ⟨kept stays, ?_, le_rfl, spaced⟩⟩
  · rw [after]
  · rw [after]
    exact { memory with }
  · rw [after]
    rfl

end LoopWatch

end Kiosk.Health
