import Kiosk.Health.LoopSupervisors

/-! When the supervisors of `loop()` restart the device, over its whole life, and which of these
restarts lead to safe mode. -/
namespace Kiosk.Health.WatchLife

open Library Library.LatestRun Library.TransitionSystem LoopWatch

/-- A due check finds the memory critical, for the tenth time since it was last normal. -/
def TenthCritical (life : WatchLife) (elapsed : Nat) (r : Readings) : Prop :=
  life.watch.lowMemoryDue (life.millis elapsed) = true ∧
      classifyLowMemory r.internalLargest = .critical ∧
    criticalChecks life.checks = 9

/-- A due look finds the screen stalled. -/
def StalledLook (life : WatchLife) (elapsed : Nat) (r : Readings) : Prop :=
  life.watch.diagnosticsDue (life.millis elapsed) = true ∧
    lookTick ⟨life.uptime + elapsed, r.frameId⟩ life.looks = .hit ()

/-- What a pass does. -/
def effects (life : WatchLife) (elapsed : Nat) (r : Readings) : List WatchEffect :=
  (life.watch.iterate (life.millis elapsed) r).2.1

/-- What a pass restarts the device for. -/
def restartCode (life : WatchLife) (elapsed : Nat) (r : Readings) : Option RecoveryCode :=
  (life.watch.iterate (life.millis elapsed) r).2.2

instance : Decidable (TenthCritical life elapsed r) := inferInstanceAs (Decidable (_ ∧ _ ∧ _))

instance : Decidable (StalledLook life elapsed r) := inferInstanceAs (Decidable (_ ∧ _))

/-- The reboots for a stalled screen come one at a time: the mark before each of them ends
the run. -/
def SingleStalls (newestFirst : List SupervisorEvent) : Prop :=
  ∀ code, latestHit tick newestFirst = some code →
    code = .lowMemory ∨ latestRun tick newestFirst ≤ 1

/-- What holds of every device: the watch agrees with what was noted. -/
structure Watched (life : WatchLife) : Prop where
  memory : MemoryAgrees life.watch life.uptime life.checks
  screen : ScreenAgrees life.watch life.uptime life.looks
  supervisor : life.watch.supervisor = afterHistory life.history
  stalls : SingleStalls life.history.reverse

theorem start_watched : Watched start :=
  ⟨memoryAgrees_start _, screenAgrees_start _, rfl, nofun⟩

section Stalls

variable {newestFirst : List SupervisorEvent}

theorem SingleStalls.reset (single : SingleStalls newestFirst) :
    SingleStalls (.reset :: newestFirst) := by
  rw [SingleStalls, latestHit_pass rfl, latestRun_pass rfl]
  exact single

theorem SingleStalls.markStable : SingleStalls (.markStable :: newestFirst) := by
  intro code _
  have cleared : latestRun tick (.markStable :: newestFirst) = 0 := latestRun_clear rfl
  exact .inr (cleared.trans_le (Nat.zero_le 1))

theorem SingleStalls.lowMemory : SingleStalls (.controlledReboot .lowMemory :: newestFirst) := by
  intro code latest
  rw [latestHit_hit (tick_eq_hit.mpr rfl)] at latest
  exact .inl (Option.some.inj latest).symm

theorem SingleStalls.uiStall :
    SingleStalls (.controlledReboot .uiStall :: .markStable :: newestFirst) := by
  intro code _
  have cleared : latestRun tick (.markStable :: newestFirst) = 0 := latestRun_clear rfl
  rw [latestRun_hit (tick_eq_hit.mpr rfl), cleared]
  exact .inr (by split <;> exact le_rfl)

end Stalls

variable {life : WatchLife} {elapsed : Nat} {r : Readings}

/-- A restart begins a boot with the supervisor that the history left behind. -/
theorem restart_watched (prefs : Option RecoveryPrefs) (event : SupervisorEvent)
    (supervisor : RecoverySupervisor.init prefs = supervise (afterHistory life.history) event)
    (stalls : SingleStalls (event :: life.history.reverse)) :
    Watched (life.restart prefs event) where
  memory := memoryAgrees_start _
  screen := screenAgrees_start _
  supervisor := by
    rw [restart, afterHistory, run_append]
    exact supervisor
  stalls := by
    rw [restart, List.reverse_append]
    exact stalls

theorem reset_watched (watched : Watched life) : Watched (life.step .reset) := by
  refine restart_watched _ _ ?_ watched.stalls.reset
  rw [watched.supervisor]
  rfl

/-- The memory block of a pass. -/
theorem memory_block (watched : Watched life) :
    (life.watch.checkLowMemory (life.millis elapsed) r).2.2 =
        (if life.TenthCritical elapsed r then some .lowMemory else none) ∧
      ((life.watch.checkLowMemory (life.millis elapsed) r).2.2 = none →
        MemoryAgrees (life.watch.checkLowMemory (life.millis elapsed) r).1 (life.uptime + elapsed)
          (life.noteCheck elapsed r)) := by
  have agrees := watched.memory.until (Nat.le_add_right life.uptime elapsed)
  cases due : life.watch.lowMemoryDue (life.millis elapsed) with
  | false =>
    have early : ¬ life.TenthCritical elapsed r := by simp [TenthCritical, due]
    rw [checkLowMemory_not_due due, if_neg early, noteCheck, due]
    exact ⟨rfl, fun _ => agrees⟩
  | true =>
    have tenth : life.TenthCritical elapsed r ↔
        classifyLowMemory r.internalLargest = .critical ∧ criticalChecks life.checks = 9 := by
          simp [TenthCritical, due]
    simp only [tenth, noteCheck, due, if_true]
    exact checkLowMemory_due agrees due

/-- The block of the diagnostics, after a memory block. -/
theorem screen_block {w : LoopWatch} {checks : List MemoryCheck} (watched : Watched life)
    (same : life.watch.SameScreen w) (memory : MemoryAgrees w (life.uptime + elapsed) checks) :
    (w.checkDiagnostics (life.millis elapsed) r).2 =
        (if life.StalledLook elapsed r then stallResponse (stalledLooks life.looks + 1)
          else ([], none)) ∧
      (w.checkDiagnostics (life.millis elapsed) r).1.supervisor =
        run supervise life.watch.supervisor (life.noteMark elapsed) ∧
      MemoryAgrees (w.checkDiagnostics (life.millis elapsed) r).1 (life.uptime + elapsed) checks ∧
      ((w.checkDiagnostics (life.millis elapsed) r).2.2 = none →
        ScreenAgrees (w.checkDiagnostics (life.millis elapsed) r).1 (life.uptime + elapsed)
          (life.noteLook elapsed r)) := by
  have agrees := same.agrees (watched.screen.until (Nat.le_add_right life.uptime elapsed))
  have supervisor := same.supervisor
  cases due : w.diagnosticsDue (life.millis elapsed) with
  | false =>
    rw [same.diagnosticsDue] at due
    have early : ¬ life.StalledLook elapsed r := by simp [StalledLook, due]
    rw [← same.diagnosticsDue] at due
    rw [checkDiagnostics_not_due due, if_neg early, noteLook, noteMark, ← same.diagnosticsDue, due]
    exact ⟨rfl, supervisor, memory, fun _ => agrees⟩
  | true =>
    obtain ⟨response, marked, counted, looked⟩ :=
      @checkDiagnostics_due w checks life.looks _ r memory agrees due
    rw [same.diagnosticsDue] at due
    simp only [StalledLook, noteLook, noteMark, due, true_and, if_true]
    exact ⟨response, marked.trans (congrArg _ supervisor), counted, looked⟩

/-- A pass restarts for the memory, or does what a stalled screen asks for. -/
theorem pass_eq (watched : Watched life) :
    (life.effects elapsed r, life.restartCode elapsed r) =
      if life.TenthCritical elapsed r
        then ((life.watch.checkLowMemory (life.millis elapsed) r).2.1, some .lowMemory)
      else
        let response := if life.StalledLook elapsed r
          then stallResponse (stalledLooks life.looks + 1) else ([], none)
        ((life.watch.checkLowMemory (life.millis elapsed) r).2.1 ++ response.1, response.2) := by
  obtain ⟨restart, kept⟩ := @memory_block life elapsed r watched
  have same := checkLowMemory_sameScreen life.watch (life.millis elapsed) r
  rcases block : life.watch.checkLowMemory (life.millis elapsed) r with ⟨w, relieved, code⟩
  rw [block] at restart kept same
  simp only [effects, restartCode, iterate, block]
  dsimp only at restart
  split at restart
  · rw [restart, if_pos (by assumption)]
  · rw [restart, if_neg (by assumption), ← (screen_block watched same (kept restart)).1]

/-- A pass that restarts after a look restarts for the stalled screen. -/
theorem stall_restart {effects : List WatchEffect} {code : RecoveryCode}
    (response : (effects, some code) =
      if life.StalledLook elapsed r then stallResponse (stalledLooks life.looks + 1)
        else ([], none)) :
    life.StalledLook elapsed r ∧ code = .uiStall := by
  split at response
  · rename_i stalled
    refine ⟨stalled, ?_⟩
    unfold stallResponse at response
    split at response
    · cases response
    · cases response
    · exact Option.some.inj (congrArg Prod.snd response)
  · cases response

theorem SingleStalls.noteMark (single : SingleStalls life.history.reverse) :
    SingleStalls (life.history ++ life.noteMark elapsed).reverse := by
  rw [WatchLife.noteMark, List.reverse_append]
  split
  · exact .markStable
  · exact single

theorem iterate_watched (watched : Watched life) : Watched (life.step (.iterate elapsed r)) := by
  obtain ⟨restart, kept⟩ := @memory_block life elapsed r watched
  have same := checkLowMemory_sameScreen life.watch (life.millis elapsed) r
  rcases block : life.watch.checkLowMemory (life.millis elapsed) r with ⟨w, relieved, code⟩
  rw [block] at restart kept same
  simp only [step, block]
  cases code with
  | some code =>
    have memory : code = .lowMemory := by
      dsimp only at restart
      split at restart
      · exact Option.some.inj restart
      · cases restart
    subst memory
    refine restart_watched _ _ ?_ .lowMemory
    rw [same.supervisor, watched.supervisor]
    rfl
  | none =>
    obtain ⟨response, supervisor, counted, looked⟩ :=
      @screen_block life elapsed r w _ watched same (kept rfl)
    rcases block : w.checkDiagnostics (life.millis elapsed) r with ⟨w, effects, code⟩
    rw [block] at response supervisor counted looked
    simp only [block]
    dsimp only at response supervisor counted looked
    have noted : w.supervisor = afterHistory (life.history ++ life.noteMark elapsed) := by
      rw [supervisor, watched.supervisor, afterHistory, afterHistory, run_append]
    cases code with
    | some code =>
      obtain ⟨stalled, rfl⟩ := stall_restart response
      have marks : life.noteMark elapsed = [.markStable] := if_pos stalled.1
      rw [marks] at noted ⊢
      refine @restart_watched { life with history := life.history ++ [.markStable] } _ _ ?_ ?_
      · rw [noted]
        rfl
      · rw [List.reverse_append]
        exact .uiStall
    | none => exact ⟨counted, looked rfl, noted, watched.stalls.noteMark⟩

/-- Every step of the life of a device keeps the watch in agreement with what was noted. -/
theorem step_watched (life : WatchLife) (input : WatchStep) (watched : Watched life) :
    Watched (life.step input) := by
  cases input with
  | iterate elapsed r => exact iterate_watched watched
  | reset => exact reset_watched watched

theorem run_watched (steps : List WatchStep) : Watched (run step start steps) :=
  run_invariant start_watched step_watched steps

/-- Over the whole life of a device, a pass restarts it for its memory exactly if a due check is
the tenth critical one since the memory was last normal, and that is at least ten seconds ago. -/
theorem restart_memory_iff (steps : List WatchStep) (elapsed : Nat) (r : Readings) :
    let life := run step start steps
    (life.restartCode elapsed r = some .lowMemory ↔ life.TenthCritical elapsed r) ∧
      (life.restartCode elapsed r = some .lowMemory →
        lastNormal life.checks + 10000 ≤ life.uptime + elapsed) := by
  intro life
  have watched : Watched life := run_watched steps
  have code := congrArg Prod.snd (@pass_eq life elapsed r watched)
  dsimp only at code
  rw [code]
  by_cases tenth : life.TenthCritical elapsed r
  · rw [if_pos tenth]
    refine ⟨iff_of_true rfl tenth, fun _ => ?_⟩
    have spaced :=
      (watched.memory.until (Nat.le_add_right life.uptime elapsed)).check_spaced tenth.1
    have bound := lastNormal_add_le watched.memory.spaced
    rw [tenth.2.2] at bound
    exact (Nat.add_le_add_right bound 1000).trans spaced.1
  · rw [if_neg tenth]
    have other : ¬ (if life.StalledLook elapsed r then stallResponse (stalledLooks life.looks + 1)
        else (([], none) : List WatchEffect × Option RecoveryCode)).2 = some .lowMemory := by
      intro restart
      obtain ⟨-, code⟩ := stall_restart (Prod.ext rfl restart.symm)
      cases code
    exact ⟨iff_of_false other tenth, fun restart => absurd restart other⟩

/-- A look that finds the screen stalled sees the frame that was shown. -/
theorem look_same {look : Look} {older : List Look} (hit : lookTick look older = .hit ()) :
    look.frameId = shownFrame older := by
  by_contra changed
  rw [lookTick_changed changed] at hit
  cases hit

/-- Over the whole life of a device, a screen that is not drawn is redrawn, then initialised, then
restarted, at the first three looks that find it stalled; the restart comes at least six minutes
after the frame was first seen. -/
theorem restart_stall_iff (steps : List WatchStep) (elapsed : Nat) (r : Readings) :
    let life := run step start steps
    let stalled := ¬ life.TenthCritical elapsed r ∧ life.StalledLook elapsed r
    (.refreshIdleScreen ∈ life.effects elapsed r ↔ stalled ∧ stalledLooks life.looks ≤ 1) ∧
      (.displayInit ∈ life.effects elapsed r ↔ stalled ∧ stalledLooks life.looks = 1) ∧
      (life.restartCode elapsed r = some .uiStall ↔ stalled ∧ stalledLooks life.looks = 2) ∧
      (life.restartCode elapsed r = some .uiStall →
        r.frameId = shownFrame life.looks ∧
          shownSince life.looks + 360000 ≤ life.uptime + elapsed) := by
  intro life stalled
  have watched : Watched life := run_watched steps
  have few := watched.screen.few
  have effects := congrArg Prod.fst (@pass_eq life elapsed r watched)
  have code := congrArg Prod.snd (@pass_eq life elapsed r watched)
  have relieved := checkLowMemory_effects life.watch (life.millis elapsed) r
  have redraw :
      WatchEffect.refreshIdleScreen ∉ (life.watch.checkLowMemory (life.millis elapsed) r).2.1 :=
    fun member => WatchEffect.noConfusion (relieved _ member)
  have reinit : WatchEffect.displayInit ∉ (life.watch.checkLowMemory (life.millis elapsed) r).2.1 :=
    fun member => WatchEffect.noConfusion (relieved _ member)
  dsimp only at effects code
  rw [effects, code]
  by_cases quiet : stalled
  · obtain ⟨tenth, look⟩ := quiet
    rw [if_neg tenth, if_pos look]
    have since : stalledLooks life.looks = 2 →
        r.frameId = shownFrame life.looks ∧
          shownSince life.looks + 360000 ≤ life.uptime + elapsed := by
      intro second
      have spaced :=
        (watched.screen.until (Nat.le_add_right life.uptime elapsed)).look_spaced look.1
      have bound := (shownSince_add_le watched.screen.spaced).2 (by omega)
      rw [second] at bound
      have apart := spaced.1
      exact ⟨look_same look.2, by omega⟩
    interval_cases count :
      stalledLooks life.looks <;> simp [stallResponse, redraw, reinit, tenth, look, stalled]
    exact since rfl
  · by_cases tenth : life.TenthCritical elapsed r
    · rw [if_pos tenth]
      simp [redraw, reinit, quiet]
    · have look : ¬ life.StalledLook elapsed r := fun look => quiet ⟨tenth, look⟩
      rw [if_neg tenth, if_neg look]
      simp [redraw, reinit, quiet]

/-- The last three controlled reboots were for the memory, and no boot after the first of them
came to its mark. -/
def LastThreeForMemory (history : List SupervisorEvent) : Prop :=
  ∃ before second third after,
    history = before ++ .controlledReboot .lowMemory :: second ++
        .controlledReboot .lowMemory :: third ++
      .controlledReboot .lowMemory :: after ∧
    ∀ event ∈ second ++ third ++ after, event = .reset

theorem latestHit_reverse {code : RecoveryCode} {before after : List SupervisorEvent}
    (resets : ∀ event ∈ after, event = .reset) :
    latestHit tick (before ++ .controlledReboot code :: after).reverse = some code := by
  have split : (before ++ .controlledReboot code :: after).reverse =
      after.reverse ++ .controlledReboot code :: before.reverse := by
    simp
  rw [split, latestHit_append, latestHit_hit (tick_eq_hit.mpr rfl)]
  intro passed member
  exact tick_eq_pass.mpr (resets passed (List.mem_reverse.mp member))

/-- A device that the supervisors alone restart comes up in safe mode exactly after three restarts
for its memory, each of a boot that did not come to its mark. -/
theorem safeMode_iff_memory (steps : List WatchStep)
    (short : (run step start steps).history.length < 2 ^ 32) :
    (run step start steps).watch.supervisor.safeMode = true ↔
      LastThreeForMemory (run step start steps).history := by
  have watched := run_watched steps
  rw [watched.supervisor, safeMode_of_length_lt short]
  constructor
  · intro agree
    have run : 3 ≤ agreeingReboots (run step start steps).history := (lastThreeAgree_iff _).mp agree
    obtain ⟨code, before, second, third, after, split, resets⟩ := agree
    have latest := @latestHit_reverse code
      (before ++ .controlledReboot code :: second ++ .controlledReboot code :: third) after
      fun event member => resets event (List.mem_append_right _ member)
    rw [← split] at latest
    obtain rfl | single := watched.stalls code latest
    · exact ⟨before, second, third, after, split, resets⟩
    · rw [agreeingReboots] at run
      omega
  · rintro ⟨before, second, third, after, split, resets⟩
    exact ⟨.lowMemory, before, second, third, after, split, resets⟩

/-- A boot whose memory stays critical. -/
def starvedBoot : List WatchStep := List.replicate 10 (.iterate 1000 { internalLargest := 5000 })

/-- Three of them. -/
theorem safeMode_iff_memory_starved :
    (run step start (starvedBoot ++ starvedBoot ++ starvedBoot)).history.length < 2 ^ 32 ∧
      LastThreeForMemory (run step start (starvedBoot ++ starvedBoot ++ starvedBoot)).history :=
  have short :
      (run step start (starvedBoot ++ starvedBoot ++ starvedBoot)).history.length < 2 ^ 32 := by
    decide +kernel
  ⟨short, (safeMode_iff_memory _ short).mp (by decide +kernel)⟩

end Kiosk.Health.WatchLife
