import Kiosk.Hardware.KeypadMatrix

/-! `run_calibration` and `save_calibration` of `keypad_pcf8574.cpp`. The prompts are left
out; each scan comes with the clock read after it. -/
namespace Kiosk.Hardware

open Library

def kCalibrationStableMs : UInt32 := 60

/-- Where the recording stands: waiting for a release, or for a stable press. -/
inductive RecordPhase where
  | releasing
  | pressing (candidate : Option UInt8) (stableSince : UInt32)
  deriving DecidableEq, Repr

/-- The recording loop over the scans still to come, `none` where it waits for ever. A pair
that was recorded before is pressed again. -/
def recordFrom : RecordPhase → List UInt8 → List KeypadPcf8574.Poll → Option (List UInt8)
  | _, _, [] => none
  | .releasing, recorded, input :: rest =>
    if input.scan = .none then
      if recorded.length = kKeyCount then some recorded
        else recordFrom (.pressing none 0) recorded rest
    else recordFrom .releasing recorded rest
  | .pressing candidate stableSince, recorded, input :: rest =>
    match input.scan with
    | .one pair =>
      if candidate ≠ some pair then recordFrom (.pressing (some pair) input.now) recorded rest
      else if input.now - stableSince ≥ kCalibrationStableMs then
        recordFrom .releasing (if recorded.contains pair then recorded else recorded ++ [pair]) rest
      else recordFrom (.pressing candidate stableSince) recorded rest
    | _ => recordFrom (.pressing none stableSince) recorded rest

/-- The pairs the operator gives, from the release before the first prompt on. -/
def recordedPairs (scans : List KeypadPcf8574.Poll) : Option Pairs :=
  (recordFrom .releasing [] scans).map fun recorded i => recorded.getD i 0xFF

/-- What the NVS answers: whether it opens, and the bytes each put writes. -/
structure NvsAnswers where
  begins : Bool := true
  pairBytes : Nat := 12
  magicBytes : Nat := 4

/-- Both values are written. -/
def NvsAnswers.Complete (nvs : NvsAnswers) : Prop :=
  nvs.begins = true ∧ nvs.pairBytes = kKeyCount ∧ nvs.magicBytes = 4

instance (nvs : NvsAnswers) : Decidable nvs.Complete := inferInstanceAs (Decidable (_ ∧ _ ∧ _))

namespace KeypadPcf8574

def saveCalibration (s : KeypadPcf8574) (nvs : NvsAnswers) : KeypadPcf8574 × Bool :=
  if !validateMatrixShape s.pairs then (s, false)
  else if !nvs.begins then (s, false)
  else
    let calibrated := nvs.pairBytes = kKeyCount && nvs.magicBytes = 4
    ({ s with calibrated := calibrated }, calibrated)

/-- The driver after the call and what the call returns; `none` where it never returns. -/
def runCalibration (s : KeypadPcf8574) (scans : List Poll) (nvs : NvsAnswers) :
    Option (KeypadPcf8574 × Bool) :=
  if !s.found then some (s, false)
  else
    match recordedPairs scans with
    | Option.none => Option.none
    | some newPairs =>
      let s := { s with pairs := newPairs }
      if !validateMatrixShape s.pairs then some (s, false)
      else some (s.saveCalibration nvs)

/-- A call that returns false leaves the mapping and the flag as they were. -/
def FailsAsNoOp (s : KeypadPcf8574) (scans : List Poll) (nvs : NvsAnswers) : Prop :=
  ∀ after, s.runCalibration scans nvs = some (after, false) →
    after.pairs = s.pairs ∧ after.calibrated = s.calibrated

/-- The operator ends up with a mapping that is saved, or gives the one that was there; in
the second case no put fails on a calibrated keypad. -/
def Harmless (s : KeypadPcf8574) (scans : List Poll) (nvs : NvsAnswers) : Prop :=
  s.found = true → ∀ newPairs, recordedPairs scans = some newPairs →
    (validateMatrixShape newPairs = true ∧ nvs.Complete) ∨
      (newPairs = s.pairs ∧
        (s.calibrated = false ∨ validateMatrixShape newPairs = false ∨ nvs.begins = false))

/-- What a save does to the flag, and what it returns. -/
private theorem saveCalibration_eq (s : KeypadPcf8574) (nvs : NvsAnswers)
    (valid : validateMatrixShape s.pairs = true) :
    s.saveCalibration nvs =
      if nvs.begins = true then ({ s with calibrated := decide nvs.Complete }, decide nvs.Complete)
        else (s, false) := by
  unfold saveCalibration
  rw [if_neg (by simp [valid])]
  cases begins : nvs.begins with
  | false => simp
  | true => simp [NvsAnswers.Complete, begins]

/-- A call that has recorded its pairs installs them before anything is checked. -/
private theorem runCalibration_recorded (s : KeypadPcf8574) (nvs : NvsAnswers)
    (found : s.found = true) (recording : recordedPairs scans = some newPairs) :
    s.runCalibration scans nvs = some (
      if validateMatrixShape newPairs = true then { s with pairs := newPairs }.saveCalibration nvs
      else ({ s with pairs := newPairs }, false)) := by
  unfold runCalibration
  rw [if_neg (by simp [found]), recording]
  cases valid : validateMatrixShape newPairs <;> simp [valid]

/-- A failed calibration changes nothing exactly when the mapping it recorded is saved
after all or is the old one, with no put failing on a calibrated keypad. -/
theorem failsAsNoOp_iff (s : KeypadPcf8574) (scans : List Poll) (nvs : NvsAnswers) :
    s.FailsAsNoOp scans nvs ↔ s.Harmless scans nvs := by
  unfold FailsAsNoOp Harmless
  by_cases found : s.found = true
  case neg => simp [runCalibration, found]
  cases recording : recordedPairs scans with
  | none => simp [runCalibration, found, recording]
  | some newPairs =>
    rw [runCalibration_recorded s nvs found recording]
    by_cases valid : validateMatrixShape newPairs = true
    case neg => simp [found, valid]
    rw [if_pos valid, saveCalibration_eq { s with pairs := newPairs } nvs valid]
    by_cases begins : nvs.begins = true
    case neg =>
      have incomplete : ¬ nvs.Complete := fun complete => begins complete.1
      simp [found, begins, incomplete]
    by_cases complete : nvs.Complete
    case pos => simp [found, valid, begins, complete]
    simp [found, valid, begins, complete]

/-- A session: a release, then each pair held for long enough and released. -/
private def session (pairs : Pairs) : List Poll :=
  ⟨0, .none⟩ :: (List.finRange kKeyCount).flatMap fun i =>
    [⟨0, .one (pairs i)⟩, ⟨60, .one (pairs i)⟩, ⟨70, .none⟩]

private theorem first_row : 0 < 4 := by decide

private theorem first_column : 0 < 3 := by decide

/-- The mapping with one key recorded off the matrix. -/
def misplacedPairs : Pairs :=
  Function.update wired.pairs (keyAt ⟨0, first_row⟩ ⟨0, first_column⟩) 0x56

/-- A calibration of a calibrated keypad that is refused for its shape has replaced the
mapping all the same. -/
theorem failed_calibration_installs :
    wired.calibrated = true ∧
      (∃ after, wired.runCalibration (session misplacedPairs) {} = some (after, false) ∧
        after.pairToKey (.one 0x04) = none ∧ wired.pairToKey (.one 0x04) = some 49) ∧
      ¬ wired.FailsAsNoOp (session misplacedPairs) {} := by
  have recording : recordedPairs (session misplacedPairs) = some misplacedPairs := by decide +kernel
  have refused : validateMatrixShape misplacedPairs = false := by decide +kernel
  have result := runCalibration_recorded wired {} rfl recording
  rw [if_neg (by simp [refused])] at result
  refine ⟨rfl, ⟨_, result, by decide +kernel, by decide +kernel⟩, fun kept => ?_⟩
  have same := congrFun (kept _ result).1 (keyAt 0 0)
  revert same
  decide +kernel

end KeypadPcf8574

end Kiosk.Hardware
