import Kiosk.Library.TransitionSystem

/-! `hardware/keypad_pcf8574.cpp`: from the pair of lines a scan finds shorted to the keys
on the event bus. The I2C transfers below a scan are left out; `millis()` and what a scan
returns are inputs. -/
namespace Kiosk.Hardware

open Library Library.TransitionSystem

def kKeyCount : Nat := 12

/-- `123456789*0#`. -/
def kKeyLayout : List UInt8 := [49, 50, 51, 52, 53, 54, 55, 56, 57, 42, 48, 35]

/-- The key at an index of the layout. -/
def layoutKey (index : Fin kKeyCount) : UInt8 := kKeyLayout.get index

def kPollIntervalMs : UInt32 := 12
def kStableMs : UInt32 := 40
def kReleaseStableMs : UInt32 := 100
def kI2cErrorReinitThreshold : Nat := 50

/-- What `scan_pair` returns: an encoded pair, -1, -2 or -3. -/
inductive PairScan where
  | one (pair : UInt8) | none | multiple | i2cError
  deriving DecidableEq, Repr

/-- The `LocalEvent`s of the keypad. -/
inductive KeypadEvent where
  | keyDown (key : UInt8) (timestampMs : UInt32)
  | keyUp (key : UInt8) (timestampMs : UInt32)
  | keypadRaw (rawByte : UInt8) (timestampMs : UInt32)
  deriving DecidableEq, Repr

/-- `pairs_[i]` is the encoded pair of the key at `i`. -/
abbrev Pairs := Fin kKeyCount → UInt8

structure KeypadPcf8574 where
  found : Bool := false
  calibrated : Bool := false
  pairs : Pairs := fun _ => 0
  candidatePair : PairScan := .none
  candidateSinceMs : UInt32 := 0
  stableEmittedPair : PairScan := .none
  lastPollMs : UInt32 := 0
  consecutiveI2cErrors : Nat := 0

namespace KeypadPcf8574

/-- The key of the first index with the pair. -/
def pairToKey (s : KeypadPcf8574) : PairScan → Option UInt8
  | .one pair => ((List.finRange kKeyCount).find? fun i => s.pairs i = pair).map layoutKey
  | _ => Option.none

/-- The clock when `poll` is called, and what its scan returns. -/
structure Poll where
  now : UInt32
  scan : PairScan

def debounce : PairScan → UInt32
  | .none => kReleaseStableMs
  | _ => kStableMs

/-- The end of `poll`, once the pair has been stable for long enough. -/
def settle (s : KeypadPcf8574) (pair : PairScan) (now : UInt32) :
    KeypadPcf8574 × Option KeypadEvent :=
  if s.calibrated then
    match pair with
    | .one _ =>
      if s.stableEmittedPair ≠ pair then
        match s.pairToKey pair with
        | some key => ({ s with stableEmittedPair := pair }, some (.keyDown key now))
        | Option.none => (s, Option.none)
      else (s, Option.none)
    | .none =>
      if s.stableEmittedPair ≠ .none then
        ({ s with stableEmittedPair := .none },
          (s.pairToKey s.stableEmittedPair).map fun key => .keyUp key now)
      else (s, Option.none)
    | _ => (s, Option.none)
  else
    match pair with
    | .one raw =>
      ({ s with stableEmittedPair := pair },
        if s.stableEmittedPair ≠ pair then some (.keypadRaw raw now) else Option.none)
    | _ => ({ s with stableEmittedPair := pair }, Option.none)

/-- `poll`, with the event it publishes. -/
def poll (s : KeypadPcf8574) (input : Poll) : KeypadPcf8574 × Option KeypadEvent :=
  if !s.found then (s, Option.none)
  else if input.now - s.lastPollMs < kPollIntervalMs then (s, Option.none)
  else
    let s := { s with lastPollMs := input.now }
    if input.scan = .i2cError then
      let errors := s.consecutiveI2cErrors + 1
      ({ s with consecutiveI2cErrors := if errors ≥ kI2cErrorReinitThreshold then 0 else errors },
        Option.none)
    else
      let s := { s with consecutiveI2cErrors := 0 }
      if input.scan ≠ s.candidatePair then
        ({ s with candidatePair := input.scan, candidateSinceMs := input.now }, Option.none)
      else if input.now - s.candidateSinceMs < debounce input.scan then (s, Option.none)
      else s.settle input.scan input.now

def step (s : KeypadPcf8574) (input : Poll) : KeypadPcf8574 := (s.poll input).1

/-- The events of a run, in order. -/
def emitted (s : KeypadPcf8574) : List Poll → List KeypadEvent
  | [] => []
  | input :: rest => (s.poll input).2.toList ++ (s.step input).emitted rest

end KeypadPcf8574

/-- Every press is closed by its own release before the next one; `held` is the key that
is down before the first event. -/
def Bracketed : Option UInt8 → List KeypadEvent → Prop
  | _, [] => True
  | none, .keyDown key _ :: rest => Bracketed (some key) rest
  | some held, .keyUp key _ :: rest => key = held ∧ Bracketed none rest
  | held, .keypadRaw _ _ :: rest => Bracketed held rest
  | _, _ => False

instance Bracketed.decidable :
    (held : Option UInt8) → (events : List KeypadEvent) → Decidable (Bracketed held events)
  | _, [] => isTrue trivial
  | none, .keyDown key _ :: rest => Bracketed.decidable (some key) rest
  | some held, .keyUp key _ :: rest =>
    have := Bracketed.decidable none rest
    inferInstanceAs (Decidable (key = held ∧ Bracketed none rest))
  | none, .keypadRaw _ _ :: rest => Bracketed.decidable none rest
  | some held, .keypadRaw _ _ :: rest => Bracketed.decidable (some held) rest
  | some _, .keyDown _ _ :: _ => isFalse id
  | none, .keyUp _ _ :: _ => isFalse id

namespace KeypadPcf8574

/-- The key whose press is not closed yet. -/
def heldKey (s : KeypadPcf8574) : Option UInt8 := s.pairToKey s.stableEmittedPair

/-- While a key is held, another pair of a known key has been stable for the press
window: a rollover without a stable release in between. -/
structure RollsOver (s : KeypadPcf8574) (input : Poll) : Prop where
  found : s.found = true
  due : ¬ input.now - s.lastPollMs < kPollIntervalMs
  candidate : input.scan = s.candidatePair
  stable : ¬ input.now - s.candidateSinceMs < kStableMs
  known : (s.pairToKey input.scan).isSome = true
  other : input.scan ≠ s.stableEmittedPair
  held : s.heldKey.isSome = true

instance (s : KeypadPcf8574) (input : Poll) : Decidable (RollsOver s input) :=
  decidable_of_iff
    (s.found = true ∧ ¬ input.now - s.lastPollMs < kPollIntervalMs ∧ input.scan = s.candidatePair ∧
      ¬ input.now - s.candidateSinceMs < kStableMs ∧ (s.pairToKey input.scan).isSome = true ∧
      input.scan ≠ s.stableEmittedPair ∧ s.heldKey.isSome = true)
    ⟨fun ⟨found, due, candidate, stable, known, other, held⟩ =>
      ⟨found, due, candidate, stable, known, other, held⟩,
      fun ⟨found, due, candidate, stable, known, other, held⟩ =>
        ⟨found, due, candidate, stable, known, other, held⟩⟩

/-- Everything a poll of a calibrated keypad can do to the held key. -/
inductive PollOutcome (s : KeypadPcf8574) (input : Poll) : Prop where
  | quiet (event : (s.poll input).2 = none) (held : (s.step input).heldKey = s.heldKey)
      (steady : ¬ RollsOver s input)
  | pressed (key : UInt8) (event : (s.poll input).2 = some (.keyDown key input.now))
      (held : (s.step input).heldKey = some key)
      (rollover : RollsOver s input ↔ s.heldKey.isSome = true)
  | released (key : UInt8) (held : s.heldKey = some key)
      (event : (s.poll input).2 = some (.keyUp key input.now))
      (free : (s.step input).heldKey = none) (steady : ¬ RollsOver s input)

theorem settle_calibrated (s : KeypadPcf8574) (pair : PairScan) (now : UInt32) :
    (s.settle pair now).1.calibrated = s.calibrated := by
  unfold settle
  cases calibrated : s.calibrated with
  | false => cases pair <;> simp
  | true =>
    cases pair with
    | one pair =>
      simp only [if_true]
      split
      · split <;> simp [calibrated]
      · exact calibrated
    | none =>
      simp only [if_true]
      split <;> simp [calibrated]
    | multiple => exact calibrated
    | i2cError => exact calibrated

theorem step_calibrated (s : KeypadPcf8574) (input : Poll) :
    (s.step input).calibrated = s.calibrated := by
  unfold step poll
  simp only
  repeat' split
  all_goals first
    | rfl
    | exact settle_calibrated _ _ _

/-- A known pair that is not the one held. -/
def Fresh (s : KeypadPcf8574) (pair : PairScan) : Prop :=
  (s.pairToKey pair).isSome = true ∧ pair ≠ s.stableEmittedPair

/-- What a settled pair does: nothing, a press of a fresh pair, or the release of the held
key. -/
private theorem settle_outcome (s : KeypadPcf8574) (pair : PairScan) (now : UInt32)
    (calibrated : s.calibrated = true) :
    ((s.settle pair now).2 = none ∧ (s.settle pair now).1.heldKey = s.heldKey ∧ ¬ s.Fresh pair) ∨
    (∃ key, (s.settle pair now).2 = some (.keyDown key now) ∧
      (s.settle pair now).1.heldKey = some key ∧ s.Fresh pair) ∨
    (∃ key, s.heldKey = some key ∧ (s.settle pair now).2 = some (.keyUp key now) ∧
      (s.settle pair now).1.heldKey = none ∧ ¬ s.Fresh pair) := by
  unfold settle
  rw [if_pos calibrated]
  cases pair with
  | one raw =>
    simp only
    split
    · rename_i other
      split
      · rename_i key known
        exact .inr (.inl ⟨key, rfl, known, by simp [known], Ne.symm other⟩)
      · rename_i unknown
        exact .inl ⟨rfl, rfl, fun fresh => by have known := fresh.1; simp [unknown] at known⟩
    · rename_i same
      exact .inl ⟨rfl, rfl, fun fresh => fresh.2 (Eq.symm (not_not.mp same))⟩
  | none =>
    simp only
    have unknown : ¬ s.Fresh .none := fun fresh => by simp [Fresh, pairToKey] at fresh
    split
    · cases held : s.heldKey with
      | none =>
        exact .inl ⟨by rw [show s.pairToKey s.stableEmittedPair = none from held]; rfl,
          rfl, unknown⟩
      | some key =>
        have emitted : s.pairToKey s.stableEmittedPair = some key := held
        exact .inr (.inr ⟨key, rfl, by rw [emitted]; rfl, rfl, unknown⟩)
    · exact .inl ⟨rfl, rfl, unknown⟩
  | multiple => exact .inl ⟨rfl, rfl, fun fresh => by simp [Fresh, pairToKey] at fresh⟩
  | i2cError => exact .inl ⟨rfl, rfl, fun fresh => by simp [Fresh, pairToKey] at fresh⟩

theorem poll_outcome (s : KeypadPcf8574) (input : Poll) (calibrated : s.calibrated = true) :
    PollOutcome s input := by
  by_cases found : s.found = true
  case neg =>
    exact .quiet (by simp [poll, found]) (by simp [step, poll, found]) fun rolls =>
      found rolls.found
  by_cases due : input.now - s.lastPollMs < kPollIntervalMs
  case pos =>
    exact .quiet (by simp [poll, found, due]) (by simp [step, poll, found, due]) fun rolls =>
      rolls.due due
  by_cases error : input.scan = .i2cError
  case pos =>
    refine .quiet (by simp [poll, found, due, error]) (by simp [step, poll, found, due, error]; rfl)
      fun rolls => ?_
    have known := rolls.known
    simp [error, pairToKey] at known
  by_cases candidate : input.scan = s.candidatePair
  case neg =>
    exact .quiet (by simp [poll, found, due, error, candidate])
      (by simp [step, poll, found, due, error, candidate]; rfl)
      fun rolls => candidate rolls.candidate
  by_cases waiting : input.now - s.candidateSinceMs < debounce input.scan
  case pos =>
    refine .quiet (by simp [poll, found, due, error, ← candidate, waiting])
      (by simp [step, poll, found, due, error, ← candidate, waiting]; rfl) fun rolls => ?_
    have known := rolls.known
    cases scan : input.scan with
    | one pair => exact rolls.stable (by simpa [scan, debounce] using waiting)
    | none | multiple | i2cError => simp [scan, pairToKey] at known
  let settled := { s with lastPollMs := input.now, consecutiveI2cErrors := 0 }
  have reached : s.poll input = settled.settle input.scan input.now := by
    simp [poll, found, due, error, ← candidate, waiting, settled]
  have rolls : RollsOver s input ↔ s.Fresh input.scan ∧ s.heldKey.isSome = true := by
    refine ⟨fun rolls => ⟨⟨rolls.known, rolls.other⟩, rolls.held⟩, fun ⟨fresh, held⟩ => ?_⟩
    have window : debounce input.scan = kStableMs := by
      cases scan : input.scan with
      | none => simp [scan, Fresh, pairToKey] at fresh
      | one | multiple | i2cError => rfl
    exact ⟨found, due, candidate, window ▸ waiting, fresh.1, fresh.2, held⟩
  rcases settle_outcome settled input.scan input.now calibrated with
    ⟨event, held, stale⟩ | ⟨key, event, held, fresh⟩ | ⟨key, held, event, free, stale⟩
  · exact .quiet (reached ▸ event) (by rw [step, reached]; exact held) fun now =>
      stale (rolls.mp now).1
  · exact .pressed key (reached ▸ event) (by rw [step, reached]; exact held)
      (rolls.trans (and_iff_right fresh))
  · exact .released key held (reached ▸ event) (by rw [step, reached]; exact free) fun now =>
      stale (rolls.mp now).1

/-- One poll adds at most one event, and breaks the bracketing exactly by a rollover. -/
private theorem bracketed_step (s : KeypadPcf8574) (input : Poll) (calibrated : s.calibrated = true)
    (later : List KeypadEvent) :
    Bracketed s.heldKey ((s.poll input).2.toList ++ later) ↔
      ¬ RollsOver s input ∧ Bracketed (s.step input).heldKey later := by
  cases poll_outcome s input calibrated with
  | quiet event held steady => simp [event, held, steady]
  | pressed key event held rollover =>
    rw [event, held, rollover]
    cases before : s.heldKey <;> simp [Bracketed]
  | released key held event free steady => simp [event, held, free, steady, Bracketed]

/-- A calibrated keypad with no key down brackets every press along a run, whatever the
times and the scans, exactly when no poll rolls over from one held key to another. -/
theorem emitted_bracketed_iff (s : KeypadPcf8574) (inputs : List Poll)
    (calibrated : s.calibrated = true) (free : s.heldKey = none) :
    Bracketed none (s.emitted inputs) ↔
      Along step (fun s input => ¬ RollsOver s input) s inputs := by
  have general : ∀ s : KeypadPcf8574, s.calibrated = true →
      (Bracketed s.heldKey (s.emitted inputs) ↔
        Along step (fun s input => ¬ RollsOver s input) s inputs) := by
    induction inputs with
    | nil => exact fun s _ => by simp [emitted, Bracketed, Along]
    | cons input rest ih =>
      intro s calibrated
      rw [emitted, bracketed_step s input calibrated,
        ih _ ((step_calibrated s input).trans calibrated), Along]
  rw [← free]
  exact general s calibrated

/-- Rows on the pins 0 to 3, columns on the pins 4 to 6. -/
def wired : KeypadPcf8574 where
  found := true
  calibrated := true
  pairs := fun i => UInt8.ofNat (16 * (i.val / 3) + 4 + i.val % 3)

theorem emitted_bracketed_press :
    Bracketed none
      (wired.emitted [⟨100, .one 0x04⟩, ⟨150, .one 0x04⟩, ⟨170, .none⟩, ⟨280, .none⟩]) :=
  (emitted_bracketed_iff wired _ (by decide) (by decide)).mpr (by decide +kernel)

/-- From `1` to `2` with no stable release in between: two presses in a row. -/
theorem emitted_not_bracketed :
    wired.emitted [⟨100, .one 0x04⟩, ⟨150, .one 0x04⟩, ⟨170, .one 0x05⟩, ⟨220, .one 0x05⟩] =
        [.keyDown 49 150, .keyDown 50 220] ∧
      ¬ Bracketed none
        (wired.emitted
          [⟨100, .one 0x04⟩, ⟨150, .one 0x04⟩, ⟨170, .one 0x05⟩, ⟨220, .one 0x05⟩]) := by
  decide +kernel

end KeypadPcf8574

end Kiosk.Hardware
