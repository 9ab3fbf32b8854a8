import Mathlib

/-! Runs of a deterministic system under a list of inputs, and what an invariant
gives over the runs whose steps all meet a condition. -/
namespace Kiosk.Library.TransitionSystem

variable {σ ι : Type} (step : σ → ι → σ)

def run (s : σ) (inputs : List ι) : σ := inputs.foldl step s

/-- Every step of the run meets `good`, a condition on the state before the step
and the input. -/
def Along (good : σ → ι → Prop) : σ → List ι → Prop
  | _, [] => True
  | s, input :: rest => good s input ∧ Along good (step s input) rest

instance Along.decidable (good : σ → ι → Prop) [∀ s input, Decidable (good s input)] :
    (s : σ) → (inputs : List ι) → Decidable (Along step good s inputs)
  | _, [] => inferInstanceAs (Decidable True)
  | s, input :: rest =>
    have : Decidable (Along step good (step s input) rest) :=
      Along.decidable good (step s input) rest
    inferInstanceAs (Decidable (good s input ∧ Along step good (step s input) rest))

variable {step} {good : σ → ι → Prop} {motive : σ → Prop} {s : σ}

@[simp] theorem run_nil : run step s [] = s := rfl

@[simp] theorem run_cons (input : ι) (rest : List ι) :
    run step s (input :: rest) = run step (step s input) rest := rfl

theorem run_append (first second : List ι) :
    run step s (first ++ second) = run step (run step s first) second := by
  simp [run]

theorem Along.of_forall (all : ∀ s input, good s input) (s : σ) (inputs : List ι) :
    Along step good s inputs := by
  induction inputs generalizing s with
  | nil => trivial
  | cons input rest ih => exact ⟨all s input, ih (step s input)⟩

theorem Along.of_mem (each : ∀ input ∈ inputs, ∀ s, good s input) (s : σ) :
    Along step good s inputs := by
  induction inputs generalizing s with
  | nil => trivial
  | cons input rest ih =>
    exact ⟨each input (.head _) s, ih (fun other mem => each other (.tail _ mem)) (step s input)⟩

/-- What every good step keeps, every good run keeps. -/
theorem Along.invariant (along : Along step good s inputs) (start : motive s)
    (keeps : ∀ s input, motive s → good s input → motive (step s input)) :
    motive (run step s inputs) := by
  induction inputs generalizing s with
  | nil => exact start
  | cons input rest ih => exact ih along.2 (keeps s input start along.1)

/-- What every step keeps, every run keeps. -/
theorem run_invariant (start : motive s) (keeps : ∀ s input, motive s → motive (step s input))
    (inputs : List ι) :
    motive (run step s inputs) := by
  induction inputs generalizing s with
  | nil => exact start
  | cons input rest ih => exact ih (keeps s input start)

theorem Along.mono {weaker : σ → ι → Prop} (along : Along step good s inputs)
    (weaken : ∀ s input, good s input → weaker s input) : Along step weaker s inputs := by
  induction inputs generalizing s with
  | nil => trivial
  | cons input rest ih => exact ⟨weaken s input along.1, ih along.2⟩

/-- What a good step does from a state with the invariant, it does all along. -/
theorem Along.entails {effect : σ → ι → Prop} (along : Along step good s inputs) (start : motive s)
    (keeps : ∀ s input, motive s → good s input → motive (step s input))
    (entails : ∀ s input, motive s → good s input → effect s input) :
    Along step effect s inputs := by
  induction inputs generalizing s with
  | nil => trivial
  | cons input rest ih =>
    exact ⟨entails s input start along.1, ih along.2 (keeps s input start along.1)⟩

/-- A run seen through a view that the steps respect. -/
theorem along_view {τ : Type} {fullStep : τ → ι → τ} {view : τ → σ} {t : τ}
    (agrees : ∀ t input, view (fullStep t input) = step (view t) input) :
    Along step good (view t) inputs ↔
      Along fullStep (fun t input => good (view t) input) t inputs := by
  induction inputs generalizing t with
  | nil => exact Iff.rfl
  | cons input rest ih =>
    refine and_congr_right fun _ => ?_
    rw [← agrees]
    exact ih

theorem along_append : Along step good s (first ++ second) ↔
    Along step good s first ∧ Along step good (run step s first) second := by
  induction first generalizing s with
  | nil => simp [Along]
  | cons input rest ih => exact (and_congr_right fun _ => ih).trans and_assoc.symm

theorem Along.prefix (along : Along step good s (first ++ second)) : Along step good s first := by
  induction first generalizing s with
  | nil => trivial
  | cons input rest ih => exact ⟨along.1, ih along.2⟩

/-- Where the good steps keep an invariant and every other step breaks a property at
once, the property holds in every state reached exactly when all steps are good. -/
theorem reached_iff_along {holds : σ → Prop} (start : motive s)
    (keeps : ∀ s input, motive s → good s input → motive (step s input))
    (entails : ∀ s, motive s → holds s)
    (breaks : ∀ s input, motive s → ¬ good s input → ¬ holds (step s input)) :
    (∀ before, before <+: inputs → holds (run step s before)) ↔ Along step good s inputs := by
  induction inputs generalizing s with
  | nil =>
    refine iff_of_true (fun before prefix_ => ?_) trivial
    rw [List.prefix_nil.mp prefix_]
    exact entails s start
  | cons input rest ih =>
    constructor
    · intro reached
      have good : good s input := by
        by_contra bad
        exact breaks s input start bad (reached [input] (by simp))
      exact ⟨good, (ih (keeps s input start good)).mp fun before prefix_ =>
        reached (input :: before) (List.cons_prefix_cons.mpr ⟨rfl, prefix_⟩)⟩
    · intro along before prefix_
      cases before with
      | nil => exact entails s start
      | cons first before =>
        obtain ⟨rfl, shorter⟩ := List.cons_prefix_cons.mp prefix_
        exact (ih (keeps s first start along.1)).mpr along.2 before shorter

end Kiosk.Library.TransitionSystem
