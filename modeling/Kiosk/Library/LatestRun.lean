import Mathlib

/-! The latest run of a log: how many entries at its end hit one key, with entries between
them that count for nothing. Logs are read newest first. -/
namespace Kiosk.Library.LatestRun

inductive Tick (κ : Type) where
  | hit (key : κ)
  | clear
  | pass

variable {ε κ : Type} (tick : ε → Tick κ)

def latestHit : List ε → Option κ
  | [] => none
  | entry :: older =>
    match tick entry with
    | .hit key => some key
    | _ => latestHit older

section LatestHit

variable {tick} {entry : ε} {key : κ} {older : List ε}

theorem latestHit_hit (hit : tick entry = .hit key) :
    latestHit tick (entry :: older) = some key := by
  rw [latestHit, hit]

theorem latestHit_clear (clear : tick entry = .clear) :
    latestHit tick (entry :: older) = latestHit tick older := by
  rw [latestHit, clear]

theorem latestHit_pass (pass : tick entry = .pass) :
    latestHit tick (entry :: older) = latestHit tick older := by
  rw [latestHit, pass]

theorem latestHit_append {passes : List ε} (pass : ∀ passed ∈ passes, tick passed = .pass) :
    latestHit tick (passes ++ older) = latestHit tick older := by
  induction passes with
  | nil => rfl
  | cons passed rest ih =>
    rw [List.cons_append, latestHit_pass (pass passed (.head _)),
      ih fun other member => pass other (.tail _ member)]

end LatestHit

variable [DecidableEq κ]

/-- The hits of `key` before an entry that hits another one or clears. -/
def runOf (key : κ) : List ε → Nat
  | [] => 0
  | entry :: older =>
    match tick entry with
    | .hit other => if other = key then runOf key older + 1 else 0
    | .clear => 0
    | .pass => runOf key older

def latestRun (log : List ε) : Nat :=
  match latestHit tick log with
  | some key => runOf tick key log
  | none => 0

variable {tick} {entry : ε} {key : κ} {older : List ε}

theorem runOf_hit (hit : tick entry = .hit key) :
    runOf tick key (entry :: older) = runOf tick key older + 1 := by
  rw [runOf, hit]
  exact if_pos rfl

theorem runOf_other {found : κ} (hit : tick entry = .hit found) (other : found ≠ key) :
    runOf tick key (entry :: older) = 0 := by
  rw [runOf, hit]
  exact if_neg other

theorem runOf_clear (clear : tick entry = .clear) : runOf tick key (entry :: older) = 0 := by
  rw [runOf, clear]

theorem runOf_pass (pass : tick entry = .pass) :
    runOf tick key (entry :: older) = runOf tick key older := by
  rw [runOf, pass]

/-- A run ends in the latest hit. -/
theorem runOf_eq_zero {log : List ε} (other : latestHit tick log ≠ some key) :
    runOf tick key log = 0 := by
  induction log with
  | nil => rfl
  | cons entry older ih =>
    cases kind : tick entry with
    | hit found =>
      rw [latestHit_hit kind] at other
      exact runOf_other kind fun same => other (congrArg some same)
    | clear => exact runOf_clear kind
    | pass => rw [runOf_pass kind, ih (by rwa [latestHit_pass kind] at other)]

theorem latestRun_clear (clear : tick entry = .clear) : latestRun tick (entry :: older) = 0 := by
  rw [latestRun, latestHit_clear clear]
  cases latestHit tick older with
  | none => rfl
  | some key => exact runOf_clear clear

theorem latestRun_pass (pass : tick entry = .pass) :
    latestRun tick (entry :: older) = latestRun tick older := by
  rw [latestRun, latestRun, latestHit_pass pass]
  cases latestHit tick older with
  | none => rfl
  | some key => exact runOf_pass pass

/-- A hit prolongs the run of its own key and starts a new one after another. -/
theorem latestRun_hit (hit : tick entry = .hit key) :
    latestRun tick (entry :: older) = if latestHit tick older = some key
      then latestRun tick older + 1 else 1 := by
  rw [latestRun, latestHit_hit hit]
  dsimp only
  rw [runOf_hit hit]
  split
  · rename_i same
    rw [latestRun, same]
  · rename_i other
    rw [runOf_eq_zero other]

/-- With a single key every hit prolongs the run. -/
theorem latestRun_hit_single [Subsingleton κ] (hit : tick entry = .hit key) :
    latestRun tick (entry :: older) = latestRun tick older + 1 := by
  rw [latestRun_hit hit]
  split
  · rfl
  · rename_i other
    have none : latestHit tick older = none := by
      cases latest : latestHit tick older with
      | none => rfl
      | some found =>
        exact absurd (latest.trans (congrArg some (Subsingleton.elim found key))) other
    rw [latestRun, none]

theorem lt_latestRun_iff {log : List ε} {count : Nat} :
    count < latestRun tick log ↔ ∃ key, count < runOf tick key log := by
  constructor
  · intro longer
    rw [latestRun] at longer
    split at longer
    · exact ⟨_, longer⟩
    · omega
  · rintro ⟨key, longer⟩
    have latest : latestHit tick log = some key := by
      by_contra other
      rw [runOf_eq_zero other] at longer
      omega
    rwa [latestRun, latest]

theorem runOf_append {passes : List ε} (pass : ∀ passed ∈ passes, tick passed = .pass) :
    runOf tick key (passes ++ older) = runOf tick key older := by
  induction passes with
  | nil => rfl
  | cons passed rest ih =>
    rw [List.cons_append, runOf_pass (pass passed (.head _)),
      ih fun other member => pass other (.tail _ member)]

/-- A run is a hit, entries that count for nothing after it, and a shorter run before it. -/
theorem lt_runOf_iff {log : List ε} {count : Nat} :
    count < runOf tick key log ↔
      ∃ passes entry older,
          log = passes ++ entry :: older ∧ (∀ passed ∈ passes, tick passed = .pass) ∧
        tick entry = .hit key ∧ count ≤ runOf tick key older := by
  constructor
  · intro longer
    induction log with
    | nil => exact absurd longer (Nat.not_lt_zero count)
    | cons entry older ih =>
      cases kind : tick entry with
      | hit found =>
        by_cases same : found = key
        · subst same
          rw [runOf_hit kind] at longer
          exact ⟨[], entry, older, rfl, by simp, kind, by omega⟩
        · rw [runOf_other kind same] at longer
          exact absurd longer (Nat.not_lt_zero count)
      | clear =>
        rw [runOf_clear kind] at longer
        exact absurd longer (Nat.not_lt_zero count)
      | pass =>
        rw [runOf_pass kind] at longer
        obtain ⟨passes, hit, rest, split, pass, hits, shorter⟩ := ih longer
        exact ⟨entry :: passes, hit, rest, by rw [split, List.cons_append],
          by simpa [kind] using pass, hits, shorter⟩
  · rintro ⟨passes, hit, rest, rfl, pass, hits, shorter⟩
    rw [runOf_append pass, runOf_hit hits]
    omega

theorem latestRun_le_length (log : List ε) : latestRun tick log ≤ log.length := by
  induction log with
  | nil => exact le_rfl
  | cons entry older ih =>
    rw [List.length_cons]
    cases kind : tick entry with
    | hit key =>
      rw [latestRun_hit kind]
      split <;> omega
    | clear =>
      rw [latestRun_clear kind]
      omega
    | pass =>
      rw [latestRun_pass kind]
      omega

theorem runOf_replicate (hit : tick entry = .hit key) (count : Nat) :
    runOf tick key (List.replicate count entry) = count := by
  induction count with
  | zero => rfl
  | succ count ih => rw [List.replicate_succ, runOf_hit hit, ih]

end Kiosk.Library.LatestRun
