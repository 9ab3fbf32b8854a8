import Mathlib

/-! Logs that create and change keyed values. Replaying a log builds a table; the
first creation of a key wins and a change of an absent key is ignored. A table is
kept in step with a log by applying what is appended, and a log can be replaced by
a snapshot of its table. -/
namespace Kiosk.Library.KeyedLog

variable {κ ν μ : Type} [Ord κ] [Std.TransOrd κ] [Std.LawfulEqOrd κ]

abbrev Table (κ ν : Type) [Ord κ] := Std.ExtTreeMap κ ν compare

inductive Entry (κ ν μ : Type) where
  | create (key : κ) (value : ν)
  | change (key : κ) (update : μ)
  | skip

def apply (update : ν → μ → ν) (table : Table κ ν) : Entry κ ν μ → Table κ ν
  | .create key value => if table.contains key then table else table.insert key value
  | .change key change => table.modify key (update · change)
  | .skip => table

def replay (update : ν → μ → ν) (log : List (Entry κ ν μ)) : Table κ ν :=
  log.foldl (apply update) ∅

def snapshot (pairs : List (κ × ν)) : List (Entry κ ν μ) :=
  pairs.map fun pair => .create pair.1 pair.2

variable {update : ν → μ → ν} {table : Table κ ν}

theorem lookup_insert [DecidableEq κ] (table : Table κ ν) (key other : κ) (value : ν) :
    (table.insert key value)[other]? = if key = other then some value else table[other]? := by
  rw [Std.ExtTreeMap.getElem?_insert]
  simp only [Std.LawfulEqCmp.compare_eq_iff_eq]

theorem lookup_modify [DecidableEq κ] (table : Table κ ν) (key other : κ) (change : ν → ν) :
    (table.modify key change)[other]? = if key = other then (table[other]?).map change
      else table[other]? := by
  rw [Std.ExtTreeMap.getElem?_modify]
  by_cases same : key = other
  · subst other; simp
  · simp [same, Std.LawfulEqCmp.compare_eq_iff_eq]

theorem lookup_create [DecidableEq κ] (key other : κ) (value : ν) :
    (apply update table (.create key value))[other]? =
      if key = other then (table[other]?).or (some value) else table[other]? := by
  rw [apply]
  by_cases same : key = other
  · subst other
    by_cases present : table.contains key = true
    · simp only [present, ↓reduceIte]
      rw [Std.ExtTreeMap.contains_eq_isSome_getElem?] at present
      obtain ⟨found, here⟩ := Option.isSome_iff_exists.mp present
      simp [here]
    · have missing : table[key]? = none := by
        rw [Std.ExtTreeMap.contains_eq_isSome_getElem?] at present
        simpa using present
      simp [present, missing]
  · split
    · simp
    · simp [lookup_insert, same]

theorem lookup_change [DecidableEq κ] (key other : κ) (change : μ) :
    (apply update table (.change key change))[other]? =
      if key = other then (table[other]?).map (update · change) else table[other]? := by
  rw [apply, lookup_modify]

omit [Std.LawfulEqOrd κ] in
@[simp] theorem replay_append (log : List (Entry κ ν μ)) (entry : Entry κ ν μ) :
    replay update (log ++ [entry]) = apply update (replay update log) entry := by
  simp [replay]

private theorem lookup_creates [DecidableEq κ] (pairs : List (κ × ν)) (table : Table κ ν)
    (key : κ) :
    ((snapshot pairs).foldl (apply update) table)[key]? =
      (table[key]?).or ((pairs.find? fun pair => pair.1 = key).map Prod.snd) := by
  induction pairs generalizing table with
  | nil => simp [snapshot]
  | cons pair pairs ih =>
    rw [snapshot, List.map_cons, List.foldl_cons]
    refine (ih _).trans ?_
    rw [lookup_create]
    by_cases same : pair.1 = key
    · simp [same]
    · simp [same]

/-- A snapshot replays to the first value it lists for each key. -/
theorem lookup_snapshot [DecidableEq κ] (pairs : List (κ × ν)) (key : κ) :
    (replay update (snapshot pairs))[key]? =
      (pairs.find? fun pair => pair.1 = key).map Prod.snd := by
  rw [replay, lookup_creates]
  simp

end Kiosk.Library.KeyedLog
