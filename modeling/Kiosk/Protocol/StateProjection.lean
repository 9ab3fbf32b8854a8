import Kiosk.Protocol.JsonExtract

/-! `state_projection.cpp`: the snapshot a response carries and the rule that decides
whether the device takes it. -/
namespace Kiosk.Protocol

open Library Library.KeySearch

inductive BusinessState where
  | waitEmployee | waitOperation | sessionActive | quantityInput
  | deviceDisabled | maintenance | unsupported
  deriving DecidableEq, Repr

/-- An unknown name is unsupported, never a guess. -/
def businessStateFromString (s : Bytes) : BusinessState :=
  if s = text "WAIT_EMPLOYEE" then .waitEmployee
  else if s = text "WAIT_OPERATION" then .waitOperation
  else if s = text "SESSION_ACTIVE" then .sessionActive
  else if s = text "QUANTITY_INPUT" then .quantityInput
  else if s = text "DEVICE_DISABLED" then .deviceDisabled
  else if s = text "MAINTENANCE" then .maintenance
  else .unsupported

/-- Each field with its `has_` flag as an option. -/
structure ViewModel where
  employeeName : Option Bytes := none
  operationCode : Option Bytes := none
  operationName : Option Bytes := none
  sessionId : Option Bytes := none
  startedAt : Option Bytes := none
  targetQty : Option Int32 := none
  producedQty : Option Int32 := none
  deriving DecidableEq, Repr

structure StateSnapshot where
  state : BusinessState := .waitEmployee
  stateVersion : UInt64 := 0
  workflowVersion : UInt32 := 0
  view : ViewModel := {}
  deriving DecidableEq, Repr

/-- A member that is there and is not null. -/
def present (json key : Bytes) : Bool := jsonHasKey json key && !jsonIsNull json key

def viewString (json key : Bytes) : Option Bytes :=
  if present json key then some (jsonExtractString json key []) else none

def viewInt (json key : Bytes) : Option Int32 :=
  if present json key then some (Int32.ofInt (jsonExtractInt json key 0)) else none

def parseView (viewJson : Bytes) : ViewModel where
  employeeName := viewString viewJson (text "employee_name")
  operationCode := viewString viewJson (text "operation_code")
  operationName := viewString viewJson (text "operation_name")
  sessionId := viewString viewJson (text "session_id")
  startedAt := viewString viewJson (text "started_at")
  targetQty := viewInt viewJson (text "target_qty")
  producedQty := viewInt viewJson (text "produced_qty")

def parseStateSnapshotJson (json : Bytes) : Option StateSnapshot :=
  let stateObj := jsonExtractObject json (text "state")
  if stateObj = [] then none
  else if !jsonHasKey stateObj (text "name") || !jsonHasKey stateObj (text "version") then none
  else
    let workflowObj := jsonExtractObject json (text "workflow")
    let viewObj := jsonExtractObject json (text "view")
    some {
      state := businessStateFromString (jsonExtractString stateObj (text "name") [])
      stateVersion := UInt64.ofInt (jsonExtractInt stateObj (text "version") 0)
      workflowVersion :=
        if workflowObj = [] then 0 else UInt32.ofInt (jsonExtractInt workflowObj (text "version") 0)
      view := if viewObj = [] then {} else parseView viewObj }

inductive ApplyResult where
  | applied | appliedIdentical | rejectedStale | rejectedInconsistent | rejectedUnsupported
  deriving DecidableEq, Repr

/-- `current_` once `has_snapshot_` is set. -/
structure StateProjection where
  current : Option StateSnapshot := none
  deriving DecidableEq, Repr

namespace StateProjection

def apply (projection : StateProjection) (incoming : StateSnapshot) :
    StateProjection × ApplyResult :=
  if incoming.state = .unsupported then (projection, .rejectedUnsupported)
  else
    match projection.current with
    | none => (⟨some incoming⟩, .applied)
    | some current =>
      if incoming.stateVersion < current.stateVersion then (projection, .rejectedStale)
      else if incoming.stateVersion = current.stateVersion then
        if incoming = current then (projection, .appliedIdentical)
          else (projection, .rejectedInconsistent)
      else (⟨some incoming⟩, .applied)

/-- `APPLIED` or `APPLIED_IDENTICAL`. -/
def taken (result : ApplyResult) : Bool := result = .applied || result = .appliedIdentical

variable {projection : StateProjection} {incoming : StateSnapshot}

/-- After a snapshot that was taken the projection holds it. -/
theorem apply_taken (applied : taken (projection.apply incoming).2 = true) :
    (projection.apply incoming).1.current = some incoming := by
  revert applied
  unfold apply
  split
  · simp [taken]
  split
  · simp
  · rename_i current known
    split
    · simp [taken]
    split
    · split
      · rename_i same
        simp [known, same]
      · simp [taken]
    · simp

/-- A snapshot that was refused leaves the projection as it was. -/
theorem apply_refused (refused : taken (projection.apply incoming).2 = false) :
    (projection.apply incoming).1 = projection := by
  revert refused
  unfold apply
  split
  · simp
  split
  · simp [taken]
  · split
    · simp
    split
    · split
      · simp
      · simp
    · simp [taken]

/-- Only a snapshot that is applied changes the projection. -/
theorem apply_kept (other : (projection.apply incoming).2 ≠ .applied) :
    (projection.apply incoming).1 = projection := by
  revert other
  unfold apply
  split
  · simp
  split
  · simp
  · split
    · simp
    split
    · split
      · simp
      · simp
    · simp

/-- A snapshot that is applied is newer than the one before. -/
theorem apply_rises {before : StateSnapshot} (known : before ∈ projection.current)
    (applied : (projection.apply incoming).2 = .applied) :
    before.stateVersion < incoming.stateVersion := by
  revert applied
  rw [apply, Option.mem_def.mp known]
  simp only
  split
  · simp
  split
  · simp
  · rename_i older
    split
    · split
      · simp
      · simp
    · rename_i other
      exact fun _ => UInt64.lt_of_le_of_ne (UInt64.not_lt.mp older) fun same => other same.symm

end StateProjection

end Kiosk.Protocol
