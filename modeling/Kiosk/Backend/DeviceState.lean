import Mathlib

/-! `mock_backend.py`: the state the reference backend keeps for a device, the snapshot
of it, and what an event does to it. Strings are lists of code points. -/
namespace Kiosk.Backend

/-- A Python string, by its code points. -/
abbrev PyStr := List Nat

def chars (literal : String) : PyStr := literal.toList.map Char.toNat

inductive StateName where
  | waitEmployee | waitOperation | sessionActive | quantityInput
  deriving DecidableEq, Repr

def StateName.toString : StateName → PyStr
  | .waitEmployee => chars "WAIT_EMPLOYEE"
  | .waitOperation => chars "WAIT_OPERATION"
  | .sessionActive => chars "SESSION_ACTIVE"
  | .quantityInput => chars "QUANTITY_INPUT"

structure Session where
  employeeId : PyStr
  employeeName : PyStr
  operationCode : Option PyStr := none
  operationName : Option PyStr := none
  sessionId : Option PyStr := none
  startedAt : Option PyStr := none
  targetQty : Int := 0
  producedQty : Int := 0
  deriving DecidableEq, Repr

/-- The entry of a device. Where an operation is awaited there is a session to put it
into. -/
structure DeviceState where
  stateName : StateName := .waitEmployee
  stateVersion : Nat := 1
  workflowVersion : Nat := 1
  session : Option Session := none
  disabled : Bool := false
  maintenance : Bool := false
  seated : stateName = .waitOperation → session.isSome := by decide
  deriving DecidableEq

def newDeviceState : DeviceState := {}

/-- The members `build_view` puts into the view: those of a session, of its operation
when the code is not empty, and of its number when there is one. -/
structure View where
  employeeName : PyStr
  operation : Option (PyStr × Option PyStr)
  activity : Option (PyStr × Option PyStr × Int × Int)
  deriving DecidableEq, Repr

/-- A value Python takes for true. -/
def truthy (value : Option PyStr) : Option PyStr := value.filter (· ≠ [])

def buildView (dev : DeviceState) : Option View :=
  dev.session.map fun session => {
    employeeName := session.employeeName
    operation := (truthy session.operationCode).map fun code => (code, session.operationName)
    activity := (truthy session.sessionId).map fun id =>
      (id, session.startedAt, session.targetQty, session.producedQty) }

structure Snapshot where
  name : PyStr
  version : Nat
  workflowVersion : Nat
  view : Option View
  deriving DecidableEq, Repr

def snapshot (dev : DeviceState) : Snapshot where
  name :=
    if dev.disabled then chars "DEVICE_DISABLED"
    else if dev.maintenance then chars "MAINTENANCE"
    else dev.stateName.toString
  version := dev.stateVersion
  workflowVersion := dev.workflowVersion
  view := buildView dev

structure Employee where
  name : PyStr
  active : Bool
  deriving DecidableEq, Repr

structure Operation where
  name : PyStr
  isOpen : Bool
  deriving DecidableEq, Repr

/-- The reference data, which scans of unknown codes extend. -/
structure Fixtures where
  employees : List (PyStr × Employee)
  operations : List (PyStr × Operation)
  deriving DecidableEq, Repr

def fixtures : Fixtures where
  employees := [
    (chars "00152", { name := chars "Nguyen Van A", active := true }),
    (chars "00200", { name := chars "Tran Thi B", active := true }),
    (chars "00999", { name := chars "Le Van Disabled", active := false }),
    (chars "NV001", { name := chars "Real Test Card NV001", active := true }),
    (chars "NV004", { name := chars "Real Test Card NV004", active := true })]
  operations := [
    (chars "OP-001", { name := chars "Chan", isOpen := true }),
    (chars "OP-002", { name := chars "Han", isOpen := true }),
    (chars "OP-CLOSED", { name := chars "Đã đóng", isOpen := false }),
    (chars "111-THAN-THUNG-R-05", { name := chars "Than Thung R-05", isOpen := true })]

def find {α : Type} (table : List (PyStr × α)) (key : PyStr) : Option α :=
  (table.find? fun entry => entry.1 = key).map Prod.snd

theorem find_cons {α : Type} (table : List (PyStr × α)) (key other : PyStr) (entry : α) :
    find ((key, entry) :: table) other = if key = other then some entry else find table other := by
  by_cases same : key = other <;> simp [find, same]

/-- `raw.split("|")`. -/
def splitBar (raw : PyStr) : List PyStr := raw.splitOn 124

/-- Kind and value of a scan, `none` where the text is no scan of the plant. -/
def parseScan (raw : PyStr) : Option (PyStr × PyStr) :=
  match splitBar raw with
  | [first, kind, value] => if first = chars "WF" then some (kind, value) else none
  | _ => none

/-- `%05d`. -/
def pad5 (value : Nat) : PyStr :=
  let digits := (Nat.toDigits 10 value).map Char.toNat
  List.replicate (5 - digits.length) 48 ++ digits

/-- What the handler read out of an event for `apply_event`, with the number the event
was counted under and the time of day. -/
structure EventInput where
  type : Option PyStr
  raw : PyStr := []
  quantityGood : Option Int := none
  serverSeq : Nat
  now : PyStr
  deriving DecidableEq, Repr

/-- An error code and its text. -/
abbrev EventError := PyStr × PyStr

/-- The device and the reference data after an event, and the error of one that was
not accepted. -/
structure Applied where
  device : DeviceState
  fixtures : Fixtures
  error : Option EventError

def rejected (dev : DeviceState) (data : Fixtures) (code message : String) : Applied :=
  ⟨dev, data, some (chars code, chars message)⟩

/-- The employee of a card; an unknown card of the form `NV` and digits is made one. -/
def employeeOf (isdigit : PyStr → Bool) (data : Fixtures) (value : PyStr) :
    Fixtures × Option Employee :=
  match find data.employees value with
  | some known => (data, some known)
  | none =>
    if (chars "NV").isPrefixOf value && isdigit (value.drop 2) then
      let made : Employee := { name := chars "Real Card " ++ value, active := true }
      ({ data with employees := (value, made) :: data.employees }, some made)
    else (data, none)

/-- The operation of a code; any code that is not empty is made one. -/
def operationOf (data : Fixtures) (value : PyStr) : Fixtures × Option Operation :=
  match find data.operations value with
  | some known => (data, some known)
  | none =>
    if value ≠ [] then
      let made : Operation := { name := value, isOpen := true }
      ({ data with operations := (value, made) :: data.operations }, some made)
    else (data, none)

def scanEmployee (isdigit : PyStr → Bool) (dev : DeviceState) (data : Fixtures)
    (scan : Option (PyStr × PyStr)) : Applied :=
  match scan.filter fun parts => parts.1 = chars "EMP" with
  | none => rejected dev data "STATE_INVALID_TRANSITION" "Cần quét thẻ nhân viên"
  | some (_, value) =>
    match employeeOf isdigit data value with
    | (data, none) => rejected dev data "EMPLOYEE_NOT_FOUND" "Nhân viên không hợp lệ"
    | (data, some employee) =>
      if !employee.active then rejected dev data "EMPLOYEE_DISABLED" "Nhân viên đã bị khóa"
      else ⟨{ dev with
        session := some { employeeId := value, employeeName := employee.name }
        stateName := .waitOperation
        stateVersion := dev.stateVersion + 1
        seated := fun _ => rfl }, data, none⟩

def scanOperation (dev : DeviceState) (session : Session) (data : Fixtures)
    (scan : Option (PyStr × PyStr)) (input : EventInput) :
    Applied :=
  match scan.filter fun parts => parts.1 = chars "OP" with
  | none => rejected dev data "STATE_INVALID_TRANSITION" "Cần quét mã công đoạn"
  | some (_, value) =>
    match operationOf data value with
    | (data, none) => rejected dev data "OPERATION_NOT_FOUND" "Công đoạn không hợp lệ"
    | (data, some operation) =>
      if !operation.isOpen then rejected dev data "OPERATION_CLOSED" "Công đoạn đã đóng"
      else ⟨{ dev with
        session := some { session with
          operationCode := some value
          operationName := some operation.name
          sessionId := some (chars "S-" ++ pad5 input.serverSeq)
          startedAt := some input.now
          targetQty := 100 }
        stateName := .sessionActive
        stateVersion := dev.stateVersion + 1
        seated := fun _ => rfl }, data, none⟩

/-- The device back at its first state, without a session. -/
def DeviceState.cleared (dev : DeviceState) : DeviceState :=
  { dev with
    session := none, stateName := .waitEmployee, stateVersion := dev.stateVersion + 1
    seated := by simp }

def applyEvent (isdigit : PyStr → Bool) (dev : DeviceState) (data : Fixtures) (input : EventInput) :
    Applied :=
  if dev.disabled then rejected dev data "DEVICE_DISABLED" "Thiết bị đã bị vô hiệu hóa"
  else if dev.maintenance then rejected dev data "MAINTENANCE" "Thiết bị đang bảo trì"
  else if input.type = some (chars "SCAN") then
    let scan := parseScan input.raw
    match name : dev.stateName with
    | .waitEmployee => scanEmployee isdigit dev data scan
    | .waitOperation => scanOperation dev (dev.session.get (dev.seated name)) data scan input
    | _ => rejected dev data "STATE_INVALID_TRANSITION" "Không thể quét mã ở trạng thái này"
  else if input.type = some (chars "FINISH_REQUESTED") then
    if dev.stateName ≠ .sessionActive then
      rejected dev data "STATE_INVALID_TRANSITION" "Không có phiên đang hoạt động"
    else
      ⟨{ dev with
          stateName := .quantityInput, stateVersion := dev.stateVersion + 1, seated := by simp },
        data, none⟩
  else if input.type = some (chars "QUANTITY_SUBMITTED") then
    if dev.stateName ≠ .quantityInput
      then rejected dev data "STATE_INVALID_TRANSITION" "Chưa yêu cầu kết thúc"
    else if input.quantityGood = none then rejected dev data "QUANTITY_INVALID" "Thiếu số lượng"
    else ⟨dev.cleared, data, none⟩
  else if input.type = some (chars "CANCEL_REQUESTED") then
    if dev.stateName = .waitEmployee
      then rejected dev data "STATE_INVALID_TRANSITION" "Không có gì để hủy"
    else ⟨dev.cleared, data, none⟩
  else ⟨dev, data, some (chars "PROTOCOL_DECODE_FAILED",
    chars "unknown event type " ++ input.type.getD (chars "None"))⟩

/-- The two ways an event ends: accepted, with the device at its next version, or
rejected, with the device as it was. -/
def Settled (dev : DeviceState) (applied : Applied) : Prop :=
  (applied.error = none ∧ applied.device.stateVersion = dev.stateVersion + 1) ∨
    (applied.error ≠ none ∧ applied.device = dev)

private theorem settled_rejected (dev : DeviceState) (data : Fixtures) (code message : String) :
    Settled dev (rejected dev data code message) :=
  .inr ⟨by simp [rejected], rfl⟩

theorem scanEmployee_settled (isdigit : PyStr → Bool) (dev : DeviceState) (data : Fixtures)
    (scan : Option (PyStr × PyStr)) :
    Settled dev (scanEmployee isdigit dev data scan) := by
  unfold scanEmployee
  split
  · exact settled_rejected _ _ _ _
  split
  · exact settled_rejected _ _ _ _
  split
  · exact settled_rejected _ _ _ _
  · exact .inl ⟨rfl, rfl⟩

theorem scanOperation_settled (dev : DeviceState) (session : Session) (data : Fixtures)
    (scan : Option (PyStr × PyStr))
    (input : EventInput) : Settled dev (scanOperation dev session data scan input) := by
  unfold scanOperation
  split
  · exact settled_rejected _ _ _ _
  split
  · exact settled_rejected _ _ _ _
  split
  · exact settled_rejected _ _ _ _
  · exact .inl ⟨rfl, rfl⟩

theorem applyEvent_settled (isdigit : PyStr → Bool) (dev : DeviceState) (data : Fixtures)
    (input : EventInput) :
    Settled dev (applyEvent isdigit dev data input) := by
  unfold applyEvent
  split
  · exact settled_rejected _ _ _ _
  split
  · exact settled_rejected _ _ _ _
  split
  · simp only
    split
    · exact scanEmployee_settled isdigit dev data _
    · exact scanOperation_settled dev _ data _ input
    · exact settled_rejected _ _ _ _
  split
  · split
    · exact settled_rejected _ _ _ _
    · exact .inl ⟨rfl, rfl⟩
  split
  · split
    · exact settled_rejected _ _ _ _
    split
    · exact settled_rejected _ _ _ _
    · exact .inl ⟨rfl, rfl⟩
  split
  · split
    · exact settled_rejected _ _ _ _
    · exact .inl ⟨rfl, rfl⟩
  · exact .inr ⟨by simp, rfl⟩

end Kiosk.Backend
