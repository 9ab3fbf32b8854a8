import Kiosk.Backend.SnapshotVersions

/-! The body of a snapshot and what `parse_state_snapshot_json` makes of it. -/
namespace Kiosk.Backend

open Library Library.KeySearch TransitionSystem Protocol

def wireKey (literal : String) (nonempty : text literal ≠ [])
    (word : (text literal).all isWord = true) : Key :=
  ⟨text literal, nonempty, word⟩

def keyState : Key := wireKey "state" (by decide) (by decide)
def keyName : Key := wireKey "name" (by decide) (by decide)
def keyVersion : Key := wireKey "version" (by decide) (by decide)
def keyWorkflow : Key := wireKey "workflow" (by decide) (by decide)
def keyView : Key := wireKey "view" (by decide) (by decide)
def keyEmployeeName : Key := wireKey "employee_name" (by decide) (by decide)
def keyOperationCode : Key := wireKey "operation_code" (by decide) (by decide)
def keyOperationName : Key := wireKey "operation_name" (by decide) (by decide)
def keySessionId : Key := wireKey "session_id" (by decide) (by decide)
def keyStartedAt : Key := wireKey "started_at" (by decide) (by decide)
def keyTargetQty : Key := wireKey "target_qty" (by decide) (by decide)
def keyProducedQty : Key := wireKey "produced_qty" (by decide) (by decide)

/-- A string, or Python's `None`. -/
def stringOrNull : Option PyStr → JsonValue
  | some content => .string content
  | none => .null

/-- The members of the view, in the order they are put in. -/
def View.members (view : View) : List Member :=
  (keyEmployeeName, .string view.employeeName) ::
  ((match view.operation with
    | none => []
    | some (code, name) =>
      [(keyOperationCode, .string code), (keyOperationName, stringOrNull name)]) ++
  match view.activity with
  | none => []
  | some (id, started, target, produced) =>
    [(keySessionId, .string id), (keyStartedAt, stringOrNull started),
      (keyTargetQty, .number target), (keyProducedQty, .number produced)])

def viewMembers (view : Option View) : List Member := (view.map View.members).getD []

def stateMembers (sent : Snapshot) : List Member :=
  [(keyName, .string sent.name), (keyVersion, .number sent.version)]

def workflowMembers (sent : Snapshot) : List Member := [(keyVersion, .number sent.workflowVersion)]

/-- `json.dumps` of a snapshot. -/
def dumpsSnapshot (sent : Snapshot) : Bytes :=
  text "\x7b\"state\": " ++ dumpsObject (stateMembers sent) ++
  text ", \"workflow\": " ++ dumpsObject (workflowMembers sent) ++
  text ", \"view\": " ++ dumpsObject (viewMembers sent.view) ++ text "\x7d"

/-! The device reading one member. -/

private theorem skipWs_quote (rest : Bytes) : skipWs (32 :: quote :: rest) = quote :: rest := by
  simp [skipWs, show isSpace 32 = true by decide, show isSpace quote = false by decide]

theorem jsonExtractString_string {json : Bytes} {key : Key} {content : PyStr}
    {rest fallback : Bytes}
    (start : findValueStart json key.bytes = some (32 :: quote :: (dumpsText content ++ rest)))
    (ends : readString rest = []) :
    jsonExtractString json key.bytes fallback = content.flatMap shown := by
  simp only [jsonExtractString, start, skipWs_quote]
  rw [readString_dumpsText, ends, List.append_nil]

theorem viewString_string {json : Bytes} {key : Key} {content : PyStr} {rest : Bytes}
    (start : findValueStart json key.bytes = some (32 :: quote :: (dumpsText content ++ rest)))
    (ends : readString rest = []) :
    viewString json key.bytes = some (content.flatMap shown) := by
  have there : present json key.bytes = true := by
    have other : quote ≠ 110 := by decide
    simp [present, jsonHasKey, jsonIsNull, start, skipWs_quote,
      show text "null" = [110, 117, 108, 108] from rfl, other]
  rw [viewString, if_pos there, jsonExtractString_string start ends]

theorem viewString_missing {json : Bytes} {key : Key}
    (start : findValueStart json key.bytes = none) :
    viewString json key.bytes = none := by
  simp [viewString, present, jsonHasKey, start]

theorem viewInt_missing {json : Bytes} {key : Key} (start : findValueStart json key.bytes = none) :
    viewInt json key.bytes = none := by
  simp [viewInt, present, jsonHasKey, start]

theorem viewString_null {json : Bytes} {key : Key} {rest : Bytes}
    (start : findValueStart json key.bytes = some (32 :: (text "null" ++ rest))) :
    viewString json key.bytes = none := by
  have kept : skipWs (32 :: (text "null" ++ rest)) = text "null" ++ rest := by
    simp [skipWs, show isSpace 32 = true by decide,
      show text "null" = [110, 117, 108, 108] from rfl, show isSpace 110 = false by decide]
  have null : present json key.bytes = false := by
    have same : (text "null" ++ rest).take 4 = text "null" := List.take_left' rfl
    simp only [present, jsonIsNull, start, kept, same, decide_true, Bool.not_true, Bool.and_false]
  rw [viewString, if_neg (by simp [null])]

private theorem signedDecimal_nat (value : Nat) : signedDecimal value = decimal value := by
  rw [signedDecimal, if_neg (by omega)]
  rfl

private theorem skipWs_number (value : Nat) (rest : Bytes) :
    skipWs (32 :: (signedDecimal value ++ rest)) = decimal value ++ rest := by
  have space :
      skipWs (32 :: (signedDecimal value ++ rest)) = skipWs (signedDecimal value ++ rest) := by
    simp [skipWs, show isSpace 32 = true by decide]
  rw [space, signedDecimal_nat, skipWs_decimal]

theorem jsonExtractInt_number {json : Bytes} {key : Key} {value : Nat} {next : UInt8} {rest : Bytes}
    {fallback : Int}
    (start : findValueStart json key.bytes = some (32 :: (signedDecimal value ++ next :: rest)))
    (stops : isDigit next = false) :
    jsonExtractInt json key.bytes fallback = min int64Max value :=
  jsonExtractInt_decimal start value (skipWs_number value _) stops

theorem viewInt_number {json : Bytes} {key : Key} {value : Nat} {next : UInt8} {rest : Bytes}
    (start : findValueStart json key.bytes = some (32 :: (signedDecimal value ++ next :: rest)))
    (stops : isDigit next = false)
    (small : value < 2 ^ 31) : (viewInt json key.bytes).map Int32.toInt = some (value : Int) := by
  have there : present json key.bytes = true := by
    have digits : (decimal value ++ next :: rest).take 4 ≠ text "null" := by
      intro same
      cases spelled : decimal value with
      | nil => exact decimal_ne_nil value spelled
      | cons first others =>
        rw [spelled] at same
        have head : first = 110 := by
          have heads := congrArg List.head? same
          simpa [show text "null" = [110, 117, 108, 108] from rfl] using heads
        have member : first ∈ decimal value := by simp [spelled]
        have digit := isDigit_of_mem_decimal member
        rw [head] at digit
        exact absurd digit (by decide)
    simp only [present, jsonHasKey, jsonIsNull, start, Option.isSome_some, Bool.true_and,
      skipWs_number]
    simpa using digits
  have read : jsonExtractInt json key.bytes 0 = (value : Int) := by
    rw [jsonExtractInt_number start stops, int64Max]
    omega
  rw [viewInt, if_pos there, read, Option.map_some, Int32.toInt_ofInt_of_le (by omega) (by omega)]

/-! The device reading a member of an object. -/

theorem findValueStart_memberOf {members : List Member} {key : Key} {value : JsonValue}
    (found : memberOf members key = some value)
    {close : Bytes} (noQuote : ∀ byte ∈ close, byte ≠ quote) :
    ∃ next rest, findValueStart (dumpsObject members ++ close) key.bytes =
        some (32 :: (dumpsValue value ++ next :: rest)) ∧
      (next = 44 ∨ next = 125) := by
  obtain ⟨⟨name, value⟩, first, rfl⟩ := Option.map_eq_some_iff.mp found
  obtain ⟨same, before, after, rfl, absent⟩ := List.find?_eq_some_iff_append.mp first
  have key_eq : name = key := by
    obtain ⟨_, _, _⟩ := name
    obtain ⟨_, _, _⟩ := key
    simpa using same
  subst key_eq
  have start := findValueStart_object name
    (fun member inside => by simpa using absent member inside) value after noQuote
  cases after with
  | nil => exact ⟨125, close, start, .inr rfl⟩
  | cons member after => exact ⟨44, _, start, .inl rfl⟩

theorem findValueStart_notMember {members : List Member} {key : Key}
    (missing : memberOf members key = none)
    {close : Bytes} (noQuote : ∀ byte ∈ close, byte ≠ quote) :
    findValueStart (dumpsObject members ++ close) key.bytes = none := by
  refine findValueStart_missing key (fun member inside => ?_) noQuote
  have other := List.find?_eq_none.mp (Option.map_eq_none_iff.mp missing) member inside
  simpa using other

section
variable {members : List Member} {close : Bytes} (noQuote : ∀ byte ∈ close, byte ≠ quote)
include noQuote

/-- A text that is there, null or left out. -/
theorem viewString_object (key : Key) (optional : Option (Option PyStr))
    (found : memberOf members key = optional.map stringOrNull) :
    viewString (dumpsObject members ++ close) key.bytes = optional.join.map fun content =>
      content.flatMap shown := by
  cases optional with
  | none => exact viewString_missing (findValueStart_notMember found noQuote)
  | some content =>
    obtain ⟨next, rest, start, _⟩ := findValueStart_memberOf found noQuote
    cases content with
    | none => exact viewString_null start
    | some content =>
      have spelled : dumpsValue (stringOrNull (some content)) ++ next :: rest =
          quote :: (dumpsText content ++ quote :: next :: rest) := by
            simp [stringOrNull, dumpsValue]
      rw [spelled] at start
      exact viewString_string start (by simp [readString])

theorem viewInt_object (key : Key) (optional : Option Nat)
    (found : memberOf members key = optional.map fun value => .number value)
    (small : ∀ value ∈ optional, value < 2 ^ 31) :
    (viewInt (dumpsObject members ++ close) key.bytes).map Int32.toInt = optional.map Nat.cast := by
  cases optional with
  | none =>
    rw [viewInt_missing (findValueStart_notMember found noQuote)]
    rfl
  | some value =>
    obtain ⟨next, rest, start, comma⟩ := findValueStart_memberOf found noQuote
    have stops : isDigit next = false := by rcases comma with rfl | rfl <;> decide
    exact viewInt_number start stops (small value rfl)

end

/-- A view as sessions give it: no operation outside an activity, and small numbers. -/
structure View.Shaped (view : View) : Prop where
  idle : view.activity = none → view.operation = none
  numbers : ∀ activity ∈ view.activity, ∃ target produced : Nat,
    activity.2.2 = (↑target, ↑produced) ∧ target < 2 ^ 31 ∧ produced < 2 ^ 31

private theorem memberOf_texts (view : View) :
    memberOf view.members keyEmployeeName = (some (some view.employeeName)).map stringOrNull ∧
    memberOf view.members keyOperationCode =
      (view.operation.map fun operation => some operation.1).map stringOrNull ∧
    memberOf view.members keyOperationName = (view.operation.map Prod.snd).map stringOrNull ∧
    memberOf view.members keySessionId =
      (view.activity.map fun activity => some activity.1).map stringOrNull ∧
    memberOf view.members keyStartedAt =
      (view.activity.map fun activity => activity.2.1).map stringOrNull := by
  obtain ⟨name, operation, activity⟩ := view
  cases operation <;> cases activity <;> exact ⟨rfl, rfl, rfl, rfl, rfl⟩

private theorem memberOf_numbers (view : View) :
    memberOf view.members keyTargetQty =
      view.activity.map (fun activity => .number activity.2.2.1) ∧
    memberOf view.members keyProducedQty =
      view.activity.map (fun activity => .number activity.2.2.2) := by
  obtain ⟨name, operation, activity⟩ := view
  cases operation <;> cases activity <;> exact ⟨rfl, rfl⟩

/-- A view that arrives whole is read with its texts as shown. -/
theorem parseView_members {view : View} (shaped : view.Shaped) {close : Bytes}
    (noQuote : ∀ byte ∈ close, byte ≠ quote) :
    RepresentsView (fun content => content.flatMap shown) (some view)
      (parseView (dumpsObject view.members ++ close)) := by
  obtain ⟨employee, code, operation, session, started⟩ := memberOf_texts view
  obtain ⟨target, produced⟩ := memberOf_numbers view
  have numbers : ∀ activity ∈ view.activity, ∃ target produced : Nat,
      activity.2.2 = (↑target, ↑produced) ∧ target < 2 ^ 31 ∧ produced < 2 ^ 31 := shaped.numbers
  refine ⟨viewString_object noQuote keyEmployeeName _ employee, ?_, ?_, ?_, ?_, ?_, ?_⟩
  · refine (viewString_object noQuote keyOperationCode _ code).trans ?_
    rw [Option.bind_some]
    cases view.operation <;> rfl
  · refine (viewString_object noQuote keyOperationName _ operation).trans ?_
    rw [Option.bind_some]
    cases view.operation <;> rfl
  · refine (viewString_object noQuote keySessionId _ session).trans ?_
    rw [Option.bind_some]
    cases view.activity <;> rfl
  · refine (viewString_object noQuote keyStartedAt _ started).trans ?_
    rw [Option.bind_some]
    cases view.activity <;> rfl
  · cases known : view.activity with
    | none =>
      rw [known] at target
      exact (viewInt_object noQuote keyTargetQty none target (by simp)).trans (by simp [known])
    | some activity =>
      obtain ⟨number, _, spelled, small, _⟩ := numbers activity known
      rw [known, Option.map_some, spelled] at target
      exact (viewInt_object noQuote keyTargetQty (some number) target (by simpa using small)).trans
        (by simp [known, spelled])
  · cases known : view.activity with
    | none =>
      rw [known] at produced
      exact (viewInt_object noQuote keyProducedQty none produced (by simp)).trans (by simp [known])
    | some activity =>
      obtain ⟨_, number, spelled, _, small⟩ := numbers activity known
      rw [known, Option.map_some, spelled] at produced
      exact (viewInt_object noQuote keyProducedQty (some number) produced
        (by simpa using small)).trans (by simp [known, spelled])

private theorem texts_stringOrNull (key : Key) (optional : Option PyStr) (rest : List Member) :
    texts ((key, stringOrNull optional) :: rest) = optional.getD [] ++ texts rest := by
  cases optional <;> simp [texts, stringOrNull]

private theorem map_shown_iff (optional : Option PyStr) :
    (optional.map fun content => content.flatMap shown) = optional.map utf8 ↔
      ∀ code ∈ optional.getD [], plain code = true := by
  cases optional with
  | none => simp
  | some content => simpa using shown_eq_utf8_iff content

/-- The texts of a view, each a field of its own. -/
theorem plain_texts_iff (view : View) :
    (∀ code ∈ texts (viewMembers (some view)), plain code = true) ↔
      (∀ code ∈ view.employeeName, plain code = true) ∧
      (∀ code ∈ (view.operation.map Prod.fst).getD [], plain code = true) ∧
      (∀ code ∈ (view.operation.bind Prod.snd).getD [], plain code = true) ∧
      (∀ code ∈ (view.activity.map Prod.fst).getD [], plain code = true) ∧
      (∀ code ∈ (view.activity.bind fun activity => activity.2.1).getD [], plain code = true) := by
  obtain ⟨name, operation, activity⟩ := view
  have number : ∀ key value rest, texts ((key, JsonValue.number value) :: rest) = texts rest :=
    fun _ _ _ => by simp [texts]
  have string :
      ∀ key content rest, texts ((key, JsonValue.string content) :: rest) = content ++ texts rest :=
    fun _ _ _ => by simp [texts]
  have nil : texts [] = [] := rfl
  cases operation <;> cases activity <;>
    simp [viewMembers, View.members, texts_stringOrNull, number, string, nil, or_imp, forall_and]

/-- A view read with its texts as shown is the view exactly when all of them are plain. -/
theorem RepresentsView.utf8_iff {view : Option View} {onDevice : ViewModel}
    (read : RepresentsView (fun content => content.flatMap shown) view onDevice) :
    RepresentsView utf8 view onDevice ↔ ∀ code ∈ texts (viewMembers view), plain code = true := by
  cases view with
  | none =>
    have vacuous : ∀ code ∈ texts (viewMembers none), plain code = true := by
      simp [viewMembers, texts]
    refine ⟨fun _ => vacuous, fun _ => ?_⟩
    exact ⟨read.employeeName, read.operationCode, read.operationName, read.sessionId,
      read.startedAt, read.targetQty, read.producedQty⟩
  | some view =>
    have swap : ∀ optional : Option PyStr, ∀ field : Option Bytes,
        (field = optional.map fun content => content.flatMap shown) →
        (field = optional.map utf8 ↔ ∀ code ∈ optional.getD [], plain code = true) := by
      rintro optional field rfl
      exact map_shown_iff optional
    have employee := swap (some view.employeeName) _ read.employeeName
    have code := swap (view.operation.map Prod.fst) onDevice.operationCode
      (by rw [read.operationCode, Option.map_map]; rfl)
    have operation := swap (view.operation.bind Prod.snd) _ read.operationName
    have session := swap (view.activity.map Prod.fst) onDevice.sessionId
      (by rw [read.sessionId, Option.map_map]; rfl)
    have started := swap (view.activity.bind fun activity => activity.2.1) _ read.startedAt
    rw [Option.map_map] at code session
    rw [plain_texts_iff, representsView_iff]
    constructor
    · rintro ⟨a, b, c, d, e, _, _⟩
      exact ⟨employee.mp a, code.mp b, operation.mp c, session.mp d, started.mp e⟩
    · rintro ⟨a, b, c, d, e⟩
      exact ⟨employee.mpr a, code.mpr b, operation.mpr c, session.mpr d, started.mpr e,
        read.targetQty, read.producedQty⟩

/-! Taking the object of a member out of the body. -/

private theorem skipWs_object (members : List Member) (rest : Bytes) :
    skipWs (32 :: (dumpsObject members ++ rest)) =
      123 :: (dumpsMembers members ++ 125 :: rest) := by
  simp [skipWs, dumpsObject, show isSpace 32 = true by decide, show isSpace 123 = false by decide]

section
variable {json : Bytes} {key : Bytes} {members : List Member} {rest : Bytes}
  (start : findValueStart json key = some (32 :: (dumpsObject members ++ rest)))
include start

private theorem jsonExtractObject_start :
    jsonExtractObject json key =
      ((balancedFrom 1 (dumpsMembers members ++ 125 :: rest)).map ((123 : UInt8) :: ·)).getD
      [] := by
  simp only [jsonExtractObject, start, skipWs_object]

theorem jsonExtractObject_counted (counted : openBraces 1 (texts members) = some left) :
    jsonExtractObject json key =
      ((balancedFrom left (125 :: rest)).map fun found =>
      123 :: (dumpsMembers members ++ found)).getD [] := by
  rw [jsonExtractObject_start start, balancedFrom_dumpsMembers counted, Option.map_map]
  rfl

/-- Texts without loose braces leave the object whole. -/
theorem jsonExtractObject_whole (counted : openBraces 1 (texts members) = some 1) :
    jsonExtractObject json key = dumpsObject members := by
  rw [jsonExtractObject_counted start counted]
  simp [balancedFrom, dumpsObject]

theorem jsonExtractObject_cut {before after : List Member} {name : Key} {front back : PyStr}
    (spelled : members = before ++ (name, .string (front ++ 125 :: back)) :: after)
    (counted : openBraces 1 (texts before ++ front) = some 1) :
    jsonExtractObject json key = 123 :: (openMember before name ++ dumpsText (front ++ [125])) := by
  subst spelled
  rw [jsonExtractObject_start start, balancedFrom_cut counted]
  rfl

end

def snapshotPieces (sent : Snapshot) : List Piece :=
  .bare [123] :: .key keyState :: .bare [32] :: objectPieces (stateMembers sent) [44, 32]
    (.key keyWorkflow :: .bare [32] :: objectPieces (workflowMembers sent) [44, 32]
      (.key keyView :: .bare [32] :: objectPieces (viewMembers sent.view) [125] []))

theorem dumpsSnapshot_eq (sent : Snapshot) : dumpsSnapshot sent = render (snapshotPieces sent) := by
  simp only [snapshotPieces, render_cons, render_objectPieces, render_nil, dumpsSnapshot]
  simp [Piece.bytes, stateMembers, workflowMembers,
    show text "\x7b\"state\": " = [123, 34, 115, 116, 97, 116, 101, 34, 58, 32] from rfl,
    show text ", \"workflow\": " =
      [44, 32, 34, 119, 111, 114, 107, 102, 108, 111, 119, 34, 58, 32] from rfl,
    show text ", \"view\": " = [44, 32, 34, 118, 105, 101, 119, 34, 58, 32] from rfl,
      show text "\x7d" = [125] from rfl,
    show keyState.bytes = [115, 116, 97, 116, 101] from rfl,
    show keyWorkflow.bytes = [119, 111, 114, 107, 102, 108, 111, 119] from rfl,
      show keyView.bytes = [118, 105, 101, 119] from rfl]

private theorem quoteless_wire :
    (∀ byte ∈ ([44, 32] : Bytes), byte ≠ quote) ∧ (∀ byte ∈ ([125] : Bytes), byte ≠ quote) ∧
    (∀ byte ∈ ([123] : Bytes), byte ≠ quote) ∧ (∀ byte ∈ ([32] : Bytes), byte ≠ quote) :=
      by simp [quote]

private theorem viewPieces_formed (sent : Snapshot) :
    WellFormed (.key keyView :: .bare [32] :: objectPieces (viewMembers sent.view) [125] []) :=
  .key (.bare quoteless_wire.2.2.2 (objectPieces_formed _ quoteless_wire.2.1 .nil))

private theorem snapshotPieces_formed (sent : Snapshot) : WellFormed (snapshotPieces sent) :=
  .bare quoteless_wire.2.2.1
    (.key (.bare quoteless_wire.2.2.2 (objectPieces_formed _ quoteless_wire.1
    (.key (.bare quoteless_wire.2.2.2
      (objectPieces_formed _ quoteless_wire.1 (viewPieces_formed sent)))))))

private theorem findValueStart_snapshot (sent : Snapshot) (key : Key) :
    findValueStart (dumpsSnapshot sent) key.bytes =
      (lookup key (snapshotPieces sent)).map render := by
  rw [dumpsSnapshot_eq]
  exact findAfter_render key (snapshotPieces_formed sent)

theorem findValueStart_state (sent : Snapshot) :
    ∃ rest, findValueStart (dumpsSnapshot sent) keyState.bytes =
      some (32 :: (dumpsObject (stateMembers sent) ++ rest)) := by
  rw [findValueStart_snapshot]
  simp only [snapshotPieces, lookup, if_true, Option.map_some, render_cons, render_objectPieces]
  exact ⟨_, rfl⟩

theorem findValueStart_workflow (sent : Snapshot) :
    ∃ rest, findValueStart (dumpsSnapshot sent) keyWorkflow.bytes =
      some (32 :: (dumpsObject (workflowMembers sent) ++ rest)) := by
  have away : ∀ member ∈ stateMembers sent, member.1.bytes ≠ keyWorkflow.bytes := by
    simp only [stateMembers, List.mem_cons, List.not_mem_nil, or_false, forall_eq_or_imp, forall_eq]
    decide
  rw [findValueStart_snapshot, snapshotPieces, lookup, lookup, if_neg (by decide), lookup,
    lookup_absent _ away, lookup, if_pos rfl, Option.map_some, render_cons, render_objectPieces]
  exact ⟨_, rfl⟩

theorem findValueStart_view (sent : Snapshot) :
    findValueStart (dumpsSnapshot sent) keyView.bytes =
      some (32 :: (dumpsObject (viewMembers sent.view) ++ [125])) := by
  have away : (∀ member ∈ stateMembers sent, member.1.bytes ≠ keyView.bytes) ∧
      ∀ member ∈ workflowMembers sent, member.1.bytes ≠ keyView.bytes := by
    simp only [stateMembers, workflowMembers, List.mem_cons, List.not_mem_nil, or_false,
      forall_eq_or_imp, forall_eq]
    decide
  rw [findValueStart_snapshot, snapshotPieces, lookup, lookup, if_neg (by decide), lookup,
    lookup_absent _ away.1, lookup,
    if_neg (by decide), lookup, lookup_absent _ away.2, lookup, if_pos rfl, Option.map_some,
      render_cons, render_objectPieces]
  rfl

/-- The version of a `state` or `workflow` object. -/
private theorem jsonExtractInt_version (before : List Member)
    (absent : ∀ member ∈ before, member.1.bytes ≠ keyVersion.bytes) (version : Nat) :
    jsonExtractInt (dumpsObject (before ++ [(keyVersion, .number version)])) keyVersion.bytes 0 =
      min int64Max version := by
  have start := findValueStart_object keyVersion absent (.number version) [] noQuote_nil
  rw [List.append_nil] at start
  exact jsonExtractInt_number (start.trans rfl) (by decide : isDigit 125 = false)

theorem parse_dumpsSnapshot (sent : Snapshot) (named : openBraces 1 sent.name = some 1) :
    let viewObj := jsonExtractObject (dumpsSnapshot sent) keyView.bytes
    parseStateSnapshotJson (dumpsSnapshot sent) = some {
      state := businessStateFromString (sent.name.flatMap shown)
      stateVersion := UInt64.ofInt (min int64Max sent.version)
      workflowVersion := UInt32.ofInt (min int64Max sent.workflowVersion)
      view := if viewObj = [] then {} else parseView viewObj } := by
  intro viewObj
  obtain ⟨stateRest, stateStart⟩ := findValueStart_state sent
  obtain ⟨workflowRest, workflowStart⟩ := findValueStart_workflow sent
  have stateObj :
      jsonExtractObject (dumpsSnapshot sent) (text "state") = dumpsObject (stateMembers sent) :=
    jsonExtractObject_whole stateStart (by simpa [stateMembers, texts] using named)
  have workflowObj :
      jsonExtractObject (dumpsSnapshot sent) (text "workflow") =
      dumpsObject (workflowMembers sent) :=
    jsonExtractObject_whole workflowStart (by simp [workflowMembers, texts, openBraces])
  have awayName :
      ∀ member ∈ [(keyName, JsonValue.string sent.name)], member.1.bytes ≠ keyVersion.bytes := by
    simp only [List.mem_singleton, forall_eq]
    decide
  have nameStart := findValueStart_object keyName (List.forall_mem_nil _) (.string sent.name)
    [(keyVersion, .number sent.version)] noQuote_nil
  have versionStart :=
    findValueStart_object keyVersion awayName (.number sent.version) [] noQuote_nil
  rw [List.append_nil] at nameStart versionStart
  have name : jsonExtractString (dumpsObject (stateMembers sent)) (text "name") [] =
      sent.name.flatMap shown := by
    have spelled : findValueStart (dumpsObject (stateMembers sent)) keyName.bytes =
        some (32 :: quote
          :: (dumpsText sent.name ++
          quote :: (laterMembers [(keyVersion, .number sent.version)] ++ [125]))) :=
      nameStart.trans (by simp [dumpsValue])
    exact jsonExtractString_string spelled (by simp [readString, laterMembers])
  have version :
      jsonExtractInt (dumpsObject (stateMembers sent)) (text "version") 0 =
      min int64Max sent.version :=
    jsonExtractInt_version [(keyName, .string sent.name)] awayName sent.version
  have workflow :
      jsonExtractInt (dumpsObject (workflowMembers sent)) (text "version") 0 =
      min int64Max sent.workflowVersion :=
    jsonExtractInt_version [] (by simp) sent.workflowVersion
  have hasName : jsonHasKey (dumpsObject (stateMembers sent)) (text "name") = true := by
    rw [jsonHasKey]
    exact Option.isSome_iff_exists.mpr ⟨_, nameStart⟩
  have hasVersion : jsonHasKey (dumpsObject (stateMembers sent)) (text "version") = true := by
    rw [jsonHasKey]
    exact Option.isSome_iff_exists.mpr ⟨_, versionStart⟩
  have filled : ∀ members, dumpsObject members ≠ [] := fun members => by simp [dumpsObject]
  simp only [parseStateSnapshotJson, stateObj, workflowObj, if_neg (filled _), hasName, hasVersion,
    Bool.not_true, Bool.or_self, Bool.false_eq_true, if_false, name, version, workflow]
  rfl

/-- A text that closes the last open brace with its last character. -/
def EndsOnBrace (name : PyStr) : Prop :=
  ∃ front, name = front ++ [125] ∧ openBraces 1 front = some 1

theorem openBraces_pos (counted : openBraces depth string = some left) (positive : 0 < depth) :
    0 < left := by
  induction string generalizing depth with
  | nil =>
    cases counted
    exact positive
  | cons code string ih =>
    simp only [openBraces] at counted
    split at counted
    · exact ih counted (Nat.succ_pos _)
    split at counted
    · split at counted
      · cases counted
      · exact ih counted (by omega)
    · exact ih counted positive

theorem parseView_viewMembers {view : Option View} (shaped : ∀ present ∈ view, present.Shaped)
    {close : Bytes} (noQuote : ∀ byte ∈ close, byte ≠ quote) :
    RepresentsView (fun content => content.flatMap shown) view
      (parseView (dumpsObject (viewMembers view) ++ close)) := by
  cases view with
  | some present => exact parseView_members (shaped present rfl) noQuote
  | none =>
    have string :=
      fun key : Key => viewString_object noQuote key none (rfl : memberOf [] key = none)
    have number :=
      fun key : Key => viewInt_object noQuote key none (rfl : memberOf [] key = none) (by simp)
    exact ⟨string keyEmployeeName, string keyOperationCode, string keyOperationName,
      string keySessionId, string keyStartedAt, number keyTargetQty, number keyProducedQty⟩

/-- The braces in the texts of a view let its object through: at most one stays open, or
the only text is a name that closes the object with its last character. -/
inductive BracesFit (view : Option View) : Prop where
  | counted (left : Nat) (within : left ≤ 2)
      (count : openBraces 1 (texts (viewMembers view)) = some left)
  | lastName (name : PyStr) (alone : viewMembers view = [(keyEmployeeName, .string name)])
      (ends : EndsOnBrace name)

/-- A name that ends on the brace that closes it is read whole. -/
theorem parseView_lastName (name : PyStr) :
    parseView (123 :: (openMember [] keyEmployeeName ++ dumpsText name)) =
      { employeeName := some (name.flatMap shown) } := by
  have cut := findValueStart_cut keyEmployeeName (List.forall_mem_nil _) name
  have missing : ∀ key : Key, keyEmployeeName.bytes ≠ key.bytes →
      findValueStart (123 :: (openMember [] keyEmployeeName ++ dumpsText name)) key.bytes = none :=
    fun key other => findValueStart_cut_missing key (List.forall_mem_nil _) other name
  have employee :
      viewString (123 :: (openMember [] keyEmployeeName ++ dumpsText name)) (text "employee_name") =
      some (name.flatMap shown) :=
        viewString_string (cut.trans (by rw [List.append_nil])) (rfl : readString [] = [])
  simp only [parseView, employee]
  rw [show viewString _ (text "operation_code") =
    none from viewString_missing (missing keyOperationCode (by decide)),
    show viewString _ (text "operation_name") =
      none from viewString_missing (missing keyOperationName (by decide)),
    show viewString _ (text "session_id") =
      none from viewString_missing (missing keySessionId (by decide)),
    show viewString _ (text "started_at") =
      none from viewString_missing (missing keyStartedAt (by decide)),
    show viewInt _ (text "target_qty") =
      none from viewInt_missing (missing keyTargetQty (by decide)),
    show viewInt _ (text "produced_qty") =
      none from viewInt_missing (missing keyProducedQty (by decide))]

private theorem shown_ne_nil (code : Nat) : shown code ≠ [] := by
  unfold shown
  repeat' split
  all_goals simp

private theorem members_keys (view : View) :
    (view.members.map fun member => member.1.bytes).Nodup := by
  obtain ⟨name, operation, activity⟩ := view
  cases operation <;> cases activity <;> simp only [View.members, List.map_cons, List.map_nil,
    List.cons_append, List.nil_append] <;>
    decide

private theorem members_last (view : View) {activity : PyStr × Option PyStr × Int × Int}
    (active : view.activity = some activity) :
    view.members.getLast? = some (keyProducedQty, .number activity.2.2.2) := by
  obtain ⟨name, operation, _⟩ := view
  cases active
  cases operation <;> rfl

/-- With an activity the last number is behind every text. -/
private theorem cut_loses_produced {view : View} {activity : PyStr × Option PyStr × Int × Int}
    (active : view.activity = some activity)
    {before after : List Member} {name : Key} {content : PyStr}
    (spelled : view.members = before ++ (name, .string content) :: after) :
    (∀ member ∈ before, member.1.bytes ≠ keyProducedQty.bytes) ∧
      name.bytes ≠ keyProducedQty.bytes := by
  have last := members_last view active
  have keys := members_keys view
  rw [spelled] at last keys
  rcases List.eq_nil_or_concat after with rfl | ⟨rest, final, rfl⟩
  · simp at last
  · rw [List.concat_eq_append] at last keys
    rw [← List.cons_append, ← List.append_assoc, List.getLast?_concat] at last
    obtain rfl : final = _ := Option.some.inj last
    rw [List.map_append, List.nodup_append] at keys
    obtain ⟨_, tail, apart⟩ := keys
    constructor
    · intro member inside
      exact apart _ (List.mem_map_of_mem inside) _ (by simp)
    · have head := (List.nodup_cons.mp tail).1
      intro equal
      exact head (by simp [equal])

private theorem openBraces_closed (counted : openBraces depth front = some 1) (back : PyStr) :
    openBraces depth (front ++ 125 :: back) = none := by
  rw [openBraces_append, counted]
  rfl

/-- What the device has of the view is the view exactly when its texts are plain and
their braces fit. -/
theorem viewObject_iff {json key : Bytes} {view : Option View}
    (shaped : ∀ present ∈ view, present.Shaped)
    (start : findValueStart json key = some (32 :: (dumpsObject (viewMembers view) ++ [125]))) :
    RepresentsView utf8 view
        (if jsonExtractObject json key = [] then {} else parseView (jsonExtractObject json key)) ↔
      (∀ code ∈ texts (viewMembers view), plain code = true) ∧ BracesFit view := by
  have closing : ∀ byte ∈ ([125] : Bytes), byte ≠ quote := by simp [quote]
  cases count : openBraces 1 (texts (viewMembers view)) with
  | some left =>
    have positive := openBraces_pos count (by decide)
    by_cases whole : left = 1
    · subst whole
      have read := parseView_viewMembers shaped noQuote_nil
      rw [jsonExtractObject_whole start count, if_neg (by simp [dumpsObject])]
      rw [List.append_nil] at read
      exact read.utf8_iff.trans (and_iff_left (.counted 1 (by decide) count)).symm
    by_cases one : left = 2
    · subst one
      have object : jsonExtractObject json key = dumpsObject (viewMembers view) ++ [125] := by
        rw [jsonExtractObject_counted start count]
        simp [balancedFrom, dumpsObject]
      have read := parseView_viewMembers shaped closing
      rw [object, if_neg (by simp [dumpsObject])]
      exact read.utf8_iff.trans (and_iff_left (.counted 2 (by decide) count)).symm
    have object : jsonExtractObject json key = [] := by
      have third : left - 1 ≠ 1 := by omega
      rw [jsonExtractObject_counted start count]
      simp [balancedFrom, whole, third]
    rw [object, if_pos rfl]
    refine iff_of_false (fun read => ?_) (fun fit => ?_)
    · cases view with
      | none =>
        cases count
        exact whole rfl
      | some present => exact absurd read.employeeName (by simp)
    · rcases fit.2 with ⟨other, within, counted⟩ | ⟨name, alone, front, rfl, counted⟩
      · have same := Option.some.inj (count.symm.trans counted)
        omega
      · have closed := openBraces_closed counted []
        simp only [alone, texts, List.flatMap_cons, List.flatMap_nil, List.append_nil] at count
        rw [count] at closed
        cases closed
  | none =>
    obtain ⟨before, name, front, back, after, spelled, counted⟩ := texts_none count
    have object := jsonExtractObject_cut start spelled counted
    rw [object, if_neg (by simp)]
    cases view with
    | none => cases count
    | some present =>
      cases active : present.activity with
      | some activity =>
        have lost := cut_loses_produced active spelled
        refine iff_of_false (fun read => ?_) (fun fit => ?_)
        · have missing : viewInt _ keyProducedQty.bytes = none :=
            viewInt_missing
              (findValueStart_cut_missing keyProducedQty lost.1 lost.2 (front ++ [125]))
          have number := read.producedQty
          rw [show ViewModel.producedQty _ = none from missing, Option.bind_some, active] at number
          cases number
        · rcases fit.2 with ⟨_, _, known⟩ | ⟨name, alone, _⟩
          · rw [count] at known
            cases known
          · have last := members_last present active
            rw [show present.members = _ from alone] at last
            have kind := (Prod.mk.inj (Option.some.inj last)).2
            cases kind
      | none =>
        have idle : present.operation = none := (shaped present rfl).idle active
        have alone :
            viewMembers (some present) = [(keyEmployeeName, .string present.employeeName)] := by
          simp [viewMembers, View.members, idle, active]
        rw [alone] at spelled
        have before_nil : before = [] := by
          cases before with
          | nil => rfl
          | cons member before => simp at spelled
        subst before_nil
        obtain ⟨⟨rfl, nameText⟩, rfl⟩ :
            (keyEmployeeName = name ∧ present.employeeName = front ++ 125 :: back) ∧
            after = [] := by
          simpa using spelled
        have one : openBraces 1 front = some 1 := counted
        rw [parseView_lastName, alone]
        have listed : texts [(keyEmployeeName, JsonValue.string present.employeeName)] =
            present.employeeName := by
          simp [texts]
        rw [listed]
        constructor
        · intro read
          have same : (front ++ [125]).flatMap shown = utf8 (front ++ 125 :: back) := by
            rw [← nameText]
            exact Option.some.inj read.employeeName
          have printable := plain_of_shown same
          rw [← (shown_eq_utf8_iff _).mpr printable] at same
          have nothing : back = [] := by
            cases back with
            | nil => rfl
            | cons code back =>
              have longer : (front ++ 125 :: code :: back).flatMap shown =
                  (front ++ [125]).flatMap shown ++ (shown code ++ back.flatMap shown) := by simp
              rw [longer, List.self_eq_append_right, List.append_eq_nil_iff] at same
              exact absurd same.1 (shown_ne_nil code)
          subst nothing
          rw [nameText]
          exact ⟨printable, .lastName _ (by rw [alone, nameText]) ⟨front, rfl, one⟩⟩
        · rintro ⟨printable, ⟨_, _, known⟩ | ⟨other, lone, ends, rfl, counts⟩⟩
          · rw [count] at known
            cases known
          · rw [alone] at lone
            have same : present.employeeName = ends ++ [125] := by simpa using lone
            have nothing : back = [] := by
              rcases List.eq_nil_or_concat back with rfl | ⟨rest, final, rfl⟩
              · rfl
              · rw [nameText, List.concat_eq_append, ← List.cons_append,
                  ← List.append_assoc] at same
                have fronts := (List.append_inj' same rfl).1
                rw [← fronts, openBraces_closed one] at counts
                cases counts
            subst nothing
            have shownName := (shown_eq_utf8_iff _).mpr printable
            rw [nameText] at shownName
            have field :
                some ((front ++ [125]).flatMap shown) = some (utf8 present.employeeName) := by
              rw [shownName, nameText]
            exact ⟨field, by simp [idle], by simp [idle], by simp [active], by simp [active],
              by simp [active], by simp [active]⟩

/-! What the states of the backend have in common. -/

structure Session.Reached (session : Session) : Prop where
  target : session.targetQty = 0 ∨ session.targetQty = 100
  produced : session.producedQty = 0
  idle : truthy session.sessionId = none → session.operationCode = none

structure DeviceState.Reached (dev : DeviceState) : Prop where
  workflow : dev.workflowVersion = 1
  session : ∀ session ∈ dev.session, session.Reached

theorem newDeviceState_reached : newDeviceState.Reached := ⟨rfl, by simp [newDeviceState]⟩

private theorem reached_rejected {dev : DeviceState} (reached : dev.Reached) (data : Fixtures)
    (code message : String) :
    (rejected dev data code message).device.Reached := reached

private theorem scanEmployee_reached {dev : DeviceState} (reached : dev.Reached)
    (isdigit : PyStr → Bool) (data : Fixtures)
    (scan : Option (PyStr × PyStr)) : (scanEmployee isdigit dev data scan).device.Reached := by
  unfold scanEmployee
  split
  · exact reached_rejected reached _ _ _
  split
  · exact reached_rejected reached _ _ _
  split
  · exact reached_rejected reached _ _ _
  · refine ⟨reached.workflow, fun session known => ?_⟩
    cases known
    exact ⟨.inl rfl, rfl, fun _ => rfl⟩

private theorem scanOperation_reached {dev : DeviceState} (reached : dev.Reached)
    {session : Session} (known : session ∈ dev.session)
    (data : Fixtures) (scan : Option (PyStr × PyStr)) (input : EventInput) :
    (scanOperation dev session data scan input).device.Reached := by
  unfold scanOperation
  split
  · exact reached_rejected reached _ _ _
  split
  · exact reached_rejected reached _ _ _
  split
  · exact reached_rejected reached _ _ _
  · refine ⟨reached.workflow, fun next spelled => ?_⟩
    cases spelled
    refine ⟨.inr rfl, (reached.session session known).produced, fun idle => ?_⟩
    simp [truthy, chars] at idle

private theorem cleared_reached {dev : DeviceState} (reached : dev.Reached) : dev.cleared.Reached :=
  ⟨reached.workflow, by simp [DeviceState.cleared]⟩

theorem applyEvent_reached {dev : DeviceState} (reached : dev.Reached) (isdigit : PyStr → Bool)
    (data : Fixtures) (input : EventInput) :
    (applyEvent isdigit dev data input).device.Reached := by
  unfold applyEvent
  split
  · exact reached
  split
  · exact reached
  split
  · simp only
    split
    · exact scanEmployee_reached reached isdigit data _
    · exact scanOperation_reached reached (by simp) data _ input
    · exact reached
  split
  · split
    · exact reached
    · exact ⟨reached.workflow, reached.session⟩
  split
  · split
    · exact reached
    split
    · exact reached
    · exact cleared_reached reached
  split
  · split
    · exact reached
    · exact cleared_reached reached
  · exact reached

theorem administer_reached {dev : DeviceState} (reached : dev.Reached) (body : AdminBody) :
    (dev.administer body).Reached := by
  have set : ∀ dev : DeviceState, dev.Reached →
      ∀ flag, (dev.setDisabled flag).Reached ∧ (dev.setMaintenance flag).Reached := by
    intro dev reached flag
    cases flag <;> exact ⟨⟨reached.workflow, reached.session⟩, reached.workflow, reached.session⟩
  unfold DeviceState.administer
  split
  · exact ⟨reached.workflow, by simp [newDeviceState]⟩
  · exact (set _ (set dev reached body.disabled).1 body.maintenance).2

theorem DeviceState.Next.reached {before after : DeviceState} (next : before.Next after)
    (reached : before.Reached) : after.Reached := by
  cases next with
  | same => exact reached
  | admin body => exact administer_reached reached body
  | event isdigit data input => exact applyEvent_reached reached isdigit data input

theorem DeviceState.Reached.shaped {dev : DeviceState} (reached : dev.Reached) :
    ∀ view ∈ (snapshot dev).view, view.Shaped := by
  intro view spelled
  obtain ⟨session, known, rfl⟩ := Option.map_eq_some_iff.mp spelled
  have facts := reached.session session known
  constructor
  · intro idle
    simp only [Option.map_eq_none_iff] at idle
    simp [facts.idle idle, truthy]
  · intro activity active
    obtain ⟨id, _, rfl⟩ := Option.map_eq_some_iff.mp active
    rcases facts.target with target | target
    · exact ⟨0, 0, by simp [target, facts.produced], by decide, by decide⟩
    · exact ⟨100, 0, by simp [target, facts.produced], by decide, by decide⟩

/-- The name of a state is plain and has no brace. -/
theorem snapshot_name (dev : DeviceState) :
    openBraces 1 (snapshot dev).name = some 1 ∧ ∀ code ∈ (snapshot dev).name,
      plain code = true := by
  simp only [snapshot]
  split
  · decide
  split
  · decide
  · cases dev.stateName <;> decide

/-- What the device can read as it was meant. -/
structure Readable (sent : Snapshot) : Prop where
  version : sent.version < 2 ^ 63
  printable : ∀ code ∈ texts (viewMembers sent.view), plain code = true
  braces : BracesFit sent.view

theorem parse_represents_iff {dev : DeviceState} (reached : dev.Reached) :
    (∃ parsed, parseStateSnapshotJson (dumpsSnapshot (snapshot dev)) = some parsed ∧
        Represents (snapshot dev) parsed) ↔
      Readable (snapshot dev) := by
  obtain ⟨named, printable⟩ := snapshot_name dev
  have view := viewObject_iff reached.shaped (findValueStart_view (snapshot dev))
  rw [parse_dumpsSnapshot _ named, (shown_eq_utf8_iff _).mpr printable]
  constructor
  · rintro ⟨parsed, spelled, represents⟩
    cases spelled
    have fits := view.mp represents.view
    exact ⟨(toNat_ofInt_small _).mp represents.stateVersion, fits.1, fits.2⟩
  · intro readable
    refine ⟨_, rfl, rfl, (toNat_ofInt_small _).mpr readable.version, ?_,
      view.mpr ⟨readable.printable, readable.braces⟩⟩
    rw [show (snapshot dev).workflowVersion = 1 from reached.workflow]
    exact (by decide : (UInt32.ofInt (min int64Max (1 : Nat))).toNat = 1)

namespace SnapshotTrace

variable {β δ : Type} [DecidableEq δ] {py : Python β δ}

theorem run_reached (steps : List (BackendStep β)) (id : PyStr) :
    ((run (SnapshotTrace.step py) {} steps).backend.device id).Reached := by
  have start : (({} : SnapshotTrace δ).backend.device id).Reached := newDeviceState_reached
  refine run_invariant (motive := fun trace : SnapshotTrace δ => (trace.backend.device id).Reached)
    start ?_ steps
  exact fun trace input reached => (serve_next py trace.backend input id).reached reached

/-- In every run of the backend: the body of a snapshot is parsed to that snapshot
exactly when the device can read it. -/
theorem snapshot_wire_iff (steps : List (BackendStep β)) (id : PyStr) :
    let dev := (run (SnapshotTrace.step py) {} steps).backend.device id
    (∃ parsed, parseStateSnapshotJson (dumpsSnapshot (snapshot dev)) = some parsed ∧
        Represents (snapshot dev) parsed) ↔
      Readable (snapshot dev) :=
  parse_represents_iff (run_reached steps id)

private def scanned (eventId raw : PyStr) : BackendStep EventFields :=
  .postEvents (some {
    deviceId := some (chars "D1"), eventId := some eventId
    type := some (chars "SCAN"), raw := raw }) []

/-- After the scan of an operation whose code starts with U+0111 the device shows the
letters of the escape. -/
theorem operation_code_garbled :
    let steps :=
      [scanned (chars "e1") (chars "WF|EMP|00152"), scanned (chars "e2") (chars "WF|OP|đ-01")]
    let dev := (run (SnapshotTrace.step EventTrace.plain) {} steps).backend.device (chars "D1")
    ¬ ∃ parsed, parseStateSnapshotJson (dumpsSnapshot (snapshot dev)) = some parsed ∧
      Represents (snapshot dev) parsed := by
  intro steps dev
  have rough : ¬ ∀ code ∈ texts (viewMembers (snapshot dev).view), plain code = true := by
    decide +kernel
  rw [parse_represents_iff (run_reached steps (chars "D1"))]
  exact fun readable => rough readable.printable

end SnapshotTrace

end Kiosk.Backend
