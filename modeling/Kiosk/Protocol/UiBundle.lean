import Kiosk.Protocol.JsonExtract

/-! `ui_bundle.cpp`: the parser of a UI bundle, and when one is to be fetched. -/
namespace Kiosk.Protocol

open Library

inductive UiComponentType where
  | text | rect | line | unsupported
  deriving DecidableEq, Repr

def uiComponentTypeFromString (name : Bytes) : UiComponentType :=
  if name = text "text" then .text
  else if name = text "rect" then .rect
  else if name = text "line" then .line
  else .unsupported

structure UiComponent where
  type : UiComponentType := .unsupported
  x : Int16 := 0
  y : Int16 := 0
  w : Int16 := 0
  h : Int16 := 0
  fontSize : UInt8 := 1
  color : Bytes := []
  text : Bytes := []
  align : Bytes := []
  deriving DecidableEq

structure UiScreen where
  screenId : Bytes := []
  components : List UiComponent := []
  deriving DecidableEq

structure UiBundleManifest where
  version : UInt32 := 0
  sha256 : Bytes := []
  schemaVersion : UInt32 := 0
  minRuntimeVersion : Bytes := []
  deriving DecidableEq

structure UiBundle where
  manifest : UiBundleManifest := {}
  screens : List UiScreen := []
  deriving DecidableEq

/-- A component of an unknown type is dropped. -/
def parseComponent (json : Bytes) : Option UiComponent :=
  let type := uiComponentTypeFromString (jsonExtractString json (text "type") [])
  if type = .unsupported then none
  else some {
    type := type
    x := Int16.ofInt (jsonExtractInt json (text "x") 0)
    y := Int16.ofInt (jsonExtractInt json (text "y") 0)
    w := Int16.ofInt (jsonExtractInt json (text "w") 0)
    h := Int16.ofInt (jsonExtractInt json (text "h") 0)
    fontSize := UInt8.ofInt (jsonExtractInt json (text "font_size") 1)
    color := jsonExtractString json (text "color") (text "#FFFFFF")
    text := jsonExtractString json (text "text") []
    align := jsonExtractString json (text "align") (text "left") }

/-- A screen without an id is dropped. -/
def parseScreen (json : Bytes) : Option UiScreen :=
  let screenId := jsonExtractString json (text "id") []
  if screenId = [] then none
  else
    some {
      screenId := screenId
      components := (jsonExtractObjectArray json (text "components")).filterMap parseComponent }

def parseUiBundleJson (json : Bytes) : Option UiBundle :=
  let manifestJson := jsonExtractObject json (text "manifest")
  if manifestJson = [] then none
  else if !jsonHasKey manifestJson (text "version") ||
    !jsonHasKey manifestJson (text "schema_version") then none
  else
    let manifest := {
      version := UInt32.ofInt (jsonExtractInt manifestJson (text "version") 0)
      schemaVersion := UInt32.ofInt (jsonExtractInt manifestJson (text "schema_version") 0)
      sha256 := jsonExtractString manifestJson (text "sha256") []
      minRuntimeVersion := jsonExtractString manifestJson (text "min_runtime_version") [] }
    let screenJsons := jsonExtractObjectArray json (text "screens")
    if screenJsons = [] then none
    else
      let screens := screenJsons.filterMap parseScreen
      if screens = [] then none else some { manifest := manifest, screens := screens }

def uiBundleNeedsSync (localVersion : UInt32) (localHash : Bytes) (desiredVersion : UInt32)
    (desiredHash : Bytes) : Bool :=
  if desiredVersion = 0 ∧ desiredHash = [] then false
  else if localVersion ≠ desiredVersion then true
  else if desiredHash ≠ [] ∧ localHash ≠ desiredHash then true
  else false

/-- Given a version, no sync is needed exactly where version and hash agree. -/
theorem uiBundleNeedsSync_eq_false (wanted : desiredVersion ≠ 0) (localVersion : UInt32)
    (localHash desiredHash : Bytes) :
    uiBundleNeedsSync localVersion localHash desiredVersion desiredHash = false ↔
      localVersion = desiredVersion ∧ (desiredHash ≠ [] → localHash = desiredHash) := by
  unfold uiBundleNeedsSync
  rw [if_neg fun nothing => wanted nothing.1]
  by_cases version : localVersion = desiredVersion
  · rw [if_neg (not_not.mpr version)]
    by_cases differs : desiredHash ≠ [] ∧ localHash ≠ desiredHash
    · simp [differs]
    · rw [if_neg differs]
      simpa [version] using differs
  · rw [if_pos version]
    simp [version]

end Kiosk.Protocol
