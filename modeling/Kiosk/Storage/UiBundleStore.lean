import Kiosk.Protocol.ProtocolCodec
import Kiosk.Protocol.UiBundle

/-! `storage/ui_bundle_store.cpp`: two slots for a bundle, a file on SPIFFS and a few
keys in NVS for each, and one key that selects a slot. SHA-256 is a parameter. -/
namespace Kiosk.Storage

open Library Protocol

def kUiSchemaSupportedMin : UInt32 := 1
def kUiSchemaSupportedMax : UInt32 := 1

/-- `/ui_bundle_a.json` and `/ui_bundle_b.json`. -/
inductive UiPath where
  | a | b
  deriving DecidableEq, Repr

/-- The character that stands for a slot. -/
abbrev UiSlot := UInt8

namespace UiSlot

abbrev a : UiSlot := 65
abbrev b : UiSlot := 66

/-- `spiffs_path_for`: whatever is not `A` has the file of `B`. -/
def path (slot : UiSlot) : UiPath := if slot = a then .a else .b

/-- The slot that `stage` writes to. -/
def other (slot : UiSlot) : UiSlot := if slot = a then b else a

end UiSlot

/-- `meta_ver_X`, `meta_hash_X` and `meta_schema_X` of a slot. -/
structure UiSlotMeta where
  version : UInt32 := 0
  hash : Bytes := []
  schemaVersion : UInt32 := 0

/-- What outlives a loss of power: the keys in NVS, `meta_slot` by its first character,
and the two files. -/
structure UiFlash where
  metaSlot : Option UiSlot := none
  lastGoodVer : UInt32 := 0
  slotMeta : UiSlot → UiSlotMeta := fun _ => {}
  files : UiPath → Option Bytes := fun _ => none

namespace UiFlash

def writeFile (flash : UiFlash) (slot : UiSlot) (content : Bytes) : UiFlash :=
  { flash with files := Function.update flash.files slot.path (some content) }

def putMeta (flash : UiFlash) (slot : UiSlot) (change : UiSlotMeta → UiSlotMeta) : UiFlash :=
  { flash with slotMeta := Function.update flash.slotMeta slot (change (flash.slotMeta slot)) }

end UiFlash

inductive UiSyncState where
  | idle | updateAvailable | downloading | verifying | staged | activating | active | updateFailed
  deriving DecidableEq, Repr

inductive UiStageResult where
  | staged | hashMismatch | parseFailed | schemaUnsupported | storageFailed
  deriving DecidableEq, Repr

def uiStageResultToString : UiStageResult → Bytes
  | .staged => text "STAGED"
  | .hashMismatch => text "HASH_MISMATCH"
  | .parseFailed => text "PARSE_FAILED"
  | .schemaUnsupported => text "SCHEMA_UNSUPPORTED"
  | .storageFailed => text "STORAGE_FAILED"

structure UiBundleStore where
  hasActive : Bool := false
  activeBundle : UiBundle := {}
  activeVersion : UInt32 := 0
  activeHash : Bytes := []
  activeSchemaVersion : UInt32 := 0
  activeSlot : UiSlot := .a
  lastGoodVersion : UInt32 := 0
  staged : Bool := false
  stagedSlot : UiSlot := .b
  stagedVersion : UInt32 := 0
  syncState : UiSyncState := .idle
  lastUpdateError : Bytes := []

/-- The lowercase hexadecimal of a digest. -/
def sha256Hex (sha256 : Bytes → Bytes) (content : Bytes) : Bytes := (sha256 content).flatMap hexByte

def toLower (content : Bytes) : Bytes :=
  content.map fun byte => if 65 ≤ byte ∧ byte ≤ 90 then byte + 32 else byte

/-- What `c_str()` hands on. -/
def cString (content : Bytes) : Bytes := content.takeWhile (· ≠ 0)

/-- How the writes of a `stage` end: a file that is not opened or takes some of the
bytes, and whether each key is written. -/
structure UiStageWrites where
  file : Option Nat := some (2 ^ 32)
  version : Bool := true
  hash : Bool := true
  schemaVersion : Bool := true

structure UiActivateWrites where
  metaSlot : Bool := true
  lastGoodVer : Bool := true

namespace UiBundleStore

def loadActiveFromNvs (store : UiBundleStore) (flash : UiFlash) : UiBundleStore :=
  let store := { store with lastGoodVersion := flash.lastGoodVer }
  match flash.metaSlot with
  | none => { store with hasActive := false }
  | some slot =>
    let store := { store with
      activeSlot := slot
      activeVersion := (flash.slotMeta slot).version
      activeHash := (flash.slotMeta slot).hash
      activeSchemaVersion := (flash.slotMeta slot).schemaVersion }
    let rawJson := (flash.files slot.path).getD []
    if rawJson = [] then { store with hasActive := false }
    else
      match parseUiBundleJson (cString rawJson) with
      | none => { store with hasActive := false }
      | some parsed =>
        { store with activeBundle := parsed, hasActive := true, syncState := .active }

/-- A fresh object and its `init`, on a partition that mounts. -/
def init (flash : UiFlash) : UiBundleStore := loadActiveFromNvs {} flash

/-- The checks of `stage`, before anything is written. -/
def checkBundle (sha256 : Bytes → Bytes) (rawJson expectedSha256Hex : Bytes) :
    Except UiStageResult UiBundle :=
  if expectedSha256Hex ≠ [] ∧
    toLower (sha256Hex sha256 rawJson) ≠ toLower (cString expectedSha256Hex) then
    .error .hashMismatch
  else
    match parseUiBundleJson rawJson with
    | none => .error .parseFailed
    | some parsed =>
      if parsed.manifest.schemaVersion < kUiSchemaSupportedMin ∨
        parsed.manifest.schemaVersion > kUiSchemaSupportedMax then
        .error .schemaUnsupported
      else .ok parsed

def failUpdate (store : UiBundleStore) (error : Bytes) : UiBundleStore :=
  { store with lastUpdateError := error, syncState := .updateFailed }

/-- The object after a `stage`, the flash after each of its writes, and the result. -/
def stage (sha256 : Bytes → Bytes) (store : UiBundleStore) (flash : UiFlash) (rawJson : Bytes)
    (version : UInt32) (expectedSha256Hex : Bytes) (writes : UiStageWrites) :
    UiBundleStore × List UiFlash × UiStageResult :=
  match checkBundle sha256 rawJson expectedSha256Hex with
  | .error result => (store.failUpdate (uiStageResultToString result), [], result)
  | .ok parsed =>
    let failed := store.failUpdate (uiStageResultToString .storageFailed)
    let targetSlot := store.activeSlot.other
    match writes.file with
    | none => (failed, [], .storageFailed)
    | some taken =>
      let file := flash.writeFile targetSlot (rawJson.take taken)
      if taken < rawJson.length then (failed, [file], .storageFailed)
      else if !writes.version then (failed, [file], .storageFailed)
      else
        let ver := file.putMeta targetSlot fun slotMeta => { slotMeta with version := version }
        if !writes.hash then (failed, [file, ver], .storageFailed)
        else
          let hash := ver.putMeta targetSlot fun slotMeta =>
            { slotMeta with hash := sha256Hex sha256 rawJson }
          if !writes.schemaVersion then (failed, [file, ver, hash], .storageFailed)
          else
            let schema := hash.putMeta targetSlot fun slotMeta =>
              { slotMeta with schemaVersion := parsed.manifest.schemaVersion }
            ({ store with
                staged := true
                stagedSlot := targetSlot
                stagedVersion := version
                lastUpdateError := []
                syncState := .staged }, [file, ver, hash, schema], .staged)

def activateStaged (store : UiBundleStore) (flash : UiFlash) (writes : UiActivateWrites) :
    UiBundleStore × List UiFlash × Bool :=
  if !store.staged then (store, [], false)
  else
    let failed := store.failUpdate (text "ACTIVATE_STORAGE_FAILED")
    if !writes.metaSlot then (failed, [], false)
    else
      let selected := { flash with metaSlot := some store.stagedSlot }
      if !writes.lastGoodVer then (failed, [selected], false)
      else
        let recorded := { selected with lastGoodVer := store.stagedVersion }
        ({ loadActiveFromNvs { store with staged := false } recorded with syncState := .active },
          [selected, recorded], true)

end UiBundleStore

end Kiosk.Storage
