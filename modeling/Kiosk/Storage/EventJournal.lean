import Kiosk.Protocol.EventJournalIndex

/-! `storage/event_journal.cpp` over SPIFFS. Every call of the driver is here with
the ways it can fail; logging is left out. -/
namespace Kiosk.Storage

open Library Protocol

/-- `/journal.dat`, `/journal.dat.tmp`, `/journal.dat.old`. -/
inductive JournalPath where
  | dat | tmp | old
  deriving DecidableEq, Repr

/-- What the flash does during one call: whether it mounts, opens and renames, and
how many bytes it takes before a write comes back short. -/
structure Medium where
  mounts : Bool := true
  opens : Bool := true
  renames : Bool := true
  room : Nat := 2 ^ 32
  deriving DecidableEq, Repr

/-- SPIFFS keeps the size of a file in 32 bits. -/
def maxFileBytes : Nat := 2 ^ 32 - 1

/-- `failed` records that the medium refused something; no code reads it. -/
structure Spiffs where
  files : JournalPath → Option Bytes := fun _ => none
  medium : Medium := {}
  failed : Bool := false

namespace Spiffs

def contentOf (fs : Spiffs) (path : JournalPath) : Bytes := (fs.files path).getD []

def fileExists (fs : Spiffs) (path : JournalPath) : Bool := (fs.files path).isSome

def remove (fs : Spiffs) (path : JournalPath) : Spiffs :=
  { fs with files := Function.update fs.files path none }

/-- A rename needs a source and no file under the new name. -/
def rename (fs : Spiffs) (source target : JournalPath) : Spiffs × Bool :=
  match fs.files source, fs.files target with
  | some content, none =>
    if fs.medium.renames then
      ({ fs with files :=
        Function.update (Function.update fs.files source none) target (some content) }, true)
    else ({ fs with failed := true }, false)
  | _, _ => (fs, false)

/-- `open_for_append`, which creates the file. -/
def openForAppend (fs : Spiffs) (path : JournalPath) : Spiffs × Bool :=
  if fs.medium.opens then
    ({ fs with files := Function.update fs.files path (some (fs.contentOf path)) }, true)
  else ({ fs with failed := true }, false)

/-- How many of `len` bytes a write to the file takes. -/
def taken (fs : Spiffs) (path : JournalPath) (len : Nat) : Nat :=
  min len (min fs.medium.room (maxFileBytes - (fs.contentOf path).length))

def write (fs : Spiffs) (path : JournalPath) (data : Bytes) : Spiffs × Nat :=
  let n := fs.taken path data.length
  ({ files := Function.update fs.files path (some (fs.contentOf path ++ data.take n))
     medium := { fs.medium with room := fs.medium.room - n }
     failed := fs.failed || n < data.length }, n)

/-- Writes in order; the first short one ends the append. -/
def writeAll (fs : Spiffs) (path : JournalPath) : List Bytes → Spiffs × Bool
  | [] => (fs, true)
  | data :: rest =>
    let (fs, n) := fs.write path data
    if n ≠ data.length then (fs, false) else fs.writeAll path rest

/-- `append_journal_frame`. `flush` on an open SPIFFS file returns true, and an
empty body is not written at all. -/
def appendJournalFrame (fs : Spiffs) (path : JournalPath) (bodyJson : Bytes) : Spiffs × Bool :=
  let (fs, opened) := fs.openForAppend path
  if !opened then (fs, false)
  else fs.writeAll path
    [writeU32Le (UInt32.ofNat bodyJson.length), bodyJson, writeU32Le (crc32 bodyJson),
      [kJournalCommitMarker]]

/-- `scan_journal` on a path: no file is an empty journal, a file that cannot be
opened is not scanned. -/
def scan (fs : Spiffs) (path : JournalPath) : List JournalScanFrame :=
  match fs.files path with
  | none => []
  | some content => if fs.medium.opens then scanJournal content else []

end Spiffs

structure EventJournal where
  fs : Spiffs := {}
  index : EventJournalIndex := { capacityBytes := 0 }
  initOk : Bool := false
  compactionActive : Bool := false
  compactionKeep : List Bytes := []
  compactionWriteIndex : Nat := 0

namespace EventJournal

def kCompactionRecordsPerTick : Nat := 10

/-- What `init` does with one scanned frame. -/
def recoverFrame (index : EventJournalIndex) (frame : JournalScanFrame) : EventJournalIndex :=
  if frame.outcome = .ok then index.applyScannedFrame frame.bodyJson frame.frameSize else index

/-- The orphans an interrupted compaction leaves. -/
def recoverOrphans (fs : Spiffs) : Spiffs :=
  let hasDat := fs.fileExists .dat
  let hasOld := fs.fileExists .old
  let fs := if fs.fileExists .tmp then fs.remove .tmp else fs
  if !hasDat && hasOld then (fs.rename .old .dat).1
  else if hasDat && hasOld then fs.remove .old
  else fs

def recoverIndex (fs : Spiffs) (capacityBytes : UInt32) : EventJournalIndex :=
  (fs.scan .dat).foldl recoverFrame { capacityBytes := capacityBytes }

/-- A fresh object and its `init`. -/
def init (fs : Spiffs) (capacityBytes : UInt32) : EventJournal :=
  if !fs.medium.mounts then { fs := { fs with failed := true } }
  else
    let fs := recoverOrphans fs
    { fs := fs, index := recoverIndex fs capacityBytes, initOk := true }

def appendEvent (j : EventJournal) (record : JournalRecord) : EventJournal × Bool :=
  if !j.initOk then (j, false)
  else
    let body := encodeJournalEvent record
    match j.index.decideAppend record.eventId (frameSizeOf body) with
    | .duplicateEvent => (j, false)
    | .full => (j, false)
    | .ok =>
      match j.fs.appendJournalFrame .dat body with
      | (fs, false) => ({ j with fs := fs }, false)
      | (fs, true) =>
        ({ j with fs := fs, index := j.index.recordAppendedEvent record (frameSizeOf body) }, true)

def appendTransition (j : EventJournal) (transition : JournalTransition) : EventJournal × Bool :=
  if !j.initOk then (j, false)
  else if !j.index.hasEvent transition.eventId then (j, false)
  else
    let body := encodeJournalTransition transition
    match j.fs.appendJournalFrame .dat body with
    | (fs, false) => ({ j with fs := fs }, false)
    | (fs, true) =>
      ({ j with fs := fs, index := j.index.recordAppendedTransition transition (frameSizeOf body) },
        true)

/-- `finish_compaction_validate_and_swap`. -/
def finishCompaction (j : EventJournal) (keep : List Bytes) : EventJournal × Bool :=
  let frames := j.fs.scan .tmp
  let bad := (frames.filter fun frame => frame.outcome ≠ .ok).length
  if bad > 0 || frames.length ≠ keep.length || okCount frames ≠ keep.length then
    ({ j with fs := j.fs.remove .tmp }, false)
  else
    let (fs, moved) := if j.fs.fileExists .dat then j.fs.rename .dat .old else (j.fs, true)
    if !moved then ({ j with fs := fs.remove .tmp }, false)
    else
      match fs.rename .tmp .dat with
      | (fs, false) =>
        ({ j with fs := if fs.fileExists .old then (fs.rename .old .dat).1 else fs }, false)
      | (fs, true) =>
        ({ j with fs := fs.remove .old, index := j.index.rebuildAfterCompaction keep }, true)

/-- The write loop of `compact`. -/
def writeRecords (index : EventJournalIndex) (fs : Spiffs) : List Bytes → Spiffs × Bool
  | [] => (fs, true)
  | eventId :: rest =>
    match index.find eventId with
    | none => writeRecords index fs rest
    | some r =>
      match fs.appendJournalFrame .tmp (encodeJournalEvent r) with
      | (fs, false) => (fs, false)
      | (fs, true) => writeRecords index fs rest

/-- The write loop of `compact_tick`: `i` counts the ids, the cursor only moves
past a record that was written. -/
def writeChunk (index : EventJournalIndex) (fs : Spiffs) (i cursor : Nat) :
    List Bytes → Spiffs × Nat × Bool
  | [] => (fs, cursor, true)
  | eventId :: rest =>
    match index.find eventId with
    | none => writeChunk index fs (i + 1) cursor rest
    | some r =>
      match fs.appendJournalFrame .tmp (encodeJournalEvent r) with
      | (fs, false) => (fs, cursor, false)
      | (fs, true) => writeChunk index fs (i + 1) (i + 1) rest

def compactTick (j : EventJournal) : EventJournal :=
  if !j.compactionActive then j
  else
    let chunk := (j.compactionKeep.drop j.compactionWriteIndex).take kCompactionRecordsPerTick
    match writeChunk j.index j.fs j.compactionWriteIndex j.compactionWriteIndex chunk with
    | (fs, cursor, false) =>
      { j with
        fs := fs.remove .tmp
        compactionWriteIndex := cursor
        compactionActive := false
        compactionKeep := [] }
    | (fs, cursor, true) =>
      let j := { j with fs := fs, compactionWriteIndex := cursor }
      if cursor < j.compactionKeep.length then j
      else
        { (j.finishCompaction j.compactionKeep).1 with
          compactionActive := false
          compactionKeep := []
          compactionWriteIndex := 0 }

section Selecting
variable [StdSort]

def compact (j : EventJournal) (policy : CompactionPolicy) : EventJournal × Bool :=
  if !j.initOk then (j, false)
  else
    let keep := j.index.selectRecordsToKeep policy
    if keep.length = j.index.recordCount.toNat then (j, true)
    else
      match writeRecords j.index (j.fs.remove .tmp) keep with
      | (fs, false) => ({ j with fs := fs.remove .tmp }, false)
      | (fs, true) => { j with fs := fs }.finishCompaction keep

def beginCompaction (j : EventJournal) (policy : CompactionPolicy) : EventJournal × Bool :=
  if !j.initOk || j.compactionActive then (j, false)
  else
    let keep := j.index.selectRecordsToKeep policy
    if keep.length = j.index.recordCount.toNat then ({ j with compactionKeep := [] }, false)
    else
      ({ j with
         fs := j.fs.remove .tmp
         compactionKeep := keep
         compactionWriteIndex := 0
         compactionActive := true }, true)

end Selecting

end EventJournal

/-- The public operations of the journal. -/
inductive JournalCall where
  | appendEvent (record : JournalRecord)
  | appendTransition (transition : JournalTransition)
  | compact (policy : CompactionPolicy)
  | beginCompaction (policy : CompactionPolicy)
  | compactTick

namespace EventJournal
variable [StdSort]

def on (j : EventJournal) (medium : Medium) : EventJournal :=
  { j with fs := { j.fs with medium := medium } }

/-- One call, with what the medium does during it. -/
def call (j : EventJournal) (medium : Medium) : JournalCall → EventJournal × Bool
  | .appendEvent record => (j.on medium).appendEvent record
  | .appendTransition transition => (j.on medium).appendTransition transition
  | .compact policy => (j.on medium).compact policy
  | .beginCompaction policy => (j.on medium).beginCompaction policy
  | .compactTick => ((j.on medium).compactTick, true)

omit [StdSort] in
/-- The next boot, on a medium that works. -/
def reboot (j : EventJournal) : EventJournal := init { files := j.fs.files } j.index.capacityBytes

end EventJournal

end Kiosk.Storage
