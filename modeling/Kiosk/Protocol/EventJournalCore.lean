import Kiosk.Library.KeySearch

/-! `event_journal_core.cpp` and `crc32.h`: the on-disk frame and the scan. -/
namespace Kiosk.Protocol

open Library

def kJournalCommitMarker : UInt8 := 0xC3

/-- `4 + 4 + 1`: length, CRC and marker. -/
def kJournalFrameOverheadBytes : UInt32 := 9

def crcBit (crc : UInt32) : UInt32 :=
  let mask := 0 - (crc &&& 1)
  (crc >>> 1) ^^^ (0xEDB88320 &&& mask)

def crcByte (crc : UInt32) (byte : UInt8) : UInt32 :=
  (List.range 8).foldl (fun crc _ => crcBit crc) (crc ^^^ byte.toUInt32)

def crc32 (data : Bytes) : UInt32 := ~~~ (data.foldl crcByte 0xFFFFFFFF)

def writeU32Le (value : UInt32) : Bytes :=
  [value.toUInt8, (value >>> 8).toUInt8, (value >>> 16).toUInt8, (value >>> 24).toUInt8]

def readU32Le : Bytes → UInt32
  | [b0, b1, b2, b3] =>
    b0.toUInt32 ||| (b1.toUInt32 <<< 8) ||| (b2.toUInt32 <<< 16) ||| (b3.toUInt32 <<< 24)
  | _ => 0

inductive JournalFrameOutcome where
  | ok | incomplete | crcFail | badCommitMarker
  deriving DecidableEq, Repr

structure JournalScanFrame where
  offset : UInt32 := 0
  frameSize : UInt32 := 0
  bodyJson : Bytes := []
  outcome : JournalFrameOutcome := .ok
  deriving DecidableEq, Repr

/-- `read_exact`: the bytes and what is left, or `none` when the file runs out. -/
def readExact (file : Bytes) (len : Nat) : Option (Bytes × Bytes) :=
  if file.length < len then none else some (file.take len, file.drop len)

/-- What one round of the scan finds: a clean end, a frame that is not whole, or
a body and the rest of the file. -/
inductive FrameRead where
  | eof
  | bad (outcome : JournalFrameOutcome)
  | body (bytes rest : Bytes)
  deriving DecidableEq, Repr

def readFrame (file : Bytes) : FrameRead :=
  match readExact file 4 with
  | none => if file = [] then .eof else .bad .incomplete
  | some (lenBytes, file) =>
    let bodyLen := readU32Le lenBytes
    match readExact file bodyLen.toNat with
    | none => .bad .incomplete
    | some (body, file) =>
      match readExact file 4 with
      | none => .bad .incomplete
      | some (crcBytes, file) =>
        if readU32Le crcBytes ≠ crc32 body then .bad .crcFail
        else
          match readExact file 1 with
          | none => .bad .incomplete
          | some (marker, file) =>
            if marker ≠ [kJournalCommitMarker] then .bad .badCommitMarker else .body body file

/-- The loop of `scan_journal`, with the frames it hands to `on_frame`. -/
def scanLoop : Nat → UInt32 → Bytes → List JournalScanFrame
  | 0, _, _ => []
  | fuel + 1, offset, file =>
    match readFrame file with
    | .eof => []
    | .bad outcome => [{ offset := offset, outcome := outcome }]
    | .body body rest =>
      let frameSize := 4 + UInt32.ofNat body.length + 4 + 1
      { offset := offset, frameSize := frameSize, bodyJson := body, outcome := .ok } ::
        scanLoop fuel (offset + frameSize) rest

/-- Each frame takes at least nine bytes, so this fuel never runs out
(`scanLoop_fuel`). -/
def scanJournal (file : Bytes) : List JournalScanFrame := scanLoop (file.length + 1) 0 file

/-- The count `scan_journal` returns. -/
def okCount (frames : List JournalScanFrame) : Nat :=
  (frames.filter fun frame => frame.outcome = .ok).length

/-- The bytes `append_journal_frame` writes for a body. -/
def frameOf (body : Bytes) : Bytes :=
  writeU32Le (UInt32.ofNat body.length) ++ body ++ writeU32Le (crc32 body) ++ [kJournalCommitMarker]

private theorem getLsbD_byte (value shift : UInt32) (small : shift.toNat < 32) (inside : i < 32) :
    ((value >>> shift).toUInt8.toUInt32 <<< shift).toBitVec.getLsbD i =
      (decide (shift.toNat ≤ i) && (decide (i - shift.toNat < 8) && value.toBitVec.getLsbD i)) := by
  have same : (shift.toBitVec % 32).toNat = shift.toNat := by
    rw [BitVec.toNat_umod]
    exact Nat.mod_eq_of_lt small
  simp only [UInt32.toBitVec_shiftLeft, UInt8.toBitVec_toUInt32, UInt32.toBitVec_toUInt8,
    UInt32.toBitVec_shiftRight, BitVec.shiftLeft_eq', BitVec.ushiftRight_eq', same,
    BitVec.getLsbD_shiftLeft, BitVec.getLsbD_setWidth, BitVec.getLsbD_ushiftRight]
  by_cases low : shift.toNat ≤ i
  · have again : shift.toNat + (i - shift.toNat) = i := by omega
    have inner : i - shift.toNat < 32 := by omega
    have above : ¬ i < shift.toNat := by omega
    simp [low, again, inner, inside, above]
  · have below : i < shift.toNat := by omega
    simp [low, below]

theorem readU32Le_write (value : UInt32) : readU32Le (writeU32Le value) = value := by
  have first : value.toUInt8.toUInt32 = (value >>> 0).toUInt8.toUInt32 <<< 0 := by simp
  apply UInt32.toBitVec_inj.mp
  apply BitVec.eq_of_getLsbD_eq
  intro i inside
  rw [writeU32Le, readU32Le, first, UInt32.toBitVec_or, UInt32.toBitVec_or, UInt32.toBitVec_or,
    BitVec.getLsbD_or, BitVec.getLsbD_or, BitVec.getLsbD_or,
      getLsbD_byte value 0 (by decide) inside,
    getLsbD_byte value 8 (by decide) inside, getLsbD_byte value 16 (by decide) inside,
    getLsbD_byte value 24 (by decide) inside]
  cases value.toBitVec.getLsbD i with
  | false => simp
  | true => simp; omega

@[simp] theorem writeU32Le_length (value : UInt32) : (writeU32Le value).length = 4 := rfl

theorem frameOf_length (body : Bytes) : (frameOf body).length = body.length + 9 := by
  simp [frameOf]
  omega

/-! Reading a frame back, and reading less than a frame. -/

theorem readExact_append (data rest : Bytes) (exact : data.length = len) :
    readExact (data ++ rest) len = some (data, rest) := by
  subst len
  simp [readExact]

theorem readExact_some (read : readExact file len = some (data, rest)) :
    rest.length + len = file.length := by
  unfold readExact at read
  split at read
  · cases read
  · cases read
    simp
    omega

theorem readExact_length (read : readExact file len = some (data, rest)) : data.length = len := by
  unfold readExact at read
  split at read
  · cases read
  · cases read
    simp
    omega

theorem readExact_short (short : file.length < len) : readExact file len = none := by
  simp [readExact, short]

theorem readFrame_frameOf (small : body.length < 2 ^ 32) (rest : Bytes) :
    readFrame (frameOf body ++ rest) = .body body rest := by
  have bodyLen : (UInt32.ofNat body.length).toNat = body.length := by simpa using small
  have header := readExact_append (writeU32Le (UInt32.ofNat body.length))
    (body ++ (writeU32Le (crc32 body) ++ ([kJournalCommitMarker] ++ rest))) (writeU32Le_length _)
  have whole :=
    readExact_append body (writeU32Le (crc32 body) ++ ([kJournalCommitMarker] ++ rest)) rfl
  have crc := readExact_append (writeU32Le (crc32 body)) ([kJournalCommitMarker] ++ rest)
    (writeU32Le_length _)
  have marker :
      readExact ([kJournalCommitMarker] ++ rest) 1 = some ([kJournalCommitMarker], rest) :=
    readExact_append [kJournalCommitMarker] rest rfl
  simp only [readFrame, frameOf, List.append_assoc, header, readU32Le_write, bodyLen, whole,
    crc, marker]
  simp

/-- A strict, non-empty part of a frame is reported as incomplete. -/
theorem readFrame_torn (small : body.length < 2 ^ 32) (torn : tail <+: frameOf body)
    (nonempty : tail ≠ []) (strict : tail ≠ frameOf body) : readFrame tail = .bad .incomplete := by
  obtain ⟨missing, whole⟩ := torn
  have lost : missing ≠ [] := fun none => strict (by simpa [none] using whole)
  have sizes : tail.length + missing.length = body.length + 9 := by
    rw [← frameOf_length, ← whole, List.length_append]
  have positive : 0 < missing.length := List.length_pos_iff.mpr lost
  have spelled : tail ++ missing = writeU32Le (UInt32.ofNat body.length) ++
      (body ++ (writeU32Le (crc32 body) ++ [kJournalCommitMarker])) := by
    rw [whole, frameOf]; simp
  unfold readFrame
  by_cases header : tail.length < 4
  · simp [readExact_short header, nonempty]
  obtain ⟨afterLength, rfl⟩ : ∃ rest, tail = writeU32Le (UInt32.ofNat body.length) ++ rest := by
    have front := List.append_eq_append_iff.mp spelled
    rcases front with ⟨extra, early, _⟩ | ⟨rest, late, _⟩
    · have short : extra = [] := by
        have total := congrArg List.length early
        simp at total
        exact List.length_eq_zero_iff.mp (by omega)
      exact ⟨[], by simpa [short] using early.symm⟩
    · exact ⟨rest, late⟩
  rw [readExact_append _ _ (writeU32Le_length _)]
  have bodyLen : (UInt32.ofNat body.length).toNat = body.length := by simpa using small
  simp only [List.append_assoc, List.append_cancel_left_eq] at spelled
  simp only [List.length_append, writeU32Le_length] at sizes
  simp only [readU32Le_write, bodyLen]
  by_cases inBody : afterLength.length < body.length
  · simp [readExact_short inBody]
  obtain ⟨afterBody, rfl⟩ : ∃ rest, afterLength = body ++ rest := by
    rcases List.append_eq_append_iff.mp spelled with ⟨extra, early, _⟩ | ⟨rest, late, _⟩
    · have short : extra = [] := by
        have total := congrArg List.length early
        simp at total
        exact List.length_eq_zero_iff.mp (by omega)
      exact ⟨[], by simpa [short] using early.symm⟩
    · exact ⟨rest, late⟩
  rw [readExact_append body _ rfl]
  simp only [List.append_assoc, List.append_cancel_left_eq] at spelled
  simp only [List.length_append] at sizes
  by_cases inCrc : afterBody.length < 4
  · simp [readExact_short inCrc]
  · have only : afterBody.length = 4 := by omega
    have crc : afterBody = writeU32Le (crc32 body) :=
      List.append_inj_left spelled (by simp [only])
    subst crc
    have stored := readExact_append (writeU32Le (crc32 body)) [] (writeU32Le_length _)
    rw [List.append_nil] at stored
    have noMarker : readExact [] 1 = none := rfl
    simp only [stored, readU32Le_write, noMarker]
    simp

theorem readFrame_nil : readFrame [] = .eof := rfl

theorem readFrame_eof (read : readFrame file = .eof) : file = [] := by
  unfold readFrame at read
  grind

theorem readFrame_bad (read : readFrame file = .bad outcome) : outcome ≠ .ok := by
  unfold readFrame at read
  grind

/-- A frame that is read takes its body and nine bytes off the file. -/
theorem readFrame_size (read : readFrame file = .body body rest) :
    body.length + 9 + rest.length = file.length := by
  unfold readFrame at read
  split at read
  · split at read <;> cases read
  rename_i lenBytes afterLength header
  simp only at read
  split at read
  · cases read
  rename_i found afterBody whole
  split at read
  · cases read
  rename_i crcBytes afterCrc crc
  split at read
  · cases read
  split at read
  · cases read
  rename_i marker afterMarker commit
  split at read
  · cases read
  cases read
  have length := readExact_length whole
  have first := readExact_some header
  have second := readExact_some whole
  have third := readExact_some crc
  have fourth := readExact_some commit
  omega

theorem readFrame_consumes (read : readFrame file = .body body rest) :
    rest.length < file.length := by
  have size := readFrame_size read
  omega

/-! The scan of a log of whole frames followed by anything else. -/

def framesOf (bodies : List Bytes) : Bytes := bodies.flatMap frameOf

@[simp] theorem framesOf_nil : framesOf [] = [] := rfl

@[simp] theorem framesOf_cons (body : Bytes) (bodies : List Bytes) :
    framesOf (body :: bodies) = frameOf body ++ framesOf bodies := rfl

@[simp] theorem framesOf_append (first second : List Bytes) :
    framesOf (first ++ second) = framesOf first ++ framesOf second := by
  simp [framesOf]

/-- The size the scan and the index account for a frame. -/
def frameSizeOf (body : Bytes) : UInt32 := kJournalFrameOverheadBytes + UInt32.ofNat body.length

theorem scanned_size (body : Bytes) : 4 + UInt32.ofNat body.length + 4 + 1 = frameSizeOf body := by
  rw [frameSizeOf, kJournalFrameOverheadBytes, UInt32.add_assoc, UInt32.add_assoc,
    UInt32.add_comm 4, UInt32.add_assoc, UInt32.add_comm]
  rfl

/-- The reports for whole frames. -/
def okFrames : UInt32 → List Bytes → List JournalScanFrame
  | _, [] => []
  | offset, body :: bodies =>
    { offset := offset, frameSize := frameSizeOf body, bodyJson := body, outcome := .ok } ::
      okFrames (offset + frameSizeOf body) bodies

def offsetAfter (offset : UInt32) (bodies : List Bytes) : UInt32 :=
  bodies.foldl (fun offset body => offset + frameSizeOf body) offset

/-- More fuel than bytes changes nothing. -/
theorem scanLoop_fuel (file : Bytes) (offset : UInt32) (enough : file.length < fuel) :
    scanLoop fuel offset file = scanLoop (file.length + 1) offset file := by
  induction fuel using Nat.strong_induction_on generalizing file offset with
  | _ fuel ih =>
    cases fuel with
    | zero => omega
    | succ fuel =>
      rw [scanLoop, scanLoop]
      cases read : readFrame file with
      | eof => rfl
      | bad outcome => rfl
      | body body rest =>
        have consumed := readFrame_consumes read
        simp only
        by_cases same : fuel = file.length
        · rw [same]
        · rw [ih fuel (by omega) rest _ (by omega), ih file.length (by omega) rest _ (by omega)]

theorem scanLoop_frames (small : ∀ body ∈ bodies, body.length < 2 ^ 32) (tail : Bytes)
    (offset : UInt32) :
    scanLoop ((framesOf bodies ++ tail).length + 1) offset (framesOf bodies ++ tail) =
      okFrames offset bodies ++ scanLoop (tail.length + 1) (offsetAfter offset bodies) tail := by
  induction bodies generalizing offset with
  | nil => rfl
  | cons body bodies ih =>
    have head := small body (by simp)
    have read :
        readFrame (framesOf (body :: bodies) ++ tail) = .body body (framesOf bodies ++ tail) := by
      rw [framesOf_cons, List.append_assoc]
      exact readFrame_frameOf head _
    have shorter : (framesOf bodies ++ tail).length < (framesOf (body :: bodies) ++ tail).length :=
      readFrame_consumes read
    rw [scanLoop, read]
    simp only [scanned_size]
    rw [scanLoop_fuel _ _ shorter, ih (fun other member => small other (by simp [member]))]
    rfl

theorem scanJournal_frames (small : ∀ body ∈ bodies, body.length < 2 ^ 32) (tail : Bytes) :
    scanJournal (framesOf bodies ++ tail) =
      okFrames 0 bodies ++ scanLoop (tail.length + 1) (offsetAfter 0 bodies) tail :=
  scanLoop_frames small tail 0

theorem okFrames_ok (member : frame ∈ okFrames offset bodies) : frame.outcome = .ok := by
  induction bodies generalizing offset with
  | nil => simp [okFrames] at member
  | cons body bodies ih =>
    rcases List.mem_cons.mp member with rfl | later
    · rfl
    · exact ih later

theorem okFrames_length (offset : UInt32) (bodies : List Bytes) :
    (okFrames offset bodies).length = bodies.length := by
  induction bodies generalizing offset with
  | nil => rfl
  | cons body bodies ih => simp [okFrames, ih]

end Kiosk.Protocol
