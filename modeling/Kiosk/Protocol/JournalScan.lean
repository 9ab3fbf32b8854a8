import Kiosk.Library.ShiftRegister
import Kiosk.Protocol.EventJournalCore

/-! What `scan_journal` makes of a log that was cut, of a length it cannot trust, and
of a body that changed under its CRC. -/
namespace Kiosk.Protocol

open Library

/-! A cut log. -/

/-- The bodies whose whole frame lies within the first `length` bytes. -/
def wholeWithin : Nat → List Bytes → List Bytes
  | _, [] => []
  | length, body :: bodies =>
    if (frameOf body).length ≤ length
      then body :: wholeWithin (length - (frameOf body).length) bodies else []

/-- The cut falls strictly inside a frame. -/
def CutInside (length : Nat) (bodies : List Bytes) : Prop :=
  ∃ front body back, bodies = front ++ body :: back ∧
    (framesOf front).length < length ∧ length < (framesOf (front ++ [body])).length

theorem cutInside_cons (length : Nat) (body : Bytes) (bodies : List Bytes) :
    CutInside length (body :: bodies) ↔ (0 < length ∧ length < (frameOf body).length) ∨
      ((frameOf body).length ≤ length ∧ CutInside (length - (frameOf body).length) bodies) := by
  constructor
  · rintro ⟨front, torn, back, spelled, after, before⟩
    cases front with
    | nil =>
      obtain ⟨rfl, rfl⟩ := List.cons.inj spelled
      left
      simp only [framesOf_nil, List.length_nil, List.nil_append, framesOf_cons,
        List.append_nil] at after before
      exact ⟨after, before⟩
    | cons first front =>
      obtain ⟨rfl, rfl⟩ := List.cons.inj spelled
      simp only [framesOf_cons, List.cons_append, List.length_append] at after before
      right
      refine ⟨by omega, front, torn, back, rfl, by omega, by omega⟩
  · rintro (⟨after, before⟩ | ⟨whole, front, torn, back, rfl, after, before⟩)
    · exact ⟨[], body, bodies, rfl, by simpa using after, by simpa using before⟩
    · refine ⟨body :: front, torn, back, rfl, ?_, ?_⟩
      · simp only [framesOf_cons, List.length_append]
        omega
      · simp only [framesOf_cons, List.cons_append, List.length_append]
        omega

theorem not_cutInside_nil (length : Nat) : ¬ CutInside length [] := by
  rintro ⟨front, body, back, spelled, _⟩
  simp at spelled

theorem wholeWithin_start (length : Nat) (bodies : List Bytes) :
    wholeWithin length bodies <+: bodies := by
  induction bodies generalizing length with
  | nil => exact List.nil_prefix
  | cons body bodies ih =>
    rw [wholeWithin]
    split
    · exact List.cons_prefix_cons.mpr ⟨rfl, ih _⟩
    · exact List.nil_prefix

/-- An initial run of the bodies is kept exactly when its frames fit. -/
theorem start_wholeWithin_iff (length : Nat) (front : List Bytes) (start : front <+: bodies) :
    front <+: wholeWithin length bodies ↔ (framesOf front).length ≤ length := by
  induction bodies generalizing length front with
  | nil =>
    obtain rfl := List.prefix_nil.mp start
    simp
  | cons body bodies ih =>
    cases front with
    | nil => simp
    | cons first front =>
      obtain ⟨rfl, others⟩ := List.cons_prefix_cons.mp start
      simp only [wholeWithin, framesOf_cons, List.length_append]
      split
      · rename_i fits
        rw [List.cons_prefix_cons, ih _ front others]
        constructor
        · rintro ⟨_, rest⟩; omega
        · intro total; exact ⟨rfl, by omega⟩
      · rename_i large
        constructor
        · intro kept; simp at kept
        · intro total; omega

/-- What the cut leaves: the whole frames, then nothing or a strict part of the next frame. -/
theorem take_framesOf (length : Nat) (bodies : List Bytes) :
    ∃ torn, (framesOf bodies).take length = framesOf (wholeWithin length bodies) ++ torn ∧
      ((torn = [] ∧ ¬ CutInside length bodies) ∨
        (torn ≠ [] ∧ CutInside length bodies ∧ ∃ body ∈ bodies,
          torn <+: frameOf body ∧ torn ≠ frameOf body)) := by
  induction bodies generalizing length with
  | nil => exact ⟨[], by simp [wholeWithin], .inl ⟨rfl, not_cutInside_nil length⟩⟩
  | cons body bodies ih =>
    rw [cutInside_cons]
    simp only [wholeWithin]
    by_cases fits : (frameOf body).length ≤ length
    · obtain ⟨torn, left, tail⟩ := ih (length - (frameOf body).length)
      rw [if_pos fits]
      refine ⟨torn, ?_, ?_⟩
      · rw [framesOf_cons, List.take_append, List.take_of_length_le fits, left, framesOf_cons,
          List.append_assoc]
      · rcases tail with ⟨clean, outside⟩ | ⟨nonempty, inside, other, member, part⟩
        · left
          refine ⟨clean, ?_⟩
          rintro (⟨_, before⟩ | ⟨_, inside⟩)
          · omega
          · exact outside inside
        · right
          exact ⟨nonempty, .inr ⟨fits, inside⟩, other, List.mem_cons_of_mem _ member, part⟩
    · rw [if_neg fits]
      have before : length < (frameOf body).length := by omega
      refine ⟨(frameOf body).take length, ?_, ?_⟩
      · rw [framesOf_cons, List.take_append_of_le_length (by omega)]
        rfl
      · by_cases empty : length = 0
        · left
          subst length
          refine ⟨rfl, ?_⟩
          rintro (⟨after, _⟩ | ⟨whole, _⟩)
          · omega
          · exact fits whole
        · right
          refine ⟨?_, .inl ⟨by omega, before⟩, body, by simp, List.take_prefix _ _, ?_⟩
          · intro none
            have size := congrArg List.length none
            simp only [List.length_take, List.length_nil] at size
            omega
          · intro whole
            have size := congrArg List.length whole
            simp only [List.length_take] at size
            omega

/-- The reports of whole frames laid out from a byte position on. -/
def reportsFrom : Nat → List Bytes → List JournalScanFrame
  | _, [] => []
  | position, body :: bodies =>
    { offset := .ofNat position, frameSize := .ofNat (frameOf body).length, bodyJson := body,
      outcome := .ok } ::
      reportsFrom (position + (frameOf body).length) bodies

private theorem reportsFrom_append (position : Nat) (first second : List Bytes) :
    reportsFrom position (first ++ second) =
      reportsFrom position first ++ reportsFrom (position + (framesOf first).length) second := by
  induction first generalizing position with
  | nil => rfl
  | cons body first ih =>
    simp only [List.cons_append, reportsFrom, ih, framesOf_cons, List.length_append, Nat.add_assoc]

private theorem frameSizeOf_eq (body : Bytes) :
    frameSizeOf body = .ofNat (frameOf body).length := by
  rw [frameOf_length, frameSizeOf, kJournalFrameOverheadBytes, UInt32.ofNat_add, UInt32.add_comm]
  rfl

theorem okFrames_reports (position : Nat) (bodies : List Bytes) :
    okFrames (.ofNat position) bodies = reportsFrom position bodies := by
  induction bodies generalizing position with
  | nil => rfl
  | cons body bodies ih =>
    rw [okFrames, reportsFrom, frameSizeOf_eq, ← UInt32.ofNat_add, ih]

private theorem offsetAfter_eq (position : Nat) (bodies : List Bytes) :
    offsetAfter (.ofNat position) bodies = .ofNat (position + (framesOf bodies).length) := by
  induction bodies generalizing position with
  | nil => rfl
  | cons body bodies ih =>
    have next : offsetAfter (.ofNat position) (body :: bodies) =
        offsetAfter (.ofNat position + frameSizeOf body) bodies :=
      rfl
    rw [next, frameSizeOf_eq, ← UInt32.ofNat_add, ih, framesOf_cons, List.length_append,
      Nat.add_assoc]

/-- Each report names the bytes of its frame. -/
theorem reports_slice (front : Bytes) (bodies : List Bytes)
    (small : front.length + (framesOf bodies).length < 2 ^ 32)
    (member : frame ∈ reportsFrom front.length bodies) :
    ((front ++ framesOf bodies).drop frame.offset.toNat).take frame.frameSize.toNat =
      frameOf frame.bodyJson := by
  induction bodies generalizing front with
  | nil => simp [reportsFrom] at member
  | cons body bodies ih =>
    rw [framesOf_cons, List.length_append] at small
    rcases List.mem_cons.mp member with rfl | later
    · have offset : (UInt32.ofNat front.length).toNat = front.length :=
        UInt32.toNat_ofNat_of_lt' (show _ < 2 ^ 32 by omega)
      have size : (UInt32.ofNat (frameOf body).length).toNat = (frameOf body).length :=
        UInt32.toNat_ofNat_of_lt' (show _ < 2 ^ 32 by omega)
      simp only [offset, size, framesOf_cons, List.drop_left, List.take_left]
    · have moved := ih (front ++ frameOf body) (by rw [List.length_append]; omega)
        (by rw [List.length_append]; exact later)
      rwa [List.append_assoc] at moved

theorem okCount_okFrames (offset : UInt32) (bodies : List Bytes) :
    okCount (okFrames offset bodies) = bodies.length := by
  have all : (okFrames offset bodies).filter (fun frame => frame.outcome = .ok) =
      okFrames offset bodies := by
    rw [List.filter_eq_self]
    intro frame member
    simpa using okFrames_ok member
  rw [okCount, all, okFrames_length]

/-- What the scan of a log reports when the file is cut after `length` bytes. -/
structure CutScan (bodies : List Bytes) (length : Nat) : Prop where
  /-- The bodies reported are those whose whole frame was left. -/
  kept : ∀ front, front <+: bodies →
    (front <+: wholeWithin length bodies ↔ (framesOf front).length ≤ length)
  inside : CutInside length bodies → scanJournal ((framesOf bodies).take length) =
    reportsFrom 0 (wholeWithin length bodies) ++
      [{ offset := .ofNat (framesOf (wholeWithin length bodies)).length, outcome := .incomplete }]
  between : ¬ CutInside length bodies →
    scanJournal ((framesOf bodies).take length) = reportsFrom 0 (wholeWithin length bodies)
  count : okCount (scanJournal ((framesOf bodies).take length)) = (wholeWithin length bodies).length
  terminates : ∀ fuel, ((framesOf bodies).take length).length < fuel →
    scanLoop fuel 0 ((framesOf bodies).take length) = scanJournal ((framesOf bodies).take length)
  /-- While the file's size fits in `JournalFile::size`, offset and size are those of the frame. -/
  slices : (framesOf bodies).length < 2 ^ 32 → ∀ frame ∈ reportsFrom 0 (wholeWithin length bodies),
    ((framesOf bodies).drop frame.offset.toNat).take frame.frameSize.toNat = frameOf frame.bodyJson

private theorem okCount_torn (frames : List JournalScanFrame) (offset : UInt32) :
    okCount (frames ++ [{ offset := offset, outcome := .incomplete }]) = okCount frames := by
  simp [okCount]

private theorem reports_within (bodies : List Bytes) (length : Nat)
    (fits : (framesOf bodies).length < 2 ^ 32)
    (member : frame ∈ reportsFrom 0 (wholeWithin length bodies)) :
    ((framesOf bodies).drop frame.offset.toNat).take frame.frameSize.toNat =
      frameOf frame.bodyJson := by
  obtain ⟨others, split⟩ := wholeWithin_start length bodies
  have all : frame ∈ reportsFrom 0 bodies := by
    rw [← split, reportsFrom_append]
    exact List.mem_append_left _ member
  exact reports_slice [] bodies (by simpa using fits) all

/-- Cut after any number of bytes, a log is scanned as its whole frames, and one
incomplete frame exactly when the cut is inside a frame. -/
theorem scan_of_cut (bodies : List Bytes) (length : Nat)
    (small : ∀ body ∈ bodies, body.length < 2 ^ 32) :
    CutScan bodies length := by
  obtain ⟨torn, left, tail⟩ := take_framesOf length bodies
  have kept : ∀ body ∈ wholeWithin length bodies, body.length < 2 ^ 32 := fun body member =>
    small body ((wholeWithin_start length bodies).subset member)
  have scanned := scanJournal_frames kept torn
  rw [← left, show (0 : UInt32) = .ofNat 0 from rfl, offsetAfter_eq, okFrames_reports,
    Nat.zero_add] at scanned
  have reported :
      okCount (reportsFrom 0 (wholeWithin length bodies)) = (wholeWithin length bodies).length := by
    rw [← okFrames_reports]
    exact okCount_okFrames _ _
  have ended : (¬ CutInside length bodies ∧ scanJournal ((framesOf bodies).take length) =
        reportsFrom 0 (wholeWithin length bodies)) ∨
      (CutInside length bodies ∧ scanJournal ((framesOf bodies).take length) =
        reportsFrom 0 (wholeWithin length bodies) ++
          [{ offset := .ofNat (framesOf (wholeWithin length bodies)).length
             outcome := .incomplete }]) := by
    rcases tail with ⟨rfl, outside⟩ | ⟨nonempty, inside, body, member, part, strict⟩
    · left
      refine ⟨outside, ?_⟩
      rw [scanned]
      simp [scanLoop, readFrame_nil]
    · right
      refine ⟨inside, ?_⟩
      rw [scanned, scanLoop, readFrame_torn (small body member) part nonempty strict]
  constructor
  · exact fun front start => start_wholeWithin_iff length front start
  · intro inside
    rcases ended with ⟨outside, _⟩ | ⟨_, same⟩
    · exact absurd inside outside
    · exact same
  · intro outside
    rcases ended with ⟨_, same⟩ | ⟨inside, _⟩
    · exact same
    · exact absurd inside outside
  · rcases ended with ⟨_, same⟩ | ⟨_, same⟩
    · rw [same, reported]
    · rw [same, okCount_torn, reported]
  · exact fun fuel enough => scanLoop_fuel _ 0 enough
  · exact fun fits frame member => reports_within bodies length fits member

/-- Twelve bytes of two frames, the second cut after two bytes of its length. -/
theorem scan_of_cut_second :
    CutInside 12 [[65], [66, 67]] ∧ CutScan [[65], [66, 67]] 12 := by
  have small : ∀ body ∈ ([[65], [66, 67]] : List Bytes), body.length < 2 ^ 32 := by decide
  exact ⟨⟨[[65]], [66, 67], [], rfl, by decide +kernel, by decide +kernel⟩, scan_of_cut _ _ small⟩

/-! The buffers of a scan. Each round calls `body.resize(body_len)` as soon as it has
the length field, before it knows whether that many bytes follow. -/

structure BodyBuffer where
  size : Nat
  /-- The bytes of the file behind the length field. -/
  remaining : Nat
  deriving DecidableEq, Repr

def bodyBuffer (file : Bytes) : Option BodyBuffer :=
  (readExact file 4).map fun (lenBytes, rest) =>
    { size := (readU32Le lenBytes).toNat, remaining := rest.length }

/-- The loop of `scan_journal` again, with the buffers it sizes. -/
def bufferLoop : Nat → Bytes → List BodyBuffer
  | 0, _ => []
  | fuel + 1, file =>
    (bodyBuffer file).toList ++
      match readFrame file with
      | .body _ rest => bufferLoop fuel rest
      | _ => []

def scanBuffers (file : Bytes) : List BodyBuffer := bufferLoop (file.length + 1) file

/-- No buffer is larger than what is left of the file. -/
def BoundedBuffers (file : Bytes) : Prop :=
  ∀ buffer ∈ scanBuffers file, buffer.size ≤ buffer.remaining

instance (file : Bytes) : Decidable (BoundedBuffers file) := by
  unfold BoundedBuffers
  infer_instance

/-- No committed frame stands at the start. -/
def StartsNoFrame (tail : Bytes) : Prop :=
  ∀ body rest, body.length < 2 ^ 32 → tail ≠ frameOf body ++ rest

/-- The length field at the start, when there is one, is at most the bytes behind it. -/
def HonestLength (tail : Bytes) : Prop :=
  tail.length < 4 ∨ (readU32Le (tail.take 4)).toNat ≤ tail.length - 4

theorem bufferLoop_fuel (file : Bytes) (enough : file.length < fuel) :
    bufferLoop fuel file = bufferLoop (file.length + 1) file := by
  induction fuel using Nat.strong_induction_on generalizing file with
  | _ fuel ih =>
    cases fuel with
    | zero => omega
    | succ fuel =>
      rw [bufferLoop, bufferLoop]
      cases read : readFrame file with
      | eof => rfl
      | bad outcome => rfl
      | body body rest =>
        have consumed := readFrame_consumes read
        simp only
        by_cases same : fuel = file.length
        · rw [same]
        · rw [ih fuel (by omega) rest (by omega), ih file.length (by omega) rest (by omega)]

private theorem toUInt8_eq {value : UInt32} {byte : UInt8}
    (same : ∀ i, i < 8 → value.toBitVec.getLsbD i = byte.toBitVec.getLsbD i) :
    value.toUInt8 = byte := by
  apply UInt8.toBitVec_inj.mp
  apply BitVec.eq_of_getLsbD_eq
  intro i inside
  have bit := same i inside
  simpa [inside] using bit

theorem writeU32Le_read {bytes : Bytes} (four : bytes.length = 4) :
    writeU32Le (readU32Le bytes) = bytes := by
  obtain ⟨b0, b1, b2, b3, rfl⟩ := List.length_eq_four.mp four
  have high :
      ∀ (byte : UInt8) (i : Nat), 8 ≤ i → byte.toBitVec.getLsbD i = false := fun byte i above =>
    BitVec.getLsbD_of_ge _ _ above
  simp only [writeU32Le, readU32Le, List.cons.injEq, and_true]
  refine ⟨?_, ?_, ?_, ?_⟩
  · apply toUInt8_eq
    intro i inside
    have within : i < 16 ∧ i < 24 ∧ i < 32 := by omega
    simp [inside, within]
  · apply toUInt8_eq
    intro i inside
    have within : 8 + i < 16 ∧ 8 + i < 24 ∧ 8 + i < 32 := by omega
    simp [inside, within]
  · apply toUInt8_eq
    intro i inside
    have within : 16 + i < 24 ∧ 16 + i < 32 := by omega
    simp [inside, within, high b0 (16 + i) (by omega), high b1 (16 + i - 8) (by omega)]
  · apply toUInt8_eq
    intro i inside
    have within : 24 + i < 32 := by omega
    simp [inside, within, high b0 (24 + i) (by omega), high b1 (24 + i - 8) (by omega),
      high b2 (24 + i - 16) (by omega)]

theorem readExact_spelled (read : readExact file len = some (data, rest)) :
    file = data ++ rest := by
  unfold readExact at read
  split at read
  · cases read
  · cases read
    exact (List.take_append_drop len file).symm

/-- A body that is read stood in a committed frame. -/
theorem readFrame_frame (read : readFrame file = .body body rest) :
    file = frameOf body ++ rest ∧ body.length < 2 ^ 32 := by
  unfold readFrame at read
  split at read
  · split at read <;> cases read
  rename_i lenBytes afterLength header
  simp only at read
  split at read
  · cases read
  rename_i found afterBody whole
  split at read
  · cases read
  rename_i crcBytes afterCrc crc
  split at read
  · cases read
  rename_i crcMatches
  split at read
  · cases read
  rename_i marker afterMarker commit
  split at read
  · cases read
  rename_i committed
  cases read
  have length := readExact_length whole
  have small : body.length < 2 ^ 32 := by rw [length]; exact (readU32Le lenBytes).toNat_lt
  have lengthField : lenBytes = writeU32Le (UInt32.ofNat body.length) := by
    rw [length, UInt32.ofNat_toNat, writeU32Le_read (readExact_length header)]
  have crcField : crcBytes = writeU32Le (crc32 body) := by
    rw [← not_ne_iff.mp crcMatches, writeU32Le_read (readExact_length crc)]
  refine ⟨?_, small⟩
  rw [readExact_spelled header, readExact_spelled whole, readExact_spelled crc,
    readExact_spelled commit, frameOf, ← lengthField, ← crcField, ← not_ne_iff.mp committed]
  simp only [List.append_assoc]

/-- The buffer of a committed frame is the frame's own body. -/
theorem boundedBuffers_frame (small : body.length < 2 ^ 32) (rest : Bytes) :
    BoundedBuffers (frameOf body ++ rest) ↔ BoundedBuffers rest := by
  have read := readFrame_frameOf small rest
  have shorter : rest.length < (frameOf body ++ rest).length := readFrame_consumes read
  have sized : bodyBuffer (frameOf body ++ rest) =
      some { size := body.length, remaining := body.length + 5 + rest.length } := by
    have spelled : frameOf body ++ rest = writeU32Le (UInt32.ofNat body.length) ++
        (body ++ (writeU32Le (crc32 body) ++ ([kJournalCommitMarker] ++ rest))) := by
      simp only [frameOf, List.append_assoc]
    have bodyLen : (UInt32.ofNat body.length).toNat = body.length := by simpa using small
    rw [bodyBuffer, spelled, readExact_append _ _ (writeU32Le_length _)]
    simp only [Option.map_some, readU32Le_write, bodyLen, List.length_append, writeU32Le_length,
      List.length_singleton]
    congr 2
    omega
  have loop : scanBuffers (frameOf body ++ rest) =
      { size := body.length, remaining := body.length + 5 + rest.length } :: scanBuffers rest := by
    rw [scanBuffers, bufferLoop, read, sized]
    simp only [bufferLoop_fuel rest shorter]
    rfl
  rw [BoundedBuffers, loop, List.forall_mem_cons]
  constructor
  · rintro ⟨_, bounded⟩
    exact bounded
  · intro bounded
    exact ⟨by simp only; omega, bounded⟩

/-- Where no frame starts, the scan sizes its last buffer from whatever four bytes it finds. -/
theorem boundedBuffers_tail (tail : Bytes) (noFrame : StartsNoFrame tail) :
    BoundedBuffers tail ↔ HonestLength tail := by
  have loop : scanBuffers tail = (bodyBuffer tail).toList := by
    rw [scanBuffers, bufferLoop]
    cases read : readFrame tail with
    | eof => simp
    | bad outcome => simp
    | body body rest =>
      obtain ⟨spelled, small⟩ := readFrame_frame read
      exact absurd spelled (noFrame body rest small)
  rw [BoundedBuffers, loop, HonestLength, bodyBuffer, readExact]
  by_cases short : tail.length < 4
  · simp [short]
  · simp [short]

private theorem splits_frames (file : Bytes) :
    ∃ bodies tail,
      (∀ body ∈ bodies, body.length < 2 ^ 32) ∧ file = framesOf bodies ++ tail ∧
      StartsNoFrame tail := by
  induction bound : file.length using Nat.strong_induction_on generalizing file with
  | _ size ih =>
    by_cases starts : StartsNoFrame file
    · exact ⟨[], file, by simp, rfl, starts⟩
    · simp only [StartsNoFrame, not_forall, not_not] at starts
      obtain ⟨body, rest, small, rfl⟩ := starts
      have shorter : rest.length < size := by
        rw [← bound, List.length_append, frameOf_length]
        omega
      obtain ⟨bodies, tail, smalls, rfl, noFrame⟩ := ih rest.length shorter rest rfl
      refine ⟨body :: bodies, tail, ?_, ?_, noFrame⟩
      · exact List.forall_mem_cons.mpr ⟨small, smalls⟩
      · rw [framesOf_cons, List.append_assoc]

private theorem boundedBuffers_frames (bodies : List Bytes)
    (small : ∀ body ∈ bodies, body.length < 2 ^ 32)
    (tail : Bytes) : BoundedBuffers (framesOf bodies ++ tail) ↔ BoundedBuffers tail := by
  induction bodies with
  | nil => rfl
  | cons body bodies ih =>
    rw [framesOf_cons, List.append_assoc, boundedBuffers_frame (small body (by simp))]
    exact ih fun other member => small other (by simp [member])

/-- Any file is a run of committed frames and a tail that starts with none. Its scan
ends, and sizes every buffer within the file exactly when the tail's length is honest. -/
theorem boundedBuffers_iff (file : Bytes) :
    (∀ fuel, file.length < fuel →
      scanLoop fuel 0 file = scanJournal file ∧ bufferLoop fuel file = scanBuffers file) ∧
    ∃ bodies tail, (∀ body ∈ bodies, body.length < 2 ^ 32) ∧ file = framesOf bodies ++ tail ∧
      StartsNoFrame tail ∧ (BoundedBuffers file ↔ HonestLength tail) := by
  constructor
  · intro fuel enough
    exact ⟨scanLoop_fuel file 0 enough, bufferLoop_fuel file enough⟩
  · obtain ⟨bodies, tail, small, rfl, noFrame⟩ := splits_frames file
    refine ⟨bodies, tail, small, rfl, noFrame, ?_⟩
    rw [boundedBuffers_frames bodies small, boundedBuffers_tail tail noFrame]

/-- Where a frame should start, the text of a record: `{"k"` is read as a length. -/
def tornTail : Bytes := [123, 34, 107, 34, 58, 34, 69, 34]

theorem tornTail_unbounded :
    scanBuffers tornTail = [{ size := 577446523, remaining := 4 }] ∧ ¬ BoundedBuffers tornTail := by
  decide +kernel

/-! A body altered under its stored CRC. The loop of `crc32` is the shift register of
the reversed polynomial, fed the body's bits. -/

/-- The bits of a byte, the least significant first. -/
def byteBits (byte : UInt8) : List Bool := (List.range 8).map byte.toBitVec.getLsbD

def bitsOf (body : Bytes) : List Bool := body.flatMap byteBits

def crcPolynomial : BitVec 32 := 0xEDB88320

/-- `altered` is not `body`, and differs from it within 32 consecutive bits only. -/
structure Burst (body altered : Bytes) (start : Nat) : Prop where
  length : altered.length = body.length
  changed : altered ≠ body
  window : ∀ i, (bitsOf body)[i]? ≠ (bitsOf altered)[i]? → start ≤ i ∧ i < start + 32

theorem crcBit_shift (crc : UInt32) :
    (crcBit crc).toBitVec = ShiftRegister.shift crcPolynomial crc.toBitVec := by
  have low :
      (crc &&& 1).toBitVec = BitVec.setWidth 32 (BitVec.ofBool (crc.toBitVec.getLsbD 0)) := by
    rw [UInt32.toBitVec_and]
    exact BitVec.and_one_eq_setWidth_ofBool_getLsbD
  cases bit : crc.toBitVec.getLsbD 0 with
  | false =>
    have clear : crc &&& 1 = 0 := UInt32.toBitVec_inj.mp (by rw [low, bit]; decide)
    rw [crcBit, clear, ShiftRegister.shift, if_neg (by rw [bit]; decide)]
    simp
  | true =>
    have set : crc &&& 1 = 1 := UInt32.toBitVec_inj.mp (by rw [low, bit]; decide)
    rw [crcBit, set, ShiftRegister.shift, if_pos bit]
    simp [crcPolynomial]

theorem crcByte_feeds (crc : UInt32) (byte : UInt8) :
    (crcByte crc byte).toBitVec =
      ShiftRegister.feeds crcPolynomial crc.toBitVec (byteBits byte) := by
  have steps : ∀ count crc, ((List.range count).foldl (fun crc _ => crcBit crc) crc).toBitVec =
      (ShiftRegister.shift crcPolynomial)^[count] crc.toBitVec := by
    intro count
    induction count with
    | zero => intro crc; rfl
    | succ count ih =>
      intro crc
      rw [List.range_succ, List.foldl_append, Function.iterate_succ_apply', ← ih]
      exact crcBit_shift _
  have wide : byte.toUInt32.toBitVec = ShiftRegister.word (byteBits byte) := by
    apply BitVec.eq_of_getLsbD_eq
    intro i inside
    rw [ShiftRegister.getLsbD_word, UInt8.toBitVec_toUInt32, BitVec.getLsbD_setWidth, byteBits]
    by_cases low : i < 8
    · simp [low]
    · have past : byte.toBitVec.getLsbD i = false := BitVec.getLsbD_of_ge _ _ (by omega)
      simp [low, past]
  rw [crcByte, steps, UInt32.toBitVec_xor, wide, ShiftRegister.feeds_word _ _ (by simp [byteBits])]
  simp [byteBits]

theorem crc32_feeds (body : Bytes) :
    (~~~ crc32 body).toBitVec = ShiftRegister.feeds crcPolynomial 0xFFFFFFFF (bitsOf body) := by
  have bytes : ∀ crc : UInt32, (body.foldl crcByte crc).toBitVec =
      ShiftRegister.feeds crcPolynomial crc.toBitVec (bitsOf body) := by
    induction body with
    | nil => intro crc; rfl
    | cons byte rest ih =>
      intro crc
      have split : bitsOf (byte :: rest) = byteBits byte ++ bitsOf rest := rfl
      rw [List.foldl_cons, ih, crcByte_feeds, split]
      exact List.foldl_append.symm
  rw [crc32, UInt32.not_not, bytes]
  rfl

theorem byteBits_inj (same : byteBits first = byteBits second) : first = second := by
  apply UInt8.toBitVec_inj.mp
  apply BitVec.eq_of_getLsbD_eq
  intro i inside
  have bit := congrArg (·[i]?) same
  simpa [byteBits, inside] using bit

theorem bitsOf_inj (length : first.length = second.length) (same : bitsOf first = bitsOf second) :
    first = second := by
  induction first generalizing second with
  | nil => exact (List.length_eq_zero_iff.mp length.symm).symm
  | cons byte first ih =>
    cases second with
    | nil => simp at length
    | cons other second =>
      have split : byteBits byte ++ bitsOf first = byteBits other ++ bitsOf second := same
      obtain ⟨head, tail⟩ := List.append_inj split (by simp [byteBits])
      rw [byteBits_inj head, ih (by simpa using length) tail]

theorem length_bitsOf (body : Bytes) : (bitsOf body).length = 8 * body.length := by
  induction body with
  | nil => rfl
  | cons byte rest ih =>
    rw [bitsOf, List.flatMap_cons, List.length_append, byteBits, List.length_map, List.length_range,
      List.length_cons]
    rw [bitsOf] at ih
    omega

/-- No burst leaves the CRC what it was. -/
theorem crc32_burst (burst : Burst body altered start) : crc32 altered ≠ crc32 body := by
  have sizes : (bitsOf body).length = (bitsOf altered).length := by
    rw [length_bitsOf, length_bitsOf, burst.length]
  let pairs := (bitsOf body).zip (bitsOf altered)
  have firsts : pairs.map (·.1) = bitsOf body := List.map_fst_zip (by omega)
  have seconds : pairs.map (·.2) = bitsOf altered := List.map_snd_zip (by omega)
  have window : ∀ i pair, pairs[i]? = some pair → pair.1 ≠ pair.2 → start ≤ i ∧ i < start + 32 := by
    intro i pair found unequal
    apply burst.window
    rw [← firsts, ← seconds, List.getElem?_map, List.getElem?_map, found]
    simpa using unequal
  have differ : ∃ pair ∈ pairs, pair.1 ≠ pair.2 := by
    by_contra none
    simp only [not_exists, not_and, not_not] at none
    apply burst.changed
    apply bitsOf_inj burst.length
    rw [← firsts, ← seconds]
    exact List.map_congr_left fun pair member => (none pair member).symm
  have top : crcPolynomial.getLsbD (32 - 1) = true := by decide
  have unequal := ShiftRegister.feeds_ne_of_burst (by decide) top 0xFFFFFFFF window differ
  rw [firsts, seconds, ← crc32_feeds, ← crc32_feeds] at unequal
  intro same
  exact unequal (by rw [same])

/-- A committed frame whose body has been altered in a burst is reported as a CRC
failure where it starts, and the scan goes no further. -/
theorem scan_of_burst (front : List Bytes) (rest : Bytes)
    (small : ∀ body ∈ front, body.length < 2 ^ 32)
    (short : body.length < 2 ^ 32) (burst : Burst body altered start) :
    scanJournal (framesOf front ++
      (writeU32Le (.ofNat body.length) ++ altered ++ writeU32Le (crc32 body) ++
      [kJournalCommitMarker]) ++ rest) =
      reportsFrom 0 front ++
        [{ offset := .ofNat (framesOf front).length, outcome := .crcFail }] := by
  have bodyLen : (UInt32.ofNat body.length).toNat = altered.length := by
    rw [burst.length]
    simpa using short
  have read : readFrame (writeU32Le (.ofNat body.length) ++
      (altered ++ (writeU32Le (crc32 body) ++ ([kJournalCommitMarker] ++ rest)))) =
        .bad .crcFail := by
    have header := readExact_append (writeU32Le (.ofNat body.length))
      (altered ++ (writeU32Le (crc32 body) ++ ([kJournalCommitMarker] ++ rest)))
        (writeU32Le_length _)
    have whole :=
      readExact_append altered (writeU32Le (crc32 body) ++ ([kJournalCommitMarker] ++ rest)) rfl
    have crc := readExact_append (writeU32Le (crc32 body)) ([kJournalCommitMarker] ++ rest)
      (writeU32Le_length _)
    have unequal := (crc32_burst burst).symm
    simp only [readFrame, header, readU32Le_write, bodyLen, whole, crc, if_pos unequal]
  simp only [List.append_assoc]
  rw [scanJournal_frames small, scanLoop, read, show (0 : UInt32) = .ofNat 0 from rfl,
    offsetAfter_eq, okFrames_reports, Nat.zero_add]

private theorem burst_top_bit : Burst [65] [193] 7 where
  length := rfl
  changed := by decide
  window := by
    intro i differs
    by_cases inside : i < 8
    · by_contra outside
      have below : i < 7 := by omega
      revert differs
      interval_cases i <;> decide
    · have past : ∀ body : Bytes, body.length = 1 → (bitsOf body)[i]? = none := fun body one =>
        List.getElem?_eq_none (by rw [length_bitsOf, one]; omega)
      exact absurd ((past [65] rfl).trans (past [193] rfl).symm) differs

/-- The top bit of the only byte of the second frame is flipped. -/
theorem scan_of_flipped_bit :
    scanJournal (framesOf [[1]] ++
      (writeU32Le (.ofNat ([65] : Bytes).length) ++ [193] ++ writeU32Le (crc32 [65]) ++
      [kJournalCommitMarker]) ++ [7]) =
      reportsFrom 0 [[1]] ++
        [{ offset := .ofNat (framesOf [[1]]).length, outcome := .crcFail }] := by
  have small : ∀ body ∈ ([[1]] : List Bytes), body.length < 2 ^ 32 := by decide
  exact scan_of_burst [[1]] [7] small (by decide) burst_top_bit

end Kiosk.Protocol
