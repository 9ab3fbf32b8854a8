import Kiosk.Protocol.JournalScan

/-! The framed screenshot on the serial line: `write_screenshot_serial` of
`debug/debug_server.cpp`, and `read_screenshot` of `tools/serial_debug_protocol.py`, which looks
for the frame among whatever else the device prints. -/
namespace Kiosk.Debug

open Library Library.KeySearch Protocol

def screenshotMagic : Bytes := text "MFSB"

/-- The display, with a shadow framebuffer of its own size, less than the memory has. -/
structure Display where
  rotation : UInt8 := 0
  frameId : UInt32 := 0
  width : UInt16
  height : UInt16
  framebuffer : Bytes
  whole : framebuffer.length = width.toNat * height.toNat * 2
  addressable : framebuffer.length + 255 < 2 ^ 32

def writeU16Le (value : UInt16) : Bytes := [value.toUInt8, (value >>> 8).toUInt8]

/-- The part of the screen id that is sent. -/
def sentId (screenId : Bytes) : Bytes := screenId.take (min screenId.length 255)

/-- The CRC runs over both parts one after the other. -/
def screenshotCrc (d : Display) (screenId : Bytes) : UInt32 :=
  ~~~ (d.framebuffer.foldl crcByte ((sentId screenId).foldl crcByte 0xFFFFFFFF))

/-- The header behind the magic. -/
def screenshotHeader (d : Display) (screenId : Bytes) : Bytes :=
  [1, 0, d.rotation, .ofNat (sentId screenId).length] ++ writeU16Le d.width ++
      writeU16Le d.height ++ writeU32Le d.frameId ++
    writeU32Le (.ofNat (sentId screenId).length + .ofNat d.framebuffer.length) ++
      writeU32Le (screenshotCrc d screenId)

def writeScreenshotSerial (d : Display) (screenId : Bytes) : Bytes :=
  screenshotMagic ++ screenshotHeader d screenId ++ sentId screenId ++ d.framebuffer

/-- How a capture fails. -/
inductive CaptureError where
  | noMagic | timedOut | version | pixelFormat | crcMismatch | pixelSize
  deriving DecidableEq, Repr

structure Capture where
  rotation : Nat
  width : Nat
  height : Nat
  frameId : Nat
  screenId : List Nat
  pixels : Bytes
  deriving DecidableEq, Repr

def lastFour (seen : Bytes) : Bytes := seen.drop (seen.length - 4)

/-- The window holds the last four bytes that came; what follows the magic. -/
def scanMagic (window : Bytes) : Bytes → Option Bytes
  | [] => none
  | byte :: rest =>
    if lastFour (window ++ [byte]) = screenshotMagic then some rest
      else scanMagic (lastFour (window ++ [byte])) rest

/-- `struct.unpack_from("<H", ..)`. -/
def unpackU16Le : Bytes → Nat
  | [low, high] => low.toNat + 256 * high.toNat
  | _ => 0

/-- `bytes.decode("ascii", errors="replace")`. -/
def decodeAscii (raw : Bytes) : List Nat :=
  raw.map fun byte => if byte < 128 then byte.toNat else 0xFFFD

/-- The checks of a payload. -/
def checkPayload (rotation screenIdLen : UInt8) (width height : Nat) (frameId expectedCrc : UInt32)
    (payload : Bytes) :
    Except CaptureError Capture :=
  if crc32 payload ≠ expectedCrc then .error .crcMismatch
  else
    let pixels := payload.drop screenIdLen.toNat
    if pixels.length ≠ width * height * 2 then .error .pixelSize
    else .ok {
      rotation := rotation.toNat
      width := width
      height := height
      frameId := frameId.toNat
      screenId := decodeAscii (payload.take screenIdLen.toNat)
      pixels := pixels }

/-- `read_screenshot` on everything that comes before its time is up. -/
def readScreenshot (incoming : Bytes) : Except CaptureError Capture :=
  match scanMagic [] incoming with
  | none => .error .noMagic
  | some rest =>
    match rest with
    | version :: pixelFormat :: rotation :: screenIdLen :: w0 :: w1 :: h0 :: h1 ::
        f0 :: f1 :: f2 :: f3 :: s0 :: s1 :: s2 :: s3 :: c0 :: c1 :: c2 :: c3 :: rest =>
      if version ≠ 1 then .error .version
      else if pixelFormat ≠ 0 then .error .pixelFormat
      else
        match readExact rest (readU32Le [s0, s1, s2, s3]).toNat with
        | none => .error .timedOut
        | some (payload, _) =>
          checkPayload rotation screenIdLen (unpackU16Le [w0, w1]) (unpackU16Le [h0, h1])
            (readU32Le [f0, f1, f2, f3])
            (readU32Le [c0, c1, c2, c3]) payload
    | _ => .error .timedOut

theorem unpackU16Le_write (value : UInt16) : unpackU16Le (writeU16Le value) = value.toNat := by
  have small := value.toNat_lt
  have high : (value >>> 8).toNat = value.toNat / 256 := by
    rw [UInt16.toNat_shiftRight, Nat.shiftRight_eq_div_pow]
    rfl
  rw [writeU16Le, unpackU16Le, UInt16.toNat_toUInt8, UInt16.toNat_toUInt8, high]
  omega

/-- No frame begins in what stands before. -/
def Quiet (noise : Bytes) : Prop := ¬ screenshotMagic <:+: noise

theorem lastFour_snoc (front : Bytes) (byte : UInt8) :
    lastFour (front ++ [byte]) = front.drop (front.length - 3) ++ [byte] := by
  have short : front.length + 1 - 4 ≤ front.length := by omega
  rw [lastFour, List.length_append, List.length_singleton, List.drop_append_of_le_length short]
  rfl

theorem lastFour_append (seen : Bytes) (byte : UInt8) :
    lastFour (lastFour seen ++ [byte]) = lastFour (seen ++ [byte]) := by
  rw [lastFour_snoc, lastFour_snoc, lastFour, List.length_drop, List.drop_drop]
  congr 2
  omega

theorem lastFour_eq_magic (seen : Bytes) :
    lastFour seen = screenshotMagic ↔ screenshotMagic <:+ seen := by
  constructor
  · intro last
    rw [← last]
    exact List.drop_suffix _ _
  · rintro ⟨front, rfl⟩
    have four : (front ++ screenshotMagic).length - 4 = front.length := by
      have magic : screenshotMagic.length = 4 := rfl
      rw [List.length_append, magic]
      exact Nat.add_sub_cancel ..
    rw [lastFour, four, List.drop_left]

/-- One more byte that does not end a magic. -/
private theorem scanMagic_skip {seen : Bytes} {byte : UInt8} (rest : Bytes)
    (other : ¬ screenshotMagic <:+ seen ++ [byte]) :
    scanMagic (lastFour seen) (byte :: rest) = scanMagic (lastFour (seen ++ [byte])) rest := by
  rw [scanMagic, lastFour_append, if_neg (mt (lastFour_eq_magic _).mp other)]

private theorem last_of_magic {seen : Bytes} {byte : UInt8}
    (ends : screenshotMagic <:+ seen ++ [byte]) : byte = 66 := by
  obtain ⟨front, split⟩ := ends
  have last := congrArg List.getLast? split
  have magic : screenshotMagic = [77, 70, 83] ++ [66] := rfl
  rw [magic, ← List.append_assoc, List.getLast?_append, List.getLast?_append] at last
  simpa using last.symm

/-- The scan finds the first magic, however what stands before ends. -/
theorem scanMagic_quiet {seen noise : Bytes} (rest : Bytes) (quiet : Quiet (seen ++ noise)) :
    scanMagic (lastFour seen) (noise ++ (screenshotMagic ++ rest)) = some rest := by
  induction noise generalizing seen with
  | nil =>
    have magic : screenshotMagic ++ rest = 77 :: 70 :: 83 :: 66 :: rest := rfl
    have ends : screenshotMagic <:+ seen ++ [77] ++ [70] ++ [83] ++ [66] := ⟨seen, by
      simp only [List.append_assoc]
      rfl⟩
    rw [List.nil_append, magic,
      scanMagic_skip _ (fun found => absurd (last_of_magic found) (by decide)),
      scanMagic_skip _ (fun found => absurd (last_of_magic found) (by decide)),
      scanMagic_skip _ (fun found => absurd (last_of_magic found) (by decide)), scanMagic,
        lastFour_append,
      if_pos ((lastFour_eq_magic _).mpr ends)]
  | cons byte noise ih =>
    have whole : seen ++ byte :: noise = seen ++ [byte] ++ noise := by simp
    rw [whole] at quiet
    have other : ¬ screenshotMagic <:+ seen ++ [byte] := by
      rintro ⟨front, split⟩
      exact quiet ⟨front, noise, congrArg (· ++ noise) split⟩
    rw [List.cons_append, scanMagic_skip _ other]
    exact ih quiet

section Frames

variable {d : Display} {screenId noise : Bytes}

theorem sentId_length (screenId : Bytes) : (sentId screenId).length = min screenId.length 255 := by
  rw [sentId, List.length_take]
  omega

theorem screenshotCrc_eq (d : Display) (screenId : Bytes) :
    screenshotCrc d screenId = crc32 (sentId screenId ++ d.framebuffer) := by
  rw [screenshotCrc, crc32, List.foldl_append]

/-- The announced size does not wrap. -/
theorem payloadSize (d : Display) (screenId : Bytes) :
    (UInt32.ofNat (sentId screenId).length + .ofNat d.framebuffer.length).toNat =
      (sentId screenId ++ d.framebuffer).length := by
  have short := sentId_length screenId
  have room := d.addressable
  rw [UInt32.toNat_add, UInt32.toNat_ofNat', UInt32.toNat_ofNat', List.length_append]
  omega

theorem screenIdLen (screenId : Bytes) :
    (UInt8.ofNat (sentId screenId).length).toNat = (sentId screenId).length := by
  have short := sentId_length screenId
  rw [UInt8.toNat_ofNat']
  omega

/-- A reader that finds the header of a screenshot checks what comes in the place of its payload. -/
theorem readScreenshot_header (quiet : Quiet noise) (payload tail : Bytes)
    (sized : payload.length = (sentId screenId ++ d.framebuffer).length) :
    readScreenshot
        (noise ++ (screenshotMagic ++ (screenshotHeader d screenId ++ (payload ++ tail)))) =
      checkPayload d.rotation (.ofNat (sentId screenId).length) d.width.toNat
        d.height.toNat d.frameId
        (screenshotCrc d screenId) payload := by
  have found : scanMagic []
        (noise ++ (screenshotMagic ++ (screenshotHeader d screenId ++ (payload ++ tail)))) =
      some (screenshotHeader d screenId ++ (payload ++ tail)) := @scanMagic_quiet [] noise _ quiet
  have size := payloadSize d screenId
  have frame := readU32Le_write d.frameId
  have crc := readU32Le_write (screenshotCrc d screenId)
  have width := unpackU16Le_write d.width
  have height := unpackU16Le_write d.height
  have announced :=
    readU32Le_write (UInt32.ofNat (sentId screenId).length + .ofNat d.framebuffer.length)
  have read : readExact (payload ++ tail) (sentId screenId ++ d.framebuffer).length =
      some (payload, tail) :=
    readExact_append payload tail sized
  unfold writeU32Le at frame crc announced
  unfold writeU16Le at width height
  unfold readScreenshot
  rw [found]
  simp only [screenshotHeader, writeU16Le, writeU32Le, List.cons_append, List.nil_append, frame,
    crc, width, height, announced, size, read, ne_eq, not_true_eq_false, if_false]

/-- What the device sends of its screen, behind anything quiet, is what the tool captures: every
pixel and every number, and the screen id as far as it is sent. -/
theorem readScreenshot_write (d : Display) (screenId noise tail : Bytes) (quiet : Quiet noise) :
    readScreenshot (noise ++ writeScreenshotSerial d screenId ++ tail) = .ok {
      rotation := d.rotation.toNat
      width := d.width.toNat
      height := d.height.toNat
      frameId := d.frameId.toNat
      screenId := decodeAscii (screenId.take 255)
      pixels := d.framebuffer } := by
  have read := readScreenshot_header quiet (sentId screenId ++ d.framebuffer) tail rfl
  have sent : sentId screenId = screenId.take 255 := by
    rw [sentId, List.take_eq_take_iff]
    omega
  simp only [writeScreenshotSerial, List.append_assoc] at read ⊢
  rw [read, checkPayload, screenIdLen, screenshotCrc_eq, if_neg (not_not.mpr rfl), List.drop_left,
    List.take_left]
  dsimp only
  rw [if_neg (not_not.mpr d.whole), sent]

/-- A payload altered on the line within 32 consecutive bits is never captured. -/
theorem readScreenshot_burst {start : Nat} (d : Display) (screenId noise altered tail : Bytes)
    (quiet : Quiet noise) (burst : Burst (sentId screenId ++ d.framebuffer) altered start) :
    readScreenshot (noise ++ screenshotMagic ++ screenshotHeader d screenId ++ altered ++ tail) =
      .error .crcMismatch := by
  have read := readScreenshot_header quiet altered tail burst.length
  simp only [List.append_assoc]
  rw [read, checkPayload, screenshotCrc_eq, if_pos (crc32_burst burst)]

end Frames

section Witness

/-- One pixel. -/
def pixelDisplay : Display where
  rotation := 1
  frameId := 7
  width := 1
  height := 1
  framebuffer := [31, 0]
  whole := rfl
  addressable := by decide

private theorem quiet_line : Quiet (text "BOOT") := by
  unfold Quiet
  decide

/-- The top bit of the pixel is flipped. -/
private theorem burst_pixel : Burst [31, 0] [31, 128] 15 where
  length := rfl
  changed := by decide
  window := by
    intro i differs
    by_cases inside : i < 16
    · by_contra outside
      have below : i < 15 := by omega
      revert differs
      interval_cases i <;> decide
    · have past :
          ∀ payload : Bytes, payload.length = 2 → (bitsOf payload)[i]? = none := fun payload two =>
        List.getElem?_eq_none (by rw [length_bitsOf, two]; omega)
      exact absurd ((past [31, 0] rfl).trans (past [31, 128] rfl).symm) differs

theorem readScreenshot_write_pixel :
    readScreenshot (text "BOOT" ++ writeScreenshotSerial pixelDisplay (text "IDLE") ++ []) = .ok {
      rotation := 1
      width := 1
      height := 1
      frameId := 7
      screenId := [73, 68, 76, 69]
      pixels := [31, 0] } :=
  readScreenshot_write pixelDisplay (text "IDLE") (text "BOOT") [] quiet_line

theorem readScreenshot_burst_pixel :
    readScreenshot
      (text "BOOT" ++ screenshotMagic ++ screenshotHeader pixelDisplay [] ++ [31, 128] ++ []) =
      .error .crcMismatch :=
  readScreenshot_burst pixelDisplay [] (text "BOOT") [31, 128] [] quiet_line burst_pixel

end Witness

end Kiosk.Debug
