import Kiosk.Library.OverflowBuffer
import Kiosk.Library.TransitionSystem

/-! `hardware/scanner_gm65.cpp`: the line framing of the barcode scanner. `millis()` and
what the UART holds are inputs. -/
namespace Kiosk.Hardware

open Library Library.OverflowBuffer TransitionSystem

/-- `SCANNER_DUPLICATE_SUPPRESS_MS`. -/
def scannerDuplicateSuppressMs : UInt32 := 1500

def kMaxLineLength : Nat := 128

def kLineTimeoutMs : UInt32 := 200

/-- A `SCAN` event on the bus. -/
structure LocalEvent where
  text : List UInt8
  timestampMs : UInt32
  deriving DecidableEq, Repr

/-- The driver, with what it has published on its bus. -/
structure ScannerGm65 where
  buffer : List UInt8 := []
  lastByteMs : UInt32 := 0
  lastEmittedLine : List UInt8 := []
  lastEmittedMs : UInt32 := 0
  published : List LocalEvent := []

/-- A byte of the UART and the clock when it is handled. -/
structure Received where
  byte : UInt8
  clock : UInt32
  deriving DecidableEq, Repr

/-- One `poll()`: the clock at its start, the clock of a flush, what it reads. -/
structure Poll where
  now : UInt32
  flushClock : UInt32
  received : List Received

def isTerminator (byte : UInt8) : Bool := byte = 0x0D || byte = 0x0A

namespace ScannerGm65

def emitIfNew (s : ScannerGm65) (line : List UInt8) (now : UInt32) : ScannerGm65 :=
  if line = s.lastEmittedLine ∧ now - s.lastEmittedMs < scannerDuplicateSuppressMs then s
  else
    { s with
      lastEmittedLine := line
      lastEmittedMs := now
      published := s.published ++ [⟨line, now⟩] }

/-- The body of the read loop. -/
def readByte (now : UInt32) (s : ScannerGm65) (r : Received) : ScannerGm65 :=
  let s := { s with lastByteMs := now }
  if isTerminator r.byte then
    if s.buffer.length > 0 then { s.emitIfNew s.buffer r.clock with buffer := [] } else s
  else if s.buffer.length ≥ kMaxLineLength then { s with buffer := [] }
  else { s with buffer := s.buffer ++ [r.byte] }

def poll (s : ScannerGm65) (p : Poll) : ScannerGm65 :=
  let s :=
    if s.buffer.length > 0 ∧ p.now - s.lastByteMs > kLineTimeoutMs then
      { s.emitIfNew s.buffer p.flushClock with buffer := [] }
    else s
  p.received.foldl (readByte p.now) s

end ScannerGm65

/-- What the stream says: the lines it has ended, with the line not ended yet whole. -/
structure ScanLines where
  line : List UInt8 := []
  last : List UInt8 := []
  lastMs : UInt32 := 0
  scans : List LocalEvent := []

namespace ScanLines

/-- The last scan once more, within the window. -/
def Repeats (lines : ScanLines) (line : List UInt8) (now : UInt32) : Prop :=
  line = lines.last ∧ now - lines.lastMs < scannerDuplicateSuppressMs

instance (lines : ScanLines) (line : List UInt8) (now : UInt32) :
    Decidable (lines.Repeats line now) :=
  inferInstanceAs (Decidable (_ ∧ _))

def scan (lines : ScanLines) (now : UInt32) : ScanLines :=
  if lines.Repeats lines.line now then lines
  else { lines with last := lines.line, lastMs := now, scans := lines.scans ++ [⟨lines.line, now⟩] }

/-- A line ends at a CR or an LF; it is a scan if it is not empty and not too long. -/
def read (lines : ScanLines) (r : Received) : ScanLines :=
  if isTerminator r.byte then
    let ended := if 0 < lines.line.length ∧ lines.line.length ≤ kMaxLineLength
      then lines.scan r.clock else lines
    { ended with line := [] }
  else { lines with line := lines.line ++ [r.byte] }

/-- The byte does not end a line that is too long, or what is left of that line in the
buffer is nothing, or the last scan once more. -/
def Harmless (lines : ScanLines) (r : Received) : Prop :=
  isTerminator r.byte = true → kMaxLineLength < lines.line.length →
    kMaxLineLength + 1 ∣ lines.line.length ∨
      lines.Repeats (remainder kMaxLineLength lines.line) r.clock

instance (lines : ScanLines) (r : Received) : Decidable (lines.Harmless r) :=
  inferInstanceAs (Decidable (_ → _ → _))

end ScanLines

/-- The driver has published the scans, and its buffer is what is left of the line. -/
structure Frames (s : ScannerGm65) (lines : ScanLines) : Prop where
  buffer : s.buffer = remainder kMaxLineLength lines.line
  last : s.lastEmittedLine = lines.last
  lastMs : s.lastEmittedMs = lines.lastMs
  published : s.published = lines.scans

private theorem emit_frames {s : ScannerGm65} {lines : ScanLines} (frames : Frames s lines)
    (clock : UInt32) (same : s.buffer = lines.line) :
    Frames { s.emitIfNew s.buffer clock with buffer := [] }
      { lines.scan clock with line := [] } := by
  have agree :
      (s.buffer = s.lastEmittedLine ∧ clock - s.lastEmittedMs < scannerDuplicateSuppressMs) ↔
      lines.Repeats lines.line clock := by
    rw [ScanLines.Repeats, same, frames.last, frames.lastMs]
  rw [ScannerGm65.emitIfNew, ScanLines.scan]
  by_cases repeats : lines.Repeats lines.line clock
  · rw [if_pos (agree.mpr repeats), if_pos repeats]
    exact ⟨by simp [remainder], frames.last, frames.lastMs, frames.published⟩
  · rw [if_neg (mt agree.mp repeats), if_neg repeats, same]
    exact ⟨by simp [remainder], rfl, rfl, by rw [frames.published]⟩

/-- A harmless byte keeps the driver with the stream. -/
theorem Frames.read {s : ScannerGm65} {lines : ScanLines} {r : Received} (frames : Frames s lines)
    (now : UInt32) (harmless : lines.Harmless r) : Frames (s.readByte now r) (lines.read r) := by
  have stamped : Frames { s with lastByteMs := now } lines :=
    ⟨frames.buffer, frames.last, frames.lastMs, frames.published⟩
  rw [ScannerGm65.readByte, ScanLines.read]
  generalize { s with lastByteMs := now } = s at stamped
  by_cases ends : isTerminator r.byte = true
  · simp only [ends, ↓reduceIte]
    by_cases short : lines.line.length ≤ kMaxLineLength
    · have same : s.buffer = lines.line := by
        rw [stamped.buffer, remainder_of_le kMaxLineLength short]
      rw [same]
      by_cases empty : lines.line.length > 0
      · rw [if_pos empty, if_pos ⟨empty, short⟩, ← same]
        exact emit_frames stamped r.clock same
      · have none : lines.line = [] := List.length_eq_zero_iff.mp (by omega)
        rw [if_neg empty, if_neg (by omega)]
        exact ⟨by rw [same, none]; simp [remainder], stamped.last, stamped.lastMs,
          stamped.published⟩
    · have tooLong : ¬ (0 < lines.line.length ∧ lines.line.length ≤ kMaxLineLength) :=
        fun fits => short fits.2
      rw [if_neg tooLong]
      by_cases some : s.buffer.length > 0
      · have repeated :
            s.buffer = s.lastEmittedLine ∧
            r.clock - s.lastEmittedMs < scannerDuplicateSuppressMs := by
          rcases harmless ends (Nat.lt_of_not_le short) with whole | repeated
          · rw [← remainder_eq_nil, ← stamped.buffer] at whole
            simp [whole] at some
          · rw [ScanLines.Repeats, ← stamped.buffer, ← stamped.last, ← stamped.lastMs] at repeated
            exact repeated
        rw [if_pos some, ScannerGm65.emitIfNew, if_pos repeated]
        exact ⟨by simp [remainder], stamped.last, stamped.lastMs, stamped.published⟩
      · have none : s.buffer = [] := List.length_eq_zero_iff.mp (by omega)
        rw [if_neg some]
        exact ⟨by simp [none, remainder], stamped.last, stamped.lastMs, stamped.published⟩
  · simp only [ends, Bool.false_eq_true, ↓reduceIte]
    have pushed := push_remainder kMaxLineLength lines.line r.byte
    rw [push, ← stamped.buffer] at pushed
    split
    · rename_i full
      rw [if_pos full] at pushed
      exact ⟨pushed, stamped.last, stamped.lastMs, stamped.published⟩
    · rename_i room
      rw [if_neg room] at pushed
      exact ⟨pushed, stamped.last, stamped.lastMs, stamped.published⟩

/-- A byte that is not harmless publishes the tail of a line that is no scan. -/
theorem Frames.tail {s : ScannerGm65} {lines : ScanLines} {r : Received} (frames : Frames s lines)
    (now : UInt32)
    (harmful : ¬ lines.Harmless r) : (s.readByte now r).published ≠ (lines.read r).scans := by
  simp only [ScanLines.Harmless, not_forall, not_or] at harmful
  obtain ⟨ends, long, uneven, fresh⟩ := harmful
  have some : s.buffer.length > 0 := by
    rw [gt_iff_lt, List.length_pos_iff, frames.buffer, Ne, remainder_eq_nil]
    exact uneven
  rw [ScanLines.Repeats, ← frames.buffer, ← frames.last, ← frames.lastMs] at fresh
  rw [ScannerGm65.readByte, ScanLines.read]
  simp only [ends, ↓reduceIte, some,
    if_neg (show ¬ (0 < lines.line.length ∧ lines.line.length ≤ kMaxLineLength) by omega)]
  rw [ScannerGm65.emitIfNew, if_neg fresh, frames.published]
  simp

/-! Polls. -/

/-- The line timeout does not occur. -/
def Prompt (s : ScannerGm65) (p : Poll) : Prop :=
  s.buffer.length > 0 → p.now - s.lastByteMs ≤ kLineTimeoutMs

instance (s : ScannerGm65) (p : Poll) : Decidable (Prompt s p) :=
  inferInstanceAs (Decidable (_ → _))

def streamOf (polls : List Poll) : List Received := polls.flatMap Poll.received

private theorem poll_prompt {s : ScannerGm65} {p : Poll} (prompt : Prompt s p) :
    s.poll p = p.received.foldl (ScannerGm65.readByte p.now) s := by
  rw [ScannerGm65.poll, if_neg]
  rintro ⟨some, late⟩
  exact absurd (prompt some) (UInt32.not_le.mpr late)

private theorem Frames.reads {s : ScannerGm65} {lines : ScanLines} {received : List Received}
    (frames : Frames s lines)
    (now : UInt32) (along : Along ScanLines.read ScanLines.Harmless lines received) :
    Frames (received.foldl (ScannerGm65.readByte now) s) (run ScanLines.read lines received) := by
  induction received generalizing s lines with
  | nil => exact frames
  | cons r rest ih => exact ih (frames.read now along.1) along.2

/-- However the stream is cut into polls. -/
theorem Frames.polls {s : ScannerGm65} {lines : ScanLines} {polls : List Poll}
    (frames : Frames s lines) (prompt : Along ScannerGm65.poll Prompt s polls)
    (along : Along ScanLines.read ScanLines.Harmless lines (streamOf polls)) :
    Frames (run ScannerGm65.poll s polls) (run ScanLines.read lines (streamOf polls)) := by
  induction polls generalizing s lines with
  | nil => exact frames
  | cons p rest ih =>
    rw [streamOf, List.flatMap_cons] at along ⊢
    obtain ⟨head, tail⟩ := along_append.mp along
    rw [run_append]
    refine ih ?_ prompt.2 tail
    rw [poll_prompt prompt.1]
    exact frames.reads p.now head

theorem frames_start : Frames {} {} := ⟨by simp [remainder], rfl, rfl, rfl⟩

/-- Every way of cutting every beginning of the stream into polls without a timeout
publishes exactly its scans, if and only if every line that is too long leaves nothing
in the buffer, or the last scan once more. -/
theorem published_iff (stream : List Received) :
    (∀ polls, Along ScannerGm65.poll Prompt {} polls → streamOf polls <+: stream →
      (run ScannerGm65.poll {} polls).published = (run ScanLines.read {} (streamOf polls)).scans) ↔
      Along ScanLines.read ScanLines.Harmless {} stream := by
  constructor
  · intro framed
    have each : ∀ first, first <+: stream → Along ScanLines.read ScanLines.Harmless {} first := by
      intro first
      induction first using List.reverseRecOn with
      | nil => exact fun _ => trivial
      | append_singleton first r ih =>
        intro begins
        have before := ih ((List.prefix_append first [r]).trans begins)
        refine along_append.mpr ⟨before, ?_, trivial⟩
        -- the whole beginning in one poll
        by_contra harmful
        have whole : streamOf [⟨0, 0, first ++ [r]⟩] = first ++ [r] := by simp [streamOf]
        have same := framed [⟨0, 0, first ++ [r]⟩] ⟨fun some => by simp at some, trivial⟩
          (by rw [whole]; exact begins)
        have apart := (frames_start.reads 0 before).tail 0 harmful
        rw [whole, run_append, run_cons, run_nil, run_cons, run_nil,
          poll_prompt (fun some => by simp at some), List.foldl_append] at same
        exact apart same
    exact each stream List.prefix_rfl
  · intro along polls prompt begins
    obtain ⟨rest, rfl⟩ := begins
    exact (frames_start.polls prompt along.prefix).published

/-- A line of 130 bytes: its last one is published as a code of its own. -/
theorem overlong_tail_published :
    let polls : List Poll := [⟨1000, 1000, List.replicate 130 ⟨0x41, 1000⟩ ++ [⟨0x0D, 1000⟩]⟩]
    Along ScannerGm65.poll Prompt {} polls ∧
        (run ScannerGm65.poll {} polls).published = [⟨[0x41], 1000⟩] ∧
      (run ScanLines.read {} (streamOf polls)).scans = [] := by
  decide +kernel

end Kiosk.Hardware
