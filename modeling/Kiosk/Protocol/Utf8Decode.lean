import Kiosk.Library.KeySearch
import Kiosk.Library.PieceScan

/-! `utf8_decode_next` of `vn_font_core.cpp`. A cursor is what lies between it and the end
of the buffer it points into; `none` is a read beyond that end. -/
namespace Kiosk.Protocol

open Library Library.PieceScan

/-- `continuation_byte`, and what the sequence is without one. -/
def continuation (cursor : Bytes) (next : UInt32 → Bytes → Option (UInt32 × Bytes)) :
    Option (UInt32 × Bytes) :=
  match cursor with
  | [] => none
  | b :: after =>
    if b &&& 0xC0 ≠ 0x80 ∨ b = 0 then some (0xFFFD, cursor) else next (b &&& 0x3F).toUInt32 after

def utf8DecodeNext : Bytes → Option (UInt32 × Bytes)
  | [] => none
  | a :: cursor =>
    if a = 0 then some (0, a :: cursor)
    else if a < 0x80 then some (a.toUInt32, cursor)
    else if a &&& 0xE0 = 0xC0 then
      continuation cursor fun b cursor => some ((a &&& 0x1F).toUInt32 <<< 6 ||| b, cursor)
    else if a &&& 0xF0 = 0xE0 then
      continuation cursor fun b cursor => continuation cursor fun c cursor =>
        some ((a &&& 0x0F).toUInt32 <<< 12 ||| b <<< 6 ||| c, cursor)
    else if a &&& 0xF8 = 0xF0 then
      continuation cursor fun b cursor => continuation cursor fun c cursor =>
        continuation cursor fun d cursor =>
        some ((a &&& 0x07).toUInt32 <<< 18 ||| b <<< 12 ||| c <<< 6 ||| d, cursor)
    else some (0xFFFD, cursor)

/-- `while (*cursor) utf8_decode_next(&cursor)`, for at most so many rounds: the code points
and where the cursor stands. -/
def decodeWhile : Nat → Bytes → Option (List UInt32 × Bytes)
  | 0, _ => none
  | _ + 1, [] => none
  | rounds + 1, a :: cursor =>
    if a = 0 then some ([], a :: cursor)
    else
      match utf8DecodeNext (a :: cursor) with
      | none => none
      | some (codepoint, left) =>
        (decodeWhile rounds left).map fun rest => (codepoint :: rest.1, rest.2)

/-- The UTF-8 encoding of a text. -/
def utf8Encode (chars : List Char) : Bytes := chars.flatMap String.utf8EncodeChar

/-- A read decodes a piece of the text before the terminator, whatever lies beyond it. -/
private def Inside (content : Bytes) (decoded : Bytes → Option (UInt32 × Bytes)) : Prop :=
  ∃ codepoint left, left <:+ content ∧ ∀ beyond,
    decoded beyond = some (codepoint, left ++ 0 :: beyond)

private theorem continuation_inside (content : Bytes)
    {next : UInt32 → Bytes → Option (UInt32 × Bytes)} (inside : ∀ b after,
      after <:+ content → Inside after fun beyond => next b (after ++ 0 :: beyond)) :
    Inside content fun beyond => continuation (content ++ 0 :: beyond) next := by
  cases content with
  | nil => exact ⟨0xFFFD, [], List.suffix_rfl, fun _ => rfl⟩
  | cons b after =>
    simp only [List.cons_append, continuation]
    split
    · exact ⟨0xFFFD, b :: after, List.suffix_rfl, fun _ => rfl⟩
    · obtain ⟨codepoint, left, suffix, decoded⟩ :=
        inside (b &&& 0x3F).toUInt32 after (List.suffix_cons b after)
      exact ⟨codepoint, left, suffix.trans (List.suffix_cons b after), decoded⟩

/-- Whatever follows the first byte, at least that byte is used up and the terminator is not. -/
theorem utf8DecodeNext_inside (present : a ≠ 0) (content : Bytes) :
    ∃ codepoint left, left <:+ content ∧
      ∀ beyond, utf8DecodeNext (a :: (content ++ 0 :: beyond)) =
        some (codepoint, left ++ 0 :: beyond) := by
  have done (codepoint : UInt32) (after : Bytes) :
      Inside after fun beyond => some (codepoint, after ++ 0 :: beyond) :=
    ⟨codepoint, after, List.suffix_rfl, fun _ => rfl⟩
  simp only [utf8DecodeNext, if_neg present]
  split
  · exact done _ content
  split
  · exact continuation_inside content fun b after _ => done _ after
  split
  · exact continuation_inside content fun b after _ => continuation_inside after fun c after _ =>
      done _ after
  split
  · exact continuation_inside content fun b after _ => continuation_inside after fun c after _ =>
      continuation_inside after fun d after _ => done _ after
  · exact done _ content

/-- One call on the text before the terminator. -/
structure Decodes (content : Bytes) (codepoint : UInt32) (left : Bytes) : Prop where
  present : ∃ a rest, content = a :: rest ∧ a ≠ 0
  decoded : ∀ beyond,
    utf8DecodeNext (content ++ 0 :: beyond) = some (codepoint, left ++ 0 :: beyond)

namespace Decodes

theorem functional (one : Decodes content codepoint left) (two : Decodes content other left') :
    codepoint = other ∧ left = left' := by
  have same := (one.decoded []).symm.trans (two.decoded [])
  simp only [Option.some.injEq, Prod.mk.injEq] at same
  exact ⟨same.1, List.append_cancel_right same.2⟩

theorem of_present (present : a ≠ 0) (rest : Bytes) :
    ∃ codepoint left, left <:+ rest ∧ Decodes (a :: rest) codepoint left := by
  obtain ⟨codepoint, left, suffix, decoded⟩ := utf8DecodeNext_inside present rest
  exact ⟨codepoint, left, suffix, ⟨a, rest, rfl, present⟩, decoded⟩

theorem lawful : Lawful Decodes where
  functional _ _ _ _ _ one two := functional one two
  consumes content codepoint left taken := by
    obtain ⟨a, rest, rfl, present⟩ := taken.present
    obtain ⟨_, _, ⟨front, spelled⟩, again⟩ := of_present present rest
    obtain ⟨-, rfl⟩ := functional taken again
    exact ⟨a :: front, List.cons_ne_nil a front, by rw [List.cons_append, spelled]⟩

/-- A text without a zero is decoded to its end. -/
theorem exists_scan (text : ∀ byte ∈ content, byte ≠ 0) :
    ∃ codepoints, Scan Decodes content codepoints [] := by
  refine lawful.exists_scan (fun content => ∀ byte ∈ content, byte ≠ 0)
    (fun content text nonempty => ?_) text
  obtain ⟨a, rest, rfl⟩ := List.exists_cons_of_ne_nil nonempty
  obtain ⟨codepoint, left, suffix, decodes⟩ := of_present (text a (.head rest)) rest
  exact ⟨codepoint, left, decodes, fun byte member => text byte (.tail a (suffix.mem member))⟩

end Decodes

/-- The loop makes the calls of the scan, one a round, and stops at the terminator. -/
theorem decodeWhile_scan (scan : Scan Decodes content codepoints [])
    (enough : codepoints.length < rounds) (beyond : Bytes) :
    decodeWhile rounds (content ++ 0 :: beyond) = some (codepoints, 0 :: beyond) := by
  generalize empty : ([] : Bytes) = last at scan
  induction scan generalizing rounds with
  | here =>
    obtain ⟨rounds, rfl⟩ := Nat.exists_eq_add_of_lt enough
    subst empty
    simp [decodeWhile]
  | step first _ ih =>
    obtain ⟨rounds, rfl⟩ := Nat.exists_eq_succ_of_ne_zero (by omega : rounds ≠ 0)
    obtain ⟨a, rest, rfl, present⟩ := first.present
    have decoded := first.decoded beyond
    rw [List.cons_append] at decoded ⊢
    rw [decodeWhile, if_neg present, decoded]
    simp only
    rw [ih (Nat.lt_of_succ_lt_succ enough) empty]
    rfl

/-- A byte that only continues a sequence. -/
def IsTail (b : UInt8) : Prop := b &&& 0xC0 = 0x80 ∧ b ≠ 0

/-- The first byte of a sequence that `pattern` under `mask` tells from all others. -/
structure IsLead (a mask pattern : UInt8) : Prop where
  present : a ≠ 0
  high : ¬ a < 0x80
  two : a &&& 0xE0 = 0xC0 ↔ pattern = 0xC0
  three : a &&& 0xF0 = 0xE0 ↔ pattern = 0xE0
  matched : a &&& mask = pattern

/-- A code point with the bytes that stand for it. -/
inductive Utf8Sequence : UInt32 → Bytes → Prop where
  | one (present : a ≠ 0) (ascii : a < 0x80) : Utf8Sequence a.toUInt32 [a]
  | two (lead : IsLead a 0xE0 0xC0) (tail : IsTail b) :
      Utf8Sequence ((a &&& 0x1F).toUInt32 <<< 6 ||| (b &&& 0x3F).toUInt32) [a, b]
  | three (lead : IsLead a 0xF0 0xE0) (tail : IsTail b) (tail' : IsTail c) :
      Utf8Sequence ((a &&& 0x0F).toUInt32 <<< 12 ||| (b &&& 0x3F).toUInt32
        <<< 6 ||| (c &&& 0x3F).toUInt32) [a, b, c]
  | four (lead : IsLead a 0xF8 0xF0) (tail : IsTail b) (tail' : IsTail c) (tail'' : IsTail d) :
      Utf8Sequence ((a &&& 0x07).toUInt32 <<< 18 ||| (b &&& 0x3F).toUInt32
        <<< 12 ||| (c &&& 0x3F).toUInt32 <<< 6 |||
        (d &&& 0x3F).toUInt32) [a, b, c, d]

private theorem continuation_tail (tail : IsTail b) (after : Bytes)
    (next : UInt32 → Bytes → Option (UInt32 × Bytes)) :
    continuation (b :: after) next = next (b &&& 0x3F).toUInt32 after := by
  simp [continuation, tail.1, tail.2]

private theorem continuation_other (other : ¬ IsTail b) (after : Bytes)
    (next : UInt32 → Bytes → Option (UInt32 × Bytes)) :
    continuation (b :: after) next = some (0xFFFD, b :: after) := by
  have stops : b &&& 0xC0 ≠ 0x80 ∨ b = 0 := by
    by_contra both
    push Not at both
    exact other both
  simp only [continuation, if_pos stops]

theorem Utf8Sequence.head (sequence : Utf8Sequence codepoint bytes) :
    ∃ a rest, bytes = a :: rest ∧ a ≠ 0 := by
  cases sequence with
  | one present => exact ⟨_, _, rfl, present⟩
  | two lead | three lead | four lead => exact ⟨_, _, rfl, lead.present⟩

/-- A whole sequence is decoded to its code point. -/
theorem Utf8Sequence.decode (sequence : Utf8Sequence codepoint bytes) (rest : Bytes) :
    utf8DecodeNext (bytes ++ rest) = some (codepoint, rest) := by
  cases sequence with
  | one present ascii => simp [utf8DecodeNext, present, ascii]
  | two lead tail =>
    simp [utf8DecodeNext, lead.present, lead.high, lead.matched, continuation_tail tail]
  | three lead tail tail' =>
    simp [utf8DecodeNext, lead.present, lead.high, lead.two, lead.matched, continuation_tail tail,
      continuation_tail tail']
  | four lead tail tail' tail'' =>
    simp [utf8DecodeNext, lead.present, lead.high, lead.two, lead.three, lead.matched,
      continuation_tail tail, continuation_tail tail', continuation_tail tail'']

private theorem proper_prefix {front cut bytes : Bytes} (whole : front ++ cut = bytes)
    (some_ : front ≠ []) (short : cut ≠ []) :
    ∃ size, 0 < size ∧ size < bytes.length ∧ front = bytes.take size := by
  refine ⟨front.length, List.length_pos_iff.mpr some_, ?_, ?_⟩
  · have := List.length_pos_iff.mpr short
    rw [← whole, List.length_append]
    omega
  · rw [← whole, List.take_left]

/-- A sequence cut short before a byte that does not continue it is one replacement
character. -/
theorem Utf8Sequence.decode_truncated (sequence : Utf8Sequence codepoint (front ++ cut))
    (some_ : front ≠ []) (short : cut ≠ []) (other : ¬ IsTail next) (rest : Bytes) :
    utf8DecodeNext (front ++ next :: rest) = some (0xFFFD, next :: rest) := by
  generalize whole : front ++ cut = bytes at sequence
  obtain ⟨size, positive, less, rfl⟩ := proper_prefix whole some_ short
  cases sequence with
  | one => simp at less; omega
  | two lead tail =>
    obtain rfl : size = 1 := by simp at less; omega
    simp [utf8DecodeNext, lead.present, lead.high, lead.matched, continuation_other other]
  | three lead tail tail' =>
    obtain rfl | rfl : size = 1 ∨ size = 2 := by simp at less; omega
    · simp [utf8DecodeNext, lead.present, lead.high, lead.two, lead.matched,
        continuation_other other]
    · simp [utf8DecodeNext, lead.present, lead.high, lead.two, lead.matched, continuation_tail tail,
        continuation_other other]
  | four lead tail tail' tail'' =>
    obtain rfl | rfl | rfl : size = 1 ∨ size = 2 ∨ size = 3 := by simp at less; omega
    · simp [utf8DecodeNext, lead.present, lead.high, lead.two, lead.three, lead.matched,
        continuation_other other]
    · simp [utf8DecodeNext, lead.present, lead.high, lead.two, lead.three, lead.matched,
        continuation_tail tail, continuation_other other]
    · simp [utf8DecodeNext, lead.present, lead.high, lead.two, lead.three, lead.matched,
        continuation_tail tail, continuation_tail tail', continuation_other other]

instance (a mask pattern : UInt8) : Decidable (IsLead a mask pattern) :=
  decidable_of_iff
      (a ≠ 0 ∧ ¬ a < 0x80 ∧ (a &&& 0xE0 = 0xC0 ↔ pattern = 0xC0) ∧
      (a &&& 0xF0 = 0xE0 ↔ pattern = 0xE0) ∧
      a &&& mask = pattern)
    ⟨fun ⟨present, high, two, three, matched⟩ => ⟨present, high, two, three, matched⟩,
      fun lead => ⟨lead.present, lead.high, lead.two, lead.three, lead.matched⟩⟩

instance (b : UInt8) : Decidable (IsTail b) := inferInstanceAs (Decidable (_ ∧ _))

private theorem lead_two : ∀ n < 32, IsLead (.ofNat (n + 0xC0)) 0xE0 0xC0 ∧
    (UInt8.ofNat (n + 0xC0) &&& 0x1F).toUInt32 = .ofNat n := by decide

private theorem lead_three : ∀ n < 16, IsLead (.ofNat (n + 0xE0)) 0xF0 0xE0 ∧
    (UInt8.ofNat (n + 0xE0) &&& 0x0F).toUInt32 = .ofNat n := by decide

private theorem lead_four : ∀ n < 8, IsLead (.ofNat (n + 0xF0)) 0xF8 0xF0 ∧
    (UInt8.ofNat (n + 0xF0) &&& 0x07).toUInt32 = .ofNat n := by decide

private theorem tail_bits : ∀ n < 64, IsTail (.ofNat (n + 0x80)) ∧
    (UInt8.ofNat (n + 0x80) &&& 0x3F).toUInt32 = .ofNat n := by decide

private theorem ofNat_shiftLeft (n : Nat) (small : shift < 32) :
    UInt32.ofNat n <<< UInt32.ofNat shift = .ofNat (n * 2 ^ shift) := by
  have amount : (UInt32.ofNat shift).toNat % 32 = shift := by
    rw [UInt32.toNat_ofNat', Nat.mod_mod_of_dvd _ (by decide), Nat.mod_eq_of_lt small]
  rw [← UInt32.toNat_inj, UInt32.toNat_shiftLeft, amount, Nat.shiftLeft_eq, UInt32.toNat_ofNat',
    UInt32.toNat_ofNat', Nat.mod_mul_mod]

private theorem ofNat_or (n : Nat) (small : low < 2 ^ shift) :
    UInt32.ofNat (n * 2 ^ shift) ||| .ofNat low = .ofNat (n * 2 ^ shift + low) := by
  rw [← UInt32.ofNat_or, Nat.mul_comm, ← Nat.two_pow_add_eq_or_of_lt small]

private theorem bits_two (x : Nat) (small : y < 64) :
    UInt32.ofNat x <<< 6 ||| .ofNat y = .ofNat (x * 64 + y) := by
  rw [show (6 : UInt32) = .ofNat 6 from rfl, ofNat_shiftLeft x (by decide)]
  exact ofNat_or x small

private theorem bits_three (x : Nat) (small : y < 64) (small' : z < 64) :
    UInt32.ofNat x <<< 12 ||| UInt32.ofNat y <<< 6 ||| .ofNat z =
      .ofNat (x * 4096 + y * 64 + z) := by
  have upper : UInt32.ofNat x <<< 12 ||| UInt32.ofNat y <<< 6 = .ofNat ((x * 64 + y) * 2 ^ 6) := by
    rw [show (12 : UInt32) = .ofNat 12 from rfl, show (6 : UInt32) = .ofNat 6 from rfl,
      ofNat_shiftLeft x (by decide),
      ofNat_shiftLeft y (by decide), ofNat_or x (show y * 2 ^ 6 < 2 ^ 12 by omega),
      show x * 2 ^ 12 + y * 2 ^ 6 = (x * 64 + y) * 2 ^ 6 by ring]
  rw [upper, ofNat_or _ small', show (x * 64 + y) * 2 ^ 6 + z = x * 4096 + y * 64 + z by ring]

private theorem bits_four (x : Nat) (small : y < 64) (small' : z < 64) (small'' : w < 64) :
    UInt32.ofNat x <<< 18 ||| UInt32.ofNat y <<< 12 ||| UInt32.ofNat z <<< 6 ||| .ofNat w =
      .ofNat (x * 262144 + y * 4096 + z * 64 + w) := by
  have upper :
      UInt32.ofNat x <<< 18 ||| UInt32.ofNat y <<< 12 = UInt32.ofNat (x * 64 + y) <<< 12 := by
    rw [show (18 : UInt32) = .ofNat 18 from rfl, show (12 : UInt32) = .ofNat 12 from rfl,
      ofNat_shiftLeft x (by decide), ofNat_shiftLeft y (by decide), ofNat_shiftLeft _ (by decide),
        ofNat_or x (show y * 2 ^ 12 < 2 ^ 18 by omega),
      show x * 2 ^ 18 + y * 2 ^ 12 = (x * 64 + y) * 2 ^ 12 by ring]
  rw [upper, bits_three _ small' small'',
    show (x * 64 + y) * 4096 + z * 64 + w = x * 262144 + y * 4096 + z * 64 + w by ring]

/-- What `String.utf8EncodeChar` writes is a sequence for the character. -/
theorem utf8Sequence_of_char (present : c ≠ Char.ofNat 0) :
    Utf8Sequence c.val (String.utf8EncodeChar c) := by
  obtain ⟨v, value⟩ : ∃ v, v = c.val.toNat := ⟨_, rfl⟩
  have back : c.val = .ofNat v := by rw [value, UInt32.ofNat_toNat]
  have bounded : v < 0x110000 := by
    rw [value]
    have := c.valid
    simp only [UInt32.isValidChar, Nat.isValidChar] at this
    omega
  have nonzero : v ≠ 0 := fun zero => present (Char.ext (by rw [back, zero]; rfl))
  have tail (n : Nat) := tail_bits (n % 64) (Nat.mod_lt _ (by decide))
  simp only [String.utf8EncodeChar, ← value]
  split
  · have small : v < 256 := by omega
    have wide : c.val = (UInt8.ofNat v).toUInt32 := by
      rw [back, ← UInt32.toNat_inj]
      simp
      omega
    rw [wide]
    refine .one ?_ ?_
    · rw [ne_eq, ← UInt8.toNat_inj]
      simp
      omega
    · rw [UInt8.lt_iff_toNat_lt]
      simp
      omega
  split
  · have lead := lead_two (v / 64 % 32) (Nat.mod_lt _ (by decide))
    have sequence := Utf8Sequence.two lead.1 (tail v).1
    rw [lead.2, (tail v).2, bits_two _ (Nat.mod_lt _ (by decide))] at sequence
    have whole : v / 64 % 32 * 64 + v % 64 = v := by omega
    rwa [whole, ← back] at sequence
  split
  · have lead := lead_three (v / 4096 % 16) (Nat.mod_lt _ (by decide))
    have sequence := Utf8Sequence.three lead.1 (tail (v / 64)).1 (tail v).1
    rw [lead.2, (tail (v / 64)).2, (tail v).2,
      bits_three _ (Nat.mod_lt _ (by decide)) (Nat.mod_lt _ (by decide))] at sequence
    have whole : v / 4096 % 16 * 4096 + v / 64 % 64 * 64 + v % 64 = v := by omega
    rwa [whole, ← back] at sequence
  · have lead := lead_four (v / 262144 % 8) (Nat.mod_lt _ (by decide))
    have sequence := Utf8Sequence.four lead.1 (tail (v / 4096)).1 (tail (v / 64)).1 (tail v).1
    rw [lead.2, (tail (v / 4096)).2, (tail (v / 64)).2, (tail v).2,
      bits_four _ (Nat.mod_lt _ (by decide))
      (Nat.mod_lt _ (by decide)) (Nat.mod_lt _ (by decide))] at sequence
    have whole :
        v / 262144 % 8 * 262144 + v / 4096 % 64 * 4096 + v / 64 % 64 * 64 + v % 64 = v := by
      omega
    rwa [whole, ← back] at sequence

theorem decodes_char (present : c ≠ Char.ofNat 0) (rest : Bytes) :
    Decodes (String.utf8EncodeChar c ++ rest) c.val rest where
  present := by
    obtain ⟨a, more, spelled, nonzero⟩ := (utf8Sequence_of_char present).head
    exact ⟨a, more ++ rest, by rw [spelled, List.cons_append], nonzero⟩
  decoded beyond := by
    rw [List.append_assoc]
    exact (utf8Sequence_of_char present).decode _

/-- An encoded text is decoded to its characters. -/
theorem scan_utf8Encode (chars : List Char) (text : ∀ c ∈ chars, c ≠ Char.ofNat 0) :
    Scan Decodes (utf8Encode chars) (chars.map Char.val) [] := by
  induction chars with
  | nil => exact .here []
  | cons c rest ih =>
    exact .step (decodes_char (text c (.head rest)) _)
      (ih fun other member => text other (.tail c member))

/-- Encoded text comes back character by character. On every string that ends in a zero,
well formed or not, a call before the terminator uses up a byte at least, neither reads nor
passes what lies beyond the terminator, and the loop of such calls ends at it. -/
theorem utf8DecodeNext_exact :
    (∀ chars : List Char, (∀ c ∈ chars, c ≠ Char.ofNat 0) → ∀ beyond,
      decodeWhile ((utf8Encode chars).length + 1) (utf8Encode chars ++ 0 :: beyond) =
        some (chars.map Char.val, 0 :: beyond)) ∧
    ∀ content : Bytes, (∀ byte ∈ content, byte ≠ 0) →
      (∀ cursor, cursor <:+ content → cursor ≠ [] → ∃ codepoint left,
        left <:+ cursor ∧ left.length < cursor.length ∧
        ∀ beyond, utf8DecodeNext (cursor ++ 0 :: beyond) = some (codepoint, left ++ 0 :: beyond)) ∧
      ∃ codepoints, ∀ beyond,
        decodeWhile (content.length + 1) (content ++ 0 :: beyond) =
          some (codepoints, 0 :: beyond) := by
  refine ⟨fun chars text beyond => ?_, fun content text => ⟨fun cursor suffix nonempty => ?_, ?_⟩⟩
  · have scan := scan_utf8Encode chars text
    exact decodeWhile_scan scan
      (by simpa using Nat.lt_succ_of_le (Decodes.lawful.length_le scan)) beyond
  · obtain ⟨a, rest, rfl⟩ := List.exists_cons_of_ne_nil nonempty
    obtain ⟨codepoint, left, inside, decoded⟩ :=
      utf8DecodeNext_inside (text a (suffix.mem (.head rest))) rest
    exact ⟨codepoint, left, inside.trans (List.suffix_cons a rest),
      Nat.lt_succ_of_le inside.length_le, decoded⟩
  · obtain ⟨codepoints, scan⟩ := Decodes.exists_scan text
    exact ⟨codepoints,
      decodeWhile_scan scan (by simpa using Nat.lt_succ_of_le (Decodes.lawful.length_le scan))⟩

/-- A name with a three byte letter, and the same letter cut short. -/
theorem utf8DecodeNext_exact_letter :
    decodeWhile ((utf8Encode ['N', 'ễ']).length + 1) (utf8Encode ['N', 'ễ'] ++ [0]) =
      some (['N', 'ễ'].map Char.val, [0]) ∧
    ∃ codepoints, ∀ beyond,
      decodeWhile 3 ([0xE1, 0xBB] ++ 0 :: beyond) = some (codepoints, 0 :: beyond) := by
  have letters : ∀ c ∈ ['N', 'ễ'], c ≠ Char.ofNat 0 :=
    List.forall_mem_cons.mpr ⟨by decide, List.forall_mem_singleton.mpr (by decide)⟩
  have bytes : ∀ byte ∈ ([0xE1, 0xBB] : Bytes), byte ≠ 0 :=
    List.forall_mem_cons.mpr ⟨by decide, List.forall_mem_singleton.mpr (by decide)⟩
  exact ⟨utf8DecodeNext_exact.1 ['N', 'ễ'] letters [],
    (utf8DecodeNext_exact.2 [0xE1, 0xBB] bytes).2⟩

end Kiosk.Protocol
