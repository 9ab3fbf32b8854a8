import Kiosk.Protocol.Utf8Decode

/-! Encoded texts cut at a byte: where the cut falls between two characters and where it
leaves a broken one. -/
namespace Kiosk.Protocol

open Library Library.PieceScan

@[simp] theorem utf8Encode_nil : utf8Encode [] = [] := rfl

@[simp] theorem utf8Encode_cons (c : Char) (rest : List Char) :
    utf8Encode (c :: rest) = String.utf8EncodeChar c ++ utf8Encode rest := rfl

@[simp] theorem utf8Encode_append (front rest : List Char) :
    utf8Encode (front ++ rest) = utf8Encode front ++ utf8Encode rest := List.flatMap_append

theorem utf8EncodeChar_zero : String.utf8EncodeChar (Char.ofNat 0) = [0] := by decide

/-- No encoded character is the beginning of another. -/
theorem utf8EncodeChar_cancel {c c' : Char}
    (same : String.utf8EncodeChar c ++ rest = String.utf8EncodeChar c' ++ rest') :
    c = c' ∧ rest = rest' := by
  by_cases zero : c = Char.ofNat 0 <;> by_cases zero' : c' = Char.ofNat 0
  · subst zero zero'
    exact ⟨rfl, List.append_cancel_left same⟩
  · obtain ⟨a, more, spelled, present⟩ := (utf8Sequence_of_char zero').head
    rw [zero, utf8EncodeChar_zero, spelled] at same
    exact absurd (List.cons.inj same).1.symm present
  · obtain ⟨a, more, spelled, present⟩ := (utf8Sequence_of_char zero).head
    rw [zero', utf8EncodeChar_zero, spelled] at same
    exact absurd (List.cons.inj same).1 present
  · have one := (utf8Sequence_of_char zero).decode rest
    rw [same, (utf8Sequence_of_char zero').decode rest', Option.some.injEq, Prod.mk.injEq] at one
    exact ⟨Char.ext one.1.symm, one.2.symm⟩

theorem utf8Encode_injective {chars chars' : List Char}
    (same : utf8Encode chars = utf8Encode chars') : chars = chars' := by
  induction chars generalizing chars' with
  | nil =>
    cases chars' with
    | nil => rfl
    | cons c rest =>
      exact absurd (List.append_eq_nil_iff.mp same.symm).1 String.utf8EncodeChar_ne_nil
  | cons c rest ih =>
    cases chars' with
    | nil => exact absurd (List.append_eq_nil_iff.mp same).1 String.utf8EncodeChar_ne_nil
    | cons c' rest' =>
      obtain ⟨rfl, tail⟩ := utf8EncodeChar_cancel same
      rw [ih tail]

private theorem IsTail.ne_space (tail : IsTail b) : b ≠ 32 := by
  rintro rfl
  exact absurd tail.1 (by decide)

private theorem IsLead.ne_space (lead : IsLead a mask pattern) : a ≠ 32 := by
  rintro rfl
  exact lead.high (by decide)

/-- Only a space has the byte of a space in it. -/
theorem utf8EncodeChar_ne_space (other : c ≠ ' ') :
    ∀ byte ∈ String.utf8EncodeChar c, byte ≠ 32 := by
  by_cases zero : c = Char.ofNat 0
  · rw [zero, utf8EncodeChar_zero]
    exact List.forall_mem_singleton.mpr (by decide)
  · have sequence := utf8Sequence_of_char zero
    have different : c.val ≠ 32 := fun space => other (Char.ext space)
    generalize String.utf8EncodeChar c = bytes at sequence
    generalize c.val = codepoint at sequence different
    cases sequence with
    | one =>
      refine List.forall_mem_singleton.mpr ?_
      rintro rfl
      exact different rfl
    | two lead tail => simp [lead.ne_space, tail.ne_space]
    | three lead tail tail' => simp [lead.ne_space, tail.ne_space, tail'.ne_space]
    | four lead tail tail' tail'' =>
      simp [lead.ne_space, tail.ne_space, tail'.ne_space, tail''.ne_space]

/-- What is left of a character by a cut inside it. -/
structure Broken (c : Char) (front : Bytes) : Prop where
  started : front ≠ []
  short : ∃ cut, cut ≠ [] ∧ String.utf8EncodeChar c = front ++ cut

theorem Broken.present (broken : Broken c front) : c ≠ Char.ofNat 0 := by
  rintro rfl
  obtain ⟨cut, some_, spelled⟩ := broken.short
  rw [utf8EncodeChar_zero] at spelled
  rcases List.append_eq_singleton_iff.mp spelled.symm with ⟨empty, _⟩ | ⟨_, empty⟩
  · exact broken.started empty
  · exact some_ empty

/-- A broken character before a byte that starts a new one is read as one replacement
character. -/
theorem Broken.decode (broken : Broken c front) (other : ¬ IsTail next) (rest : Bytes) :
    utf8DecodeNext (front ++ next :: rest) = some (0xFFFD, next :: rest) := by
  obtain ⟨cut, some_, spelled⟩ := broken.short
  have sequence := utf8Sequence_of_char broken.present
  rw [spelled] at sequence
  exact sequence.decode_truncated broken.started some_ other rest

theorem Broken.head (broken : Broken c front) : ∃ a rest, front = a :: rest ∧ a ≠ 0 := by
  obtain ⟨cut, -, spelled⟩ := broken.short
  obtain ⟨a, more, whole, present⟩ := (utf8Sequence_of_char broken.present).head
  obtain ⟨b, rest, rfl⟩ := List.exists_cons_of_ne_nil broken.started
  rw [spelled, List.cons_append] at whole
  exact ⟨b, rest, rfl, (List.cons.inj whole).1 ▸ present⟩

theorem Broken.utf8Size (broken : Broken c front) : 1 < c.utf8Size := by
  obtain ⟨cut, some_, spelled⟩ := broken.short
  have := List.length_pos_iff.mpr broken.started
  have := List.length_pos_iff.mpr some_
  rw [← String.length_utf8EncodeChar, spelled, List.length_append]
  omega

theorem Broken.length_lt (broken : Broken c front) :
    front.length < (String.utf8EncodeChar c).length := by
  obtain ⟨cut, some_, spelled⟩ := broken.short
  have := List.length_pos_iff.mpr some_
  rw [spelled, List.length_append]
  omega

/-- The first byte of a longer character on its own. -/
theorem Broken.first (long : 1 < c.utf8Size) : Broken c ((String.utf8EncodeChar c).take 1) where
  started := by
    rw [ne_eq, List.take_eq_nil_iff]
    simp [String.utf8EncodeChar_ne_nil]
  short := by
    refine ⟨(String.utf8EncodeChar c).drop 1, ?_, (List.take_append_drop 1 _).symm⟩
    rw [ne_eq, List.drop_eq_nil_iff, String.length_utf8EncodeChar]
    omega

/-- Text with a broken character is no encoding. -/
theorem Broken.not_encoded (broken : Broken c front) (other : ¬ IsTail next) (rest : Bytes)
    (chars shown : List Char) :
    utf8Encode chars ++ (front ++ next :: rest) ≠ utf8Encode shown := by
  intro same
  induction chars generalizing shown with
  | nil =>
    cases shown with
    | nil => exact broken.started (List.append_eq_nil_iff.mp (List.append_eq_nil_iff.mp same).2).1
    | cons c' shown =>
      have present : c' ≠ Char.ofNat 0 := by
        rintro rfl
        obtain ⟨a, more, rfl, nonzero⟩ := broken.head
        rw [utf8Encode_cons, utf8EncodeChar_zero] at same
        exact nonzero (List.cons.inj same).1
      have decoded := broken.decode other rest
      rw [utf8Encode_nil, List.nil_append, utf8Encode_cons] at same
      rw [same, (utf8Sequence_of_char present).decode, Option.some.injEq, Prod.mk.injEq] at decoded
      rw [decoded.2] at same
      obtain ⟨cut, some_, spelled⟩ := broken.short
      rw [List.append_cancel_right same, ← List.append_nil (String.utf8EncodeChar c)] at spelled
      exact some_ (utf8EncodeChar_cancel spelled).2.symm
  | cons c' rest ih =>
    cases shown with
    | nil =>
      exact String.utf8EncodeChar_ne_nil
        (List.append_eq_nil_iff.mp (List.append_eq_nil_iff.mp same).1).1
    | cons d shown =>
      rw [utf8Encode_cons, utf8Encode_cons, List.append_assoc] at same
      exact ih shown (utf8EncodeChar_cancel same).2

/-- A cut falls between two characters or breaks one. -/
theorem cut_cases (chars : List Char) (size : Nat) (inside : size ≤ (utf8Encode chars).length) :
    (∃ i ≤ chars.length, (utf8Encode chars).take size = utf8Encode (chars.take i)) ∨
    ∃ (i : Nat) (here : i < chars.length) (front : Bytes), Broken chars[i] front ∧
      (utf8Encode chars).take size = utf8Encode (chars.take i) ++ front := by
  induction chars generalizing size with
  | nil => exact .inl ⟨0, le_rfl, by simp⟩
  | cons c rest ih =>
    rw [utf8Encode_cons]
    by_cases none : size = 0
    · exact .inl ⟨0, Nat.zero_le _, by simp [none]⟩
    by_cases short : size < (String.utf8EncodeChar c).length
    · refine .inr ⟨0, Nat.succ_pos _, (String.utf8EncodeChar c).take size,
        ⟨?_, (String.utf8EncodeChar c).drop size, ?_, ?_⟩, ?_⟩
      · simp [none, String.utf8EncodeChar_ne_nil]
      · simpa using short
      · exact (List.take_append_drop size _).symm
      · rw [List.take_append_of_le_length short.le]
        simp
    · obtain ⟨more, rfl⟩ := Nat.exists_eq_add_of_le (Nat.le_of_not_lt short)
      rw [utf8Encode_cons, List.length_append] at inside
      rw [List.take_length_add_append]
      rcases ih more (by omega) with ⟨i, here, cut⟩ | ⟨i, here, front, broken, cut⟩
      · exact .inl ⟨i + 1, Nat.succ_le_succ here, by simp [cut]⟩
      · exact .inr ⟨i + 1, Nat.succ_lt_succ here, front, broken, by simp [cut]⟩

theorem utf8Encode_take (chars : List Char) (i : Nat) :
    (utf8Encode chars).take (utf8Encode (chars.take i)).length = utf8Encode (chars.take i) := by
  have split : utf8Encode chars = utf8Encode (chars.take i) ++ utf8Encode (chars.drop i) := by
    rw [← utf8Encode_append, List.take_append_drop]
  rw [split, List.take_left]

theorem utf8Encode_take_succ (chars : List Char) (here : i < chars.length) :
    utf8Encode (chars.take (i + 1)) =
      utf8Encode (chars.take i) ++ String.utf8EncodeChar chars[i] := by
  rw [← List.take_concat_get here, List.concat_eq_append, utf8Encode_append]
  simp

theorem utf8Encode_take_le (chars : List Char) (i : Nat) :
    (utf8Encode (chars.take i)).length ≤ (utf8Encode chars).length := by
  rw [← utf8Encode_take chars i]
  exact List.length_take_le' _ _

/-- A longer part of a text has more bytes. -/
theorem utf8Encode_take_lt {chars : List Char} (less : i < j) (inside : j ≤ chars.length) :
    (utf8Encode (chars.take i)).length < (utf8Encode (chars.take j)).length := by
  have split : chars.take j = chars.take i ++ (chars.drop i).take (j - i) := by
    rw [← List.take_add]
    congr 1
    omega
  rw [split, utf8Encode_append, List.length_append]
  have some_ : (chars.drop i).take (j - i) ≠ [] := by
    rw [ne_eq, List.take_eq_nil_iff, List.drop_eq_nil_iff]
    omega
  obtain ⟨c, rest, spelled⟩ := List.exists_cons_of_ne_nil some_
  rw [spelled, utf8Encode_cons, List.length_append, String.length_utf8EncodeChar]
  have := c.utf8Size_pos
  omega

/-- A text as a C string: what lies before its first zero is read, and shows the code points
before theirs. -/
theorem scan_before_zero (chars : List Char) (scan : Scan Decodes tail codepoints []) :
    ∃ content beyond shown,
        utf8Encode chars ++ tail ++ [0] = content ++ 0 :: beyond ∧ Scan Decodes content shown [] ∧
      shown.takeWhile (· ≠ 0) = (chars.map Char.val ++ codepoints).takeWhile (· ≠ 0) := by
  induction chars with
  | nil => exact ⟨tail, [], codepoints, by simp, scan, rfl⟩
  | cons c rest ih =>
    by_cases zero : c = Char.ofNat 0
    · exact ⟨[], utf8Encode rest ++ tail ++ [0], [], by simp [zero, utf8EncodeChar_zero], .here [],
        by simp [zero]⟩
    · obtain ⟨content, beyond, shown, spelled, reads, same⟩ := ih
      refine ⟨String.utf8EncodeChar c ++ content, beyond, c.val :: shown, ?_,
        .step (decodes_char zero content) reads, ?_⟩
      · simpa using spelled
      · have nonzero : c.val ≠ 0 := fun value => zero (Char.ext value)
        simpa [nonzero] using same

end Kiosk.Protocol
