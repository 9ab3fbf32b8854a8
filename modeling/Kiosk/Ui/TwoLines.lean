import Kiosk.Ui.TextFit

/-! `Renderer::wrap_and_ellipsize_two_lines` of `ui/renderer.cpp`. -/
namespace Kiosk.Ui

open Library Library.PieceScan Protocol

/-- The loop over the spaces of a text: the last one that leaves a first line which fits. -/
def spaceFrom (fonts : VnFonts) (text : Bytes) (fontSize : UInt8) (limit : UInt16) :
    Nat → Nat → Option Nat → Option (Option Nat)
  | 0, _, _ => none
  | rounds + 1, i, spaceAt =>
    if i < text.length then
      if text[i]? = some 32 then
        (measureTextWidth fonts (text.take i) fontSize).bind fun width =>
          if width ≤ limit then spaceFrom fonts text fontSize limit rounds (i + 1) (some i)
            else some spaceAt
      else spaceFrom fonts text fontSize limit rounds (i + 1) spaceAt
    else some spaceAt

def splitAtSpace (text : Bytes) : Option Nat → Bytes × Bytes
  | some spaceAt => (text.take spaceAt, text.drop (spaceAt + 1))
  | none => (text, [])

def wrapAndEllipsizeTwoLines (fonts : VnFonts) (text : Bytes) (fontSize : UInt8) (maxW : Int16) :
    Option (Bytes × Bytes) :=
  (spaceFrom fonts text fontSize maxW.toUInt16 (text.length + 1) 0 none).bind fun spaceAt =>
    let (line1, line2) := splitAtSpace text spaceAt
    (ellipsizeToWidth fonts line1 fontSize maxW).bind fun line1 =>
      (ellipsizeToWidth fonts line2 fontSize maxW).map fun line2 => (line1, line2)

variable (fonts : VnFonts) (fontSize : UInt8) (maxW : Int16)

/-- Where a text is divided: at the last space before which no beginning of the text up to a
space measures as too wide, or not at all. -/
inductive Divides (chars : List Char) : List Char → List Char → Prop where
  | atSpace (spelled : chars = first ++ ' ' :: second)
      (fits : ∀ front back,
        first ++ [' '] = front ++ ' ' :: back → MeasuresFit maxW (charsWidth fonts fontSize front))
      (next : ∀ front back, second = front ++ ' ' :: back → ' ' ∉ front →
        ¬ MeasuresFit maxW (charsWidth fonts fontSize (first ++ ' ' :: front))) :
      Divides chars first second
  | nowhere (next : ∀ front back, chars = front ++ ' ' :: back → ' ' ∉ front →
        ¬ MeasuresFit maxW (charsWidth fonts fontSize front)) :
      Divides chars chars []

section Divide

variable {fonts fontSize maxW}

/-- The space the loop has kept is the last one it has passed. -/
private def LastSpace (done : List Char) : Option Nat → Prop
  | none => ' ' ∉ done
  | some spaceAt =>
    ∃ first second,
      done = first ++ ' ' :: second ∧ ' ' ∉ second ∧ spaceAt = (utf8Encode first).length

private theorem spaceFrom_skip {limit : UInt16} (other : ∀ byte ∈ bytes, byte ≠ 32) (whole : Bytes)
    (here : whole.drop i = bytes ++ rest) (spaceAt : Option Nat) :
    spaceFrom fonts whole fontSize limit (rounds + bytes.length) i spaceAt =
      spaceFrom fonts whole fontSize limit rounds (i + bytes.length) spaceAt := by
  induction bytes generalizing i with
  | nil => rfl
  | cons byte bytes ih =>
    have at_ : whole[i]? = some byte := by
      rw [← Nat.add_zero i, ← List.getElem?_drop, here]
      rfl
    have inside : i < whole.length := (List.getElem?_eq_some_iff.mp at_).1
    have after : whole.drop (i + 1) = bytes ++ rest := by rw [← List.drop_drop, here]; rfl
    have plain : ¬ whole[i]? = some 32 := by
      rw [at_, Option.some.injEq]
      exact other byte (.head _)
    rw [List.length_cons, ← Nat.add_assoc, spaceFrom, if_pos inside, if_neg plain,
      ih (fun other' member => other other' (.tail byte member)) after]
    congr 1
    omega

private theorem MeasuresFit.up_to_space
    (fits : ∀ front back,
      done = front ++ ' ' :: back → MeasuresFit maxW (charsWidth fonts fontSize front))
    (here : MeasuresFit maxW (charsWidth fonts fontSize done)) :
    ∀ front back, done ++ [' '] = front ++ ' ' :: back →
      MeasuresFit maxW (charsWidth fonts fontSize front) := by
  intro front back spelled
  rcases List.eq_nil_or_concat back with rfl | ⟨back, last, rfl⟩
  · rw [(List.append_inj' spelled rfl).1] at here
    exact here
  · rw [List.concat_eq_append, ← List.cons_append, ← List.append_assoc] at spelled
    exact fits front back (List.append_inj' spelled rfl).1

/-- A first space that is not in a part of the text comes after it. -/
private theorem space_after (spelled : done ++ rest = front ++ ' ' :: back) (passed : ' ' ∉ done) :
    ∃ more, front = done ++ more ∧ rest = more ++ ' ' :: back := by
  rcases List.append_eq_append_iff.mp spelled with ⟨more, rfl, after⟩ | ⟨more, rfl, after⟩
  · exact ⟨more, rfl, after⟩
  · cases more with
    | nil => exact ⟨[], by simp, by simpa using after.symm⟩
    | cons c more =>
      rw [List.cons_append, List.cons.injEq] at after
      exact absurd (List.mem_append_right front (after.1 ▸ .head more)) passed

/-- What the last space that was passed divides the text into, when the loop goes no further
than `done`. -/
private theorem divides_at (last : LastSpace done spaceAt)
    (fits : ∀ front back,
      done = front ++ ' ' :: back → MeasuresFit maxW (charsWidth fonts fontSize front))
    (next : ∀ front back, rest = front ++ ' ' :: back → ' ' ∉ front →
      ¬ MeasuresFit maxW (charsWidth fonts fontSize (done ++ front))) :
    ∃ first second, Divides fonts fontSize maxW (done ++ rest) first second ∧
      splitAtSpace (utf8Encode (done ++ rest)) spaceAt = (utf8Encode first, utf8Encode second) := by
  cases spaceAt with
  | none =>
    refine ⟨done ++ rest, [], .nowhere fun front back spelled _ => ?_, rfl⟩
    obtain ⟨more, rfl, after⟩ := space_after spelled last
    exact next more back after fun space => by simp_all
  | some spaceAt =>
    obtain ⟨first, second, rfl, passed, rfl⟩ := last
    refine ⟨first, second ++ rest,
      .atSpace (by simp) (fun front back spelled => ?_) fun front back spelled apart => ?_, ?_⟩
    · refine fits front (back ++ second) ?_
      rw [← List.cons_append, ← List.append_assoc, ← spelled, List.append_assoc,
        List.singleton_append]
    · obtain ⟨more, rfl, after⟩ := space_after spelled passed
      have wide := next more back after fun space => apart (List.mem_append_right second space)
      rwa [List.append_assoc, List.cons_append] at wide
    · have whole :
          utf8Encode (first ++ ' ' :: second ++ rest) =
          utf8Encode first ++ ([32] ++ utf8Encode (second ++ rest)) := by
        simp
        rfl
      rw [splitAtSpace, whole, List.take_left, List.drop_length_add_append]
      rfl

private theorem LastSpace.snoc (last : LastSpace done spaceAt) (other : c ≠ ' ') :
    LastSpace (done ++ [c]) spaceAt := by
  cases spaceAt with
  | none =>
    intro space
    rcases List.mem_append.mp space with passed | now
    · exact last passed
    · exact other (List.mem_singleton.mp now).symm
  | some spaceAt =>
    obtain ⟨first, second, rfl, passed, here⟩ := last
    exact ⟨first, second ++ [c], by simp, by simpa [Ne.symm other] using passed, here⟩

private theorem fits_snoc
    (fits : ∀ front back,
      done = front ++ ' ' :: back → MeasuresFit maxW (charsWidth fonts fontSize front))
    (other : c ≠ ' ') :
    ∀ front back, done ++ [c] = front ++ ' ' :: back →
      MeasuresFit maxW (charsWidth fonts fontSize front) := by
  intro front back spelled
  rcases List.eq_nil_or_concat back with rfl | ⟨back, last, rfl⟩
  · exact absurd (List.singleton_inj.mp (List.append_inj' spelled rfl).2) other
  · rw [List.concat_eq_append, ← List.cons_append, ← List.append_assoc] at spelled
    exact fits front back (List.append_inj' spelled rfl).1

/-- The loop from the end of `done` on. -/
private theorem spaceFrom_divides (chars : List Char) (spelled : chars = done ++ rest)
    (last : LastSpace done spaceAt) (fits : ∀ front back,
      done = front ++ ' ' :: back → MeasuresFit maxW (charsWidth fonts fontSize front))
    (enough : (utf8Encode rest).length < rounds) :
    ∃ kept first second,
          spaceFrom fonts (utf8Encode chars) fontSize maxW.toUInt16 rounds
          (utf8Encode done).length spaceAt =
        some kept ∧ Divides fonts fontSize maxW chars first second ∧
      splitAtSpace (utf8Encode chars) kept = (utf8Encode first, utf8Encode second) := by
  induction rest generalizing done spaceAt rounds with
  | nil =>
    obtain ⟨rounds, rfl⟩ := Nat.exists_eq_add_of_lt enough
    obtain ⟨first, second, divides, split⟩ :
        ∃ first second, Divides fonts fontSize maxW (done ++ []) first second ∧ _ :=
      divides_at last fits (by simp)
    rw [← spelled] at divides split
    have ended : ¬ (utf8Encode done).length < (utf8Encode chars).length := by simp [spelled]
    exact ⟨spaceAt, first, second, by rw [spaceFrom, if_neg ended], divides, split⟩
  | cons c rest ih =>
    have here : (utf8Encode chars).drop (utf8Encode done).length =
        String.utf8EncodeChar c ++ utf8Encode rest := by
      rw [spelled, utf8Encode_append, List.drop_left, utf8Encode_cons]
    have next : chars = done ++ [c] ++ rest := by simp [spelled]
    by_cases space : c = ' '
    · subst space
      obtain ⟨rounds, rfl⟩ := Nat.exists_eq_succ_of_ne_zero (by omega : rounds ≠ 0)
      have at_ : (utf8Encode chars)[(utf8Encode done).length]? = some 32 := by
        rw [← Nat.add_zero (utf8Encode done).length, ← List.getElem?_drop, here]
        rfl
      have before : (utf8Encode chars).take (utf8Encode done).length = utf8Encode done := by
        rw [spelled, utf8Encode_append, List.take_left]
      rw [spaceFrom, if_pos (List.getElem?_eq_some_iff.mp at_).1, if_pos at_, before, measure_chars,
        Option.bind_some]
      by_cases measures : MeasuresFit maxW (charsWidth fonts fontSize done)
      · rw [if_pos (show narrow (int32 (charsWidth fonts fontSize done)) ≤
          maxW.toUInt16 from measures)]
        have further := @ih (done ++ [' ']) (some (utf8Encode done).length) rounds next
          ⟨done, [], rfl, List.not_mem_nil, rfl⟩ (MeasuresFit.up_to_space fits measures)
            (Nat.lt_of_succ_lt_succ enough)
        have length : (utf8Encode (done ++ [' '])).length = (utf8Encode done).length + 1 := by
          rw [utf8Encode_append, List.length_append]
          rfl
        rwa [length] at further
      · rw [if_neg (show ¬ narrow (int32 (charsWidth fonts fontSize done)) ≤
          maxW.toUInt16 from measures)]
        obtain ⟨first, second, divides, split⟩ :
            ∃ first second, Divides fonts fontSize maxW (done ++ ' ' :: rest) first second ∧ _ :=
          divides_at last fits fun front back cut apart => by
            cases front with
            | nil => simpa using measures
            | cons c front => simp_all
        rw [← spelled] at divides split
        exact ⟨spaceAt, first, second, rfl, divides, split⟩
    · rw [utf8Encode_cons, List.length_append] at enough
      obtain ⟨rounds, rfl⟩ :=
        Nat.exists_eq_add_of_le (Nat.le_of_lt (Nat.lt_of_le_of_lt (Nat.le_add_right _ _) enough))
      rw [Nat.add_comm, spaceFrom_skip (utf8EncodeChar_ne_space space) _ here]
      have further :=
        @ih (done ++ [c]) spaceAt rounds next (last.snoc space) (fits_snoc fits space) (by omega)
      simpa using further

/-- The loop ends, with a text divided at a space or not at all. -/
theorem exists_divides (fonts : VnFonts) (fontSize : UInt8) (maxW : Int16) (chars : List Char) :
    ∃ kept first second,
      spaceFrom fonts (utf8Encode chars) fontSize maxW.toUInt16 ((utf8Encode chars).length + 1) 0
        none = some kept ∧
      Divides fonts fontSize maxW chars first second ∧
      splitAtSpace (utf8Encode chars) kept = (utf8Encode first, utf8Encode second) :=
  @spaceFrom_divides fonts fontSize maxW [] chars none _ chars rfl List.not_mem_nil (by simp)
    (Nat.lt_succ_self _)

end Divide

/-- A line of a wrapped text: whole characters, within the limit unless one character of the
text with the ellipsis is not. -/
def WholeLine (chars : List Char) (line : Bytes) : Prop :=
  ∃ shown : List Char, line = utf8Encode shown ∧
    (Fits maxW (charsWidth fonts fontSize shown) ∨ ¬ Fits maxW (cutWidth fonts fontSize chars 1))

/-- The text fits, or is cut between characters, or measures as fitting where no character
fits with the ellipsis. -/
def KeepsLine (chars : List Char) : Prop :=
  Fits maxW (charsWidth fonts fontSize chars) ∨ CutBetween fonts fontSize maxW chars ∨
    (MeasuresFit maxW (charsWidth fonts fontSize chars) ∧
      ¬ Fits maxW (cutWidth fonts fontSize chars 1))

section Lines

variable {fonts fontSize maxW}

private theorem wholeLine_encoded (chars shown : List Char) :
    WholeLine fonts fontSize maxW chars (utf8Encode shown) ↔
    Fits maxW (charsWidth fonts fontSize shown) ∨
      ¬ Fits maxW (cutWidth fonts fontSize chars 1) := by
  constructor
  · rintro ⟨other, same, within⟩
    rwa [utf8Encode_injective same]
  · intro within
    exact ⟨shown, rfl, within⟩

/-- A text is cut between characters exactly where the loop does not break one. -/
private theorem wholeLine_cut (chars : List Char)
    (wide : ¬ MeasuresFit maxW (charsWidth fonts fontSize chars))
    (last : LastFit fonts fontSize maxW.toUInt16 (utf8Encode chars) size) :
    WholeLine fonts fontSize maxW chars ((utf8Encode chars).take size ++ ellipsis) ↔
      CutBetween fonts fontSize maxW chars := by
  rcases cut_cases chars size last.inside with ⟨i, inside, cut⟩ | ⟨i, here, front, broken, cut⟩
  · have positive : 0 < i := by
      by_contra none
      obtain rfl : i = 0 := by omega
      have size_ := congrArg List.length cut
      rw [List.length_take, min_eq_left last.inside] at size_
      exact last.positive.ne' size_
    have stops := (stopsAfter_iff last positive inside).mp cut
    rw [cut, ← utf8Encode_cut, wholeLine_encoded, charsWidth_cut]
    constructor
    · intro within
      exact ⟨wide, i, stops, within⟩
    · rintro ⟨_, j, stops', within⟩
      have same := utf8Encode_injective
        (cut.symm.trans ((stopsAfter_iff last stops'.positive stops'.inside).mpr stops'))
      rwa [cutWidth, same, ← cutWidth]
  · have unlike (shown : List Char) :
        utf8Encode (chars.take i) ++ (front ++ ellipsis) ≠ utf8Encode shown :=
      broken.not_encoded (by decide) _ _ shown
    rw [cut, List.append_assoc]
    constructor
    · rintro ⟨shown, same, _⟩
      exact absurd same (unlike shown)
    · rintro ⟨_, j, stops, _⟩
      have between := cut.symm.trans ((stopsAfter_iff last stops.positive stops.inside).mpr stops)
      refine absurd ?_ (unlike (chars.take j ++ ['.', '.', '.']))
      rw [utf8Encode_cut, ← between, List.append_assoc]

private theorem exists_wholeLine_iff (positive : 0 < maxW) (chars : List Char) :
    ∃ line, ellipsizeToWidth fonts (utf8Encode chars) fontSize maxW = some line ∧
      (WholeLine fonts fontSize maxW chars line ↔ KeepsLine fonts fontSize maxW chars) := by
  rcases @ellipsizeToWidth_cases fonts fontSize maxW positive
    chars with ⟨measures, result⟩ | ⟨wide, size, last, result⟩
  · refine ⟨_, result, ?_⟩
    have noCut : ¬ CutBetween fonts fontSize maxW chars := fun between => between.1 measures
    simp only [wholeLine_encoded, KeepsLine, noCut, measures, true_and, false_or]
  · refine ⟨_, result, ?_⟩
    have tooWide : ¬ Fits maxW (charsWidth fonts fontSize chars) :=
      fun fits => wide (fits.measuresFit positive)
    simp only [wholeLine_cut chars wide last, KeepsLine, tooWide, wide, false_and,
      or_false, false_or]

end Lines

/-- Both calls end. The cut text is as it should be exactly where its widths say so, and each
line of a wrapped text exactly where those of its part do. -/
theorem wrapAndEllipsizeTwoLines_iff (positive : 0 < maxW) (chars : List Char) :
    (∃ line, ellipsizeToWidth fonts (utf8Encode chars) fontSize maxW = some line ∧
      (Ellipsized fonts fontSize maxW chars line ↔
        Fits maxW (charsWidth fonts fontSize chars) ∨ CutBetween fonts fontSize maxW chars ∨
        (MeasuresFit maxW (charsWidth fonts fontSize chars) ∧
          ¬ Fits maxW (cutWidth fonts fontSize chars 1) ∧
          ∃ i < chars.length, chars = chars.take (i + 1) ++ ['.', '.', '.']))) ∧
    ∃ first second line1 line2, Divides fonts fontSize maxW chars first second ∧
      wrapAndEllipsizeTwoLines fonts (utf8Encode chars) fontSize maxW = some (line1, line2) ∧
      (WholeLine fonts fontSize maxW first line1 ∧ WholeLine fonts fontSize maxW second line2 ↔
        KeepsLine fonts fontSize maxW first ∧ KeepsLine fonts fontSize maxW second) := by
  refine ⟨ellipsizeToWidth_ellipsized_iff positive chars, ?_⟩
  obtain ⟨kept, first, second, found, divides, split⟩ := exists_divides fonts fontSize maxW chars
  obtain ⟨line1, result1, whole1⟩ := @exists_wholeLine_iff fonts fontSize maxW positive first
  obtain ⟨line2, result2, whole2⟩ := @exists_wholeLine_iff fonts fontSize maxW positive second
  refine ⟨first, second, line1, line2, divides, ?_, and_congr whole1 whole2⟩
  rw [wrapAndEllipsizeTwoLines, found, Option.bind_some, split]
  simp only [result1, result2, Option.bind_some, Option.map_some]

/-- Rows of the table for the 16 pixel size. -/
def bodyRows : VnFontData where
  glyphs := [
    { codepoint := 32, bitmapOffset := 0, width := 4, height := 0, advance := 4, xOffset := 0,
      yOffset := 0 },
    { codepoint := 46, bitmapOffset := 148, width := 4, height := 2, advance := 4, xOffset := 0,
      yOffset := -2 },
    { codepoint := 7877, bitmapOffset := 2779, width := 9, height := 15, advance := 9, xOffset := 0,
      yOffset := -15 }]
  ascent := 15
  increasing := by simp [SortedTable.Increasing, VnGlyph.key]
  countLt := by decide

def bodyFonts : VnFonts := ⟨bodyRows, bodyRows, bodyRows⟩

/-- Two words of two letters each: in 31 pixels one stands unbroken before the ellipsis,
and both on lines of their own. -/
theorem wrapAndEllipsizeTwoLines_iff_letters :
    (∃ line, ellipsizeToWidth bodyFonts (utf8Encode ['ễ', 'ễ', ' ', 'ễ', 'ễ']) 2 31 = some line ∧
      (Ellipsized bodyFonts 2 31 ['ễ', 'ễ', ' ', 'ễ', 'ễ'] line ↔
        Fits 31 (charsWidth bodyFonts 2 ['ễ', 'ễ', ' ', 'ễ', 'ễ']) ∨
        CutBetween bodyFonts 2 31 ['ễ', 'ễ', ' ', 'ễ', 'ễ'] ∨
        (MeasuresFit 31 (charsWidth bodyFonts 2 ['ễ', 'ễ', ' ', 'ễ', 'ễ']) ∧
          ¬ Fits 31 (cutWidth bodyFonts 2 ['ễ', 'ễ', ' ', 'ễ', 'ễ'] 1) ∧
          ∃ i < 5, ['ễ', 'ễ', ' ', 'ễ', 'ễ'] =
            ['ễ', 'ễ', ' ', 'ễ', 'ễ'].take (i + 1) ++ ['.', '.', '.']))) ∧
    ∃ first second line1 line2, Divides bodyFonts 2 31 ['ễ', 'ễ', ' ', 'ễ', 'ễ'] first second ∧
      wrapAndEllipsizeTwoLines bodyFonts (utf8Encode ['ễ', 'ễ', ' ', 'ễ', 'ễ']) 2 31 =
        some (line1, line2) ∧
      (WholeLine bodyFonts 2 31 first line1 ∧ WholeLine bodyFonts 2 31 second line2 ↔
        KeepsLine bodyFonts 2 31 first ∧ KeepsLine bodyFonts 2 31 second) :=
  wrapAndEllipsizeTwoLines_iff bodyFonts 2 31 (by decide) ['ễ', 'ễ', ' ', 'ễ', 'ễ']

/-- In 28 pixels a letter and two bytes of the next are kept. -/
theorem ellipsizeToWidth_breaks_letter :
    ellipsizeToWidth bodyFonts (utf8Encode ['ễ', 'ễ', 'ễ', 'ễ']) 2 28 =
      some ([0xE1, 0xBB, 0x85, 0xE1, 0xBB] ++ ellipsis) ∧
    ¬ Ellipsized bodyFonts 2 28 ['ễ', 'ễ', 'ễ', 'ễ']
      ([0xE1, 0xBB, 0x85, 0xE1, 0xBB] ++ ellipsis) := by
  decide +kernel

end Kiosk.Ui
