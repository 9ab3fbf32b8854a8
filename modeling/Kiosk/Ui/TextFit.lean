import Kiosk.Protocol.Utf8Cut
import Kiosk.Protocol.VnFont

/-! `ui/renderer.cpp`: how a text is measured, cut with an ellipsis and wrapped to two lines.
The tables of `vn_font_data.h` are generated, and parameters here; drawing is left out. -/
namespace Kiosk.Ui

open Library Library.PieceScan Protocol

/-- The three native sizes. -/
structure VnFonts where
  small : VnFontData
  body : VnFontData
  large : VnFontData

/-- The table for a font size and the scale on top of it. -/
def selectVnFont (fonts : VnFonts) (fontSize : UInt8) : VnFontData × UInt8 :=
  let size := if fontSize = 0 then 1 else fontSize
  if size = 1 then (fonts.small, 1)
  else if size = 2 then (fonts.body, 1)
  else if size = 3 then (fonts.large, 1)
  else
    let scaled := UInt16.ofNat ((size.toNat * 7 + 12) / 24)
    (fonts.large, if scaled = 0 then 1 else scaled.toUInt8)

/-- What `measure_text_width` makes of a measured width. -/
def narrow (width : Int) : UInt16 := if width < 0 then 0 else UInt16.ofInt width

def measureTextWidth (fonts : VnFonts) (text : Bytes) (fontSize : UInt8) : Option UInt16 :=
  if text.length = 0 then some 0
  else
    let (font, scale) := selectVnFont fonts fontSize
    (font.measureVnText (some (text ++ [0])) scale).map narrow

def ellipsis : Bytes := [46, 46, 46]

/-- The loop that takes bytes off the end until the line fits with its ellipsis. -/
def ellipsizeFrom (fonts : VnFonts) (fontSize : UInt8) (limit : UInt16) : Nat → Bytes → Option Bytes
  | 0, _ => none
  | rounds + 1, line =>
    if line.length > 1 then
      (measureTextWidth fonts (line ++ ellipsis) fontSize).bind fun width =>
        if width > limit
          then ellipsizeFrom fonts fontSize limit rounds (line.take (line.length - 1))
        else some (line ++ ellipsis)
    else some (line ++ ellipsis)

def ellipsizeToWidth (fonts : VnFonts) (text : Bytes) (fontSize : UInt8) (maxW : Int16) :
    Option Bytes :=
  if text.length = 0 ∨ maxW ≤ 0 then some []
  else
    (measureTextWidth fonts text fontSize).bind fun width =>
      if width ≤ maxW.toUInt16 then some text
      else ellipsizeFrom fonts fontSize maxW.toUInt16 text.length text

variable (fonts : VnFonts) (fontSize : UInt8) (maxW : Int16)

/-- The width of code points in exact integers. -/
def textWidth (codepoints : List UInt32) : Nat :=
  (selectVnFont fonts fontSize).1.exactWidth
    (VnFontData.scaleOf (selectVnFont fonts fontSize).2) codepoints

def charsWidth (chars : List Char) : Nat := textWidth fonts fontSize (chars.map Char.val)

/-- The width of the first `i` characters with an ellipsis. -/
def cutWidth (chars : List Char) (i : Nat) : Nat :=
  textWidth fonts fontSize ((chars.take i).map Char.val ++ [46, 46, 46])

/-- The same with a replacement character before the ellipsis. -/
def brokenWidth (chars : List Char) (i : Nat) : Nat :=
  textWidth fonts fontSize ((chars.take i).map Char.val ++ [0xFFFD, 46, 46, 46])

def Fits (width : Nat) : Prop := (width : Int) ≤ maxW.toInt

/-- The width as it is measured is within the limit. -/
def MeasuresFit (width : Nat) : Prop := narrow (int32 width) ≤ maxW.toUInt16

instance (width : Nat) : Decidable (Fits maxW width) := inferInstanceAs (Decidable (_ ≤ _))
instance (width : Nat) : Decidable (MeasuresFit maxW width) := inferInstanceAs (Decidable (_ ≤ _))

section Measure

variable {fonts fontSize maxW}

theorem textWidth_congr (same : shown.takeWhile (· ≠ 0) = other.takeWhile (· ≠ 0)) :
    textWidth fonts fontSize shown = textWidth fonts fontSize other := by
  simp only [textWidth, VnFontData.exactWidth, same]

theorem measureTextWidth_scan (spelled : line ++ [0] = content ++ 0 :: beyond)
    (scan : Scan Decodes content codepoints []) :
    measureTextWidth fonts line fontSize =
      some (narrow (int32 (textWidth fonts fontSize codepoints))) := by
  unfold measureTextWidth
  split
  · rename_i empty
    rw [List.length_eq_zero_iff.mp empty, List.nil_append] at spelled
    obtain rfl : content = [] := by
      cases content with
      | nil => rfl
      | cons => simp at spelled
    rw [Decodes.lawful.unique scan (.here [])]
    simp only [textWidth, VnFontData.exactWidth, List.takeWhile_nil, List.map_nil, List.sum_nil,
      Nat.zero_mul]
    rw [int32_eq (by decide) (by decide)]
    rfl
  · dsimp only
    rw [spelled, VnFontData.measureVnText_scan _ scan, Option.map_some]
    rfl

/-- Every text has a width. -/
theorem exists_measureTextWidth (line : Bytes) :
    ∃ width, measureTextWidth fonts line fontSize = some width := by
  obtain ⟨content, beyond, spelled, present⟩ :
      ∃ content beyond, line ++ [0] = content ++ 0 :: beyond ∧ ∀ byte ∈ content, byte ≠ 0 := by
    induction line with
    | nil => exact ⟨[], [], rfl, by simp⟩
    | cons byte rest ih =>
      by_cases zero : byte = 0
      · exact ⟨[], rest ++ [0], by simp [zero], by simp⟩
      · obtain ⟨content, beyond, spelled, present⟩ := ih
        exact ⟨byte :: content, beyond, by simp [spelled], List.forall_mem_cons.mpr ⟨zero, present⟩⟩
  obtain ⟨codepoints, scan⟩ := Decodes.exists_scan present
  exact ⟨_, measureTextWidth_scan spelled scan⟩

theorem measureTextWidth_encoded (chars : List Char) (scan : Scan Decodes tail codepoints []) :
    measureTextWidth fonts (utf8Encode chars ++ tail) fontSize =
      some (narrow (int32 (textWidth fonts fontSize (chars.map Char.val ++ codepoints)))) := by
  obtain ⟨content, beyond, shown, spelled, reads, same⟩ := scan_before_zero chars scan
  rw [measureTextWidth_scan spelled reads, textWidth_congr same]

theorem scan_ellipsis : Scan Decodes ellipsis [46, 46, 46] [] :=
  have dot (rest : Bytes) : Decodes (46 :: rest) 46 rest :=
    decodes_char (show '.' ≠ Char.ofNat 0 by decide) rest
  .step (dot _) (.step (dot _) (.step (dot _) (.here [])))

theorem scan_broken (broken : Broken c front) :
    Scan Decodes (front ++ ellipsis) [0xFFFD, 46, 46, 46] [] := by
  refine .step ⟨?_, fun beyond => ?_⟩ scan_ellipsis
  · obtain ⟨a, rest, rfl, present⟩ := broken.head
    exact ⟨a, rest ++ ellipsis, rfl, present⟩
  · rw [List.append_assoc]
    exact broken.decode (by decide) _

theorem measure_chars (chars : List Char) :
    measureTextWidth fonts (utf8Encode chars) fontSize =
      some (narrow (int32 (charsWidth fonts fontSize chars))) := by
  have measured := @measureTextWidth_encoded fonts fontSize [] [] chars (.here [])
  rwa [List.append_nil, List.append_nil] at measured

theorem measure_cut (chars : List Char) (i : Nat) :
    measureTextWidth fonts (utf8Encode (chars.take i) ++ ellipsis) fontSize =
      some (narrow (int32 (cutWidth fonts fontSize chars i))) :=
  measureTextWidth_encoded _ scan_ellipsis

theorem measure_broken (chars : List Char) (i : Nat) (broken : Broken c front) :
    measureTextWidth fonts (utf8Encode (chars.take i) ++ front ++ ellipsis) fontSize =
      some (narrow (int32 (brokenWidth fonts fontSize chars i))) := by
  rw [List.append_assoc]
  exact measureTextWidth_encoded _ (scan_broken broken)

/-- Where the loop stops: at the longest part that measures as fitting with its ellipsis,
or at one byte. -/
structure LastFit (fonts : VnFonts) (fontSize : UInt8) (limit : UInt16) (line : Bytes)
    (size : Nat) : Prop where
  positive : 0 < size
  inside : size ≤ line.length
  longer : ∀ more, size < more → more ≤ line.length → ∀ width,
    measureTextWidth fonts (line.take more ++ ellipsis) fontSize = some width → limit < width
  stops : size = 1 ∨ ∃ width ≤ limit,
    measureTextWidth fonts (line.take size ++ ellipsis) fontSize = some width

theorem ellipsizeFrom_lastFit (line : Bytes) (some_ : 0 < line.length)
    (enough : line.length ≤ rounds) :
    ∃ size, LastFit fonts fontSize limit line size ∧
      ellipsizeFrom fonts fontSize limit rounds line = some (line.take size ++ ellipsis) := by
  induction rounds generalizing line with
  | zero => omega
  | succ rounds ih =>
    have whole : line.take line.length = line := List.take_length
    rw [ellipsizeFrom]
    split
    · rename_i several
      obtain ⟨width, measured⟩ := exists_measureTextWidth (line ++ ellipsis)
      rw [measured, Option.bind_some]
      split
      · rename_i wide
        have shorter : (line.take (line.length - 1)).length = line.length - 1 := by
          rw [List.length_take]
          omega
        obtain ⟨size, last, result⟩ := ih (line.take (line.length - 1)) (by omega) (by omega)
        have kept :
            ∀ more ≤ line.length - 1, (line.take (line.length - 1)).take more = line.take more := by
          intro more less
          rw [List.take_take, min_eq_left less]
        have inside := last.inside
        rw [shorter] at inside
        refine ⟨size, ⟨last.positive, by omega, fun more above below width' measured' => ?_, ?_⟩,
          ?_⟩
        · by_cases all : more = line.length
          · rw [all, whole, measured, Option.some.injEq] at measured'
            exact measured' ▸ wide
          · exact last.longer more above (by omega) width' (by rw [kept more (by omega), measured'])
        · simpa only [kept size inside] using last.stops
        · rw [result, kept size inside]
      · rename_i fits
        exact ⟨line.length, ⟨some_, le_rfl, fun more above below => absurd above (by omega),
          .inr ⟨width, UInt16.not_lt.mp fits, by rw [whole, measured]⟩⟩, by rw [whole]⟩
    · rename_i single
      exact ⟨line.length,
        ⟨some_, le_rfl, fun more above below => absurd above (by omega), .inl (by omega)⟩,
        by rw [whole]⟩

end Measure

/-- After how many characters the loop stops, told from their widths. No longer part may
measure as fitting, whole or with a broken character at its end; a part of one byte is kept
whatever it measures. -/
structure StopsAfter (chars : List Char) (i : Nat) : Prop where
  positive : 0 < i
  inside : i ≤ chars.length
  longer : ∀ j ≤ chars.length, i < j → ¬ MeasuresFit maxW (cutWidth fonts fontSize chars j)
  broken : ∀ (j : Nat) (here : j < chars.length), i ≤ j → 1 < chars[j].utf8Size →
    ¬ MeasuresFit maxW (brokenWidth fonts fontSize chars j)
  stops : MeasuresFit maxW (cutWidth fonts fontSize chars i) ∨
    (utf8Encode (chars.take i)).length = 1

section Cut

variable {fonts fontSize maxW} {chars : List Char}

private theorem not_measuresFit
    (last : LastFit fonts fontSize maxW.toUInt16 (utf8Encode chars) size)
    (longer : size < more) (inside : more ≤ (utf8Encode chars).length) {width : Nat}
    (measured : measureTextWidth fonts ((utf8Encode chars).take more ++ ellipsis) fontSize =
      some (narrow (int32 width))) :
    ¬ MeasuresFit maxW width := by
  rw [MeasuresFit, UInt16.not_le]
  exact last.longer more longer inside _ measured

private theorem LastFit.measuresFit (last : LastFit fonts fontSize maxW.toUInt16 line size)
    {width : Nat} (measured : measureTextWidth fonts (line.take size ++ ellipsis) fontSize =
      some (narrow (int32 width))) :
    MeasuresFit maxW width ∨ size = 1 := by
  rcases last.stops with one | ⟨width', fits, measured'⟩
  · exact .inr one
  · rw [measured, Option.some.injEq] at measured'
    rw [← measured'] at fits
    exact .inl fits

private theorem StopsAfter.not_shorter (stops : StopsAfter fonts fontSize maxW chars i)
    (last : LastFit fonts fontSize maxW.toUInt16 (utf8Encode chars) size) :
    (utf8Encode (chars.take i)).length ≤ size := by
  by_contra shorter
  have excluded := not_measuresFit last (Nat.lt_of_not_le shorter) (utf8Encode_take_le chars i)
    (by rw [utf8Encode_take, measure_cut])
  have one := stops.stops.resolve_left excluded
  have := last.positive
  omega

/-- The loop stops between characters exactly where their widths say so. -/
theorem stopsAfter_iff (last : LastFit fonts fontSize maxW.toUInt16 (utf8Encode chars) size)
    (positive : 0 < i) (inside : i ≤ chars.length) :
    (utf8Encode chars).take size = utf8Encode (chars.take i) ↔
      StopsAfter fonts fontSize maxW chars i := by
  constructor
  · intro cut
    have offset : size = (utf8Encode (chars.take i)).length := by
      rw [← cut, List.length_take, min_eq_left last.inside]
    refine ⟨positive, inside, fun j below less => ?_, fun j here le long => ?_, ?_⟩
    · exact not_measuresFit last (offset ▸ utf8Encode_take_lt less below)
        (utf8Encode_take_le chars j)
        (by rw [utf8Encode_take, measure_cut])
    · have first := Broken.first long
      have piece : (utf8Encode chars).take ((utf8Encode (chars.take j)).length + 1) =
          utf8Encode (chars.take j) ++ (String.utf8EncodeChar chars[j]).take 1 := by
        have through :
            utf8Encode chars = utf8Encode (chars.take j) ++ utf8Encode (chars.drop j) := by
          rw [← utf8Encode_append, List.take_append_drop]
        rw [through, List.take_length_add_append, List.drop_eq_getElem_cons here, utf8Encode_cons,
          List.take_append_of_le_length (by rw [String.length_utf8EncodeChar]; omega)]
      have before : (utf8Encode (chars.take i)).length ≤ (utf8Encode (chars.take j)).length := by
        rcases Nat.lt_or_eq_of_le le with less | rfl
        · exact (utf8Encode_take_lt less here.le).le
        · exact le_rfl
      have after : (utf8Encode (chars.take j)).length < (utf8Encode chars).length := by
        have := utf8Encode_take_lt here (le_refl chars.length)
        rwa [List.take_length] at this
      exact not_measuresFit last (by omega) after (by rw [piece, measure_broken _ _ first])
    · rcases last.measuresFit (by rw [cut, measure_cut]) with fits | one
      · exact .inl fits
      · exact .inr (offset ▸ one)
  · intro stops
    have atLeast := stops.not_shorter last
    have some_ : 0 < (utf8Encode (chars.take i)).length :=
      Nat.lt_of_le_of_lt (Nat.zero_le _) (utf8Encode_take_lt positive inside)
    rcases cut_cases chars size last.inside with ⟨i', below, cut⟩ | ⟨i', here, front, broken, cut⟩
    · have offset : size = (utf8Encode (chars.take i')).length := by
        rw [← cut, List.length_take, min_eq_left last.inside]
      rcases Nat.lt_trichotomy i i' with less | rfl | more
      · have further := utf8Encode_take_lt less below
        rcases last.measuresFit (by rw [cut, measure_cut]) with fits | one
        · exact absurd fits (stops.longer i' below less)
        · omega
      · exact cut
      · have := utf8Encode_take_lt more inside
        omega
    · have offset : size = (utf8Encode (chars.take i')).length + front.length := by
        rw [← List.length_append, ← cut, List.length_take, min_eq_left last.inside]
      by_cases le : i ≤ i'
      · rcases last.measuresFit (by rw [cut, measure_broken _ _ broken]) with fits | one
        · exact absurd fits (stops.broken i' here le broken.utf8Size)
        · have started := List.length_pos_iff.mpr broken.started
          have none : i' = 0 := by
            by_contra later
            have := utf8Encode_take_lt (Nat.pos_of_ne_zero later) here.le
            omega
          omega
      · have whole := broken.length_lt
        have upTo :
            (utf8Encode (chars.take (i' + 1))).length ≤ (utf8Encode (chars.take i)).length := by
          rcases Nat.lt_or_eq_of_le (Nat.lt_of_not_le le) with less | same
          · exact (utf8Encode_take_lt less inside).le
          · rw [← same]
        rw [utf8Encode_take_succ chars here, List.length_append] at upTo
        omega

end Cut

/-- What is to be shown of a text: the text itself where it fits, else whole characters from
its beginning and an ellipsis, within the limit unless one character with the ellipsis is
not. -/
def Ellipsized (chars : List Char) (line : Bytes) : Prop :=
  if Fits maxW (charsWidth fonts fontSize chars) then line = utf8Encode chars
  else ∃ i < chars.length, line = utf8Encode (chars.take (i + 1)) ++ ellipsis ∧
    (Fits maxW (cutWidth fonts fontSize chars (i + 1)) ∨
      ¬ Fits maxW (cutWidth fonts fontSize chars 1))

instance (chars : List Char) (line : Bytes) :
    Decidable (Ellipsized fonts fontSize maxW chars line) := by
  unfold Ellipsized
  infer_instance

/-- The text measures as too wide and its loop stops between characters, within the limit
unless one character with the ellipsis is not. -/
def CutBetween (chars : List Char) : Prop :=
  ¬ MeasuresFit maxW (charsWidth fonts fontSize chars) ∧ ∃ i,
      StopsAfter fonts fontSize maxW chars i ∧
    (Fits maxW (cutWidth fonts fontSize chars i) ∨ ¬ Fits maxW (cutWidth fonts fontSize chars 1))

section Ellipsize

variable {fonts fontSize maxW} {chars : List Char}

/-- Below the range of the narrowed width, a width measures as it is. -/
theorem measuresFit_iff (positive : 0 < maxW) (small : width < 2 ^ 16) :
    MeasuresFit maxW width ↔ Fits maxW width := by
  have limit : (maxW.toUInt16.toNat : Int) = maxW.toInt := by
    rw [Int16.toNat_toUInt16_of_le (Int16.le_of_lt positive), Int16.toNatClampNeg]
    have := Int16.lt_iff_toInt_lt.mp positive
    simp at this
    omega
  have narrowed : (narrow (int32 width)).toNat = width := by
    rw [int32_eq (by omega) (by omega), narrow, if_neg (by omega)]
    simp [UInt16.ofInt]
    omega
  rw [MeasuresFit, UInt16.le_iff_toNat_le, narrowed, Fits, ← limit, Nat.cast_le]

theorem Fits.measuresFit (fits : Fits maxW width) (positive : 0 < maxW) :
    MeasuresFit maxW width := by
  have bound := maxW.toInt_lt
  have small : width < 2 ^ 16 := by
    have := show (width : Int) ≤ maxW.toInt from fits
    omega
  exact (measuresFit_iff positive small).mpr fits

/-- A text that measures as fitting is returned as it is, any other is cut by the loop. -/
theorem ellipsizeToWidth_cases (positive : 0 < maxW) (chars : List Char) :
    (MeasuresFit maxW (charsWidth fonts fontSize chars) ∧
      ellipsizeToWidth fonts (utf8Encode chars) fontSize maxW = some (utf8Encode chars)) ∨
    (¬ MeasuresFit maxW (charsWidth fonts fontSize chars) ∧ ∃ size,
      LastFit fonts fontSize maxW.toUInt16 (utf8Encode chars) size ∧
      ellipsizeToWidth fonts (utf8Encode chars) fontSize maxW =
        some ((utf8Encode chars).take size ++ ellipsis)) := by
  have open_ : ¬ maxW ≤ 0 := Int16.not_le.mpr positive
  cases chars with
  | nil =>
    have none : charsWidth fonts fontSize [] = 0 := by
      simp [charsWidth, textWidth, VnFontData.exactWidth]
    have fits : Fits maxW 0 := Int16.le_iff_toInt_le.mp (Int16.le_of_lt positive)
    exact .inl ⟨none ▸ fits.measuresFit positive, by simp [ellipsizeToWidth]⟩
  | cons c rest =>
    have some_ : 0 < (utf8Encode (c :: rest)).length := by
      rw [utf8Encode_cons, List.length_append, String.length_utf8EncodeChar]
      have := c.utf8Size_pos
      omega
    have runs : ¬ ((utf8Encode (c :: rest)).length = 0 ∨ maxW ≤ 0) := by
      rintro (empty | closed)
      · omega
      · exact open_ closed
    rw [ellipsizeToWidth, if_neg runs, measure_chars, Option.bind_some]
    by_cases fits : MeasuresFit maxW (charsWidth fonts fontSize (c :: rest))
    · exact .inl ⟨fits, if_pos fits⟩
    · obtain ⟨size, last, result⟩ :=
        @ellipsizeFrom_lastFit fonts fontSize _ maxW.toUInt16 _ some_ le_rfl
      exact .inr ⟨fits, size, last, (if_neg fits).trans result⟩

theorem charsWidth_cut (chars : List Char) (i : Nat) :
    charsWidth fonts fontSize (chars.take i ++ ['.', '.', '.']) =
      cutWidth fonts fontSize chars i := by
  simp [charsWidth, cutWidth]

theorem utf8Encode_cut (chars : List Char) (i : Nat) :
    utf8Encode (chars.take i ++ ['.', '.', '.']) = utf8Encode (chars.take i) ++ ellipsis := by
  rw [utf8Encode_append]
  rfl

/-- The call ends, and with a line as it should be exactly where the widths say so: the text
fits; it measures as too wide and is cut between characters within the limit; or it measures
as fitting though it does not, ends in an ellipsis itself and no character fits with one. -/
theorem ellipsizeToWidth_ellipsized_iff (positive : 0 < maxW) (chars : List Char) :
    ∃ line, ellipsizeToWidth fonts (utf8Encode chars) fontSize maxW = some line ∧
      (Ellipsized fonts fontSize maxW chars line ↔
        Fits maxW (charsWidth fonts fontSize chars) ∨ CutBetween fonts fontSize maxW chars ∨
        (MeasuresFit maxW (charsWidth fonts fontSize chars) ∧
          ¬ Fits maxW (cutWidth fonts fontSize chars 1) ∧
          ∃ i < chars.length, chars = chars.take (i + 1) ++ ['.', '.', '.'])) := by
  rcases @ellipsizeToWidth_cases fonts fontSize maxW positive chars with
    ⟨measures, result⟩ | ⟨wide, size, last, result⟩
  · refine ⟨_, result, ?_⟩
    by_cases fits : Fits maxW (charsWidth fonts fontSize chars)
    · simp [Ellipsized, fits]
    · rw [Ellipsized, if_neg fits]
      constructor
      · rintro ⟨i, inside, spelled, within⟩
        rw [← utf8Encode_cut] at spelled
        have ends := utf8Encode_injective spelled
        have same : charsWidth fonts fontSize chars = cutWidth fonts fontSize chars (i + 1) :=
          (congrArg _ ends).trans (charsWidth_cut chars (i + 1))
        exact .inr (.inr ⟨measures, within.resolve_left (same ▸ fits), i, inside, ends⟩)
      · rintro (fits' | between | ⟨_, within, i, inside, ends⟩)
        · exact absurd fits' fits
        · exact absurd measures between.1
        · exact ⟨i, inside, (congrArg utf8Encode ends).trans (utf8Encode_cut chars (i + 1)),
            .inr within⟩
  · refine ⟨_, result, ?_⟩
    have fits : ¬ Fits maxW (charsWidth fonts fontSize chars) :=
      fun fits => wide (fits.measuresFit positive)
    rw [Ellipsized, if_neg fits]
    constructor
    · rintro ⟨i, inside, spelled, within⟩
      exact .inr (.inl
        ⟨wide, i + 1, (stopsAfter_iff last (Nat.succ_pos i) inside).mp
        (List.append_cancel_right spelled), within⟩)
    · rintro (fits' | ⟨_, i, stops, within⟩ | ⟨measures, _⟩)
      · exact absurd fits' fits
      · obtain ⟨i, rfl⟩ := Nat.exists_eq_succ_of_ne_zero stops.positive.ne'
        exact ⟨i, stops.inside,
          congrArg (· ++ ellipsis) ((stopsAfter_iff last stops.positive stops.inside).mpr stops),
          within⟩
      · exact absurd measures wide

private theorem takeWhile_text (text : ∀ c ∈ chars, c ≠ Char.ofNat 0)
    (more : ∀ codepoint ∈ codepoints, codepoint ≠ 0) :
    (chars.map Char.val ++ codepoints).takeWhile (· ≠ 0) = chars.map Char.val ++ codepoints := by
  rw [List.takeWhile_eq_self_iff]
  intro codepoint member
  rcases List.mem_append.mp member with shown | added
  · obtain ⟨c, present, rfl⟩ := List.mem_map.mp shown
    exact decide_eq_true fun zero => text c present (Char.ext zero)
  · exact decide_eq_true (more codepoint added)

/-- In a text without a zero, more characters are not narrower. -/
private theorem textWidth_mono (text : ∀ c ∈ chars, c ≠ Char.ofNat 0) (le : i ≤ j)
    (more : ∀ codepoint ∈ codepoints ++ added, codepoint ≠ 0) :
    textWidth fonts fontSize ((chars.take i).map Char.val ++ codepoints) ≤
      textWidth fonts fontSize ((chars.take j).map Char.val ++ (added ++ codepoints)) := by
  have part (i : Nat) : ∀ c ∈ chars.take i, c ≠ Char.ofNat 0 :=
    fun c member => text c (List.mem_of_mem_take member)
  have split : chars.take j = chars.take i ++ (chars.drop i).take (j - i) := by
    rw [← List.take_add]
    congr 1
    omega
  simp only [textWidth, VnFontData.exactWidth]
  rw [takeWhile_text (part i) fun codepoint member =>
    more codepoint (List.mem_append_left _ member), takeWhile_text (part j) fun codepoint member =>
      more codepoint (List.mem_append.mpr (List.mem_append.mp member).symm), split]
  refine Nat.mul_le_mul_right _ ?_
  simp only [List.map_append, List.sum_append]
  omega

/-- Below the range of the narrowed width, all turns on the first character that no longer
fits before the ellipsis: the text is cut between characters exactly where that one is a
single byte, or is not the first and a replacement character in its place does not fit
either. -/
theorem cutBetween_iff_crossing (positive : 0 < maxW) (text : ∀ c ∈ chars, c ≠ Char.ofNat 0)
    (wide : ¬ Fits maxW (charsWidth fonts fontSize chars))
    (small : ∀ i ≤ chars.length,
      cutWidth fonts fontSize chars i < 2 ^ 16 ∧ brokenWidth fonts fontSize chars i < 2 ^ 16)
    (here : i < chars.length) (before : 0 < i → Fits maxW (cutWidth fonts fontSize chars i))
    (crosses : ¬ Fits maxW (cutWidth fonts fontSize chars (i + 1))) :
    CutBetween fonts fontSize maxW chars ↔
      chars[i].utf8Size = 1 ∨ 0 < i ∧ ¬ Fits maxW (brokenWidth fonts fontSize chars i) := by
  have dots : ∀ codepoint ∈ ([46, 46, 46] : List UInt32), codepoint ≠ 0 := by simp
  have marked : ∀ codepoint ∈ ([46, 46, 46, 0xFFFD] : List UInt32), codepoint ≠ 0 := by simp
  have later (j : Nat) (after : i < j) :
      ¬ Fits maxW (cutWidth fonts fontSize chars j) := fun fits =>
    crosses (le_trans (Nat.cast_le.mpr (textWidth_mono text after dots)) fits)
  have laterBroken (j : Nat) (after : i < j) :
      ¬ Fits maxW (brokenWidth fonts fontSize chars j) := fun fits =>
    crosses (le_trans (Nat.cast_le.mpr (textWidth_mono text after marked)) fits)
  have measured (j : Nat) (inside : j ≤ chars.length) := measuresFit_iff positive (small j inside).1
  have measuredBroken (j : Nat) (inside : j ≤ chars.length) :=
    measuresFit_iff positive (small j inside).2
  constructor
  · rintro ⟨_, k, stops, _⟩
    by_cases past : i < k
    · have one := stops.stops.resolve_left (mt (measured k stops.inside).mp (later k past))
      have upTo : (utf8Encode (chars.take (i + 1))).length ≤ 1 := by
        rcases Nat.lt_or_eq_of_le (Nat.succ_le_of_lt past) with less | same
        · exact (utf8Encode_take_lt less stops.inside).le.trans one.le
        · rw [show i + 1 = k from same, one]
      rw [utf8Encode_take_succ chars here, List.length_append, String.length_utf8EncodeChar] at upTo
      have := chars[i].utf8Size_pos
      exact .inl (by omega)
    · have reached : k = i := by
        by_contra short
        exact stops.longer i here.le (by omega)
          ((measured i here.le).mpr (before (by have := stops.positive; omega)))
      subst reached
      by_cases single : chars[k].utf8Size = 1
      · exact .inl single
      · have long : 1 < chars[k].utf8Size := by
          have := chars[k].utf8Size_pos
          omega
        exact .inr ⟨stops.positive,
          mt (measuredBroken k here.le).mpr (stops.broken k here le_rfl long)⟩
  · intro crossing
    have below : charsWidth fonts fontSize chars < 2 ^ 16 := by
      have less :=
        @textWidth_mono fonts fontSize chars _ _ [] [46, 46, 46] text (le_refl chars.length) dots
      simp only [List.take_length, List.append_nil] at less
      refine Nat.lt_of_le_of_lt less ?_
      simpa [cutWidth] using (small chars.length le_rfl).1
    refine ⟨mt (measuresFit_iff positive below).mp wide, ?_⟩
    by_cases first : i = 0
    · subst first
      have single := crossing.resolve_right fun later => absurd later.1 (Nat.lt_irrefl 0)
      refine ⟨1, ⟨Nat.one_pos, here, fun j inside after => ?_, fun j inside after _ => ?_, .inr ?_⟩,
        ?_⟩
      · exact mt (measured j inside).mp (later j (by omega))
      · exact mt (measuredBroken j inside.le).mp (laterBroken j (by omega))
      · simpa [single] using congrArg List.length (utf8Encode_take_succ chars here)
      · exact Decidable.em _
    · have positive' := Nat.pos_of_ne_zero first
      refine ⟨i, ⟨positive', here.le, fun j inside after => ?_, fun j inside after long => ?_,
        .inl ?_⟩, .inl (before positive')⟩
      · exact mt (measured j inside).mp (later j after)
      · rcases Nat.lt_or_eq_of_le after with more | rfl
        · exact mt (measuredBroken j inside.le).mp (laterBroken j more)
        · exact mt (measuredBroken i inside.le).mp (crossing.resolve_left (by omega)).2
      · exact (measured i here.le).mpr (before positive')

end Ellipsize

end Kiosk.Ui
