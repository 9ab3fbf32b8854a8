import Kiosk.Library.SortedTable
import Kiosk.Protocol.Utf8Decode

/-! `find_glyph` and `measure_vn_text` of `vn_font_core.cpp`. The bitmap of a font and its
descent are only drawn with. -/
namespace Kiosk.Protocol

open Library Library.PieceScan Library.SortedTable

structure VnGlyph where
  codepoint : UInt32
  bitmapOffset : UInt32
  width : UInt8
  height : UInt8
  advance : UInt8
  xOffset : Int8
  yOffset : Int8
  deriving DecidableEq, Repr

def VnGlyph.key (glyph : VnGlyph) : Nat := glyph.codepoint.toNat

/-- `glyphs` has `glyph_count` entries, sorted ascending by codepoint. -/
structure VnFontData where
  glyphs : List VnGlyph
  ascent : UInt8
  increasing : Increasing VnGlyph.key glyphs
  countLt : glyphs.length < 2 ^ 30

/-- The result of an `int` operation. -/
@[irreducible] def int32 (value : Int) : Int := value.bmod (2 ^ 32)

/-- The loop of `find_glyph`: the glyph or a miss; `none` is an index outside the table or
a loop that needs more rounds. -/
def findGlyphFrom (glyphs : List VnGlyph) (codepoint : UInt32) :
    Nat → Int → Int → Option (Option VnGlyph)
  | 0, _, _ => none
  | rounds + 1, lo, hi =>
    if lo ≤ hi then
      let mid := (int32 (lo + hi)).tdiv 2
      if mid < 0 then none
      else
        match glyphs[mid.toNat]? with
        | none => none
        | some candidate =>
          if candidate.codepoint = codepoint then some (some candidate)
          else if candidate.codepoint < codepoint
            then findGlyphFrom glyphs codepoint rounds (int32 (mid + 1)) hi
          else findGlyphFrom glyphs codepoint rounds lo (int32 (mid - 1))
    else some none

namespace VnFontData

def findGlyph (font : VnFontData) (codepoint : UInt32) : Option (Option VnGlyph) :=
  findGlyphFrom font.glyphs codepoint (font.glyphs.length + 1) 0
    (int32 (int32 font.glyphs.length - 1))

/-- A character without a glyph takes half the ascent. -/
def advanceOf (font : VnFontData) : Option VnGlyph → Nat
  | some glyph => glyph.advance.toNat
  | none => font.ascent.toNat / 2

/-- The loop of `measure_vn_text`. -/
def measureFrom (font : VnFontData) (scale : UInt8) : Nat → Bytes → Int → Option Int
  | 0, _, _ => none
  | _ + 1, [], _ => none
  | rounds + 1, a :: cursor, width =>
    if a = 0 then some width
    else
      match utf8DecodeNext (a :: cursor) with
      | none => none
      | some (codepoint, left) =>
        if codepoint = 0 then some width
        else
          (font.findGlyph codepoint).bind fun glyph =>
            font.measureFrom scale rounds left
              (int32 (width + int32 (font.advanceOf glyph * scale.toNat)))

/-- A null pointer measures nothing. -/
def measureVnText (font : VnFontData) (text : Option Bytes) (fontSize : UInt8) : Option Int :=
  match text with
  | none => some 0
  | some text => font.measureFrom (if fontSize = 0 then 1 else fontSize) (text.length + 1) text 0

end VnFontData

theorem int32_eq (low : -2 ^ 31 ≤ value) (high : value < 2 ^ 31) : int32 value = value := by
  unfold int32
  exact Int.bmod_eq_of_le (by omega) (by omega)

theorem int32_int32_add (width value : Int) :
    int32 (int32 width + int32 value) = int32 (width + value) := by
  simp [int32]

/-- The middle of two positions of a table lies between them; no sum leaves `int`. -/
private theorem middle_index (low : 0 ≤ lo) (some_ : lo ≤ hi) (high : hi < count)
    (small : count < 2 ^ 30) :
    ∃ mid : Nat, (int32 (lo + hi)).tdiv 2 = mid ∧ lo ≤ mid ∧ (mid : Int) ≤ hi := by
  rw [int32_eq (by omega) (by omega), Int.tdiv_eq_ediv_of_nonneg (by omega)]
  exact ⟨((lo + hi) / 2).toNat, by omega, by omega, by omega⟩

/-- In a sorted table the loop comes to what a search from the front finds, and only reads
entries of the table. -/
private theorem findGlyphFrom_within (font : VnFontData) {rounds : Nat}
    (within : Within VnGlyph.key font.glyphs codepoint.toNat lo hi)
    (low : 0 ≤ lo) (bound : lo ≤ font.glyphs.length) (bound' : -1 ≤ hi)
    (high : hi < font.glyphs.length) (some_ : 0 < rounds) (enough : hi - lo + 1 < rounds) :
    findGlyphFrom font.glyphs codepoint rounds lo hi =
      some (linearSearch VnGlyph.key font.glyphs codepoint.toNat) := by
  induction rounds generalizing lo hi with
  | zero => omega
  | succ rounds ih =>
    have small := font.countLt
    rw [findGlyphFrom]
    split
    · rename_i open_
      obtain ⟨mid, half, above, below⟩ := middle_index low open_ high (by omega)
      have inside : mid < font.glyphs.length := by omega
      simp only [half, Int.toNat_natCast, List.getElem?_eq_getElem inside,
        if_neg (by omega : ¬ (mid : Int) < 0)]
      split
      · rename_i found
        rw [← found]
        exact congrArg some (linearSearch_getElem font.increasing inside).symm
      split
      · rename_i smaller
        rw [int32_eq (by omega) (by omega)]
        exact ih (within.above font.increasing inside (UInt32.lt_iff_toNat_lt.mp smaller))
          (by omega) (by omega) bound'
          high (by omega) (by omega)
      · rename_i differs notSmaller
        have greater : codepoint.toNat < VnGlyph.key font.glyphs[mid] := by
          rw [UInt32.lt_iff_toNat_lt, Nat.not_lt] at notSmaller
          exact lt_of_le_of_ne notSmaller fun same => differs (UInt32.toNat_inj.mp same.symm)
        rw [int32_eq (by omega) (by omega)]
        exact ih (within.below font.increasing inside greater) low bound (by omega) (by omega)
          (by omega) (by omega)
    · rw [within.none (by omega)]

namespace VnFontData

variable (font : VnFontData)

theorem findGlyph_eq (codepoint : UInt32) :
    font.findGlyph codepoint = some (linearSearch VnGlyph.key font.glyphs codepoint.toNat) := by
  have small := font.countLt
  have count : int32 font.glyphs.length = font.glyphs.length := int32_eq (by omega) (by omega)
  rw [findGlyph, count, int32_eq (by omega) (by omega)]
  exact findGlyphFrom_within font within_all le_rfl (by omega) (by omega) (by omega)
    (by omega) (by omega)

/-- The advance of a code point, by a search from the front. -/
def linearAdvance (codepoint : UInt32) : Nat :=
  font.advanceOf (linearSearch VnGlyph.key font.glyphs codepoint.toNat)

/-- The width of code points up to the first zero, in exact integers. -/
def exactWidth (scale : UInt8) (codepoints : List UInt32) : Nat :=
  ((codepoints.takeWhile (· ≠ 0)).map font.linearAdvance).sum * scale.toNat

private theorem measureFrom_scan (scale : UInt8) (scan : Scan Decodes content codepoints [])
    (enough : codepoints.length < rounds) (beyond : Bytes) (width : Int) :
    font.measureFrom scale rounds (content ++ 0 :: beyond) (int32 width) =
      some (int32 (width + font.exactWidth scale codepoints)) := by
  generalize empty : ([] : Bytes) = last at scan
  induction scan generalizing rounds width with
  | here =>
    obtain ⟨rounds, rfl⟩ := Nat.exists_eq_add_of_lt enough
    subst empty
    rw [List.nil_append, measureFrom, if_pos rfl]
    simp [exactWidth]
  | @step _ codepoint left pieces _ first _ ih =>
    obtain ⟨rounds, rfl⟩ := Nat.exists_eq_succ_of_ne_zero (by omega : rounds ≠ 0)
    obtain ⟨a, rest, rfl, present⟩ := first.present
    have decoded := first.decoded beyond
    rw [List.cons_append] at decoded ⊢
    rw [measureFrom, if_neg present, decoded]
    dsimp only
    by_cases zero : codepoint = 0
    · rw [if_pos zero]
      simp [zero, exactWidth]
    · rw [if_neg zero, findGlyph_eq]
      rw [Option.bind_some, int32_int32_add, ih (Nat.lt_of_succ_lt_succ enough) _ empty]
      simp only [exactWidth, linearAdvance, List.takeWhile_cons, zero, ne_eq, not_false_eq_true,
        decide_true, if_true, List.map_cons, List.sum_cons, Nat.add_mul]
      push_cast
      rw [add_assoc]

/-- The scale that is measured with. -/
def scaleOf (fontSize : UInt8) : UInt8 := if fontSize = 0 then 1 else fontSize

/-- What is measured is the width of the decoded text as an `int32_t`. -/
theorem measureVnText_scan (scan : Scan Decodes content codepoints []) (beyond : Bytes)
    (fontSize : UInt8) :
    font.measureVnText (some (content ++ 0 :: beyond)) fontSize =
      some (int32 (font.exactWidth (scaleOf fontSize) codepoints)) := by
  have fewer := Decodes.lawful.length_le scan
  have enough : codepoints.length < (content ++ 0 :: beyond).length + 1 := by
    simp only [List.length_append, List.length_nil] at fewer ⊢
    omega
  have measured := font.measureFrom_scan (scaleOf fontSize) scan enough beyond 0
  rwa [int32_eq (by decide) (by decide), zero_add] at measured

/-- An `int32_t` holds a width that is not negative exactly when it is below its range. -/
private theorem int32_natCast (width : Nat) : int32 width = width ↔ width < 2 ^ 31 := by
  constructor
  · intro same
    rw [int32] at same
    have bound := @Int.bmod_lt width (2 ^ 32) (by decide)
    rw [same] at bound
    omega
  · intro small
    exact int32_eq (by omega) (by omega)

/-- The search never leaves the table and finds the glyph of a code point exactly when the
table has it. The text is measured as the sum of its advances, up to the first zero and
times the scale, exactly when that sum is below the range of `int32_t`. -/
theorem measureVnText_exact_iff (font : VnFontData) :
    (∀ codepoint, ∃ found, font.findGlyph codepoint = some found ∧
      (∀ glyph, found = some glyph ↔ glyph ∈ font.glyphs ∧ glyph.codepoint = codepoint) ∧
      (found = none ↔ ∀ glyph ∈ font.glyphs, glyph.codepoint ≠ codepoint)) ∧
    ∀ content : Bytes, (∀ byte ∈ content, byte ≠ 0) → ∀ beyond fontSize, ∃ codepoints,
      decodeWhile (content.length + 1) (content ++ 0 :: beyond) = some (codepoints, 0 :: beyond) ∧
      (font.measureVnText (some (content ++ 0 :: beyond)) fontSize =
          some ↑(font.exactWidth (scaleOf fontSize) codepoints) ↔
        font.exactWidth (scaleOf fontSize) codepoints < 2 ^ 31) := by
  constructor
  · intro codepoint
    refine ⟨_, font.findGlyph_eq codepoint, fun glyph => ?_, ?_⟩
    · rw [linearSearch_eq_some font.increasing, VnGlyph.key, UInt32.toNat_inj]
    · simp only [linearSearch_eq_none, VnGlyph.key, ne_eq, UInt32.toNat_inj]
  · intro content text beyond fontSize
    obtain ⟨codepoints, scan⟩ := Decodes.exists_scan text
    have fewer := Decodes.lawful.length_le scan
    refine ⟨codepoints, decodeWhile_scan scan (by simpa using Nat.lt_succ_of_le fewer) beyond, ?_⟩
    rw [font.measureVnText_scan scan, Option.some.injEq]
    exact int32_natCast _

/-- One wide letter. -/
def wideLetter : VnFontData where
  glyphs := [{
    codepoint := 65, bitmapOffset := 0, width := 8, height := 8, advance := 255, xOffset := 0
    yOffset := 0 }]
  ascent := 15
  increasing := List.pairwise_singleton _ _
  countLt := by decide

theorem measureVnText_exact_iff_letters :
    (∃ found, wideLetter.findGlyph 66 = some found ∧
      (∀ glyph, found = some glyph ↔ glyph ∈ wideLetter.glyphs ∧ glyph.codepoint = 66) ∧
      (found = none ↔ ∀ glyph ∈ wideLetter.glyphs, glyph.codepoint ≠ 66)) ∧
    ∃ codepoints, decodeWhile (([65, 65] : Bytes).length + 1) ([65, 65] ++ 0 :: []) =
        some (codepoints, 0 :: []) ∧
      (wideLetter.measureVnText (some ([65, 65] ++ 0 :: [])) 1 =
          some ↑(wideLetter.exactWidth (scaleOf 1) codepoints) ↔
        wideLetter.exactWidth (scaleOf 1) codepoints < 2 ^ 31) :=
  ⟨(measureVnText_exact_iff wideLetter).1 66,
    (measureVnText_exact_iff wideLetter).2 [65, 65] (by simp) [] 1⟩

private theorem scan_letters (count : Nat) :
    Scan Decodes (List.replicate count 65) (List.replicate count 65) [] := by
  induction count with
  | zero => exact .here []
  | succ count ih => exact .step (decodes_char (show 'A' ≠ Char.ofNat 0 by decide) _) ih

private theorem exactWidth_letters (count : Nat) :
    wideLetter.exactWidth (scaleOf 255) (List.replicate count 65) = count * 255 * 255 := by
  have letter : wideLetter.linearAdvance 65 = 255 := by decide
  rw [exactWidth, List.takeWhile_replicate, if_pos (by decide), List.map_replicate,
    List.sum_replicate, letter, smul_eq_mul]
  rfl

/-- The letter 33026 times in the largest size is 2147515650 pixels wide, and measured as a
negative number. -/
theorem measureVnText_overflows :
    decodeWhile (33026 + 1) (List.replicate 33026 65 ++ [0]) = some (List.replicate 33026 65, [0]) ∧
    wideLetter.exactWidth (scaleOf 255) (List.replicate 33026 65) = 2147515650 ∧
    wideLetter.measureVnText (some (List.replicate 33026 65 ++ [0])) 255 = some (-2147451646) := by
  have scan := scan_letters 33026
  have width : wideLetter.exactWidth (scaleOf 255) (List.replicate 33026 65) = 2147515650 :=
    exactWidth_letters 33026
  refine ⟨decodeWhile_scan scan (Nat.lt_succ_of_le List.length_replicate.le) [], width, ?_⟩
  rw [wideLetter.measureVnText_scan scan, width, int32]
  decide

end VnFontData

end Kiosk.Protocol
