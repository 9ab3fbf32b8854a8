import Kiosk.Library.JsonText
import Kiosk.Protocol.ProtocolCodec
import Kiosk.Protocol.Utf8Decode

/-! What a reader of JSON finds in the bodies the device writes, whatever its strings hold.
How bytes stand for characters is a parameter. -/
namespace Kiosk.Protocol

open Library Library.KeySearch Library.JsonText

/-- The laws of a way to take bytes for characters. -/
structure Spelling (spells : Bytes → Text → Prop) : Prop where
  append : spells first one → spells second two → spells (first ++ second) (one ++ two)
  ascii : (∀ byte ∈ content, byte < 128) → spells content (content.map UInt8.toNat)
  escape : spells content meant →
    ∃ written, spells (jsonEscape content) written ∧ Content written meant

/-- Each byte for the character of its number. -/
def bytewise (content : Bytes) (meant : Text) : Prop := meant = content.map UInt8.toNat

/-- Text in UTF-8. -/
def inUtf8 (content : Bytes) (meant : Text) : Prop :=
  ∃ chars : List Char, content = utf8Encode chars ∧ meant = chars.map Char.toNat

private theorem hexValue_hexDigit (small : value < (16 : UInt8)) :
    hexValue (hexDigit value).toNat = some value.toNat := by
  have range : value.toNat < 16 := UInt8.lt_iff_toNat_lt.mp small
  unfold hexDigit
  split
  · rename_i digit
    have low : value.toNat < 10 := UInt8.lt_iff_toNat_lt.mp digit
    have letter : (48 + value).toNat = 48 + value.toNat := by
      rw [UInt8.toNat_add]
      exact Nat.mod_eq_of_lt (by simp; omega)
    rw [letter, hexValue, if_pos (by omega), Nat.add_sub_cancel_left]
  · rename_i other
    have high : 10 ≤ value.toNat := UInt8.le_iff_toNat_le.mp (UInt8.not_lt.mp other)
    have letter : (87 + value).toNat = 87 + value.toNat := by
      rw [UInt8.toNat_add]
      exact Nat.mod_eq_of_lt (by simp; omega)
    rw [letter, hexValue, if_neg (by omega), if_neg (by omega), if_pos (by omega),
      Nat.add_sub_cancel_left]

/-- The four digits of a control byte stand for it. -/
private theorem readUnit_control (byte : UInt8) :
    readUnit ([48, 48, hexDigit (byte >>> 4), hexDigit (byte &&& 15)].map UInt8.toNat) =
      some (byte.toNat, []) := by
  have high := hexValue_hexDigit (highNibble_lt byte)
  have low := hexValue_hexDigit (lowNibble_lt byte)
  have quotient : (byte >>> 4).toNat = byte.toNat / 16 := by
    simp [UInt8.toNat_shiftRight, Nat.shiftRight_eq_div_pow]
  have remainder : (byte &&& 15).toNat = byte.toNat % 16 := by
    rw [UInt8.toNat_and]
    exact Nat.and_two_pow_sub_one_eq_mod _ 4
  have whole := Nat.div_add_mod byte.toNat 16
  rw [quotient] at high
  rw [remainder] at low
  have zero : hexValue (UInt8.toNat 48) = some 0 := by decide
  have sum : 4096 * 0 + 256 * 0 + 16 * (byte.toNat / 16) + byte.toNat % 16 = byte.toNat := by omega
  simp only [List.map_cons, List.map_nil, readUnit, zero, high, low, Option.bind_eq_bind,
    Option.bind_some, sum]

/-- An escaped byte stands for the byte. -/
theorem content_escapeByte (byte : UInt8) (rest : Content written meant) :
    Content ((jsonEscapeByte byte).map UInt8.toNat ++ written) (byte.toNat :: meant) := by
  unfold jsonEscapeByte
  rcases eq_or_ne byte quote with rfl | notQuote
  · exact .escape rfl rest
  rw [if_neg notQuote]
  rcases eq_or_ne byte backslash with rfl | notBackslash
  · exact .escape rfl rest
  rw [if_neg notBackslash]
  rcases eq_or_ne byte 10 with rfl | newline
  · exact .escape rfl rest
  rw [if_neg newline]
  rcases eq_or_ne byte 13 with rfl | carriage
  · exact .escape rfl rest
  rw [if_neg carriage]
  rcases eq_or_ne byte 9 with rfl | tab
  · exact .escape rfl rest
  rw [if_neg tab]
  split
  · rename_i control
    have small : byte.toNat < 32 := UInt8.lt_iff_toNat_lt.mp control
    exact .unicode (readUnit_control byte) (.inl (by omega)) rest
  · rename_i printable
    have large : 32 ≤ byte.toNat := UInt8.le_iff_toNat_le.mp (UInt8.not_lt.mp printable)
    exact .plain large (fun same => notQuote (UInt8.toNat_inj.mp same))
      (fun same => notBackslash (UInt8.toNat_inj.mp same)) rest

private theorem hexDigit_ascii (small : value < (16 : UInt8)) : hexDigit value < 128 := by
  grind [hexDigit]

theorem generateRandomHexId_ascii (member : letter ∈ generateRandomHexId byteLength espRandom) :
    letter < 128 := by
  obtain ⟨i, _, inside⟩ := List.mem_flatMap.mp member
  simp only [hexByte, List.mem_cons, List.not_mem_nil, or_false] at inside
  rcases inside with rfl | rfl
  · exact hexDigit_ascii (highNibble_lt _)
  · exact hexDigit_ascii (lowNibble_lt _)

theorem jsonEscapeByte_ne_nil (byte : UInt8) : jsonEscapeByte byte ≠ [] := by
  unfold jsonEscapeByte
  repeat' split
  all_goals exact List.cons_ne_nil _ _

theorem jsonEscapeByte_ascii (small : byte < 128) :
    ∀ letter ∈ jsonEscapeByte byte, letter < 128 := by
  intro letter member
  have named : ∀ letter ∈ controlName byte, letter < 128 := by
    intro letter inside
    simp only [controlName, List.mem_cons, List.not_mem_nil, or_false] at inside
    rcases inside with rfl | rfl | rfl | rfl | rfl
    · decide
    · decide
    · decide
    · exact hexDigit_ascii (highNibble_lt byte)
    · exact hexDigit_ascii (lowNibble_lt byte)
  grind [jsonEscapeByte]

theorem bytewise_spelling : Spelling bytewise where
  append := by
    rintro first _ second _ rfl rfl
    exact List.map_append.symm
  ascii _ := rfl
  escape := by
    rintro content _ rfl
    refine ⟨_, rfl, ?_⟩
    induction content with
    | nil => exact .nil
    | cons byte content ih =>
      rw [jsonEscape, List.flatMap_cons, List.map_append]
      exact content_escapeByte byte ih

/-- The bytes of a character beyond ASCII are no ASCII. -/
private theorem utf8_large (large : 128 ≤ c.toNat) (member : byte ∈ String.utf8EncodeChar c) :
    128 ≤ byte := by
  have marked {value : Nat} (low : 128 ≤ value) (high : value < 256) : 128 ≤ UInt8.ofNat value := by
    rw [UInt8.le_iff_toNat_le, UInt8.toNat_ofNat_of_lt' high]
    exact low
  have notSmall : ¬ c.val.toNat ≤ 127 := Nat.not_le.mpr large
  simp only [String.utf8EncodeChar, notSmall, if_false] at member
  split at member
  · simp only [List.mem_cons, List.not_mem_nil, or_false] at member
    rcases member with rfl | rfl <;> exact marked (by omega) (by omega)
  split at member
  · simp only [List.mem_cons, List.not_mem_nil, or_false] at member
    rcases member with rfl | rfl | rfl <;> exact marked (by omega) (by omega)
  · simp only [List.mem_cons, List.not_mem_nil, or_false] at member
    rcases member with rfl | rfl | rfl | rfl <;> exact marked (by omega) (by omega)

private theorem utf8_small (small : c.toNat < 128) :
    String.utf8EncodeChar c = [UInt8.ofNat c.toNat] := by
  have low : c.val.toNat ≤ 127 := Nat.le_of_lt_succ small
  simp only [String.utf8EncodeChar, low, if_true]
  rfl

theorem inUtf8_ascii (small : ∀ byte ∈ content, byte < 128) :
    inUtf8 content (content.map UInt8.toNat) := by
  induction content with
  | nil => exact ⟨[], rfl, rfl⟩
  | cons byte content ih =>
    obtain ⟨chars, encoded, meant⟩ := ih fun other member => small other (by simp [member])
    have range : byte.toNat < 128 := UInt8.lt_iff_toNat_lt.mp (small byte (by simp))
    have same : (Char.ofNat byte.toNat).toNat = byte.toNat := by
      rw [Char.toNat_ofNat, if_pos (.inl (by omega))]
    refine ⟨Char.ofNat byte.toNat :: chars, ?_, ?_⟩
    · rw [utf8Encode, List.flatMap_cons, utf8_small (by omega), same, UInt8.ofNat_toNat]
      exact congrArg (byte :: ·) encoded
    · rw [List.map_cons, List.map_cons, same, meant]

/-- Bytes beyond ASCII are written as they are. -/
private theorem jsonEscape_large (large : ∀ byte ∈ content, 128 ≤ byte) :
    jsonEscape content = content := by
  induction content with
  | nil => rfl
  | cons byte content ih =>
    have first : jsonEscapeByte byte = [byte] := by
      have range := large byte (by simp)
      grind [jsonEscapeByte]
    rw [jsonEscape, List.flatMap_cons, first, List.singleton_append]
    exact congrArg (byte :: ·) (ih fun other member => large other (by simp [member]))

theorem inUtf8_spelling : Spelling inUtf8 where
  append := by
    rintro first _ second _ ⟨one, rfl, rfl⟩ ⟨two, rfl, rfl⟩
    exact ⟨one ++ two, List.flatMap_append.symm, List.map_append.symm⟩
  ascii := inUtf8_ascii
  escape := by
    rintro content _ ⟨chars, rfl, rfl⟩
    induction chars with
    | nil => exact ⟨[], ⟨[], rfl, rfl⟩, .nil⟩
    | cons c chars ih =>
      obtain ⟨written, ⟨spelled, encoded, rfl⟩, content⟩ := ih
      have parts : jsonEscape (utf8Encode (c :: chars)) =
          jsonEscape (String.utf8EncodeChar c) ++ utf8Encode spelled := by
        rw [utf8Encode, List.flatMap_cons, jsonEscape, List.flatMap_append]
        exact congrArg (jsonEscape (String.utf8EncodeChar c) ++ ·) encoded
      rcases Nat.lt_or_ge c.toNat 128 with small | large
      · have range : UInt8.ofNat c.toNat < 128 := by
          rw [UInt8.lt_iff_toNat_lt, UInt8.toNat_ofNat_of_lt' (Nat.lt_trans small (by decide))]
          exact small
        obtain ⟨first, escaped, meant⟩ := inUtf8_ascii (jsonEscapeByte_ascii range)
        refine ⟨_, ⟨first ++ spelled, ?_, rfl⟩, ?_⟩
        · rw [parts, utf8_small small, jsonEscape, List.flatMap_singleton, escaped]
          exact List.flatMap_append.symm
        · have piece := content_escapeByte (UInt8.ofNat c.toNat) content
          rw [meant, UInt8.toNat_ofNat_of_lt' (Nat.lt_trans small (by decide))] at piece
          rw [List.map_append]
          exact piece
      · refine ⟨_, ⟨c :: spelled, ?_, rfl⟩, ?_⟩
        · rw [parts, jsonEscape_large fun byte member => utf8_large large member]
          rfl
        · exact .plain (by omega) (by omega) (by omega) content

/-! The parts of a body: what the bytes of each are to a reader. -/

/-- The bytes of a value, read as these characters. -/
def Carries (spells : Bytes → Text → Prop) (content : Bytes) (json : Json) : Prop :=
  ∃ written, spells content written ∧ Denotes written (.value json)

/-- Equal bytes are not two values. -/
theorem Carries.agree (one : Carries bytewise content first)
    (two : Carries bytewise content' second) (same : content = content') : first = second := by
  subst same
  obtain ⟨_, rfl, denotes⟩ := one
  obtain ⟨_, rfl, denotes'⟩ := two
  exact denotes.unambiguous denotes'

/-- A name that is written as it is. -/
def isName (name : String) : Bool :=
  name.toList.all fun c => 32 ≤ c.toNat && c.toNat < 128 && c.toNat ≠ 34 && c.toNat ≠ 92

def memberBytes (name : String) (value : Bytes) : Bytes :=
  (quote :: (text name ++ [quote, colon])) ++ value

/-- The compact text of an object. -/
def objectBytes : List (String × Bytes) → Bytes
  | [] => [123, 125]
  | (name, value) :: rest =>
    123 :: (memberBytes name value ++
      (rest.flatMap fun member => 44 :: memberBytes member.1 member.2) ++ [125])

private theorem decimal_head (positive : 0 < value) : (decimal value).head? ≠ some 48 := by
  induction value using Nat.strong_induction_on with
  | _ value ih =>
    rcases Nat.lt_or_ge value 10 with small | large
    · rw [decimal, Nat.toDigits_of_lt_base small]
      have digits :
          ∀ digit < 10, 0 < digit → ([digit.digitChar].map Char.toUInt8).head? ≠ some 48 := by
        decide
      exact digits value small positive
    · have shorter := ih (value / 10) (by omega) (by omega)
      rw [decimal, Nat.toDigits_of_base_le (by decide) large, List.map_append]
      exact (List.head?_append_of_ne_nil _ (decimal_ne_nil (value / 10))).trans_ne shorter

theorem digits_decimal (value : Nat) : Digits ((decimal value).map UInt8.toNat) where
  some := by simpa using decimal_ne_nil value
  decimal := by
    intro digit member
    obtain ⟨byte, inside, rfl⟩ := List.mem_map.mp member
    have range := isDigit_of_mem_decimal inside
    simpa [isDigit, isDecimal, UInt8.le_iff_toNat_le] using range
  canonical := by
    intro zero
    rcases Nat.eq_zero_or_pos value with rfl | positive
    · decide
    · refine absurd ?_ (decimal_head positive)
      rw [List.head?_map, Option.map_eq_some_iff] at zero
      obtain ⟨byte, first, same⟩ := zero
      obtain rfl : byte = 48 := UInt8.toNat_inj.mp same
      exact first

theorem digitsValue_decimal_map (value : Nat) :
    JsonText.digitsValue ((decimal value).map UInt8.toNat) = value := by
  rw [JsonText.digitsValue, List.foldl_map]
  exact digitsValue_decimal value

theorem decimal_ascii (member : byte ∈ decimal value) : byte < 128 := by
  have range := isDigit_of_mem_decimal member
  grind [isDigit]

theorem isName_letter (plain : isName name = true) (member : c ∈ name.toList) :
    32 ≤ c.toNat ∧ c.toNat < 128 ∧ c.toNat ≠ 34 ∧ c.toNat ≠ 92 := by
  have letter := List.all_eq_true.mp plain c member
  simpa [and_assoc] using letter

/-- The letters of a name are its bytes. -/
theorem name_codes (plain : isName name = true) : (text name).map UInt8.toNat = codes name := by
  rw [text, codes, List.map_map]
  refine List.map_congr_left fun c member => ?_
  have letter := isName_letter plain member
  simp only [Function.comp_apply, Char.toUInt8, UInt32.toNat_toUInt8]
  exact Nat.mod_eq_of_lt (Nat.lt_trans letter.2.1 (by decide))

theorem name_ascii (plain : isName name = true) : ∀ byte ∈ text name, byte < 128 := by
  intro byte member
  have value : byte.toNat ∈ codes name := name_codes plain ▸ List.mem_map_of_mem member
  obtain ⟨c, inside, same⟩ := List.mem_map.mp value
  rw [UInt8.lt_iff_toNat_lt, ← same]
  exact (isName_letter plain inside).2.1

theorem content_name (plain : isName name = true) : Content (codes name) (codes name) := by
  have letters : ∀ code ∈ codes name, 32 ≤ code ∧ code ≠ 34 ∧ code ≠ 92 := by
    intro code member
    obtain ⟨c, inside, rfl⟩ := List.mem_map.mp member
    exact ⟨(isName_letter plain inside).1, (isName_letter plain inside).2.2⟩
  exact .of_plain letters

section Carries

variable {spells : Bytes → Text → Prop} (spelling : Spelling spells)

theorem ascii_of_all {content : Bytes} (checked : content.all (· < 128) = true) :
    ∀ byte ∈ content, byte < 128 := by
  intro byte member
  simpa using List.all_eq_true.mp checked byte member

include spelling

theorem carries_decimal (value : Nat) : Carries spells (decimal value) (.int value) := by
  refine ⟨_, spelling.ascii fun byte member => decimal_ascii member, ?_⟩
  have natural := Denotes.natural (digits_decimal value)
  rwa [digitsValue_decimal_map] at natural

theorem carries_signedDecimal (value : Int) :
    Carries spells (signedDecimal value) (.int value) := by
  unfold signedDecimal
  split
  · rename_i below
    have ascii : ∀ byte ∈ text "-" ++ decimal value.natAbs, byte < 128 := by
      intro byte member
      rcases List.mem_append.mp member with sign | digit
      · obtain rfl : byte = 45 := List.mem_singleton.mp sign
        decide
      · exact decimal_ascii digit
    refine ⟨_, spelling.ascii ascii, ?_⟩
    have negative := Denotes.negative (digits_decimal value.natAbs)
    have magnitude : -(value.natAbs : Int) = value := by omega
    rw [digitsValue_decimal_map, magnitude] at negative
    exact negative
  · rename_i nonneg
    have carried := carries_decimal spelling value.natAbs
    rwa [Int.natAbs_of_nonneg (Int.not_lt.mp nonneg)] at carried

theorem carries_null : Carries spells (text "null") .null :=
  ⟨_, spelling.ascii (ascii_of_all (by decide)), .nullWord⟩

/-- A string is read as the characters its bytes stand for. -/
theorem carries_string (spelled : spells content meant) :
    Carries spells (jsonString content) (.string meant) := by
  obtain ⟨written, escaped, content⟩ := spelling.escape spelled
  have mark : spells (text "\"") [34] := spelling.ascii (ascii_of_all (by decide))
  refine ⟨[34] ++ written ++ [34], spelling.append (spelling.append mark escaped) mark, ?_⟩
  exact .string content

/-- A string of letters between quotes. -/
theorem carries_name (plain : isName name = true) :
    Carries spells (quote :: (text name ++ [quote])) (.string (codes name)) := by
  have letters := spelling.ascii (name_ascii plain)
  have mark : spells [quote] [34] := spelling.ascii (ascii_of_all (by decide))
  rw [name_codes plain] at letters
  exact ⟨_, spelling.append mark (spelling.append letters mark), .string (content_name plain)⟩

theorem carries_text (plain : isName name = true) :
    Carries spells (quote :: (text name ++ [quote])) (.string ((text name).map UInt8.toNat)) := by
  rw [name_codes plain]
  exact carries_name spelling plain

private theorem spells_name (plain : isName name = true) :
    spells (quote :: (text name ++ [quote, colon])) (34 :: (codes name ++ [34, 58])) := by
  have letters := spelling.ascii (name_ascii plain)
  have mark : spells [quote] [34] := spelling.ascii (ascii_of_all (by decide))
  have marks : spells [quote, colon] [34, 58] := spelling.ascii (ascii_of_all (by decide))
  rw [name_codes plain] at letters
  exact spelling.append mark (spelling.append letters marks)

/-- The members up to the closing brace. -/
private theorem carries_members (field : String × Bytes × Json)
    (rest : List (String × Bytes × Json))
    (each : ∀ other ∈ field :: rest, isName other.1 = true ∧ Carries spells other.2.1 other.2.2) :
    ∃ written, spells (memberBytes field.1 field.2.1 ++
        ((rest.map fun other => (other.1, other.2.1)).flatMap fun member =>
          44 :: memberBytes member.1 member.2) ++ [125])
        written ∧
      Denotes written (.members ((field :: rest).map fun other => (codes other.1, other.2.2))) := by
  have nothing : Blank [] := by simp [Blank]
  induction rest generalizing field with
  | nil =>
    obtain ⟨plain, value, spelled, denotes⟩ := each field (by simp)
    have brace : spells [125] [125] := spelling.ascii (ascii_of_all (by decide))
    have whole := spelling.append (spelling.append (spells_name spelling plain) spelled) brace
    have member := Denotes.lastMember (content_name plain) nothing nothing denotes nothing
    exact ⟨_, by simpa [memberBytes] using whole, by simpa using member⟩
  | cons next rest ih =>
    obtain ⟨plain, value, spelled, denotes⟩ := each field (by simp)
    obtain ⟨others, spelledOthers, members⟩ :=
      ih next fun other member => each other (by simp [member])
    have comma : spells [44] [44] := spelling.ascii (ascii_of_all (by decide))
    have whole := spelling.append (spelling.append (spells_name spelling plain) spelled)
      (spelling.append comma spelledOthers)
    have member :=
      Denotes.member (content_name plain) nothing nothing denotes nothing nothing members
    exact ⟨_, by simpa [memberBytes] using whole, by simpa using member⟩

/-- An object is read as its members. -/
theorem carries_object (fields : List (String × Bytes × Json))
    (each : ∀ field ∈ fields, isName field.1 = true ∧ Carries spells field.2.1 field.2.2) :
    Carries spells (objectBytes (fields.map fun field => (field.1, field.2.1)))
      (.object (fields.map fun field => (codes field.1, field.2.2))) := by
  have nothing : Blank [] := by simp [Blank]
  have sign (code : UInt8) (ascii : code < 128) : spells [code] [code.toNat] :=
    spelling.ascii (by simpa using ascii)
  cases fields with
  | nil =>
    exact ⟨_, spelling.append (sign 123 (by decide)) (sign 125 (by decide)), .emptyObject nothing⟩
  | cons field rest =>
    obtain ⟨written, spelled, members⟩ := carries_members spelling field rest each
    exact ⟨_, spelling.append (sign 123 (by decide)) spelled, .object nothing members⟩

end Carries

/-! Which bodies are UTF-8: those whose strings are. -/

def IsUtf8 (content : Bytes) : Prop := ∃ chars : List Char, content = utf8Encode chars

theorem isUtf8_of_spelled (spelled : inUtf8 content meant) : IsUtf8 content :=
  spelled.imp fun _ both => both.1

theorem exists_inUtf8 (whole : IsUtf8 content) : ∃ meant, inUtf8 content meant := by
  obtain ⟨chars, encoded⟩ := whole
  exact ⟨_, chars, encoded, rfl⟩

theorem isUtf8_ascii (small : ∀ byte ∈ content, byte < 128) : IsUtf8 content :=
  isUtf8_of_spelled (inUtf8_ascii small)

theorem IsUtf8.append (first : IsUtf8 front) (second : IsUtf8 back) : IsUtf8 (front ++ back) := by
  obtain ⟨one, rfl⟩ := first
  obtain ⟨two, rfl⟩ := second
  exact ⟨one ++ two, List.flatMap_append.symm⟩

/-- A byte of ASCII ends what stands before it. -/
theorem isUtf8_split (small : mark < (128 : UInt8)) (whole : IsUtf8 (front ++ mark :: back)) :
    IsUtf8 front ∧ IsUtf8 back := by
  obtain ⟨chars, encoded⟩ := whole
  induction chars generalizing front with
  | nil => exact absurd encoded (by simp [utf8Encode])
  | cons c chars ih =>
    rw [utf8Encode, List.flatMap_cons] at encoded
    rcases List.append_eq_append_iff.mp encoded with ⟨more, first, rest⟩ | ⟨more, first, rest⟩
    · cases more with
      | nil =>
        rw [List.append_nil] at first
        exact ⟨⟨[c], by simp [utf8Encode, first]⟩, (@ih [] rest).2⟩
      | cons head more =>
        -- the mark is a byte of the character, which then has no other
        obtain ⟨rfl, left⟩ : mark = head ∧ back = more ++ utf8Encode chars := List.cons.inj rest
        have ascii : c.toNat < 128 := by
          by_contra large
          have beyond := utf8_large (Nat.not_lt.mp large)
            (first ▸ List.mem_append_right front (List.mem_cons_self ..))
          exact absurd small (UInt8.not_lt.mpr beyond)
        rw [utf8_small ascii] at first
        obtain ⟨rfl, single⟩ : front = [] ∧ more = [] := by
          have length := congrArg List.length first
          simp only [List.length_append, List.length_cons, List.length_nil] at length
          exact ⟨List.length_eq_zero_iff.mp (by omega), List.length_eq_zero_iff.mp (by omega)⟩
        exact ⟨⟨[], rfl⟩, ⟨chars, by rw [left, single, List.nil_append]⟩⟩
    · obtain ⟨before, after⟩ := ih rest.symm
      rw [first]
      exact ⟨IsUtf8.append ⟨[c], by simp [utf8Encode]⟩ before, after⟩

/-- A text of ASCII does not matter for what stands behind it. -/
theorem isUtf8_behind (ascii : ∀ byte ∈ front, byte < 128) (whole : IsUtf8 (front ++ back)) :
    IsUtf8 back := by
  induction front with
  | nil => exact whole
  | cons byte front ih =>
    have rest := (@isUtf8_split byte [] (front ++ back) (ascii byte (by simp)) whole).2
    exact ih (fun other member => ascii other (by simp [member])) rest

/-- What stands before an escaped string goes on with the string itself. -/
private theorem isUtf8_of_escaped (escaped : IsUtf8 (front ++ jsonEscape content)) :
    IsUtf8 (front ++ content) := by
  induction content generalizing front with
  | nil => exact escaped
  | cons byte content ih =>
    rw [jsonEscape, List.flatMap_cons] at escaped
    rcases UInt8.lt_or_le byte 128 with small | large
    · have ascii := jsonEscapeByte_ascii small
      cases letters : jsonEscapeByte byte with
      | nil => exact absurd letters (jsonEscapeByte_ne_nil byte)
      | cons letter more =>
        rw [letters] at escaped ascii
        obtain ⟨before, after⟩ := isUtf8_split (ascii letter (by simp)) escaped
        have rest := isUtf8_behind (fun other member => ascii other (by simp [member])) after
        obtain ⟨chars, single, _⟩ := @inUtf8_ascii [byte] (by simpa using small)
        exact before.append (IsUtf8.append ⟨chars, single⟩ (@ih [] rest))
    · have same : jsonEscapeByte byte = [byte] := by grind [jsonEscapeByte]
      rw [same, ← List.append_assoc] at escaped
      simpa using ih escaped

theorem isUtf8_of_string (whole : IsUtf8 (jsonString content)) : IsUtf8 content := by
  have opened : IsUtf8 ([] ++ quote :: (jsonEscape content ++ [quote])) := by
    have mark : text "\"" = [quote] := by decide
    simpa only [jsonString, mark, List.nil_append, List.cons_append, List.append_assoc] using whole
  have closed := (isUtf8_split (by decide) (isUtf8_split (by decide) opened).2).1
  simpa using @isUtf8_of_escaped [] content closed

private theorem isUtf8_member (names : isName name = true) (small : mark < (128 : UInt8))
    (whole : IsUtf8 (memberBytes name value ++ mark :: rest)) : IsUtf8 value ∧ IsUtf8 rest := by
  obtain ⟨member, after⟩ := isUtf8_split small whole
  refine ⟨isUtf8_behind (fun byte inside => ?_) member, after⟩
  simp only [List.mem_cons, List.mem_append, List.not_mem_nil, or_false] at inside
  rcases inside with rfl | letter | rfl | rfl
  · decide
  · exact name_ascii names byte letter
  · decide
  · decide

/-- An object is UTF-8 only if the values in it are. -/
theorem isUtf8_object {fields : List (String × Bytes)}
    (names : ∀ field ∈ fields, isName field.1 = true)
    (whole : IsUtf8 (objectBytes fields)) : ∀ field ∈ fields, IsUtf8 field.2 := by
  cases fields with
  | nil => simp
  | cons first rest =>
    have members : IsUtf8 (memberBytes first.1 first.2 ++
        ((rest.flatMap fun member => 44 :: memberBytes member.1 member.2) ++ [125])) := by
      have opened := (@isUtf8_split 123 [] _ (by decide) whole).2
      simpa only [List.append_assoc] using opened
    clear whole
    induction rest generalizing first with
    | nil => simpa using (isUtf8_member (names first (by simp)) (by decide) members).1
    | cons next rest ih =>
      simp only [List.flatMap_cons, List.append_assoc, List.cons_append] at members
      obtain ⟨value, others⟩ := isUtf8_member (names first (by simp)) (by decide) members
      have later := ih next (fun field inside => names field (by simp [inside])) others
      exact List.forall_mem_cons.mpr ⟨value, later⟩

end Kiosk.Protocol
