import Kiosk.Backend.DeviceState
import Kiosk.Protocol.ProtocolCodec

/-! `json.dumps` with its default settings, for texts, numbers and flat objects, and how
`json_extract.cpp` reads what it writes. -/
namespace Kiosk.Backend

open Library Library.KeySearch Protocol

/-- A text on the wire and on the device. -/
def utf8 (string : PyStr) : Bytes :=
  string.flatMap fun code => String.utf8EncodeChar (Char.ofNat code)

def nibble (value : Nat) : UInt8 := hexDigit (UInt8.ofNat (value % 16))

/-- `%04x`. -/
def hex4 (value : Nat) : Bytes :=
  [nibble (value / 4096), nibble (value / 256), nibble (value / 16), nibble value]

/-- The characters without an escape, or with one of the three the device knows. -/
def plain (code : Nat) : Bool := code = 10 || code = 13 || code = 9 || (32 ≤ code && code ≤ 126)

/-- `ensure_ascii`: what is not printable is escaped, by a pair of surrogates above the
basic plane. -/
def escapeChar (code : Nat) : Bytes :=
  if code = 34 then [backslash, 34]
  else if code = 92 then [backslash, 92]
  else if code = 10 then [backslash, 110]
  else if code = 13 then [backslash, 114]
  else if code = 9 then [backslash, 116]
  else if code = 8 then [backslash, 98]
  else if code = 12 then [backslash, 102]
  else if 32 ≤ code ∧ code ≤ 126 then [UInt8.ofNat code]
  else if code < 65536 then backslash :: 117 :: hex4 code
  else
    backslash :: 117 :: hex4 (55296 + (code - 65536) / 1024 % 1024) ++
    backslash :: 117 :: hex4 (56320 + (code - 65536) % 1024)

def dumpsText (string : PyStr) : Bytes := string.flatMap escapeChar

/-- What the device reads for a character: of an escape it does not know, the letters. -/
def shown (code : Nat) : Bytes :=
  if plain code then [UInt8.ofNat code]
  else if code = 8 then [98]
  else if code = 12 then [102]
  else if code < 65536 then 117 :: hex4 code
  else
    117 :: hex4 (55296 + (code - 65536) / 1024 % 1024) ++
      117 :: hex4 (56320 + (code - 65536) % 1024)

theorem ofNat_ne {byte : UInt8} (small : code < 256) (differ : code ≠ byte.toNat) :
    UInt8.ofNat code ≠ byte := by
  rintro rfl
  rw [UInt8.toNat_ofNat_of_lt' small] at differ
  exact differ rfl

theorem nibble_word (value : Nat) : isWord (nibble value) = true := by
  have small : UInt8.ofNat (value % 16) < 16 := by
    rw [UInt8.lt_iff_toNat_lt,
      UInt8.toNat_ofNat_of_lt' (Nat.lt_trans (Nat.mod_lt value (by decide)) (by decide))]
    exact Nat.mod_lt value (by decide)
  unfold nibble
  grind [isWord, hexDigit]

theorem hex4_word (member : byte ∈ hex4 value) : isWord byte = true := by
  simp only [hex4, List.mem_cons, List.not_mem_nil, or_false] at member
  rcases member with rfl | rfl | rfl | rfl <;> exact nibble_word _

private theorem readString_unicode (value : Nat) (rest : Bytes) :
    readString (backslash :: 117 :: hex4 value ++ rest) =
      (117 : UInt8) :: hex4 value ++ readString rest := by
  have bare : ∀ byte ∈ hex4 value, byte ≠ quote ∧ byte ≠ backslash :=
    fun byte member => ⟨(word_ne (hex4_word member)).1, (word_ne (hex4_word member)).2.1⟩
  rw [List.cons_append, List.cons_append, readString_escape, readString_bare bare]
  rfl

/-- One character of a dumped text, read on the device. -/
theorem readString_escapeChar (code : Nat) (rest : Bytes) :
    readString (escapeChar code ++ rest) = shown code ++ readString rest := by
  unfold escapeChar
  rcases eq_or_ne code 34 with rfl | notQuote
  · rw [if_pos rfl]
    exact readString_escape _ _
  rw [if_neg notQuote]
  rcases eq_or_ne code 92 with rfl | notBackslash
  · rw [if_pos rfl]
    exact readString_escape _ _
  rw [if_neg notBackslash]
  rcases eq_or_ne code 10 with rfl | newline
  · rw [if_pos rfl]
    exact readString_escape _ _
  rw [if_neg newline]
  rcases eq_or_ne code 13 with rfl | carriage
  · rw [if_pos rfl]
    exact readString_escape _ _
  rw [if_neg carriage]
  rcases eq_or_ne code 9 with rfl | tab
  · rw [if_pos rfl]
    exact readString_escape _ _
  rw [if_neg tab]
  rcases eq_or_ne code 8 with rfl | bell
  · rw [if_pos rfl]
    exact readString_escape _ _
  rw [if_neg bell]
  rcases eq_or_ne code 12 with rfl | feed
  · rw [if_pos rfl]
    exact readString_escape _ _
  rw [if_neg feed]
  split
  · rename_i range
    have printable : plain code = true := by simp [plain, range]
    rw [shown, if_pos printable]
    exact readString_plain (ofNat_ne (by omega) notQuote) (ofNat_ne (by omega) notBackslash) rest
  rename_i outside
  have notPlain : plain code = false := by
    simp only [plain, newline, carriage, tab, decide_false, Bool.false_or, Bool.and_eq_false_iff,
      decide_eq_false_iff_not]
    omega
  simp only [shown, notPlain, bell, feed, Bool.false_eq_true, if_false]
  split
  · exact readString_unicode code rest
  · rw [List.append_assoc, readString_unicode, readString_unicode, List.append_assoc]

theorem readString_dumpsText (string : PyStr) (rest : Bytes) :
    readString (dumpsText string ++ rest) = string.flatMap shown ++ readString rest := by
  induction string with
  | nil => rfl
  | cons code string ih =>
    rw [dumpsText, List.flatMap_cons, List.append_assoc, readString_escapeChar, List.flatMap_cons,
      List.append_assoc]
    exact congrArg (shown code ++ ·) ih

/-- The three forms of a dumped character. -/
theorem escapeChar_form (code : Nat) :
    (∃ letter ∈ text "\"\\nrtbf", escapeChar code = [backslash, letter]) ∨
      (32 ≤ code ∧ code ≤ 126 ∧ code ≠ 34 ∧ code ≠ 92 ∧ escapeChar code = [UInt8.ofNat code]) ∨
      ∃ values : List Nat, escapeChar code = values.flatMap fun value =>
        backslash :: 117 :: hex4 value := by
  unfold escapeChar
  rcases eq_or_ne code 34 with rfl | notQuote
  · exact .inl ⟨34, by decide, if_pos rfl⟩
  rw [if_neg notQuote]
  rcases eq_or_ne code 92 with rfl | notBackslash
  · exact .inl ⟨92, by decide, if_pos rfl⟩
  rw [if_neg notBackslash]
  rcases eq_or_ne code 10 with rfl | newline
  · exact .inl ⟨110, by decide, if_pos rfl⟩
  rw [if_neg newline]
  rcases eq_or_ne code 13 with rfl | carriage
  · exact .inl ⟨114, by decide, if_pos rfl⟩
  rw [if_neg carriage]
  rcases eq_or_ne code 9 with rfl | tab
  · exact .inl ⟨116, by decide, if_pos rfl⟩
  rw [if_neg tab]
  rcases eq_or_ne code 8 with rfl | bell
  · exact .inl ⟨98, by decide, if_pos rfl⟩
  rw [if_neg bell]
  rcases eq_or_ne code 12 with rfl | feed
  · exact .inl ⟨102, by decide, if_pos rfl⟩
  rw [if_neg feed]
  by_cases range : 32 ≤ code ∧ code ≤ 126
  · exact .inr (.inl ⟨range.1, range.2, notQuote, notBackslash, if_pos range⟩)
  rw [if_neg range]
  by_cases basic : code < 65536
  · exact .inr (.inr ⟨[code], by rw [if_pos basic, List.flatMap_singleton]⟩)
  · exact .inr (.inr ⟨[55296 + (code - 65536) / 1024 % 1024, 56320 + (code - 65536) % 1024],
      by rw [if_neg basic, List.flatMap_cons, List.flatMap_singleton]⟩)

private theorem escaped_unicode (values : List Nat) :
    Escaped (values.flatMap fun value => backslash :: 117 :: hex4 value) := by
  induction values with
  | nil => exact .nil
  | cons value values ih =>
    have letters : Escaped (hex4 value) :=
      .of_plain fun byte member =>
        ⟨(word_ne (hex4_word member)).1, (word_ne (hex4_word member)).2.1⟩
    exact (Escaped.escape letters).append ih

theorem escaped_escapeChar (code : Nat) : Escaped (escapeChar code) := by
  rcases escapeChar_form
    code with ⟨letter, _, spelled⟩ | ⟨_, high, notQuote, notBackslash, spelled⟩ | ⟨values, spelled⟩
  · rw [spelled]
    exact .escape .nil
  · rw [spelled]
    exact .plain (ofNat_ne (by omega) notQuote) (ofNat_ne (by omega) notBackslash) .nil
  · rw [spelled]
    exact escaped_unicode values

theorem escaped_dumpsText (string : PyStr) : Escaped (dumpsText string) := by
  induction string with
  | nil => exact .nil
  | cons code string ih => exact (escaped_escapeChar code).append ih

theorem plain_word {byte : UInt8} (word : isWord byte = true) : plain byte.toNat = true := by
  have range : 32 ≤ byte ∧ byte ≤ 126 := by grind [isWord]
  have low := UInt8.le_iff_toNat_le.mp range.1
  have high := UInt8.le_iff_toNat_le.mp range.2
  simp_all [plain]

theorem plain_lt (printable : plain code = true) : code < 127 := by
  simp only [plain, Bool.or_eq_true, Bool.and_eq_true, decide_eq_true_eq] at printable
  omega

/-- Whatever is read is plain. -/
theorem plain_of_mem_shown (member : byte ∈ shown code) : plain byte.toNat = true := by
  have letters : ∀ value, ∀ letter ∈ (117 : UInt8) :: hex4 value, plain letter.toNat = true := by
    intro value letter inside
    rcases List.mem_cons.mp inside with rfl | inside
    · decide
    · exact plain_word (hex4_word inside)
  unfold shown at member
  split at member
  · rename_i printable
    rw [List.mem_singleton.mp member,
      UInt8.toNat_ofNat_of_lt' (Nat.lt_of_lt_of_le (plain_lt printable) (by decide))]
    exact printable
  split at member
  · rw [List.mem_singleton.mp member]
    decide
  split at member
  · rw [List.mem_singleton.mp member]
    decide
  split at member
  · exact letters _ byte member
  · rcases List.mem_append.mp member with member | member
    · exact letters _ byte member
    · exact letters _ byte member

theorem utf8EncodeChar_plain (printable : plain code = true) :
    String.utf8EncodeChar (Char.ofNat code) = [UInt8.ofNat code] := by
  have small := plain_lt printable
  have valid : code.isValidChar := .inl (by omega)
  have value : (Char.ofNat code).val.toNat = code := by
    simp [Char.ofNat, valid, Char.ofNatAux, UInt32.toNat_ofNatLT]
  simp [String.utf8EncodeChar, value]
  omega

/-- UTF-8 has a byte for any other character that is never read. -/
theorem utf8EncodeChar_rough (rough : plain code = false) :
    ∃ byte ∈ String.utf8EncodeChar (Char.ofNat code), plain byte.toNat = false := by
  have scalar : (Char.ofNat code).val.toNat = code ∨ (Char.ofNat code).val.toNat = 0 := by
    have value := Char.toNat_ofNat code
    rw [Char.toNat] at value
    split at value
    · exact .inl value
    · exact .inr value
  have lead : ∀ value, 128 ≤ value → value < 256 → plain (UInt8.ofNat value).toNat = false := by
    intro value low high
    rw [UInt8.toNat_ofNat_of_lt' high]
    simp only [plain, Bool.or_eq_false_iff, Bool.and_eq_false_iff, decide_eq_false_iff_not]
    omega
  unfold String.utf8EncodeChar
  simp only
  split
  · rename_i ascii
    refine ⟨_, .head _, ?_⟩
    rw [UInt8.toNat_ofNat_of_lt' (Nat.lt_of_le_of_lt ascii (by decide))]
    rcases scalar with same | zero
    · rw [same]
      exact rough
    · rw [zero]
      decide
  split
  · exact ⟨_, .head _, lead _ (by omega) (by omega)⟩
  split
  · exact ⟨_, .head _, lead _ (by omega) (by omega)⟩
  · exact ⟨_, .head _, lead _ (by omega) (by omega)⟩

/-- What is read is the UTF-8 of plain texts only. -/
theorem plain_of_shown {first second : PyStr} (same : first.flatMap shown = utf8 second) :
    ∀ code ∈ second, plain code = true := by
  intro code member
  by_contra rough
  obtain ⟨byte, inside, never⟩ := utf8EncodeChar_rough (Bool.eq_false_iff.mpr rough)
  have read : byte ∈ first.flatMap shown := by
    rw [same]
    exact List.mem_flatMap.mpr ⟨code, member, inside⟩
  obtain ⟨other, _, written⟩ := List.mem_flatMap.mp read
  rw [plain_of_mem_shown written] at never
  cases never

/-- The device has the text itself exactly when all its characters are plain. -/
theorem shown_eq_utf8_iff (string : PyStr) :
    string.flatMap shown = utf8 string ↔ ∀ code ∈ string, plain code = true := by
  refine ⟨plain_of_shown, fun printable => ?_⟩
  refine List.flatMap_congr fun code member => ?_
  rw [shown, if_pos (printable code member), utf8EncodeChar_plain (printable code member)]

/-- The braces open after a text, `none` once all are closed. -/
def openBraces : Nat → PyStr → Option Nat
  | depth, [] => some depth
  | depth, code :: rest =>
    if code = 123 then openBraces (depth + 1) rest
    else if code = 125 then
      if depth = 1 then none else openBraces (depth - 1) rest
    else openBraces depth rest

theorem openBraces_append (depth : Nat) (front back : PyStr) :
    openBraces depth (front ++ back) = (openBraces depth front).bind fun left =>
      openBraces left back := by
  induction front generalizing depth with
  | nil => rfl
  | cons code front ih =>
    simp only [List.cons_append, openBraces]
    split
    · exact ih _
    split
    · split
      · rfl
      · exact ih _
    · exact ih _

/-- A text in which the last brace is closed splits behind it. -/
theorem openBraces_none (closed : openBraces depth string = none) :
    ∃ front back, string = front ++ 125 :: back ∧ openBraces depth front = some 1 := by
  induction string generalizing depth with
  | nil => cases closed
  | cons code string ih =>
    have extend : ∀ next, openBraces next string = none →
          (∀ front, openBraces depth (code :: front) = openBraces next front) →
        ∃ front back, code :: string = front ++ 125 :: back ∧ openBraces depth front = some 1 := by
      intro next later step
      obtain ⟨front, back, rfl, one⟩ := ih later
      exact ⟨code :: front, back, rfl, by rw [step, one]⟩
    simp only [openBraces] at closed
    split at closed
    · rename_i opening
      exact extend _ closed fun front => by simp [openBraces, opening]
    split at closed
    · rename_i closing
      split at closed
      · rename_i last
        subst closing last
        exact ⟨[], string, rfl, rfl⟩
      · rename_i inner
        exact extend _ closed fun front => by simp [openBraces, closing, inner]
    · rename_i notOpening notClosing
      exact extend _ closed fun front => by simp [openBraces, notOpening, notClosing]

theorem balancedFrom_bare (bare : ∀ byte ∈ front, byte ≠ 123 ∧ byte ≠ 125) (depth : Nat)
    (rest : Bytes) :
    balancedFrom depth (front ++ rest) = (balancedFrom depth rest).map (front ++ ·) := by
  induction front with
  | nil => simp
  | cons byte front ih =>
    have head := bare byte (by simp)
    rw [List.cons_append, balancedFrom, if_neg head.1, if_neg head.2,
      ih fun other member => bare other (by simp [member]), Option.map_map]
    rfl

private theorem word_bare (word : isWord byte = true) : byte ≠ 123 ∧ byte ≠ 125 := by
  constructor <;> rintro rfl <;> exact absurd word (by decide)

private theorem escapeChar_bare (notOpening : code ≠ 123) (notClosing : code ≠ 125) :
    ∀ byte ∈ escapeChar code, byte ≠ 123 ∧ byte ≠ 125 := by
  rcases escapeChar_form
    code with ⟨letter, named, spelled⟩ | ⟨_, high, _, _, spelled⟩ | ⟨values, spelled⟩
  · have all : (text "\"\\nrtbf").all (fun letter => letter ≠ 123 && letter ≠ 125) = true := by
      decide
    rw [spelled]
    intro byte member
    rcases List.mem_cons.mp member with rfl | member
    · decide
    · rw [List.mem_singleton.mp member]
      simpa using List.all_eq_true.mp all letter named
  · rw [spelled]
    intro byte member
    rw [List.mem_singleton.mp member]
    exact ⟨ofNat_ne (by omega) notOpening, ofNat_ne (by omega) notClosing⟩
  · rw [spelled]
    intro byte member
    obtain ⟨value, _, inside⟩ := List.mem_flatMap.mp member
    rcases List.mem_cons.mp inside with rfl | inside
    · decide
    rcases List.mem_cons.mp inside with rfl | inside
    · decide
    · exact word_bare (hex4_word inside)

/-- The scan for the closing brace goes over a dumped text as the count does. -/
theorem balancedFrom_dumpsText (counted : openBraces depth string = some left) (rest : Bytes) :
    balancedFrom depth (dumpsText string ++ rest) =
      (balancedFrom left rest).map (dumpsText string ++ ·) := by
  induction string generalizing depth with
  | nil =>
    cases counted
    simp [dumpsText]
  | cons code string ih =>
    have split : dumpsText (code :: string) = escapeChar code ++ dumpsText string := rfl
    rw [split, List.append_assoc]
    simp only [openBraces] at counted
    split at counted
    · rename_i opening
      subst opening
      rw [show escapeChar 123 = [123] from rfl, List.singleton_append, balancedFrom, if_pos rfl,
        ih counted, Option.map_map]
      rfl
    split at counted
    · rename_i closing
      subst closing
      split at counted
      · cases counted
      · rename_i inner
        rw [show escapeChar 125 = [125] from rfl, List.singleton_append, balancedFrom,
          if_neg (by decide), if_pos rfl, if_neg inner, ih counted, Option.map_map]
        rfl
    · rename_i notOpening notClosing
      rw [balancedFrom_bare (escapeChar_bare notOpening notClosing), ih counted, Option.map_map]
      refine congrArg (Option.map · _) (funext fun found => ?_)
      simp

/-! Objects whose members are texts and numbers. -/

inductive JsonValue where
  | string (content : PyStr)
  | number (value : Int)
  | null
  deriving DecidableEq, Repr

abbrev Member := Key × JsonValue

def dumpsValue : JsonValue → Bytes
  | .string content => quote :: (dumpsText content ++ [quote])
  | .number value => signedDecimal value
  | .null => text "null"

def dumpsMember (member : Member) : Bytes :=
  quote :: (member.1.bytes ++ quote :: colon :: 32 :: dumpsValue member.2)

def laterMembers (members : List Member) : Bytes :=
  members.flatMap fun member => 44 :: 32 :: dumpsMember member

def dumpsMembers : List Member → Bytes
  | [] => []
  | member :: rest => dumpsMember member ++ laterMembers rest

def dumpsObject (members : List Member) : Bytes := 123 :: (dumpsMembers members ++ [125])

/-- The texts of an object, one after the other. -/
def texts (members : List Member) : PyStr :=
  members.flatMap fun member => match member.2 with
    | .string content => content
    | _ => []

theorem bare_number (value : Int) :
    ∀ byte ∈ signedDecimal value, byte ≠ 123 ∧ byte ≠ 125 ∧ byte ≠ quote := by
  have digits : ∀ byte ∈ decimal value.natAbs, byte ≠ 123 ∧ byte ≠ 125 ∧ byte ≠ quote := by
    intro byte member
    have digit := isDigit_of_mem_decimal member
    grind [isDigit]
  unfold signedDecimal
  split
  · intro byte member
    rcases List.mem_append.mp member with member | member
    · rw [List.mem_singleton.mp member]
      decide
    · exact digits byte member
  · exact digits

private theorem bare_key (key : Key) :
    ∀ byte ∈ quote :: (key.bytes ++ [quote, colon, 32]), byte ≠ 123 ∧ byte ≠ 125 := by
  intro byte member
  rcases List.mem_cons.mp member with rfl | member
  · decide
  rcases List.mem_append.mp member with member | member
  · exact word_bare (key.word_of_mem member)
  · have closing : ∀ byte ∈ ([quote, colon, 32] : Bytes), byte ≠ 123 ∧ byte ≠ 125 := by
      simp [quote, colon]
    exact closing byte member

private theorem balancedFrom_value {value : JsonValue}
    (counted : openBraces depth (texts [(key, value)]) = some left) (rest : Bytes) :
      balancedFrom depth (dumpsValue value ++ rest) =
      (balancedFrom left rest).map (dumpsValue value ++ ·) := by
  cases value with
  | string content =>
    have split : dumpsValue (.string content) = [quote] ++ (dumpsText content ++ [quote]) := rfl
    have quoted : ∀ byte ∈ ([quote] : Bytes), byte ≠ 123 ∧ byte ≠ 125 := by simp [quote]
    simp only [texts, List.flatMap_cons, List.flatMap_nil, List.append_nil] at counted
    rw [split, List.append_assoc, List.append_assoc, balancedFrom_bare quoted,
      balancedFrom_dumpsText counted, balancedFrom_bare quoted, Option.map_map, Option.map_map]
    refine congrArg (Option.map · _) (funext fun found => ?_)
    simp
  | number value =>
    cases counted
    have bare (byte : UInt8) (member : byte ∈ signedDecimal value) := bare_number value byte member
    exact balancedFrom_bare (fun byte member => ⟨(bare byte member).1, (bare byte member).2.1⟩) _ _
  | null =>
    cases counted
    have letters : (text "null").all (fun byte => byte ≠ 123 && byte ≠ 125) = true := by decide
    exact balancedFrom_bare
      (fun byte member => by simpa using List.all_eq_true.mp letters byte member) _ _

theorem balancedFrom_dumpsMember {member : Member}
    (counted : openBraces depth (texts [member]) = some left) (rest : Bytes) :
    balancedFrom depth (dumpsMember member ++ rest) =
      (balancedFrom left rest).map (dumpsMember member ++ ·) := by
  have split : dumpsMember member =
      quote :: (member.1.bytes ++ [quote, colon, 32]) ++ dumpsValue member.2 := by
    simp [dumpsMember]
  rw [split, List.append_assoc, balancedFrom_bare (bare_key member.1), balancedFrom_value counted,
    Option.map_map]
  refine congrArg (Option.map · _) (funext fun found => ?_)
  simp

theorem texts_cons (member : Member) (members : List Member) :
    texts (member :: members) = texts [member] ++ texts members := by
  simp [texts]

theorem balancedFrom_laterMembers (counted : openBraces depth (texts members) = some left)
    (rest : Bytes) :
    balancedFrom depth (laterMembers members ++ rest) =
      (balancedFrom left rest).map (laterMembers members ++ ·) := by
  induction members generalizing depth with
  | nil =>
    cases counted
    simp [laterMembers]
  | cons member members ih =>
    rw [texts_cons, openBraces_append] at counted
    obtain ⟨between, first, later⟩ := Option.bind_eq_some_iff.mp counted
    have split : laterMembers (member :: members) =
        [44, 32] ++ (dumpsMember member ++ laterMembers members) := by
      simp [laterMembers]
    rw [split, List.append_assoc, List.append_assoc, balancedFrom_bare (by simp),
      balancedFrom_dumpsMember first, ih later, Option.map_map, Option.map_map]
    refine congrArg (Option.map · _) (funext fun found => ?_)
    simp

theorem balancedFrom_dumpsMembers (counted : openBraces depth (texts members) = some left)
    (rest : Bytes) :
    balancedFrom depth (dumpsMembers members ++ rest) =
      (balancedFrom left rest).map (dumpsMembers members ++ ·) := by
  cases members with
  | nil =>
    cases counted
    simp [dumpsMembers]
  | cons member members =>
    rw [texts_cons, openBraces_append] at counted
    obtain ⟨between, first, later⟩ := Option.bind_eq_some_iff.mp counted
    rw [dumpsMembers, List.append_assoc, balancedFrom_dumpsMember first,
      balancedFrom_laterMembers later, Option.map_map]
    refine congrArg (Option.map · _) (funext fun found => ?_)
    simp

/-- An object up to the quote that opens a text of its own. -/
def openMember (before : List Member) (key : Key) : Bytes :=
  (if before = [] then [] else dumpsMembers before ++ [44, 32]) ++
    quote :: (key.bytes ++ [quote, colon, 32, quote])

theorem dumpsMembers_append (before after : List Member) (key : Key) (content : PyStr) :
    dumpsMembers (before ++ (key, .string content) :: after) =
      openMember before key ++ (dumpsText content ++ quote :: laterMembers after) := by
  cases before with
  | nil => simp [dumpsMembers, openMember, dumpsMember, dumpsValue]
  | cons member before => simp [dumpsMembers, openMember, dumpsMember, dumpsValue, laterMembers]

private theorem balancedFrom_openMember (counted : openBraces depth (texts before) = some left)
    (key : Key) (rest : Bytes) :
    balancedFrom depth (openMember before key ++ rest) =
      (balancedFrom left rest).map (openMember before key ++ ·) := by
  have opening :
      ∀ byte ∈ quote :: (key.bytes ++ [quote, colon, 32, quote]), byte ≠ 123 ∧ byte ≠ 125 := by
    intro byte member
    have split : quote :: (key.bytes ++ [quote, colon, 32, quote]) =
        quote :: (key.bytes ++ [quote, colon, 32]) ++ [quote] := by
      simp
    rw [split] at member
    rcases List.mem_append.mp member with member | member
    · exact bare_key key byte member
    · rw [List.mem_singleton.mp member]
      decide
  unfold openMember
  split
  · rename_i empty
    subst empty
    cases counted
    exact balancedFrom_bare opening _ _
  · rw [List.append_assoc, List.append_assoc, balancedFrom_dumpsMembers counted,
      balancedFrom_bare (by simp), balancedFrom_bare opening, Option.map_map, Option.map_map]
    refine congrArg (Option.map · _) (funext fun found => ?_)
    simp

/-- Where the count runs out, the scan stops inside a text: what it takes for the object
is one that ends there, without the closing quote. -/
theorem balancedFrom_cut (counted : openBraces depth (texts before ++ front) = some 1) (key : Key)
    (back : PyStr) (after : List Member) (rest : Bytes) :
    balancedFrom depth
        (dumpsMembers (before ++ (key, .string (front ++ 125 :: back)) :: after) ++ rest) =
      some (openMember before key ++ dumpsText (front ++ [125])) := by
  rw [openBraces_append] at counted
  obtain ⟨between, first, later⟩ := Option.bind_eq_some_iff.mp counted
  have split : dumpsText (front ++ 125 :: back) = dumpsText front ++ 125 :: dumpsText back := by
    simp [dumpsText, show escapeChar 125 = [125] from rfl]
  have closing : dumpsText (front ++ [125]) = dumpsText front ++ [125] := by
    simp [dumpsText, show escapeChar 125 = [125] from rfl]
  rw [dumpsMembers_append, List.append_assoc, List.append_assoc, balancedFrom_openMember first,
    split, List.append_assoc, balancedFrom_dumpsText later, closing]
  simp [balancedFrom]

/-- The member the count runs out in. -/
theorem texts_none (closed : openBraces depth (texts members) = none) :
    ∃ before key front back after,
        members = before ++ (key, .string (front ++ 125 :: back)) :: after ∧
      openBraces depth (texts before ++ front) = some 1 := by
  induction members generalizing depth with
  | nil => cases closed
  | cons member members ih =>
    rw [texts_cons, openBraces_append] at closed
    cases here : openBraces depth (texts [member]) with
    | none =>
      obtain ⟨key, value⟩ := member
      cases value with
      | string content =>
        simp only [texts, List.flatMap_cons, List.flatMap_nil, List.append_nil] at here
        obtain ⟨front, back, rfl, one⟩ := openBraces_none here
        exact ⟨[], key, front, back, members, rfl, one⟩
      | number value => cases here
      | null => cases here
    | some left =>
      rw [here, Option.bind_some] at closed
      obtain ⟨before, key, front, back, after, rfl, one⟩ := ih closed
      refine ⟨member :: before, key, front, back, after, rfl, ?_⟩
      rw [texts_cons, List.append_assoc, openBraces_append, here]
      exact one

/-! Looking a member up. -/

def valuePiece : JsonValue → Piece
  | .string content => .value (dumpsText content)
  | .number value => .bare (signedDecimal value)
  | .null => .bare (text "null")

def memberPieces (member : Member) : List Piece := [.key member.1, .bare [32], valuePiece member.2]

/-- The pieces of an object behind its first member, then `close`, which starts with the
closing brace, and more pieces. -/
def laterPieces (members : List Member) (close : Bytes) (rest : List Piece) : List Piece :=
  members.flatMap (fun member => .bare [44, 32] :: memberPieces member) ++
    .bare (125 :: close) :: rest

def objectPieces : List Member → Bytes → List Piece → List Piece
  | [], close, rest => .bare [123] :: .bare (125 :: close) :: rest
  | member :: members, close, rest =>
    .bare [123] :: memberPieces member ++ laterPieces members close rest

/-- The first member of a name. -/
def memberOf (members : List Member) (key : Key) : Option JsonValue :=
  (members.find? fun member => member.1.bytes = key.bytes).map Prod.snd

private theorem bytes_valuePiece (value : JsonValue) :
    (valuePiece value).bytes = dumpsValue value := by
  cases value <;> rfl

private theorem render_memberPieces (member : Member) (pieces : List Piece) :
    render (memberPieces member ++ pieces) = dumpsMember member ++ render pieces := by
  simp only [memberPieces, List.cons_append, List.nil_append, render_cons, bytes_valuePiece]
  simp [Piece.bytes, dumpsMember]

theorem render_laterPieces (members : List Member) (close : Bytes) (rest : List Piece) :
    render (laterPieces members close rest) =
      laterMembers members ++ 125 :: (close ++ render rest) := by
  induction members with
  | nil => simp [laterPieces, laterMembers, Piece.bytes]
  | cons member members ih =>
    have split : laterPieces (member :: members) close rest =
        .bare [44, 32] :: (memberPieces member ++ laterPieces members close rest) := by
          simp [laterPieces]
    rw [split, render_cons, render_memberPieces, ih]
    simp [Piece.bytes, laterMembers]

theorem render_objectPieces (members : List Member) (close : Bytes) (rest : List Piece) :
    render (objectPieces members close rest) = dumpsObject members ++ (close ++ render rest) := by
  cases members with
  | nil => simp [objectPieces, dumpsObject, dumpsMembers, Piece.bytes]
  | cons member members =>
    rw [objectPieces, List.cons_append, render_cons, render_memberPieces, render_laterPieces]
    simp [Piece.bytes, dumpsObject, dumpsMembers]

private theorem quoteless (bytes : Bytes) (plain : bytes.all (· ≠ quote) = true) :
    ∀ byte ∈ bytes, byte ≠ quote := by
  intro byte member
  simpa using List.all_eq_true.mp plain byte member

theorem noQuote_nil : ∀ byte ∈ ([] : Bytes), byte ≠ quote := List.forall_mem_nil _

/-- A value is followed by a comma or the closing brace. -/
private theorem laterPieces_head (members : List Member) (close : Bytes) (rest : List Piece) :
    ∃ next bytes pieces,
      laterPieces members close rest = .bare (next :: bytes) :: pieces ∧
      (next = 44 ∨ next = 125) := by
  cases members with
  | nil => exact ⟨125, close, rest, rfl, .inr rfl⟩
  | cons member members => exact ⟨44, [32], _, rfl, .inl rfl⟩

private theorem memberPieces_formed (member : Member) {members : List Member} {close : Bytes}
    {rest : List Piece} (formed : WellFormed (laterPieces members close rest)) :
    WellFormed (memberPieces member ++ laterPieces members close rest) := by
  refine .key (.bare (quoteless _ (by decide)) ?_)
  obtain ⟨key, value⟩ := member
  cases value with
  | string content =>
    obtain ⟨next, bytes, pieces, spelled, comma⟩ := laterPieces_head members close rest
    rw [spelled] at formed
    have unfolded :
        [valuePiece (key, JsonValue.string content).2].append (laterPieces members close rest) =
        .value (dumpsText content) :: .bare (next :: bytes) :: pieces := by rw [spelled]; rfl
    rw [unfolded]
    refine .value (escaped_dumpsText content) ?_ ?_ formed
    · rcases comma with rfl | rfl <;> decide
    · rcases comma with rfl | rfl <;> decide
  | number value => exact .bare (fun byte member => (bare_number value byte member).2.2) formed
  | null => exact .bare (quoteless _ (by decide)) formed

theorem laterPieces_formed (members : List Member) {close : Bytes} {rest : List Piece}
    (noQuote : ∀ byte ∈ close, byte ≠ quote)
    (formed : WellFormed rest) : WellFormed (laterPieces members close rest) := by
  induction members with
  | nil =>
    refine .bare (fun byte member => ?_) formed
    rcases List.mem_cons.mp member with rfl | member
    · decide
    · exact noQuote byte member
  | cons member members ih =>
    have split : laterPieces (member :: members) close rest =
        .bare [44, 32] :: (memberPieces member ++ laterPieces members close rest) := by
          simp [laterPieces]
    rw [split]
    exact .bare (quoteless _ (by decide)) (memberPieces_formed member ih)

theorem objectPieces_formed (members : List Member) {close : Bytes} {rest : List Piece}
    (noQuote : ∀ byte ∈ close, byte ≠ quote)
    (formed : WellFormed rest) : WellFormed (objectPieces members close rest) := by
  cases members with
  | nil => exact .bare (quoteless _ (by decide)) (laterPieces_formed [] noQuote formed)
  | cons member members =>
    exact .bare (quoteless _ (by decide))
      (memberPieces_formed member (laterPieces_formed members noQuote formed))

private theorem lookup_bare_value (key : Key) (value : JsonValue) (pieces : List Piece) :
    lookup key (.bare [32] :: valuePiece value :: pieces) = lookup key pieces := by
  cases value <;> rfl

private theorem lookup_objectPieces (key : Key) (members : List Member) (close : Bytes)
    (rest : List Piece) :
    lookup key (objectPieces members close rest) = lookup key (laterPieces members close rest) := by
  cases members <;> simp [objectPieces, laterPieces, lookup, memberPieces]

theorem lookup_absent (key : Key) {members : List Member}
    (absent : ∀ member ∈ members, member.1.bytes ≠ key.bytes) (close : Bytes)
    (rest : List Piece) : lookup key (objectPieces members close rest) = lookup key rest := by
  rw [lookup_objectPieces]
  induction members with
  | nil => rfl
  | cons member members ih =>
    have split : laterPieces (member :: members) close rest =
        .bare [44, 32] :: .key member.1 :: .bare [32] :: valuePiece member.2 :: laterPieces members
          close rest := by
      simp [laterPieces, memberPieces]
    rw [split, lookup, lookup, if_neg (Ne.symm (absent member (.head _))), lookup_bare_value]
    exact ih fun other inside => absent other (.tail _ inside)

theorem lookup_found (key : Key) {before : List Member}
    (absent : ∀ member ∈ before, member.1.bytes ≠ key.bytes) (value : JsonValue)
    (after : List Member) (close : Bytes) (rest : List Piece) :
    lookup key (objectPieces (before ++ (key, value) :: after) close rest) =
      some (.bare [32] :: valuePiece value :: laterPieces after close rest) := by
  rw [lookup_objectPieces]
  induction before with
  | nil => simp [laterPieces, memberPieces, lookup]
  | cons member before ih =>
    have split : laterPieces (member :: before ++ (key, value) :: after) close rest =
        .bare [44, 32] :: .key member.1 :: .bare [32] :: valuePiece member.2 ::
          laterPieces (before ++ (key, value) :: after) close rest := by
      simp [laterPieces, memberPieces]
    rw [split, lookup, lookup, if_neg (Ne.symm (absent member (.head _))), lookup_bare_value]
    exact ih fun other inside => absent other (.tail _ inside)

/-- A member of an object, found in its text and in any text that ends with it. -/
theorem findValueStart_object (key : Key) {before : List Member}
    (absent : ∀ member ∈ before, member.1.bytes ≠ key.bytes)
    (value : JsonValue) (after : List Member) {close : Bytes}
    (noQuote : ∀ byte ∈ close, byte ≠ quote) :
    findValueStart (dumpsObject (before ++ (key, value) :: after) ++ close) key.bytes =
      some (32 :: (dumpsValue value ++ (laterMembers after ++ 125 :: close))) := by
  have searched :=
    findAfter_render key (objectPieces_formed (before ++ (key, value) :: after) noQuote .nil)
  rw [render_objectPieces, lookup_found key absent, render_nil, List.append_nil] at searched
  refine searched.trans (congrArg some ?_)
  rw [render_cons, render_cons, bytes_valuePiece, render_laterPieces]
  simp [Piece.bytes]

theorem findValueStart_missing (key : Key) {members : List Member}
    (absent : ∀ member ∈ members, member.1.bytes ≠ key.bytes)
    {close : Bytes} (noQuote : ∀ byte ∈ close, byte ≠ quote) :
    findValueStart (dumpsObject members ++ close) key.bytes = none := by
  have searched := findAfter_render key (objectPieces_formed members noQuote .nil)
  rw [render_objectPieces, lookup_absent key absent, render_nil, List.append_nil] at searched
  exact searched

/-- An object that was cut in a text, where nothing was lost of its last member. -/
theorem findValueStart_cut (key : Key) {before : List Member}
    (absent : ∀ member ∈ before, member.1.bytes ≠ key.bytes) (content : PyStr) :
    findValueStart (123 :: (openMember before key ++ dumpsText content)) key.bytes =
      some (32 :: quote :: dumpsText content) := by
  have whole := findValueStart_object key absent (.string content) [] noQuote_nil
  have closed : dumpsObject (before ++ [(key, .string content)]) ++ [] =
      123 :: (openMember before key ++ dumpsText content) ++ [quote, 125] := by
    simp [dumpsObject, dumpsMembers_append, laterMembers]
  rw [closed] at whole
  have found :
      findAfter key.needle (123 :: (openMember before key ++ dumpsText content) ++ [quote, 125]) =
      some (32 :: quote :: dumpsText content ++ [quote, 125]) :=
        whole.trans (by simp [dumpsValue, laterMembers])
  exact findAfter_of_append (by simp) found

theorem findValueStart_cut_missing (key : Key) {before : List Member} {last : Key}
    (absent : ∀ member ∈ before, member.1.bytes ≠ key.bytes) (other : last.bytes ≠ key.bytes)
    (content : PyStr) :
    findValueStart (123 :: (openMember before last ++ dumpsText content)) key.bytes = none := by
  have away :
      ∀ member ∈ before ++ [(last, JsonValue.string content)], member.1.bytes ≠ key.bytes := by
    intro member inside
    rcases List.mem_append.mp inside with inside | inside
    · exact absent member inside
    · rw [List.mem_singleton.mp inside]
      exact other
  have whole := findValueStart_missing key away noQuote_nil
  have closed : dumpsObject (before ++ [(last, .string content)]) ++ [] =
      123 :: (openMember before last ++ dumpsText content) ++ [quote, 125] := by
    simp [dumpsObject, dumpsMembers_append, laterMembers]
  rw [closed] at whole
  exact findAfter_none_front whole

end Kiosk.Backend
