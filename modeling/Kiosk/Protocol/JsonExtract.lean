import Kiosk.Library.KeySearch

/-! `json_extract.cpp`, `json_escape` and the number formats the encoders use. -/
namespace Kiosk.Protocol

open Library Library.KeySearch

/-- `std::isspace` in the C locale. -/
def isSpace (byte : UInt8) : Bool := byte == 32 || (9 ≤ byte && byte ≤ 13)

def isDigit (byte : UInt8) : Bool := 48 ≤ byte && byte ≤ 57

def skipWs (json : Bytes) : Bytes := json.dropWhile isSpace

/-- `find_value_start`: the text after the first `"key":`, or `none` where the
source reports `npos`. -/
def findValueStart (json key : Bytes) : Option Bytes :=
  findAfter (quote :: (key ++ [quote, colon])) json

/-- The scan of `json_extract_object` from its opening brace, `depth` braces in. -/
def balancedFrom : Nat → Bytes → Option Bytes
  | _, [] => none
  | depth, byte :: rest =>
    if byte = 123 then (balancedFrom (depth + 1) rest).map (byte :: ·)
    else if byte = 125 then
      if depth = 1 then some [byte] else (balancedFrom (depth - 1) rest).map (byte :: ·)
    else (balancedFrom depth rest).map (byte :: ·)

def jsonExtractObject (json key : Bytes) : Bytes :=
  match findValueStart json key with
  | none => []
  | some value =>
    match skipWs value with
    | 123 :: rest => ((balancedFrom 1 rest).map ((123 : UInt8) :: ·)).getD []
    | _ => []

/-- The loop of `json_extract_object_array` after its bracket; an element that is not
an object ends it. Each round takes a byte at least. -/
def objectsFrom : Nat → Bytes → List Bytes
  | 0, _ => []
  | fuel + 1, json =>
    match skipWs json with
    | 123 :: rest =>
      match balancedFrom 1 rest with
      | none => []
      | some object =>
        let after := skipWs (rest.drop object.length)
        (123 :: object) :: objectsFrom fuel (if after.head? = some 44 then after.tail else after)
    | _ => []

def jsonExtractObjectArray (json key : Bytes) : List Bytes :=
  match findValueStart json key with
  | none => []
  | some value =>
    match skipWs value with
    | 91 :: rest => objectsFrom (rest.length + 1) rest
    | _ => []

/-- The byte an escape stands for. Anything but the five named escapes, the `u`
of a `\u` included, stands for itself. -/
def unescape (byte : UInt8) : UInt8 :=
  if byte = 110 then 10 else if byte = 114 then 13 else if byte = 116 then 9 else byte

/-- The loop of `json_extract_string` after the opening quote. -/
def readString : Bytes → Bytes
  | [] => []
  | [byte] => if byte = quote then [] else [byte]
  | byte :: next :: rest =>
    if byte = quote then []
    else if byte = backslash then unescape next :: readString rest
    else byte :: readString (next :: rest)

def jsonExtractString (json key defaultValue : Bytes) : Bytes :=
  match findValueStart json key with
  | none => defaultValue
  | some value =>
    match skipWs value with
    | 34 :: content => readString content
    | _ => defaultValue

def jsonExtractBool (json key : Bytes) (defaultValue : Bool) : Bool :=
  match findValueStart json key with
  | none => defaultValue
  | some value =>
    if (skipWs value).take 4 = text "true" then true
    else if (skipWs value).take 5 = text "false" then false
    else defaultValue

def digitsValue (digits : Bytes) : Nat :=
  digits.foldl (fun value digit => 10 * value + (digit.toNat - 48)) 0

def int64Max : Int := 2 ^ 63 - 1
def int64Min : Int := -2 ^ 63

/-- `std::strtoll` in base ten: out of range saturates. -/
def strtoll (negative : Bool) (digits : Bytes) : Int :=
  let value : Int := digitsValue digits
  if negative then max int64Min (-value) else min int64Max value

def jsonExtractInt (json key : Bytes) (defaultValue : Int) : Int :=
  match findValueStart json key with
  | none => defaultValue
  | some value =>
    match skipWs value with
    | 45 :: rest =>
      if rest.takeWhile isDigit = [] then defaultValue else strtoll true (rest.takeWhile isDigit)
    | rest =>
      if rest.takeWhile isDigit = [] then defaultValue else strtoll false (rest.takeWhile isDigit)

def jsonHasKey (json key : Bytes) : Bool := (findValueStart json key).isSome

def jsonIsNull (json key : Bytes) : Bool :=
  match findValueStart json key with
  | none => false
  | some value => (skipWs value).take 4 = text "null"

/-- `%u`, `%llu` and `%d` of a non-negative value. -/
def decimal (value : Nat) : Bytes := (Nat.toDigits 10 value).map Char.toUInt8

def hexDigit (value : UInt8) : UInt8 := if value < 10 then 48 + value else 87 + value

/-- A byte below 0x20 that has no escape of its own. -/
def isControl (byte : UInt8) : Bool := byte < 32 && byte ≠ 10 && byte ≠ 13 && byte ≠ 9

/-- `u00XX`, what `%04x` leaves after the backslash. -/
def controlName (byte : UInt8) : Bytes :=
  [117, 48, 48, hexDigit (byte >>> 4), hexDigit (byte &&& 15)]

def jsonEscapeByte (byte : UInt8) : Bytes :=
  if byte = quote then [backslash, quote]
  else if byte = backslash then [backslash, backslash]
  else if byte = 10 then [backslash, 110]
  else if byte = 13 then [backslash, 114]
  else if byte = 9 then [backslash, 116]
  else if byte < 32 then backslash :: controlName byte
  else [byte]

def jsonEscape (input : Bytes) : Bytes := input.flatMap jsonEscapeByte

/-! What comes back. A control byte is written as `\u00XX`, and the reader drops
that backslash: the five characters are what it reads. -/

/-- What one byte reads back as. -/
def sanitizeByte (byte : UInt8) : Bytes := if isControl byte then controlName byte else [byte]

def sanitize (input : Bytes) : Bytes := input.flatMap sanitizeByte

/-- No byte below 0x20 other than newline, carriage return and tab. -/
def Clean (input : Bytes) : Prop := ∀ byte ∈ input, isControl byte = false

instance (input : Bytes) : Decidable (Clean input) := by unfold Clean; infer_instance

theorem sanitize_clean (clean : Clean input) : sanitize input = input := by
  induction input with
  | nil => rfl
  | cons byte rest ih =>
    have head := clean byte (by simp)
    have tail := ih fun other member => clean other (by simp [member])
    simp only [sanitize, List.flatMap_cons, sanitizeByte, head] at tail ⊢
    simp [tail]

theorem sanitize_eq_nil (input : Bytes) : sanitize input = [] ↔ input = [] := by
  cases input with
  | nil => simp [sanitize]
  | cons byte rest =>
    simp only [sanitize, List.flatMap_cons, sanitizeByte, controlName]
    split <;> simp

theorem highNibble_lt (byte : UInt8) : byte >>> 4 < 16 := by
  have := byte.toNat_lt
  rw [UInt8.lt_iff_toNat_lt]
  simp only [UInt8.toNat_shiftRight, UInt8.reduceToNat, Nat.reduceMod, Nat.shiftRight_eq_div_pow,
    Nat.reducePow]
  omega

theorem lowNibble_lt (byte : UInt8) : byte &&& 15 < 16 := by
  rw [UInt8.lt_iff_toNat_lt, UInt8.toNat_and]
  exact Nat.lt_of_le_of_lt Nat.and_le_right (by decide)

private theorem hexDigit_plain (byte : UInt8) :
    hexDigit (byte &&& 15) ≠ quote ∧ hexDigit (byte &&& 15) ≠ backslash ∧
      isControl (hexDigit (byte &&& 15)) = false := by
  have small := lowNibble_lt byte
  grind [hexDigit, isControl]

private theorem shiftRight_and (byte : UInt8) : (byte >>> 4) &&& (15 : UInt8) = byte >>> 4 := by
  rw [← UInt8.toNat_inj, UInt8.toNat_and]
  exact (Nat.and_two_pow_sub_one_eq_mod _ 4).trans
    (Nat.mod_eq_of_lt (UInt8.lt_iff_toNat_lt.mp (highNibble_lt byte)))

/-- The name of a control byte is text that needs no escape itself. -/
theorem controlName_plain (byte : UInt8) (member : letter ∈ controlName byte) :
    letter ≠ quote ∧ letter ≠ backslash ∧ isControl letter = false := by
  have high := hexDigit_plain (byte >>> 4)
  rw [shiftRight_and] at high
  simp only [controlName, List.mem_cons, List.not_mem_nil, or_false] at member
  rcases member with rfl | rfl | rfl | rfl | rfl
  · decide
  · decide
  · decide
  · exact high
  · exact hexDigit_plain byte

theorem clean_sanitize (input : Bytes) : Clean (sanitize input) := by
  intro letter member
  obtain ⟨byte, _, written⟩ := List.mem_flatMap.mp member
  by_cases control : isControl byte = true
  · simp only [sanitizeByte, control, ↓reduceIte] at written
    exact (controlName_plain byte written).2.2
  · simp only [sanitizeByte, control, Bool.false_eq_true, ↓reduceIte, List.mem_singleton] at written
    simpa [written] using control

theorem escaped_byte (byte : UInt8) : Escaped (jsonEscapeByte byte) := by
  unfold jsonEscapeByte
  split
  · exact .escape .nil
  split
  · exact .escape .nil
  split
  · exact .escape .nil
  split
  · exact .escape .nil
  split
  · exact .escape .nil
  split
  · refine .escape (.of_plain fun letter member => ?_)
    have named : letter ∈ controlName byte := List.mem_cons_of_mem _ member
    have plain := controlName_plain byte named
    exact ⟨plain.1, plain.2.1⟩
  · rename_i notQuote notBackslash _ _ _ _
    exact .plain notQuote notBackslash .nil

theorem escaped_jsonEscape (input : Bytes) : Escaped (jsonEscape input) := by
  induction input with
  | nil => exact .nil
  | cons byte rest ih => exact (escaped_byte byte).append ih

theorem readString_escape (next : UInt8) (rest : Bytes) :
    readString (backslash :: next :: rest) = unescape next :: readString rest := by
  simp [readString, show backslash ≠ quote by decide]

theorem readString_plain (notQuote : byte ≠ quote) (notBackslash : byte ≠ backslash)
    (rest : Bytes) : readString (byte :: rest) = byte :: readString rest := by
  cases rest with
  | nil => simp [readString, notQuote]
  | cons next rest => simp [readString, notQuote, notBackslash]

theorem readString_bare (bare : ∀ byte ∈ front, byte ≠ quote ∧ byte ≠ backslash)
    (rest : Bytes) : readString (front ++ rest) = front ++ readString rest := by
  induction front with
  | nil => rfl
  | cons byte front ih =>
    have head := bare byte (by simp)
    rw [List.cons_append, readString_plain head.1 head.2,
      ih fun other member => bare other (by simp [member])]
    rfl

private theorem readString_byte (byte : UInt8) (rest : Bytes) :
    readString (jsonEscapeByte byte ++ rest) = sanitizeByte byte ++ readString rest := by
  unfold jsonEscapeByte
  split
  · subst byte; exact readString_escape _ _
  split
  · subst byte; exact readString_escape _ _
  split
  · subst byte; exact readString_escape _ _
  split
  · subst byte; exact readString_escape _ _
  split
  · subst byte; exact readString_escape _ _
  split
  · rename_i newline carriage tab low
    have control : isControl byte = true := by simp [isControl, newline, carriage, tab, low]
    have bare : ∀ letter ∈ (controlName byte).tail, letter ≠ quote ∧ letter ≠ backslash :=
      fun letter member => ⟨(controlName_plain byte (List.mem_of_mem_tail member)).1,
        (controlName_plain byte (List.mem_of_mem_tail member)).2.1⟩
    rw [sanitizeByte, if_pos control, List.cons_append, show controlName byte =
      117 :: (controlName byte).tail from rfl, List.cons_append, readString_escape,
      readString_bare bare]
    rfl
  · rename_i notQuote notBackslash _ _ _ high
    have plain : isControl byte = false := by simp [isControl, high]
    rw [sanitizeByte, if_neg (by simp [plain])]
    exact readString_plain notQuote notBackslash rest

/-- Reading an escaped string back up to its closing quote. -/
theorem readString_jsonEscape (input rest : Bytes) :
    readString (jsonEscape input ++ quote :: rest) = sanitize input := by
  induction input with
  | nil => cases rest <;> simp [jsonEscape, sanitize, readString]
  | cons byte input ih =>
    rw [jsonEscape, List.flatMap_cons, List.append_assoc, readString_byte]
    exact congrArg (sanitizeByte byte ++ ·) ih

theorem isDigit_of_mem_decimal (member : byte ∈ decimal value) : isDigit byte = true := by
  obtain ⟨char, digit, rfl⟩ := List.mem_map.mp member
  have range := Nat.isDigit_of_mem_toDigits (by decide) (by decide) digit
  simp only [Char.isDigit, Bool.and_eq_true, decide_eq_true_eq] at range
  have low : (48 : Nat) ≤ char.val.toNat := range.1
  have high : char.val.toNat ≤ 57 := range.2
  have same : char.toUInt8.toNat = char.val.toNat := by
    simp only [Char.toUInt8, UInt32.toNat_toUInt8]
    omega
  simp only [isDigit, Bool.and_eq_true, decide_eq_true_eq, UInt8.le_iff_toNat_le, same]
  exact ⟨low, high⟩

theorem decimal_ne_nil (value : Nat) : decimal value ≠ [] := by
  simp [decimal, Nat.toDigits_ne_nil]

theorem digit_plain (digit : isDigit byte = true) :
    byte ≠ quote ∧ byte ≠ 45 ∧ isSpace byte = false := by
  grind [isDigit, isSpace]

/-- Printed and read back, a number is itself. -/
theorem digitsValue_decimal (value : Nat) : digitsValue (decimal value) = value := by
  have digits : ∀ chars : List Char, (∀ char ∈ chars, char.val.toNat < 256) → ∀ start,
      (chars.map Char.toUInt8).foldl (fun value digit => 10 * value + (digit.toNat - 48)) start =
        Nat.ofDigitChars 10 chars start := by
    intro chars
    induction chars with
    | nil => intro _ start; rfl
    | cons char chars ih =>
      intro small start
      have head : char.toUInt8.toNat = char.toNat := by
        have bound := small char (by simp)
        simp only [Char.toUInt8, UInt32.toNat_toUInt8, Char.toNat]
        omega
      simp only [List.map_cons, List.foldl_cons, head, Nat.ofDigitChars_cons]
      exact ih (fun other member => small other (by simp [member])) _
  have small : ∀ char ∈ Nat.toDigits 10 value, char.val.toNat < 256 := by
    intro char member
    have range := Nat.isDigit_of_mem_toDigits (by decide) (by decide) member
    simp only [Char.isDigit, Bool.and_eq_true, decide_eq_true_eq] at range
    have high : char.val.toNat ≤ 57 := range.2
    omega
  rw [digitsValue, decimal, digits _ small, Nat.ofDigitChars_ten_toDigits]

theorem takeWhile_decimal (value : Nat) (next : UInt8) (rest : Bytes)
    (stops : isDigit next = false) :
    (decimal value ++ next :: rest).takeWhile isDigit = decimal value := by
  rw [List.takeWhile_append_of_pos fun byte member => isDigit_of_mem_decimal member]
  simp [stops]

/-- A printed number is read up to the next byte that is no digit, and saturates. -/
theorem jsonExtractInt_decimal (start : findValueStart json key = some found) (value : Nat)
    (spelled : skipWs found = decimal value ++ next :: rest) (stops : isDigit next = false) :
    jsonExtractInt json key fallback = min int64Max value := by
  have taken := takeWhile_decimal value next rest stops
  cases digits : decimal value with
  | nil => exact absurd digits (decimal_ne_nil value)
  | cons first others =>
    have member : first ∈ decimal value := by simp [digits]
    rw [digits, List.cons_append] at taken spelled
    simp only [jsonExtractInt, start, spelled]
    split
    · rename_i rest same
      exact absurd (List.cons.inj same).1 (digit_plain (isDigit_of_mem_decimal member)).2.1
    · rw [taken, if_neg (by simp), ← digits, strtoll, digitsValue_decimal]
      rfl

/-- A saturated number in an unsigned field is itself exactly below 2^63. -/
theorem toNat_ofInt_small (version : Nat) :
    (UInt64.ofInt (min int64Max version)).toNat = version ↔ version < 2 ^ 63 := by
  have bounded : (min int64Max version) % 2 ^ 64 = min int64Max version := by
    rw [int64Max]
    omega
  have value : (UInt64.ofInt (min int64Max version)).toNat = (min int64Max version).toNat := by
    rw [UInt64.ofInt, bounded, UInt64.toNat_ofNat_of_lt']
    rw [int64Max, UInt64.size]
    omega
  rw [value, int64Max]
  omega

theorem skipWs_decimal (value : Nat) (rest : Bytes) :
    skipWs (decimal value ++ rest) = decimal value ++ rest := by
  cases digits : decimal value with
  | nil => exact absurd digits (decimal_ne_nil value)
  | cons first others =>
    have member : first ∈ decimal value := by simp [digits]
    simp [skipWs, (digit_plain (isDigit_of_mem_decimal member)).2.2]

end Kiosk.Protocol
