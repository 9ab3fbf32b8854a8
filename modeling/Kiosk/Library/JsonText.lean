import Mathlib

/-! A reader of JSON texts, which are lists of character codes, and the texts of a value.
What is derived of a value is read as that value. -/
namespace Kiosk.Library.JsonText

abbrev Text := List Nat

def codes (literal : String) : Text := literal.toList.map Char.toNat

/-- A number with a fraction or an exponent keeps its literal. The members of an object
stand in the order of the text. -/
inductive Json where
  | null
  | bool (value : Bool)
  | int (value : Int)
  | real (literal : Text)
  | string (content : Text)
  | array (items : List Json)
  | object (members : List (Text × Json))

/-- The value of a name, the last one where the name is repeated. -/
def Json.get (json : Json) (name : Text) : Option Json :=
  match json with
  | .object members => (members.reverse.find? fun member => member.1 = name).map Prod.snd
  | _ => none

def isBlank (code : Nat) : Bool := code = 32 || code = 9 || code = 10 || code = 13

def isDecimal (code : Nat) : Bool := 48 ≤ code && code ≤ 57

def skipBlank (text : Text) : Text := text.dropWhile isBlank

def digitsValue (digits : Text) : Nat :=
  digits.foldl (fun value digit => 10 * value + (digit - 48)) 0

def hexValue (code : Nat) : Option Nat :=
  if 48 ≤ code ∧ code ≤ 57 then some (code - 48)
  else if 65 ≤ code ∧ code ≤ 70 then some (code - 55)
  else if 97 ≤ code ∧ code ≤ 102 then some (code - 87)
  else none

/-- Four hexadecimal digits. -/
def readUnit : Text → Option (Nat × Text)
  | a :: b :: c :: d :: rest => do
    let a ← hexValue a
    let b ← hexValue b
    let c ← hexValue c
    let d ← hexValue d
    some (4096 * a + 256 * b + 16 * c + d, rest)
  | _ => none

/-- The second half of a surrogate pair. -/
def readLow : Text → Option (Nat × Text)
  | 92 :: 117 :: rest => (readUnit rest).filter fun unit => 56320 ≤ unit.1 ∧ unit.1 ≤ 57343
  | _ => none

def escapeValue (letter : Nat) : Option Nat :=
  if letter = 34 ∨ letter = 92 ∨ letter = 47 then some letter
  else if letter = 98 then some 8
  else if letter = 102 then some 12
  else if letter = 110 then some 10
  else if letter = 114 then some 13
  else if letter = 116 then some 9
  else none

/-- What stands behind a backslash. Two halves of a surrogate pair are one character. -/
def readEscape : Text → Option (Nat × Text)
  | 117 :: rest => do
    let (unit, rest) ← readUnit rest
    if 55296 ≤ unit ∧ unit ≤ 56319 then
      match readLow rest with
      | some (low, rest) => some (65536 + 1024 * (unit - 55296) + (low - 56320), rest)
      | none => some (unit, rest)
    else some (unit, rest)
  | letter :: rest => (escapeValue letter).map (·, rest)
  | [] => none

/-- A string behind its opening quote. -/
def readString : Nat → Text → Option (Text × Text)
  | _ + 1, 34 :: rest => some ([], rest)
  | fuel + 1, 92 :: rest => do
    let (code, rest) ← readEscape rest
    let (content, rest) ← readString fuel rest
    some (code :: content, rest)
  | fuel + 1, code :: rest =>
    if code < 32 then none else (readString fuel rest).map fun (content, rest) =>
      (code :: content, rest)
  | _, _ => none

/-- The digits behind a point, with the point. -/
def readFraction : Text → Text × Text
  | 46 :: rest =>
    if rest.takeWhile isDecimal = [] then ([], 46 :: rest)
    else (46 :: rest.takeWhile isDecimal, rest.dropWhile isDecimal)
  | text => ([], text)

def readSign : Text → Text × Text
  | 43 :: rest => ([43], rest)
  | 45 :: rest => ([45], rest)
  | text => ([], text)

def readExponent : Text → Text × Text
  | [] => ([], [])
  | letter :: rest =>
    let (sign, digits) := readSign rest
    if (letter = 69 ∨ letter = 101) ∧ digits.takeWhile isDecimal ≠ [] then
      (letter :: (sign ++ digits.takeWhile isDecimal), digits.dropWhile isDecimal)
    else ([], letter :: rest)

/-- A number with its sign and the digits before the point already read. -/
def finishNumber (negative : Bool) (digits rest : Text) : Json × Text :=
  let (fraction, rest) := readFraction rest
  let (exponent, rest) := readExponent rest
  let value : Int := if negative then -(digitsValue digits) else digitsValue digits
  if fraction = [] ∧ exponent = [] then (.int value, rest)
  else (.real ((if negative then [45] else []) ++ (digits ++ (fraction ++ exponent))), rest)

/-- A zero has no digit behind it. -/
def readDigits (negative : Bool) : Text → Option (Json × Text)
  | 48 :: rest => some (finishNumber negative [48] rest)
  | text =>
    if text.takeWhile isDecimal = [] then none
    else some (finishNumber negative (text.takeWhile isDecimal) (text.dropWhile isDecimal))

def readNumber : Text → Option (Json × Text)
  | 45 :: rest => readDigits true rest
  | text => readDigits false text

/-- The words, and the three constants that some writers use for numbers that are none. -/
def words : List (Text × Json) :=
  [(codes "null", .null), (codes "true", .bool true), (codes "false", .bool false),
    (codes "NaN", .real (codes "NaN")),
    (codes "Infinity", .real (codes "Infinity")), (codes "-Infinity", .real (codes "-Infinity"))]

def readWord (text : Text) : Option (Json × Text) :=
  words.findSome? fun (word, value) =>
    if word.isPrefixOf text then some (value, text.drop word.length) else none

mutual

def readValue : Nat → Text → Option (Json × Text)
  | 0, _ => none
  | fuel + 1, 34 :: rest =>
    (readString fuel rest).map fun (content, rest) => (.string content, rest)
  | fuel + 1, 91 :: rest =>
    match skipBlank rest with
    | 93 :: rest => some (.array [], rest)
    | rest => (readElements fuel rest).map fun (items, rest) => (.array items, rest)
  | fuel + 1, 123 :: rest =>
    match skipBlank rest with
    | 125 :: rest => some (.object [], rest)
    | rest => (readMembers fuel rest).map fun (members, rest) => (.object members, rest)
  | _ + 1, text => (readWord text).or (readNumber text)

/-- The elements of an array up to its bracket. -/
def readElements : Nat → Text → Option (List Json × Text)
  | 0, _ => none
  | fuel + 1, text => do
    let (item, rest) ← readValue fuel text
    match skipBlank rest with
    | 44 :: rest =>
      (readElements fuel (skipBlank rest)).map fun (items, rest) => (item :: items, rest)
    | 93 :: rest => some ([item], rest)
    | _ => none

/-- The members of an object up to its brace. -/
def readMembers : Nat → Text → Option (List (Text × Json) × Text)
  | fuel + 1, 34 :: text => do
    let (name, rest) ← readString fuel text
    match skipBlank rest with
    | 58 :: rest => do
      let (value, rest) ← readValue fuel (skipBlank rest)
      match skipBlank rest with
      | 44 :: rest =>
        (readMembers fuel (skipBlank rest)).map fun (members, rest) =>
          ((name, value) :: members, rest)
      | 125 :: rest => some ([(name, value)], rest)
      | _ => none
    | _ => none
  | _, _ => none

end

/-- A whole text. -/
def read (text : Text) : Option Json :=
  match readValue (text.length + 1) (skipBlank text) with
  | some (json, rest) => if skipBlank rest = [] then some json else none
  | none => none

/-- What stands between the quotes of a string, and the characters it stands for. -/
inductive Content : Text → Text → Prop where
  | nil : Content [] []
  | plain (printable : 32 ≤ code) (notQuote : code ≠ 34) (notBackslash : code ≠ 92)
      (rest : Content text meant) :
      Content (code :: text) (code :: meant)
  | escape (named : escapeValue letter = some code) (rest : Content text meant) :
      Content (92 :: letter :: text) (code :: meant)
  | unicode (unit : readUnit [a, b, c, d] = some (code, [])) (scalar : code < 55296 ∨ 57343 < code)
      (rest : Content text meant) : Content (92 :: 117 :: a :: b :: c :: d :: text) (code :: meant)

/-- Characters that are written as they are. -/
theorem Content.of_plain (plain : ∀ code ∈ text, 32 ≤ code ∧ code ≠ 34 ∧ code ≠ 92) :
    Content text text := by
  induction text with
  | nil => exact .nil
  | cons code text ih =>
    obtain ⟨printable, notQuote, notBackslash⟩ := plain code (by simp)
    exact .plain printable notQuote notBackslash
      (ih fun other member => plain other (by simp [member]))

def Blank (gap : Text) : Prop := ∀ code ∈ gap, isBlank code = true

/-- An integer without its sign. -/
structure Digits (digits : Text) : Prop where
  some : digits ≠ []
  decimal : ∀ digit ∈ digits, isDecimal digit = true
  canonical : digits.head? = Option.some 48 → digits = [48]

/-- What a text can be of: a value, or what follows the bracket of a container that has
something in it. -/
inductive Form where
  | value (json : Json)
  | elements (items : List Json)
  | members (members : List (Text × Json))

/-- The texts of a value whose numbers are integers. -/
inductive Denotes : Text → Form → Prop where
  | nullWord : Denotes (codes "null") (.value .null)
  | trueWord : Denotes (codes "true") (.value (.bool true))
  | falseWord : Denotes (codes "false") (.value (.bool false))
  | natural (digits : Digits text) : Denotes text (.value (.int (digitsValue text)))
  | negative (digits : Digits text) : Denotes (45 :: text) (.value (.int (-(digitsValue text))))
  | string (content : Content text meant) : Denotes (34 :: (text ++ [34])) (.value (.string meant))
  | emptyArray (blank : Blank gap) : Denotes (91 :: (gap ++ [93])) (.value (.array []))
  | array (blank : Blank gap) (inside : Denotes text (.elements items)) :
      Denotes (91 :: (gap ++ text)) (.value (.array items))
  | emptyObject (blank : Blank gap) : Denotes (123 :: (gap ++ [125])) (.value (.object []))
  | object (blank : Blank gap) (inside : Denotes text (.members members)) :
      Denotes (123 :: (gap ++ text)) (.value (.object members))
  | lastElement (value : Denotes text (.value json)) (after : Blank gap) :
      Denotes (text ++ (gap ++ [93])) (.elements [json])
  | element (value : Denotes text (.value json)) (after : Blank gap) (before : Blank next)
      (rest : Denotes others (.elements items)) :
      Denotes (text ++ (gap ++ 44 :: (next ++ others))) (.elements (json :: items))
  | lastMember (name : Content key meant) (colon : Blank left) (space : Blank right)
      (value : Denotes text (.value json)) (after : Blank gap) :
      Denotes (34 :: (key ++ 34 :: (left ++ 58 :: (right ++ (text ++ (gap ++ [125]))))))
        (.members [(meant, json)])
  | member (name : Content key meant) (colon : Blank left) (space : Blank right)
      (value : Denotes text (.value json))
      (after : Blank gap) (before : Blank next) (rest : Denotes others (.members members)) :
      Denotes (34 :: (key ++
        34 :: (left ++ 58 :: (right ++ (text ++ (gap ++ 44 :: (next ++ others)))))))
        (.members ((meant, json) :: members))

theorem skipBlank_append (blank : Blank gap) (rest : Text) :
    skipBlank (gap ++ rest) = skipBlank rest := by
  induction gap with
  | nil => rfl
  | cons code gap ih =>
    have first : isBlank code = true := blank code (by simp)
    rw [List.cons_append, skipBlank, List.dropWhile_cons_of_pos first]
    exact ih fun other member => blank other (by simp [member])

theorem skipBlank_cons (visible : isBlank code = false) (rest : Text) :
    skipBlank (code :: rest) = code :: rest :=
  List.dropWhile_cons_of_neg (by simp [visible])

theorem skipBlank_sign (blank : Blank gap) (code : Nat) (visible : isBlank code = false)
    (rest : Text) :
    skipBlank (gap ++ code :: rest) = code :: rest :=
  (skipBlank_append blank _).trans (skipBlank_cons visible rest)

theorem readString_content (content : Content text meant) (fuel : Nat) (enough : text.length < fuel)
    (rest : Text) :
    readString fuel (text ++ 34 :: rest) = some (meant, rest) := by
  induction content generalizing fuel with
  | nil =>
    obtain ⟨fuel, rfl⟩ := Nat.exists_eq_succ_of_ne_zero (Nat.ne_of_gt enough)
    rfl
  | plain printable notQuote notBackslash _ ih =>
    obtain ⟨fuel, rfl⟩ := Nat.exists_eq_succ_of_ne_zero (Nat.ne_zero_of_lt enough)
    have shorter := ih fuel (by simpa using enough)
    simp [readString, Nat.not_lt.mpr printable, shorter]
  | @escape letter code text meant named _ ih =>
    obtain ⟨fuel, rfl⟩ := Nat.exists_eq_succ_of_ne_zero (Nat.ne_zero_of_lt enough)
    have shorter := ih fuel (by simp only [List.length_cons] at enough; omega)
    have bare : letter ≠ 117 := by
      rintro rfl
      cases named
    simp [readString, readEscape, named, shorter]
  | @unicode a b c d code text meant unit scalar _ ih =>
    obtain ⟨fuel, rfl⟩ := Nat.exists_eq_succ_of_ne_zero (Nat.ne_zero_of_lt enough)
    have shorter := ih fuel (by simp only [List.length_cons] at enough; omega)
    have found :
        readUnit (a :: b :: c :: d :: (text ++ 34 :: rest)) = some (code, text ++ 34 :: rest) := by
      simp only [readUnit, Option.bind_eq_bind, Option.bind_eq_some_iff, Option.some.injEq,
        Prod.mk.injEq, and_true] at unit ⊢
      exact unit
    have single : ¬ (55296 ≤ code ∧ code ≤ 56319) := by omega
    simp [readString, readEscape, found, single, shorter]

/-- What may stand behind a number without being part of it. -/
def Stops (rest : Text) : Prop :=
  ∀ code ∈ rest.head?, isDecimal code = false ∧ code ≠ 46 ∧ code ≠ 69 ∧ code ≠ 101

theorem stops_nil : Stops [] := by simp [Stops]

theorem stops_gap (blank : Blank gap) (sign : code = 44 ∨ code = 93 ∨ code = 125) (rest : Text) :
    Stops (gap ++ code :: rest) := by
  intro first member
  cases gap with
  | nil =>
    obtain rfl : code = first := Option.some.inj member
    rcases sign with rfl | rfl | rfl <;> decide
  | cons other gap =>
    obtain rfl : other = first := Option.some.inj member
    have space : isBlank other = true := blank other (by simp)
    simp only [isBlank, Bool.or_eq_true, decide_eq_true_eq] at space
    rcases space with ((rfl | rfl) | rfl) | rfl <;> decide

private theorem span_digits (decimal : ∀ digit ∈ digits, isDecimal digit = true)
    (stops : Stops rest) :
    (digits ++ rest).takeWhile isDecimal = digits ∧
      (digits ++ rest).dropWhile isDecimal = rest := by
  have ends : rest.takeWhile isDecimal = [] ∧ rest.dropWhile isDecimal = rest := by
    cases rest with
    | nil => exact ⟨rfl, rfl⟩
    | cons code rest =>
      have outside : isDecimal code = false := (stops code rfl).1
      simp [outside]
  rw [List.takeWhile_append_of_pos decimal, List.dropWhile_append_of_pos decimal, ends.1, ends.2,
    List.append_nil]
  exact ⟨rfl, rfl⟩

private theorem finishNumber_int (negative : Bool) (digits : Text) (stops : Stops rest) :
    finishNumber negative digits rest =
      (.int (if negative then -(digitsValue digits) else digitsValue digits), rest) := by
  have fraction : readFraction rest = ([], rest) := by
    cases rest with
    | nil => rfl
    | cons code rest =>
      have noPoint : code ≠ 46 := (stops code rfl).2.1
      simp [readFraction, noPoint]
  have exponent : readExponent rest = ([], rest) := by
    cases rest with
    | nil => rfl
    | cons code rest =>
      have noLetter : code ≠ 69 ∧ code ≠ 101 := (stops code rfl).2.2
      simp [readExponent, noLetter.1, noLetter.2]
  simp [finishNumber, fraction, exponent]

private theorem readDigits_append (negative : Bool) (digits : Digits text) (stops : Stops rest) :
    readDigits negative (text ++ rest) =
      some (.int (if negative then -(digitsValue text) else digitsValue text), rest) := by
  have span := span_digits digits.decimal stops
  cases text with
  | nil => exact absurd rfl digits.some
  | cons digit tail =>
    by_cases zero : digit = 48
    · subst zero
      obtain rfl : tail = [] := List.cons.inj (digits.canonical rfl) |>.2
      exact congrArg some (finishNumber_int negative [48] stops)
    · have unfolded :
          readDigits negative (digit :: tail ++ rest) =
          some (finishNumber negative (digit :: tail) rest) := by
        rw [List.cons_append, readDigits, ← List.cons_append, span.1, span.2,
          if_neg (List.cons_ne_nil _ _)]
        exact fun _ same => zero (List.cons.inj same).1
      rw [unfolded, finishNumber_int negative _ stops]

private theorem readNumber_natural (digits : Digits text) (stops : Stops rest) :
    readNumber (text ++ rest) = some (.int (digitsValue text), rest) := by
  have read := readDigits_append false digits stops
  cases text with
  | nil => exact absurd rfl digits.some
  | cons digit tail =>
    have noSign : digit ≠ 45 := by
      rintro rfl
      exact absurd (digits.decimal 45 (by simp)) (by decide)
    have unfolded :
        readNumber (digit :: tail ++ rest) = readDigits false (digit :: tail ++ rest) := by
      rw [List.cons_append, readNumber]
      exact fun _ same => noSign (List.cons.inj same).1
    rw [unfolded, read]
    rfl

/-- No word begins with a digit, and a sign stands before one of them only. -/
private theorem readWord_decimal (decimal : isDecimal digit = true) (rest : Text) :
    readWord (digit :: rest) = none ∧ readWord (45 :: digit :: rest) = none := by
  simp only [isDecimal, Bool.and_eq_true, decide_eq_true_eq] at decimal
  have least : ∀ letter ∈ [110, 116, 102, 78, 73, 45], letter ≠ digit := by
    intro letter member same
    simp only [List.mem_cons, List.not_mem_nil, or_false] at member
    omega
  simp only [List.forall_mem_cons] at least
  constructor <;> simp [readWord, words, codes, least]

/-- What the parts of the reader make of a text with more behind it. -/
def Form.Reads (text : Text) : Form → Prop
  | .value json =>
    ∀ rest fuel, Stops rest → text.length < fuel → readValue fuel (text ++ rest) = some (json, rest)
  | .elements items =>
    ∀ rest fuel, text.length < fuel → readElements fuel (text ++ rest) = some (items, rest)
  | .members listed =>
    ∀ rest fuel, text.length < fuel → readMembers fuel (text ++ rest) = some (listed, rest)

/-- A text begins with a character that is no blank and closes nothing. -/
theorem Denotes.head (denotes : Denotes text form) :
    ∃ code rest, text = code :: rest ∧ isBlank code = false ∧ code ≠ 93 ∧ code ≠ 125 := by
  induction denotes with
  | nullWord | trueWord | falseWord => exact ⟨_, _, rfl, by decide, by decide, by decide⟩
  | natural digits =>
    rename_i text
    cases text with
    | nil => exact absurd rfl digits.some
    | cons digit tail =>
      have decimal : isDecimal digit = true := digits.decimal digit (by simp)
      simp only [isDecimal, Bool.and_eq_true, decide_eq_true_eq] at decimal
      refine ⟨digit, tail, rfl, ?_, by omega, by omega⟩
      simp only [isBlank, Bool.or_eq_false_iff, decide_eq_false_iff_not]
      omega
  | negative | string | emptyArray | array | emptyObject | object | lastMember | member =>
    exact ⟨_, _, rfl, by decide, by decide, by decide⟩
  | lastElement _ _ ih | element _ _ _ _ ih =>
    obtain ⟨code, rest, rfl, visible⟩ := ih
    exact ⟨code, _, rfl, visible⟩

theorem Denotes.skip_gap (denotes : Denotes text form) (blank : Blank gap) (rest : Text) :
    skipBlank (gap ++ (text ++ rest)) = text ++ rest := by
  obtain ⟨code, tail, rfl, visible, _⟩ := denotes.head
  exact skipBlank_sign blank code visible _

private theorem readValue_other (notQuote : code ≠ 34) (notArray : code ≠ 91)
    (notObject : code ≠ 123) (rest : Text) :
    readValue (fuel + 1) (code :: rest) =
      (readWord (code :: rest)).or (readNumber (code :: rest)) := by
  rw [readValue]
  · exact fun _ same => notQuote (List.cons.inj same).1
  · exact fun _ same => notArray (List.cons.inj same).1
  · exact fun _ same => notObject (List.cons.inj same).1

/-- Every part of the reader reads what is derived. -/
theorem Denotes.reads (denotes : Denotes text form) : form.Reads text := by
  induction denotes with
  | nullWord | trueWord | falseWord =>
    intro rest fuel _ enough
    obtain ⟨fuel, rfl⟩ := Nat.exists_eq_succ_of_ne_zero (Nat.ne_zero_of_lt enough)
    simp [readValue, readWord, words, codes]
  | @natural text digits =>
    intro rest fuel stops enough
    obtain ⟨fuel, rfl⟩ := Nat.exists_eq_succ_of_ne_zero (Nat.ne_zero_of_lt enough)
    have number := readNumber_natural digits stops
    cases text with
    | nil => exact absurd rfl digits.some
    | cons digit tail =>
      have decimal : isDecimal digit = true := digits.decimal digit (by simp)
      have range := decimal
      simp only [isDecimal, Bool.and_eq_true, decide_eq_true_eq] at range
      have word := (readWord_decimal decimal (tail ++ rest)).1
      rw [List.cons_append] at number ⊢
      rw [readValue_other (by omega) (by omega) (by omega), word, number]
      rfl
  | @negative text digits =>
    intro rest fuel stops enough
    obtain ⟨fuel, rfl⟩ := Nat.exists_eq_succ_of_ne_zero (Nat.ne_zero_of_lt enough)
    have number := readDigits_append true digits stops
    cases text with
    | nil => exact absurd rfl digits.some
    | cons digit tail =>
      have decimal : isDecimal digit = true := digits.decimal digit (by simp)
      have word := (readWord_decimal decimal (tail ++ rest)).2
      rw [List.cons_append] at number
      rw [List.cons_append, List.cons_append, readValue_other (by decide) (by decide) (by decide),
        word, readNumber, number]
      rfl
  | @string text meant content =>
    intro rest fuel _ enough
    obtain ⟨fuel, rfl⟩ := Nat.exists_eq_succ_of_ne_zero (Nat.ne_zero_of_lt enough)
    have read := readString_content content fuel (by simp at enough; omega) rest
    simp [readValue, read]
  | @emptyArray gap blank =>
    intro rest fuel _ enough
    obtain ⟨fuel, rfl⟩ := Nat.exists_eq_succ_of_ne_zero (Nat.ne_zero_of_lt enough)
    have skipped := skipBlank_sign blank 93 (by decide) rest
    simp [readValue, skipped]
  | @emptyObject gap blank =>
    intro rest fuel _ enough
    obtain ⟨fuel, rfl⟩ := Nat.exists_eq_succ_of_ne_zero (Nat.ne_zero_of_lt enough)
    have skipped := skipBlank_sign blank 125 (by decide) rest
    simp [readValue, skipped]
  | @array gap text items blank inside ih =>
    intro rest fuel _ enough
    obtain ⟨fuel, rfl⟩ := Nat.exists_eq_succ_of_ne_zero (Nat.ne_zero_of_lt enough)
    have skipped := inside.skip_gap blank rest
    have read := ih rest fuel (by simp at enough; omega)
    obtain ⟨code, tail, rfl, _, open_, _⟩ := inside.head
    rw [List.cons_append, List.append_assoc, readValue, skipped]
    simp only [List.cons_append] at read ⊢
    split
    · rename_i same
      exact absurd (List.cons.inj same).1 open_
    · rw [read]
      rfl
  | @object gap text members blank inside ih =>
    intro rest fuel _ enough
    obtain ⟨fuel, rfl⟩ := Nat.exists_eq_succ_of_ne_zero (Nat.ne_zero_of_lt enough)
    have skipped := inside.skip_gap blank rest
    have read := ih rest fuel (by simp at enough; omega)
    obtain ⟨code, tail, rfl, _, _, open_⟩ := inside.head
    rw [List.cons_append, List.append_assoc, readValue, skipped]
    simp only [List.cons_append] at read ⊢
    split
    · rename_i same
      exact absurd (List.cons.inj same).1 open_
    · rw [read]
      rfl
  | @lastElement text json gap value after ih =>
    intro rest fuel enough
    obtain ⟨fuel, rfl⟩ := Nat.exists_eq_succ_of_ne_zero (Nat.ne_zero_of_lt enough)
    have read := ih (gap ++ 93 :: rest) fuel (stops_gap after (.inr (.inl rfl)) rest)
      (by simp at enough; omega)
    have skipped := skipBlank_sign after 93 (by decide) rest
    simp [readElements, read, skipped]
  | @element text json gap next others items value after before tail ih ihTail =>
    intro rest fuel enough
    obtain ⟨fuel, rfl⟩ := Nat.exists_eq_succ_of_ne_zero (Nat.ne_zero_of_lt enough)
    simp only [List.length_append, List.length_cons] at enough
    have read :=
      ih (gap ++ 44 :: (next ++ (others ++ rest))) fuel (stops_gap after (.inl rfl) _) (by omega)
    have skipped := skipBlank_sign after 44 (by decide) (next ++ (others ++ rest))
    have left := tail.skip_gap before rest
    have further := ihTail rest fuel (by omega)
    simp [readElements, read, skipped, left, further]
  | @lastMember key meant left right text json gap name colon space value after ih =>
    intro rest fuel enough
    obtain ⟨fuel, rfl⟩ := Nat.exists_eq_succ_of_ne_zero (Nat.ne_zero_of_lt enough)
    simp only [List.length_append, List.length_cons] at enough
    have named := readString_content name fuel (by omega)
      (left ++ 58 :: (right ++ (text ++ (gap ++ 125 :: rest))))
    have skipped := skipBlank_sign colon 58 (by decide) (right ++ (text ++ (gap ++ 125 :: rest)))
    have start := value.skip_gap space (gap ++ 125 :: rest)
    have read := ih (gap ++ 125 :: rest) fuel (stops_gap after (.inr (.inr rfl)) rest) (by omega)
    have closed := skipBlank_sign after 125 (by decide) rest
    simp [readMembers, named, skipped, start, read, closed]
  | @member key meant left right text json gap next others members name colon space value after
      before tail ih ihTail =>
    intro rest fuel enough
    obtain ⟨fuel, rfl⟩ := Nat.exists_eq_succ_of_ne_zero (Nat.ne_zero_of_lt enough)
    simp only [List.length_append, List.length_cons] at enough
    have named := readString_content name fuel (by omega)
      (left ++ 58 :: (right ++ (text ++ (gap ++ 44 :: (next ++ (others ++ rest))))))
    have skipped := skipBlank_sign colon 58 (by decide)
      (right ++ (text ++ (gap ++ 44 :: (next ++ (others ++ rest)))))
    have start := value.skip_gap space (gap ++ 44 :: (next ++ (others ++ rest)))
    have read :=
      ih (gap ++ 44 :: (next ++ (others ++ rest))) fuel (stops_gap after (.inl rfl) _) (by omega)
    have comma := skipBlank_sign after 44 (by decide) (next ++ (others ++ rest))
    have further := ihTail rest fuel (by omega)
    simp [readMembers, named, skipped, start, read, comma, tail.skip_gap before rest, further]

/-- A text of a value, with blanks around it, is read as the value. -/
theorem read_denotes (denotes : Denotes text (.value json)) (before : Blank gap)
    (after : Blank trail) :
    read (gap ++ (text ++ trail)) = some json := by
  have ends : skipBlank trail = [] := by
    have skipped := skipBlank_append after []
    rwa [List.append_nil] at skipped
  have stops : Stops trail := by
    cases trail with
    | nil => exact stops_nil
    | cons code trail =>
      intro first member
      obtain rfl : code = first := Option.some.inj member
      have space : isBlank code = true := after code (by simp)
      simp only [isBlank, Bool.or_eq_true, decide_eq_true_eq] at space
      rcases space with ((rfl | rfl) | rfl) | rfl <;> decide
  have whole := denotes.reads trail ((gap ++ (text ++ trail)).length + 1) stops (by simp; omega)
  rw [read, denotes.skip_gap before trail, whole]
  simp [ends]

/-- No text stands for two values. -/
theorem Denotes.unambiguous (one : Denotes text (.value first))
    (two : Denotes text (.value second)) : first = second := by
  have nothing : Blank [] := by simp [Blank]
  have readOne := read_denotes one nothing nothing
  have readTwo := read_denotes two nothing nothing
  exact Option.some.inj (readOne.symm.trans readTwo)

end Kiosk.Library.JsonText
