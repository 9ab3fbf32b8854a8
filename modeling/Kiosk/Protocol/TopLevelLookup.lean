import Kiosk.Library.JsonGrammar
import Kiosk.Protocol.JsonExtract

/-! The flat extractors against a lookup over the top-level members. The extractors take
the first `"key":` anywhere in the text, in a nested object or inside a string too, and
read the token that stands behind it. -/
namespace Kiosk.Protocol

open Library Library.KeySearch Library.JsonGrammar

/-- What the flat extractors say about one key, each as a function of its default. -/
structure Answers where
  hasKey : Bool
  string : Bytes → Bytes
  bool : Bool → Bool
  int : Int → Int
  isNull : Bool

def extracted (json key : Bytes) : Answers where
  hasKey := jsonHasKey json key
  string := jsonExtractString json key
  bool := jsonExtractBool json key
  int := jsonExtractInt json key
  isNull := jsonIsNull json key

/-- The answers about a key that is not there. -/
def Answers.absent : Answers := ⟨false, id, id, id, false⟩

def integerAt (digits : Bytes) (negative : Bool) (default : Int) : Int :=
  if digits.takeWhile isDigit = [] then default else strtoll negative (digits.takeWhile isDigit)

/-- A sign and the digits after it. -/
def integerOf (start : Bytes) (default : Int) : Int :=
  match start with
  | 45 :: rest => integerAt rest true default
  | rest => integerAt rest false default

def stringAt (start default : Bytes) : Bytes :=
  match start with
  | 34 :: content => readString content
  | _ => default

/-- What the extractors read from a position on. -/
def answersAt (start : Bytes) : Answers where
  hasKey := true
  string := stringAt (skipWs start)
  bool default :=
    if (skipWs start).take 4 = text "true" then true
    else if (skipWs start).take 5 = text "false" then false
    else default
  int := integerOf (skipWs start)
  isNull := (skipWs start).take 4 = text "null"

theorem extracted_eq (json key : Bytes) :
    extracted json key = (findValueStart json key).elim Answers.absent answersAt := by
  unfold extracted jsonHasKey jsonExtractString jsonExtractBool jsonExtractInt jsonIsNull
  cases findValueStart json key with
  | none => rfl
  | some start => rfl

/-! The reference: the value of a top-level member, standing alone. -/

/-- The escapes the header names; any other escaped byte stands for itself. -/
def decodeString : Bytes → Bytes
  | [] => []
  | [byte] => [byte]
  | byte :: next :: rest =>
    if byte = backslash then unescape next :: decodeString rest
      else byte :: decodeString (next :: rest)

def stringOf (value default : Bytes) : Bytes :=
  match value with
  | 34 :: inside => decodeString inside.dropLast
  | _ => default

def valueAnswers (value : Bytes) : Answers where
  hasKey := true
  string := stringOf value
  bool default :=
    if value = text "true" then true else if value = text "false" then false else default
  int := integerOf value
  isNull := value = text "null"

def topLevelAnswers (object : ObjectText) (key : Bytes) : Answers :=
  (object.member decodeString key).elim Answers.absent fun m => valueAnswers m.value

/-! Strings. -/

theorem decodeString_plain (notBackslash : byte ≠ backslash) (content : Bytes) :
    decodeString (byte :: content) = byte :: decodeString content := by
  cases content with
  | nil => rfl
  | cons next rest => rw [decodeString, if_neg notBackslash]

theorem decodeString_escape (byte : UInt8) (content : Bytes) :
    decodeString (backslash :: byte :: content) = unescape byte :: decodeString content := by
  rw [decodeString, if_pos rfl]

theorem hex_plain (hex : isHex byte = true) : byte ≠ quote ∧ byte ≠ backslash := by
  grind [isHex, isDecimal]

/-- The string loop reads a string to its closing quote. -/
theorem readString_content (content : StringContent inside) (rest : Bytes) :
    readString (inside ++ quote :: rest) = decodeString inside := by
  induction content with
  | nil =>
    cases rest with
    | nil => rfl
    | cons next rest => rw [List.nil_append, readString, if_pos rfl]; rfl
  | plain _ notQuote notBackslash _ ih =>
    rw [List.cons_append, readString_plain notQuote notBackslash, ih,
      decodeString_plain notBackslash]
  | escape _ _ ih =>
    rw [List.cons_append, List.cons_append, readString_escape, ih, decodeString_escape]
  | @unicode a b c d inside hex _ ih =>
    have plain (digit : UInt8) (member : digit ∈ [a, b, c, d]) := hex_plain (hex digit member)
    have first := plain a (by simp)
    have second := plain b (by simp)
    have third := plain c (by simp)
    have fourth := plain d (by simp)
    simp only [List.cons_append]
    rw [readString_escape, readString_plain first.1 first.2, readString_plain second.1 second.2,
      readString_plain third.1 third.2, readString_plain fourth.1 fourth.2, ih, decodeString_escape,
      decodeString_plain first.2, decodeString_plain second.2, decodeString_plain third.2,
        decodeString_plain fourth.2]

/-! A value in its text. -/

theorem number_head (literal : IsNumber value) :
    ∃ byte rest, value = byte :: rest ∧ (byte = 45 ∨ isDigit byte = true) := by
  obtain ⟨sign, ⟨⟨nonempty, digits⟩, _⟩, _, _⟩ := literal
  obtain ⟨digit, more, rfl⟩ := List.exists_cons_of_ne_nil nonempty
  rcases sign with rfl | rfl
  · exact ⟨digit, _, rfl, .inr (digits digit (by simp))⟩
  · exact ⟨45, _, rfl, .inl rfl⟩

/-- The bytes a value text can begin with. -/
def opensValue (byte : UInt8) : Bool :=
  byte = 110 || byte = 116 || byte = 102 || byte = 34 || byte = 91 || byte = 123 || byte =
    45 || isDigit byte

theorem shape_head (shape : Shape value) :
    ∃ byte rest, value = byte :: rest ∧ opensValue byte = true := by
  cases shape with
  | word among =>
    rcases among with rfl | rfl | rfl
    · exact ⟨110, _, rfl, by decide⟩
    · exact ⟨116, _, rfl, by decide⟩
    · exact ⟨102, _, rfl, by decide⟩
  | number literal =>
    obtain ⟨byte, rest, rfl, first⟩ := number_head literal
    refine ⟨byte, rest, rfl, ?_⟩
    rcases first with rfl | digit
    · decide
    · simp [opensValue, digit]
  | string _ => exact ⟨34, _, rfl, by decide⟩
  | container bracket =>
    rcases bracket with rfl | rfl
    · exact ⟨91, _, rfl, by decide⟩
    · exact ⟨123, _, rfl, by decide⟩

theorem opensValue_space (opens : opensValue byte = true) : isSpace byte = false := by
  grind [opensValue, isSpace, isDigit]

theorem blank_space (blank : isBlank byte = true) : isSpace byte = true := by
  grind [isBlank, isSpace]

theorem skipWs_blank (blank : Blank gap) (rest : Bytes) : skipWs (gap ++ rest) = skipWs rest := by
  induction gap with
  | nil => rfl
  | cons byte gap ih =>
    have first : isSpace byte = true := blank_space (blank byte (by simp))
    rw [List.cons_append, skipWs, List.dropWhile_cons, if_pos first]
    exact ih fun other member => blank other (by simp [member])

theorem skipWs_value (value : IsValue v) (rest : Bytes) : skipWs (v ++ rest) = v ++ rest := by
  obtain ⟨byte, more, rfl, opens⟩ := shape_head value.shape
  rw [List.cons_append, skipWs, List.dropWhile_cons, if_neg (by simp [opensValue_space opens])]

/-- What comes after a value does not go on with its digits. -/
def Ends (rest : Bytes) : Prop := ∀ byte ∈ rest.head?, isDigit byte = false

theorem takeWhile_ends (ends : Ends rest) (front : Bytes) :
    (front ++ rest).takeWhile isDigit = front.takeWhile isDigit := by
  induction front with
  | nil =>
    cases rest with
    | nil => rfl
    | cons byte rest => simp [ends byte rfl]
  | cons byte front ih =>
    rw [List.cons_append, List.takeWhile_cons, List.takeWhile_cons, ih]

theorem integerAt_ends (ends : Ends rest) (front : Bytes) :
    integerAt (front ++ rest) = integerAt front := by
  funext negative default
  rw [integerAt, integerAt, takeWhile_ends ends]

theorem integerOf_ends (ends : Ends rest) (byte : UInt8) (more : Bytes) :
    integerOf (byte :: (more ++ rest)) = integerOf (byte :: more) := by
  funext default
  have signed := congrFun (congrFun (integerAt_ends ends more) true) default
  have unsigned := congrFun (congrFun (integerAt_ends ends (byte :: more)) false) default
  unfold integerOf
  split
  · rename_i tail same
    obtain ⟨rfl, rfl⟩ := List.cons.inj same
    exact signed
  · rename_i different
    split
    · rename_i same
      obtain ⟨rfl, rfl⟩ := List.cons.inj same
      exact absurd rfl (different (more ++ rest))
    · exact unsigned

theorem stringAt_other (notQuote : byte ≠ quote) (tail : Bytes) : stringAt (byte :: tail) = id := by
  funext default
  unfold stringAt
  split
  · rename_i same
    exact absurd (List.cons.inj same).1 notQuote
  · rfl

theorem stringOf_other (notQuote : byte ≠ quote) (tail : Bytes) : stringOf (byte :: tail) = id := by
  funext default
  unfold stringOf
  split
  · rename_i same
    exact absurd (List.cons.inj same).1 notQuote
  · rfl

theorem integerOf_unsigned (notMinus : byte ≠ 45) (more : Bytes) (default : Int) :
    integerOf (byte :: more) default = integerAt (byte :: more) false default := by
  unfold integerOf
  split
  · rename_i same
    exact absurd (List.cons.inj same).1 notMinus
  · rfl

theorem integerOf_other (notMinus : byte ≠ 45) (notDigit : isDigit byte = false) (tail : Bytes) :
    integerOf (byte :: tail) = id := by
  funext default
  rw [integerOf_unsigned notMinus]
  simp [integerAt, notDigit]

private theorem nullText : text "null" = [110, 117, 108, 108] := by decide
private theorem trueText : text "true" = [116, 114, 117, 101] := by decide
private theorem falseText : text "false" = [102, 97, 108, 115, 101] := by decide

private theorem word_answers
    (among : value = text "null" ∨ value = text "true" ∨ value = text "false") (rest : Bytes)
    (skip : skipWs start = value ++ rest) : answersAt start = valueAnswers value := by
  rw [answersAt, valueAnswers, skip, nullText, trueText, falseText]
  rw [nullText, trueText, falseText] at among
  rcases among with rfl | rfl | rfl
  all_goals
    simp only [List.cons_append]
    rw [stringAt_other (by decide), stringOf_other (by decide),
      integerOf_other (by decide) (by decide), integerOf_other (by decide) (by decide)]
    simp

/-- A value that begins with none of the letters of the three words. -/
private theorem plain_answers {byte : UInt8} {more rest start : Bytes}
    (letters : byte ≠ 110 ∧ byte ≠ 116 ∧ byte ≠ 102)
    (notQuote : byte ≠ quote) (ends : Ends rest) (skip : skipWs start = (byte :: more) ++ rest) :
    answersAt start = valueAnswers (byte :: more) := by
  rw [List.cons_append] at skip
  rw [answersAt, valueAnswers, skip, integerOf_ends ends, stringAt_other notQuote,
    stringOf_other notQuote, nullText, trueText, falseText]
  simp [letters]

/-- The extractors read a value from its place in the text as it stands alone. -/
theorem answersAt_value (blank : Blank gap) (value : IsValue v) (ends : Ends rest) :
    answersAt (gap ++ (v ++ rest)) = valueAnswers v := by
  have skip : skipWs (gap ++ (v ++ rest)) = v ++ rest := by
    rw [skipWs_blank blank, skipWs_value value]
  generalize gap ++ (v ++ rest) = start at skip
  cases value.shape with
  | word among => exact word_answers among rest skip
  | number literal =>
    obtain ⟨byte, more, rfl, first⟩ := number_head literal
    refine plain_answers ?_ ?_ ends skip
    · rcases first with rfl | digit
      · decide
      · refine ⟨?_, ?_, ?_⟩ <;> (rintro rfl; revert digit; decide)
    · rcases first with rfl | digit
      · decide
      · rintro rfl
        revert digit
        decide
  | container bracket =>
    refine plain_answers ?_ ?_ ends skip
    · rcases bracket with rfl | rfl <;> decide
    · rcases bracket with rfl | rfl <;> decide
  | @string inside content =>
    have read := readString_content content rest
    have here : stringAt (quote :: (inside ++ quote :: rest)) =
        stringOf (quote :: (inside ++ [quote])) := by
      funext default
      rw [stringAt, stringOf, read, List.dropLast_concat]
    rw [List.cons_append, List.append_assoc, List.singleton_append] at skip
    rw [answersAt, valueAnswers, skip, here, integerOf_other (by decide) (by decide),
      integerOf_other (by decide) (by decide), nullText, trueText, falseText]
    simp [quote]

/-! Tokens of a text. -/

/-- What a text can begin with, as far as the extractors tell values apart. -/
inductive Token where
  | null
  | bool (value : Bool)
  | string (content : Bytes)
  | integer (value : Int)
  | other
  deriving DecidableEq, Repr

/-- The bytes up to the first quote that no backslash stands before. -/
def beforeQuote : Bytes → Bytes
  | [] => []
  | [byte] => if byte = quote then [] else [byte]
  | byte :: next :: rest =>
    if byte = quote then []
    else if byte = backslash then byte :: next :: beforeQuote rest
    else byte :: beforeQuote (next :: rest)

def integerToken (negative : Bool) (start : Bytes) : Token :=
  if start.takeWhile isDigit = [] then .other
    else .integer (strtoll negative (start.takeWhile isDigit))

/-- The token a text begins with: a word, a string with its escapes taken, an integer or
the integer part of a number; a bracket is none of these. -/
def tokenAt (start : Bytes) : Token :=
  if start.take 4 = text "null" then .null
  else if start.take 4 = text "true" then .bool true
  else if start.take 5 = text "false" then .bool false
  else
    match start with
    | 34 :: content => .string (decodeString (beforeQuote content))
    | 45 :: digits => integerToken true digits
    | digits => integerToken false digits

/-- What there is to say about a member whose value begins with a token. -/
def Token.answers (token : Token) : Answers where
  hasKey := true
  string default := if let .string content := token then content else default
  bool default := if let .bool value := token then value else default
  int default := if let .integer value := token then value else default
  isNull := token = .null

/-- The answers at two defaults, with the null test, tell tokens apart. -/
theorem Token.answers_injective : Function.Injective Token.answers := by
  intro left right same
  have string (default : Bytes) : left.answers.string default = right.answers.string default := by
    rw [same]
  have bool (default : Bool) : left.answers.bool default = right.answers.bool default := by
    rw [same]
  have int (default : Int) : left.answers.int default = right.answers.int default := by rw [same]
  have isNull : left.answers.isNull = right.answers.isNull := by rw [same]
  have strings := And.intro (string []) (string [0])
  have bools := And.intro (bool false) (bool true)
  have ints := And.intro (int 0) (int 1)
  clear same string bool int
  cases left <;> cases right <;> simp [Token.answers] at strings bools ints isNull ⊢ <;> grind

theorem readString_beforeQuote (content : Bytes) :
    readString content = decodeString (beforeQuote content) := by
  fun_induction beforeQuote content with
  | case1 => rfl
  | case2 => simp [readString, decodeString]
  | case3 byte other => simp [readString, decodeString, other]
  | case4 => simp [readString, decodeString]
  | case5 next rest notQuote ih => rw [readString_escape, decodeString_escape, ih]
  | case6 byte next rest notQuote notBackslash ih =>
    rw [readString_plain notQuote notBackslash, decodeString_plain notBackslash, ih]

private theorem integerToken_answers (negative : Bool) (digits : Bytes) :
    (integerToken negative digits).answers = ⟨true, id, id, integerAt digits negative, false⟩ := by
  unfold integerToken integerAt
  split
  · rfl
  · rfl

private theorem word_token
    (among : value = text "null" ∨ value = text "true" ∨ value = text "false") (rest : Bytes) :
    (tokenAt (value ++ rest)).answers = valueAnswers value := by
  unfold tokenAt valueAnswers
  rw [nullText, trueText, falseText]
  rw [nullText, trueText, falseText] at among
  rcases among with rfl | rfl | rfl
  all_goals
    rw [stringOf_other (by decide), integerOf_other (by decide) (by decide)]
    simp only [List.cons_append, List.take_succ_cons, List.take_zero, Token.answers]
    simp
    exact ⟨rfl, rfl⟩

/-- The extractors read the token behind the blanks. -/
theorem answersAt_token (start : Bytes) : answersAt start = (tokenAt (skipWs start)).answers := by
  by_cases word :
    ∃ value rest, (value = text "null" ∨ value = text "true" ∨ value = text "false") ∧
    skipWs start = value ++ rest
  · obtain ⟨value, rest, among, skip⟩ := word
    rw [word_answers among rest skip, skip, word_token among rest]
  have notNull : (skipWs start).take 4 ≠ text "null" := fun begins =>
    word ⟨_, _, .inl begins, (List.take_append_drop 4 _).symm⟩
  have notTrue : (skipWs start).take 4 ≠ text "true" := fun begins =>
    word ⟨_, _, .inr (.inl begins), (List.take_append_drop 4 _).symm⟩
  have notFalse : (skipWs start).take 5 ≠ text "false" := fun begins =>
    word ⟨_, _, .inr (.inr begins), (List.take_append_drop 5 _).symm⟩
  unfold answersAt tokenAt
  simp only [notNull, notTrue, notFalse, if_false, decide_false]
  generalize skipWs start = start
  split
  · rename_i content
    have read : stringAt (quote :: content) = fun _ => decodeString (beforeQuote content) :=
      funext fun _ => readString_beforeQuote content
    rw [read, integerOf_other (by decide) (by decide)]
    rfl
  · rename_i digits
    rw [stringAt_other (by decide), integerToken_answers]
    rfl
  · rename_i notQuote notMinus
    rw [integerToken_answers]
    cases start with
    | nil => rfl
    | cons byte rest =>
      have string : stringAt (byte :: rest) = id :=
        stringAt_other (fun same => notQuote rest (by rw [same])) rest
      have integer : integerOf (byte :: rest) = integerAt (byte :: rest) false :=
        funext (integerOf_unsigned (fun same => notMinus rest (by rw [same])) rest)
      rw [string, integer]
      rfl

/-! Where the search lands. -/

/-- `"key":`. -/
def nameText (key : Bytes) : Bytes := quote :: (key ++ [quote, colon])

/-- There is no member of this name, and `"key":` stands nowhere in the text. -/
def Nowhere (object : ObjectText) (key : Bytes) : Prop :=
  object.member decodeString key = none ∧ ¬ nameText key <:+: object.text

/-- The first `"key":` of the text is the name of a member, the first one of this name. -/
def LandsOn (object : ObjectText) (key : Bytes) (m : Member) : Prop :=
  ∃ earlier later, object.members = earlier ++ m :: later ∧ decodeString m.key = key ∧
    (∀ other ∈ earlier, decodeString other.key ≠ key) ∧
    FirstAfter (nameText key) object.text
      (m.beforeValue ++ (m.value ++ (m.after ++ closing 125 (later.map Member.text))))

/-- The first `"key":` stands elsewhere, before the token the value of the member is. -/
def Coincides (object : ObjectText) (key : Bytes) : Prop :=
  (¬ ∃ m, LandsOn object key m) ∧ ∃ m rest, object.member decodeString key = some m ∧
    FirstAfter (nameText key) object.text rest ∧ tokenAt (skipWs rest) = tokenAt m.value

/-- Whatever the text is, the answers are those of the token behind its first `"key":`. -/
theorem extracted_first (first : FirstAfter (nameText key) json rest) :
    extracted json key = (tokenAt (skipWs rest)).answers := by
  have found : findValueStart json key = some rest := findAfter_eq_some_iff.mpr first
  rw [extracted_eq, found, Option.elim_some, answersAt_token]

theorem extracted_nowhere (nowhere : ¬ nameText key <:+: json) :
    extracted json key = Answers.absent := by
  have missing : findValueStart json key = none := findAfter_eq_none_iff.mpr nowhere
  rw [extracted_eq, missing, Option.elim_none]

theorem valueAnswers_token (value : IsValue v) : valueAnswers v = (tokenAt v).answers := by
  have alone : answersAt ([] ++ (v ++ [])) = valueAnswers v :=
    answersAt_value (by simp [Blank]) value (by simp [Ends])
  rw [← alone, List.nil_append, answersAt_token, skipWs_value value, List.append_nil]

private theorem ends_after (blank : Blank gap) (later : List Member) :
    Ends (gap ++ closing 125 (later.map Member.text)) := by
  intro byte first
  cases gap with
  | nil =>
    cases later with
    | nil => cases first; decide
    | cons m later => cases first; decide
  | cons next gap =>
    obtain rfl : next = byte := by simpa using first
    have space := blank next (by simp)
    grind [isBlank, isDigit]

theorem landsOn_member (lands : LandsOn object key m) :
    object.member decodeString key = some m := by
  obtain ⟨earlier, later, members, named, others, -⟩ := lands
  have none : earlier.find? (fun other => decide (decodeString other.key = key)) = none := by
    simpa using others
  rw [ObjectText.member, members, List.find?_append, none]
  simp [named]

/-- What stands behind the name of a member is its value. -/
theorem landsOn_agrees (lands : LandsOn object key m) :
    extracted object.text key = topLevelAnswers object key := by
  rw [topLevelAnswers, landsOn_member lands, Option.elim_some]
  obtain ⟨earlier, later, members, -, -, first⟩ := lands
  have formed := object.formed m (by simp [members])
  rw [extracted_first first, ← answersAt_token]
  exact answersAt_value formed.beforeValue formed.value (ends_after formed.after later)

/-- The flat extractors answer about the top-level members exactly where there is neither
member nor match, or the first match is the name of the member, or it stands elsewhere and
the same token happens to stand behind it. -/
theorem flat_lookup_iff (object : ObjectText) (key : Bytes) :
    extracted object.text key = topLevelAnswers object key ↔
      Nowhere object key ∨ (∃ m, LandsOn object key m) ∨ Coincides object key := by
  constructor
  · intro agree
    by_cases lands : ∃ m, LandsOn object key m
    · exact .inr (.inl lands)
    rw [topLevelAnswers] at agree
    cases found : findAfter (nameText key) object.text with
    | none =>
      have nowhere := findAfter_eq_none_iff.mp found
      cases member : object.member decodeString key with
      | none => exact .inl ⟨member, nowhere⟩
      | some m =>
        rw [extracted_nowhere nowhere, member] at agree
        exact absurd (congrArg Answers.hasKey agree) (by simp [Answers.absent, valueAnswers])
    | some rest =>
      have first := findAfter_eq_some_iff.mp found
      rw [extracted_first first] at agree
      cases member : object.member decodeString key with
      | none =>
        rw [member] at agree
        exact absurd (congrArg Answers.hasKey agree) (by simp [Answers.absent, Token.answers])
      | some m =>
        have inside : m ∈ object.members := List.mem_of_find?_eq_some member
        rw [member, Option.elim_some, valueAnswers_token (object.formed m inside).value] at agree
        exact .inr (.inr ⟨lands, m, rest, member, first, Token.answers_injective agree⟩)
  · rintro (⟨member, nowhere⟩ | ⟨m, lands⟩ | ⟨-, m, rest, member, first, same⟩)
    · rw [topLevelAnswers, member, extracted_nowhere nowhere]
      rfl
    · exact landsOn_agrees lands
    · have inside : m ∈ object.members := List.mem_of_find?_eq_some member
      rw [topLevelAnswers, member, extracted_first first, Option.elim_some,
        valueAnswers_token (object.formed m inside).value, same]

/-- `"version":` and a digit, without layout. -/
private def versionMember (digit : UInt8) : Member where
  before := []
  key := text "version"
  afterKey := []
  beforeValue := []
  value := [digit]
  after := []

private theorem versionMember_formed (digit : UInt8) (decimal : 49 ≤ digit ∧ digit ≤ 57) :
    (versionMember digit).Formed where
  before := by simp [Blank, versionMember]
  key := by
    have plain : isPlain (text "version") = true := by decide
    exact .of_plain (plain_of_isPlain plain)
  afterKey := by simp [Blank, versionMember]
  beforeValue := by simp [Blank, versionMember]
  value := by
    have low : (48 : UInt8) ≤ digit := UInt8.le_trans (by decide) decimal.1
    exact .number (.of_digits
      ⟨by simp [versionMember], by simp [versionMember, isDecimal, low, decimal.2]⟩ fun _ => by
      simp_all [versionMember])
  after := by simp [Blank, versionMember]

private def nested : ObjectText where
  members := [versionMember 55]
  gap := []
  formed m member := by
    rw [List.mem_singleton.mp member]
    exact versionMember_formed 55 (by decide)
  blank := by simp [Blank]

/-- A body with a version of its own after an object that has one too. -/
def nestedVersion : ObjectText where
  members := [⟨[], text "state", [], [], nested.text, []⟩, versionMember 51]
  gap := []
  formed m member := by
    rcases List.mem_cons.mp member with rfl | last
    · exact ⟨by simp [Blank], .of_plain (plain_of_isPlain (by decide)), by simp [Blank],
        by simp [Blank], nested.isValue, by simp [Blank]⟩
    · rw [List.mem_singleton.mp last]
      exact versionMember_formed 51 (by decide)
  blank := by simp [Blank]

/-- The nested 7 is read for the version 3. -/
theorem nested_version_read :
    nestedVersion.text = text "\x7b\"state\":\x7b\"version\":7\x7d,\"version\":3\x7d" ∧
      jsonExtractInt nestedVersion.text (text "version") 0 = 7 ∧
      (topLevelAnswers nestedVersion (text "version")).int 0 = 3 ∧
      extracted nestedVersion.text (text "version") ≠
        topLevelAnswers nestedVersion (text "version") := by
  have facts : nestedVersion.text = text "\x7b\"state\":\x7b\"version\":7\x7d,\"version\":3\x7d" ∧
      jsonExtractInt nestedVersion.text (text "version") 0 = 7 ∧
      (topLevelAnswers nestedVersion (text "version")).int 0 = 3 := by decide +kernel
  refine ⟨facts.1, facts.2.1, facts.2.2, fun same => ?_⟩
  have read : (extracted nestedVersion.text (text "version")).int 0 = 7 := facts.2.1
  rw [same, facts.2.2] at read
  exact absurd read (by decide)

end Kiosk.Protocol
