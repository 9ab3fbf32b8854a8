import Kiosk.Library.KeySearch

/-! The grammar of JSON over bytes, layout included. A container is its items as they
stand in the text; a lookup goes over the members of one object and no deeper. -/
namespace Kiosk.Library.JsonGrammar

open KeySearch

/-- The four bytes JSON allows between tokens. -/
def isBlank (byte : UInt8) : Bool := byte = 32 || byte = 9 || byte = 10 || byte = 13

def Blank (gap : Bytes) : Prop := ∀ byte ∈ gap, isBlank byte = true

def isDecimal (byte : UInt8) : Bool := 48 ≤ byte && byte ≤ 57

def isHex (byte : UInt8) : Bool :=
  isDecimal byte || (65 ≤ byte && byte ≤ 70) || (97 ≤ byte && byte ≤ 102)

/-- What may stand between the quotes of a string. -/
inductive StringContent : Bytes → Prop where
  | nil : StringContent []
  | plain (printable : 32 ≤ byte) (notQuote : byte ≠ quote) (notBackslash : byte ≠ backslash)
      (rest : StringContent content) : StringContent (byte :: content)
  | escape (named : byte ∈ text "\"\\/bfnrt") (rest : StringContent content) :
      StringContent (backslash :: byte :: content)
  | unicode (hex : ∀ digit ∈ [a, b, c, d], isHex digit = true) (rest : StringContent content) :
      StringContent (backslash :: 117 :: a :: b :: c :: d :: content)

def Digits (digits : Bytes) : Prop := digits ≠ [] ∧ ∀ digit ∈ digits, isDecimal digit = true

/-- No leading zeros. -/
def IntegerPart (digits : Bytes) : Prop := Digits digits ∧ (digits.head? = some 48 → digits = [48])

def FractionPart (fraction : Bytes) : Prop :=
  fraction = [] ∨ ∃ digits, Digits digits ∧ fraction = 46 :: digits

def ExponentPart (exponent : Bytes) : Prop :=
  exponent = [] ∨ ∃ letter sign digits,
      (letter = 69 ∨ letter = 101) ∧ sign ∈ [[], [43], [45]] ∧ Digits digits ∧
    exponent = letter :: (sign ++ digits)

inductive IsNumber : Bytes → Prop where
  | mk (sign : minus = [] ∨ minus = [45]) (integer : IntegerPart digits)
      (fractional : FractionPart fraction)
      (exponential : ExponentPart exponent) : IsNumber (minus ++ (digits ++ (fraction ++ exponent)))

/-- An item of an array. -/
structure Element where
  before : Bytes
  value : Bytes
  after : Bytes

def Element.text (e : Element) : Bytes := e.before ++ (e.value ++ e.after)

/-- A member of an object; `key` is what stands between its quotes. -/
structure Member where
  before : Bytes
  key : Bytes
  afterKey : Bytes
  beforeValue : Bytes
  value : Bytes
  after : Bytes

def Member.text (m : Member) : Bytes :=
  m.before ++ quote
    :: (m.key ++ quote :: (m.afterKey ++ colon :: (m.beforeValue ++ (m.value ++ m.after))))

/-- The items after the first and the closing bracket. -/
def closing (bracket : UInt8) : List Bytes → Bytes
  | [] => [bracket]
  | item :: rest => 44 :: (item ++ closing bracket rest)

/-- Items between brackets; `gap` is what an empty pair holds. -/
def enclosed (opens closes : UInt8) (gap : Bytes) : List Bytes → Bytes
  | [] => opens :: (gap ++ [closes])
  | item :: rest => opens :: (item ++ closing closes rest)

inductive IsValue : Bytes → Prop where
  | null : IsValue (text "null")
  | true : IsValue (text "true")
  | false : IsValue (text "false")
  | number (literal : IsNumber value) : IsValue value
  | string (content : StringContent inside) : IsValue (quote :: (inside ++ [quote]))
  | array (elements : List Element) (blank : Blank gap)
      (gaps : ∀ e ∈ elements, Blank e.before ∧ Blank e.after)
      (values : ∀ e ∈ elements, IsValue e.value) :
      IsValue (enclosed 91 93 gap (elements.map Element.text))
  | object (members : List Member) (blank : Blank gap)
      (gaps : ∀ m ∈ members,
        Blank m.before ∧ Blank m.afterKey ∧ Blank m.beforeValue ∧ Blank m.after)
      (keys : ∀ m ∈ members, StringContent m.key) (values : ∀ m ∈ members, IsValue m.value) :
      IsValue (enclosed 123 125 gap (members.map Member.text))

structure Member.Formed (m : Member) : Prop where
  before : Blank m.before
  key : StringContent m.key
  afterKey : Blank m.afterKey
  beforeValue : Blank m.beforeValue
  value : IsValue m.value
  after : Blank m.after

/-- A well-formed object. -/
structure ObjectText where
  members : List Member
  gap : Bytes
  formed : ∀ m ∈ members, m.Formed
  blank : Blank gap

def ObjectText.text (object : ObjectText) : Bytes :=
  enclosed 123 125 object.gap (object.members.map Member.text)

/-- The first member whose key, decoded, is the name. -/
def ObjectText.member (object : ObjectText) (decode : Bytes → Bytes) (name : Bytes) :
    Option Member :=
  object.members.find? fun m => decode m.key = name

theorem ObjectText.isValue (object : ObjectText) : IsValue object.text :=
  .object object.members object.blank
    (fun m member => ⟨(object.formed m member).before, (object.formed m member).afterKey,
      (object.formed m member).beforeValue, (object.formed m member).after⟩)
    (fun m member => (object.formed m member).key) fun m member => (object.formed m member).value

/-- Letters that stand for themselves between quotes. -/
def isPlain (content : Bytes) : Bool :=
  content.all fun byte => 32 ≤ byte && byte ≠ quote && byte ≠ backslash

theorem plain_of_isPlain (plain : isPlain content = true) :
    ∀ byte ∈ content, 32 ≤ byte ∧ byte ≠ quote ∧ byte ≠ backslash := by
  intro byte member
  simpa [and_assoc] using List.all_eq_true.mp plain byte member

theorem StringContent.of_plain
    (plain : ∀ byte ∈ content, 32 ≤ byte ∧ byte ≠ quote ∧ byte ≠ backslash) :
    StringContent content := by
  induction content with
  | nil => exact .nil
  | cons byte content ih =>
    have first := plain byte (by simp)
    exact .plain first.1 first.2.1 first.2.2 (ih fun other member => plain other (by simp [member]))

/-- An integer without a sign. -/
theorem IsNumber.of_digits (digits : Digits literal)
    (noZero : literal.head? = some 48 → literal = [48]) :
    IsNumber literal := by
  have number : IsNumber ([] ++ (literal ++ ([] ++ []))) :=
    .mk (.inl rfl) ⟨digits, noZero⟩ (.inl rfl) (.inl rfl)
  simpa using number

/-- What a value text begins with tells what it is. -/
inductive Shape : Bytes → Prop where
  | word (among : value = text "null" ∨ value = text "true" ∨ value = text "false") : Shape value
  | number (literal : IsNumber value) : Shape value
  | string (content : StringContent inside) : Shape (quote :: (inside ++ [quote]))
  | container (bracket : byte = 91 ∨ byte = 123) : Shape (byte :: rest)

theorem enclosed_cons (opens closes : UInt8) (gap : Bytes) (items : List Bytes) :
    ∃ rest, enclosed opens closes gap items = opens :: rest := by
  cases items with
  | nil => exact ⟨_, rfl⟩
  | cons item rest => exact ⟨_, rfl⟩

theorem IsValue.shape (value : IsValue v) : Shape v := by
  cases value with
  | null => exact .word (.inl rfl)
  | true => exact .word (.inr (.inl rfl))
  | false => exact .word (.inr (.inr rfl))
  | number literal => exact .number literal
  | string content => exact .string content
  | array elements _ _ _ =>
    obtain ⟨rest, same⟩ := enclosed_cons 91 93 _ (elements.map Element.text)
    rw [same]
    exact .container (.inl rfl)
  | object members _ _ _ _ =>
    obtain ⟨rest, same⟩ := enclosed_cons 123 125 _ (members.map Member.text)
    rw [same]
    exact .container (.inr rfl)

end Kiosk.Library.JsonGrammar
