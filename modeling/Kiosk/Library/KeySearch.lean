import Mathlib

/-! Substring search for a quoted key in text made of quoted strings and bare
punctuation. A search that knows nothing about nesting or quoting still finds a
key exactly where one stands, as long as the strings are escaped. -/
namespace Kiosk.Library

abbrev Bytes := List UInt8

/-- The bytes of an ASCII literal. -/
def text (literal : String) : Bytes := literal.toList.map Char.toUInt8

namespace KeySearch

abbrev quote : UInt8 := 34
abbrev backslash : UInt8 := 92
abbrev colon : UInt8 := 58

/-- What follows the first occurrence of `needle`. -/
def findAfter (needle : Bytes) : Bytes → Option Bytes
  | [] => if needle = [] then some [] else none
  | byte :: rest =>
    if needle.isPrefixOf (byte :: rest) then some ((byte :: rest).drop needle.length)
    else findAfter needle rest

/-- `rest` is what follows the first place where `needle` stands in the input. -/
structure FirstAfter (needle input rest : Bytes) : Prop where
  place : ∃ front, input = front ++ (needle ++ rest)
  first : ∀ front other, input = front ++ (needle ++ other) → other.length ≤ rest.length

theorem FirstAfter.unique (one : FirstAfter needle input rest)
    (two : FirstAfter needle input other) :
    rest = other := by
  obtain ⟨front, here⟩ := one.place
  obtain ⟨before, there⟩ := two.place
  have same : rest.length = other.length :=
    Nat.le_antisymm (two.first front rest here) (one.first before other there)
  rw [here, ← List.append_assoc, ← List.append_assoc] at there
  exact (List.append_inj' there same).2

theorem findAfter_first (found : findAfter needle input = some rest) :
    FirstAfter needle input rest := by
  induction input with
  | nil =>
    rw [findAfter, Option.ite_none_right_eq_some] at found
    obtain ⟨rfl, same⟩ := found
    cases same
    refine ⟨⟨[], rfl⟩, fun front other split => ?_⟩
    obtain ⟨-, tail⟩ := List.append_eq_nil_iff.mp split.symm
    obtain ⟨-, rfl⟩ := List.append_eq_nil_iff.mp tail
    exact le_rfl
  | cons byte input ih =>
    rw [findAfter] at found
    split at found
    · rename_i matched
      obtain ⟨tail, whole⟩ := List.isPrefixOf_iff_prefix.mp matched
      rw [← whole, List.drop_left] at found
      cases found
      refine ⟨⟨[], whole.symm⟩, fun front other split => ?_⟩
      have lengths := congrArg List.length (whole.trans split)
      simp only [List.length_append] at lengths
      omega
    · rename_i differs
      obtain ⟨⟨front, place⟩, first⟩ := ih found
      refine ⟨⟨byte :: front, by rw [place, List.cons_append]⟩, fun before other split => ?_⟩
      cases before with
      | nil =>
        rw [List.nil_append] at split
        exact absurd (List.isPrefixOf_iff_prefix.mpr ⟨other, split.symm⟩) differs
      | cons head before => exact first before other (List.cons.inj split).2

theorem findAfter_none (missing : findAfter needle input = none) : ¬ needle <:+: input := by
  induction input with
  | nil =>
    rw [findAfter] at missing
    split at missing
    · cases missing
    · rename_i nonempty
      exact fun inside => nonempty (List.infix_nil.mp inside)
  | cons byte input ih =>
    rw [findAfter] at missing
    split at missing
    · cases missing
    · rename_i differs
      rw [List.infix_cons_iff]
      rintro (front | inside)
      · exact differs (List.isPrefixOf_iff_prefix.mpr front)
      · exact ih missing inside

/-- The search finds the first place, wherever that is. -/
theorem findAfter_eq_some_iff :
    findAfter needle input = some rest ↔ FirstAfter needle input rest := by
  refine ⟨findAfter_first, fun first => ?_⟩
  cases found : findAfter needle input with
  | none =>
    obtain ⟨front, place⟩ := first.place
    exact absurd ⟨front, rest, by rw [place, List.append_assoc]⟩ (findAfter_none found)
  | some other => rw [(findAfter_first found).unique first]

theorem findAfter_eq_none_iff : findAfter needle input = none ↔ ¬ needle <:+: input := by
  refine ⟨findAfter_none, fun missing => ?_⟩
  cases found : findAfter needle input with
  | none => rfl
  | some rest =>
    obtain ⟨front, place⟩ := (findAfter_first found).place
    exact absurd ⟨front, rest, by rw [place, List.append_assoc]⟩ missing

/-- Bytes of identifiers: letters, digits and the underscore. -/
def isWord (byte : UInt8) : Bool :=
  byte == 95 || (48 ≤ byte && byte ≤ 57) || (65 ≤ byte && byte ≤ 90) || (97 ≤ byte && byte ≤ 122)

/-- An identifier, which no quoting or punctuation byte can be part of. -/
structure Key where
  bytes : Bytes
  nonempty : bytes ≠ []
  word : bytes.all isWord = true

/-- The literal `"key":`. -/
def Key.needle (key : Key) : Bytes := quote :: (key.bytes ++ [quote, colon])

/-- Text in which every quote is preceded by its own backslash. -/
inductive Escaped : Bytes → Prop where
  | nil : Escaped []
  | plain (notQuote : byte ≠ quote) (notBackslash : byte ≠ backslash) (rest : Escaped content) :
      Escaped (byte :: content)
  | escape (rest : Escaped content) : Escaped (backslash :: byte :: content)

theorem Escaped.append (first : Escaped left) (second : Escaped right) :
    Escaped (left ++ right) := by
  induction first with
  | nil => exact second
  | plain notQuote notBackslash _ ih => exact .plain notQuote notBackslash ih
  | escape _ ih => exact .escape ih

theorem Escaped.of_plain (plain : ∀ byte ∈ content, byte ≠ quote ∧ byte ≠ backslash) :
    Escaped content := by
  induction content with
  | nil => exact .nil
  | cons byte rest ih =>
    have head := plain byte (by simp)
    exact .plain head.1 head.2 (ih fun other member => plain other (by simp [member]))

theorem word_ne {byte : UInt8} (word : isWord byte = true) :
    byte ≠ quote ∧ byte ≠ backslash ∧ byte ≠ colon := by
  refine ⟨?_, ?_, ?_⟩ <;> rintro rfl <;> exact absurd word (by decide)

theorem Key.word_of_mem (key : Key) (member : byte ∈ key.bytes) : isWord byte = true :=
  List.all_eq_true.mp key.word byte member

theorem Key.escaped (key : Key) : Escaped key.bytes :=
  .of_plain fun _ member =>
    ⟨(word_ne (key.word_of_mem member)).1, (word_ne (key.word_of_mem member)).2.1⟩

/-- One byte that cannot start the needle is passed over. -/
theorem findAfter_cons (key : Key) (notQuote : byte ≠ quote) :
    findAfter key.needle (byte :: rest) = findAfter key.needle rest := by
  simp [findAfter, Key.needle, List.isPrefixOf, Ne.symm notQuote]

theorem findAfter_bare (key : Key) (bare : ∀ byte ∈ front, byte ≠ quote) :
    findAfter key.needle (front ++ rest) = findAfter key.needle rest := by
  induction front with
  | nil => rfl
  | cons byte front ih =>
    rw [List.cons_append, findAfter_cons key (bare byte (by simp))]
    exact ih fun other member => bare other (by simp [member])

theorem findAfter_nil (key : Key) : findAfter key.needle [] = none := by
  simp [findAfter, Key.needle]

/-- A quote at which the key does not follow is passed over too. -/
theorem findAfter_quote (key : Key) (differs : ¬ (key.bytes ++ [quote, colon]) <+: rest) :
    findAfter key.needle (quote :: rest) = findAfter key.needle rest := by
  have fails : List.isPrefixOf key.needle (quote :: rest) = false := by
    rw [Bool.eq_false_iff, ne_eq, List.isPrefixOf_iff_prefix, Key.needle, List.cons_prefix_cons]
    exact fun matched => differs matched.2
  simp [findAfter, fails]

/-- A closing quote is followed by punctuation, never by the first byte of a key. -/
theorem closing_differs (key : Key) (punctuation : isWord next = false) :
    ¬ (key.bytes ++ [quote, colon]) <+: (next :: rest) := by
  cases same : key.bytes with
  | nil => exact absurd same key.nonempty
  | cons first others =>
    rw [List.cons_append, List.cons_prefix_cons]
    rintro ⟨rfl, _⟩
    have member : first ∈ key.bytes := by simp [same]
    have word := key.word_of_mem member
    simp [punctuation] at word

/-- Inside an escaped string the key's own closing quote and colon would have to
be the end of the string, and a string value is not followed by a colon. -/
theorem content_differs (word : ∀ byte ∈ front, isWord byte = true) (escaped : Escaped content)
    (notColon : next ≠ colon) :
    ¬ (front ++ [quote, colon]) <+: (content ++ quote :: next :: rest) := by
  induction front generalizing content with
  | nil =>
    cases escaped with
    | nil => simp [Ne.symm notColon]
    | plain notQuote _ _ => simp [Ne.symm notQuote]
    | escape _ => simp [show quote ≠ backslash by decide]
  | cons byte front ih =>
    have head := word_ne (word byte (by simp))
    have tail : ∀ other ∈ front, isWord other = true :=
      fun other member => word other (by simp [member])
    cases escaped with
    | nil => simp [head.1]
    | plain _ _ inner =>
      rw [List.cons_append, List.cons_append, List.cons_prefix_cons]
      exact fun matched => ih tail inner matched.2
    | escape _ => simp [head.2.1]

theorem findAfter_content (key : Key) (escaped : Escaped content) (notColon : next ≠ colon)
    (punctuation : isWord next = false) :
    findAfter key.needle (content ++ quote :: next :: rest) =
      findAfter key.needle (next :: rest) := by
  induction escaped with
  | nil => exact findAfter_quote key (closing_differs key punctuation)
  | plain notQuote _ _ ih => rw [List.cons_append, findAfter_cons key notQuote, ih]
  | @escape content byte inner ih =>
    rw [List.cons_append, findAfter_cons key (by decide), List.cons_append]
    by_cases quoted : byte = quote
    · subst byte
      have differs : ¬ (key.bytes ++ [quote, colon]) <+: (content ++ quote :: next :: rest) :=
        content_differs (fun _ member => key.word_of_mem member) inner notColon
      rw [findAfter_quote key differs, ih]
    · rw [findAfter_cons key quoted, ih]

/-- A string value is passed over whole, whatever it holds. -/
theorem findAfter_value (key : Key) (escaped : Escaped content) (notColon : next ≠ colon)
    (punctuation : isWord next = false) :
    findAfter key.needle (quote :: (content ++ quote :: next :: rest)) =
      findAfter key.needle (next :: rest) := by
  have differs : ¬ (key.bytes ++ [quote, colon]) <+: (content ++ quote :: next :: rest) :=
    content_differs (fun _ member => key.word_of_mem member) escaped notColon
  rw [findAfter_quote key differs, findAfter_content key escaped notColon punctuation]

theorem findAfter_found (key : Key) :
    findAfter key.needle (quote :: (key.bytes ++ quote :: colon :: rest)) = some rest := by
  have same : quote :: (key.bytes ++ quote :: colon :: rest) = key.needle ++ rest := by
    simp [Key.needle]
  have matched : List.isPrefixOf key.needle (key.needle ++ rest) = true :=
    List.isPrefixOf_iff_prefix.mpr (List.prefix_append _ _)
  rw [same]
  cases spelled : key.needle ++ rest with
  | nil => simp [Key.needle] at spelled
  | cons byte others =>
    rw [spelled] at matched
    rw [findAfter, if_pos matched, ← spelled]
    simp

private theorem keys_differ (word : ∀ byte ∈ front, isWord byte = true)
    (plain : ∀ byte ∈ other, isWord byte = true) (differ : front ≠ other) :
    ¬ (front ++ [quote, colon]) <+: (other ++ quote :: colon :: rest) := by
  induction front generalizing other with
  | nil =>
    cases other with
    | nil => exact absurd rfl differ
    | cons byte other => simp [Ne.symm (word_ne (plain byte (by simp))).1]
  | cons byte front ih =>
    cases other with
    | nil => simp [(word_ne (word byte (by simp))).1]
    | cons head other =>
      rw [List.cons_append, List.cons_append, List.cons_prefix_cons]
      rintro ⟨rfl, matched⟩
      exact ih (fun other member => word other (by simp [member]))
        (fun other member => plain other (by simp [member]))
          (fun same => differ (by rw [same])) matched

/-- Another key is passed over with its colon. -/
theorem findAfter_other (key other : Key) (differ : key.bytes ≠ other.bytes) :
    findAfter key.needle (quote :: (other.bytes ++ quote :: colon :: rest)) =
      findAfter key.needle rest := by
  have differs : ¬ (key.bytes ++ [quote, colon]) <+: (other.bytes ++ quote :: colon :: rest) :=
    keys_differ (fun _ member => key.word_of_mem member)
      (fun _ member => other.word_of_mem member) differ
  have bare : ∀ byte ∈ other.bytes, byte ≠ quote :=
    fun _ member => (word_ne (other.word_of_mem member)).1
  rw [findAfter_quote key differs, findAfter_bare key bare,
    findAfter_quote key (closing_differs key (by decide)), findAfter_cons key (by decide)]

private theorem not_isPrefixOf_front {needle front back : Bytes} {byte : UInt8}
    (differs : ¬ needle.isPrefixOf (byte :: (front ++ back)) = true) :
    ¬ needle.isPrefixOf (byte :: front) = true := by
  intro matched
  exact differs (List.isPrefixOf_iff_prefix.mpr
    ((List.isPrefixOf_iff_prefix.mp matched).trans (List.prefix_append (byte :: front) back)))

theorem findAfter_length (nonempty : needle ≠ []) (found : findAfter needle input = some rest) :
    rest.length < input.length := by
  have positive := List.length_pos_iff.mpr nonempty
  induction input with
  | nil => simp [findAfter, nonempty] at found
  | cons byte input ih =>
    rw [findAfter] at found
    split at found
    · rename_i matched
      cases found
      rw [List.length_drop, List.length_cons]
      omega
    · exact Nat.lt_succ_of_lt (ih found)

/-- What is found in a longer text before `back` is found without it. -/
theorem findAfter_of_append (nonempty : needle ≠ [])
    (found : findAfter needle (front ++ back) = some (rest ++ back)) :
    findAfter needle front = some rest := by
  induction front with
  | nil =>
    have shorter := findAfter_length nonempty found
    simp at shorter
  | cons byte front ih =>
    rw [List.cons_append, findAfter] at found
    rw [findAfter]
    split at found
    · rename_i matched
      have dropped := Option.some.inj found
      have prefixed := List.isPrefixOf_iff_prefix.mp matched
      have fits : needle.length ≤ (byte :: front).length := by
        have lengths := congrArg List.length dropped
        have whole := prefixed.length_le
        simp only [List.length_drop, List.length_cons, List.length_append] at lengths whole ⊢
        omega
      have inside : needle.isPrefixOf (byte :: front) = true := by
        rw [← List.cons_append] at prefixed
        exact List.isPrefixOf_iff_prefix.mpr
          (List.prefix_of_prefix_length_le prefixed (List.prefix_append _ _) fits)
      rw [← List.cons_append, List.drop_append_of_le_length fits] at dropped
      rw [if_pos inside, List.append_cancel_right dropped]
    · rename_i differs
      rw [if_neg (not_isPrefixOf_front differs)]
      exact ih found

/-- What a longer text does not hold is not in its front. -/
theorem findAfter_none_front (missing : findAfter needle (front ++ back) = none) :
    findAfter needle front = none := by
  induction front with
  | nil =>
    cases back with
    | nil => exact missing
    | cons byte back =>
      rw [findAfter]
      split
      · rename_i empty
        subst empty
        simp [findAfter] at missing
      · rfl
  | cons byte front ih =>
    rw [List.cons_append, findAfter] at missing
    split at missing
    · cases missing
    · rename_i differs
      rw [findAfter, if_neg (not_isPrefixOf_front differs)]
      exact ih missing
/-! A text as pieces. The search over the bytes and the search over the pieces
agree, so a lookup in rendered text is a computation on its keys. -/

/-- A quoted key with its colon, a quoted string value, or punctuation and
numbers, which hold no quote. -/
inductive Piece where
  | key (name : Key)
  | value (content : Bytes)
  | bare (content : Bytes)

def Piece.bytes : Piece → Bytes
  | .key name => quote :: (name.bytes ++ [quote, colon])
  | .value content => quote :: (content ++ [quote])
  | .bare content => content

def render (pieces : List Piece) : Bytes := pieces.flatMap Piece.bytes

/-- Values are escaped and followed by punctuation other than a colon. -/
inductive WellFormed : List Piece → Prop where
  | nil : WellFormed []
  | key (rest : WellFormed pieces) : WellFormed (.key name :: pieces)
  | value (escaped : Escaped content) (notColon : next ≠ colon) (punctuation : isWord next = false)
      (rest : WellFormed (.bare (next :: bytes) :: pieces)) :
      WellFormed (.value content :: .bare (next :: bytes) :: pieces)
  | bare (noQuote : ∀ byte ∈ bytes, byte ≠ quote) (rest : WellFormed pieces) :
      WellFormed (.bare bytes :: pieces)

/-- The pieces after the first one that is this key. -/
def lookup (key : Key) : List Piece → Option (List Piece)
  | [] => none
  | .key name :: rest => if key.bytes = name.bytes then some rest else lookup key rest
  | .value _ :: rest => lookup key rest
  | .bare _ :: rest => lookup key rest

@[simp] theorem render_nil : render [] = [] := rfl

@[simp] theorem render_cons (piece : Piece) (pieces : List Piece) :
    render (piece :: pieces) = piece.bytes ++ render pieces := rfl

theorem findAfter_render (key : Key) (formed : WellFormed pieces) :
    findAfter key.needle (render pieces) = (lookup key pieces).map render := by
  induction formed with
  | nil => exact findAfter_nil key
  | @key pieces name _ ih =>
    have spelled : render (.key name :: pieces) =
        quote :: (name.bytes ++ quote :: colon :: render pieces) := by simp [Piece.bytes]
    rw [spelled, lookup]
    by_cases same : key.bytes = name.bytes
    · rw [← same, findAfter_found key]
      simp
    · rw [findAfter_other key name same, ih]
      simp [same]
  | @value content next bytes pieces escaped notColon punctuation _ ih =>
    have spelled : render (.value content :: .bare (next :: bytes) :: pieces) =
        quote :: (content ++ quote :: next :: (bytes ++ render pieces)) := by simp [Piece.bytes]
    rw [spelled, findAfter_value key escaped notColon punctuation]
    simpa [Piece.bytes, lookup] using ih
  | bare noQuote _ ih => rw [render_cons, Piece.bytes, findAfter_bare key noQuote, ih, lookup]

end KeySearch

end Kiosk.Library
