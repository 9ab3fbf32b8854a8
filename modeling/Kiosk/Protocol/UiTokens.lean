import Kiosk.Library.PieceScan
import Kiosk.Protocol.StateProjection
import Kiosk.Protocol.ProtocolCodec

/-! `resolve_ui_tokens` of `ui_bundle.cpp`: the fields of a view put into the text of a
component. -/
namespace Kiosk.Protocol

open Library Library.PieceScan

/-- `std::string::find(needle, pos)`. -/
def find (haystack needle : Bytes) (pos : Nat) : Option Nat :=
  (List.range' pos (haystack.length + 1 - pos)).find? fun start =>
    needle.isPrefixOf (haystack.drop start)

/-- What a token stands for: nothing where its field is absent or no field has its name. -/
def tokenValue (view : ViewModel) (localDigitBuffer token : Bytes) : Bytes :=
  if token = text "employee_name" then view.employeeName.getD []
  else if token = text "operation_code" then view.operationCode.getD []
  else if token = text "operation_name" then view.operationName.getD []
  else if token = text "session_id" then view.sessionId.getD []
  else if token = text "started_at" then view.startedAt.getD []
  else if token = text "target_qty"
    then (view.targetQty.map fun qty => signedDecimal qty.toInt).getD []
  else if token = text "produced_qty"
    then (view.producedQty.map fun qty => signedDecimal qty.toInt).getD []
  else if token = text "local_digit_buffer" then localDigitBuffer
  else []

/-- Two opening braces. -/
def opener : Bytes := [123, 123]

/-- Two closing braces. -/
def closer : Bytes := [125, 125]

/-- The loop at position `i` with `out` written; `none` is a loop that needs more rounds. -/
def resolveFrom (template : Bytes) (view : ViewModel) (localDigitBuffer : Bytes) :
    Nat → Nat → Bytes → Option Bytes
  | 0, _, _ => none
  | rounds + 1, i, out =>
    match template[i]? with
    | none => some out
    | some byte =>
      if byte = 123 ∧ i + 1 < template.length ∧ template[i + 1]? = some 123 then
        match find template closer (i + 2) with
        | none => some (out ++ template.drop i)
        | some stop =>
          resolveFrom template view localDigitBuffer rounds (stop + 2)
            (out ++ tokenValue view localDigitBuffer
              ((template.drop (i + 2)).take (stop - (i + 2))))
      else resolveFrom template view localDigitBuffer rounds (i + 1) (out ++ [byte])

/-- A template of `n` bytes takes at most `n` rounds and the check that ends the loop. -/
def resolveUiTokens (template : Bytes) (view : ViewModel) (localDigitBuffer : Bytes := []) :
    Option Bytes :=
  resolveFrom template view localDigitBuffer (template.length + 1) 0 []

/-- What a template is made of. -/
inductive UiPiece where
  | literal (byte : UInt8)
  | field (name : Bytes)
  | tail (unterminated : Bytes)
  deriving DecidableEq, Repr

namespace UiPiece

def render (view : ViewModel) (localDigitBuffer : Bytes) : UiPiece → Bytes
  | .literal byte => [byte]
  | .field name => tokenValue view localDigitBuffer name
  | .tail unterminated => unterminated

/-- The reading of a template: a field runs from an opener to the first closer after it,
an opener without one makes the rest verbatim text, every other byte is literal. -/
inductive Takes : Bytes → UiPiece → Bytes → Prop where
  | literal (plain : ¬ opener <+: byte :: left) : Takes (byte :: left) (.literal byte) left
  | field (first : ¬ closer <:+: name ++ [125]) :
      Takes (opener ++ (name ++ (closer ++ left))) (.field name) left
  | tail (unclosed : ¬ closer <:+: body) : Takes (opener ++ body) (.tail (opener ++ body)) []

/-- Where a closer follows a text, one that starts inside the text shows in it and the byte
after it. -/
theorem closer_early (starts : closer <+: more ++ (closer ++ left)) (inside : more ≠ []) :
    closer <+: more ++ [125] := by
  have next : more ++ [125] <+: more ++ (closer ++ left) :=
    (List.prefix_append_right_inj more).mpr ⟨125 :: left, rfl⟩
  have := List.length_pos_iff.mpr inside
  exact List.prefix_of_prefix_length_le starts next (by simp [closer]; omega)

/-- Text with a closer in it is split at the first one. -/
theorem exists_first_closer (closed : closer <:+: body) :
    ∃ name left, body = name ++ (closer ++ left) ∧ ¬ closer <:+: name ++ [125] := by
  induction body with
  | nil => exact absurd (List.infix_nil.mp closed) (by decide)
  | cons byte rest ih =>
    by_cases here : closer <+: byte :: rest
    · obtain ⟨left, spelled⟩ := here
      exact ⟨[], left, by simp [spelled], by decide⟩
    · obtain ⟨name, left, rfl, first⟩ := ih ((List.infix_cons_iff.mp closed).resolve_left here)
      refine ⟨byte :: name, left, rfl, fun early => ?_⟩
      rcases List.infix_cons_iff.mp early with starts | inside
      · exact here (starts.trans
          ((List.prefix_append_right_inj (byte :: name)).mpr ⟨125 :: left, rfl⟩))
      · exact first inside

/-- The first closer is where one split says it is and where the other says so. -/
theorem first_closer_unique (split : name ++ (closer ++ left) = name' ++ (closer ++ left'))
    (first : ¬ closer <:+: name ++ [125]) (first' : ¬ closer <:+: name' ++ [125]) :
    name = name' ∧ left = left' := by
  have equal : name = name' := by
    rcases List.append_eq_append_iff.mp split with ⟨more, rfl, after⟩ | ⟨more, rfl, after⟩
    · by_cases none : more = []
      · simp [none]
      · refine absurd ((closer_early ⟨left, after⟩ none).isInfix.trans ?_) first'
        rw [List.append_assoc]
        exact (List.suffix_append name _).isInfix
    · by_cases none : more = []
      · simp [none]
      · refine absurd ((closer_early ⟨left', after⟩ none).isInfix.trans ?_) first
        rw [List.append_assoc]
        exact (List.suffix_append name' _).isInfix
  subst equal
  exact ⟨rfl, by simpa using split⟩

/-- The three readings exclude each other. -/
theorem lawful : Lawful Takes where
  functional input piece left other left' one two := by
    cases one with
    | literal plain =>
      generalize whole : _ :: left = input at two
      cases two with
      | literal => exact ⟨by rw [(List.cons.inj whole).1], (List.cons.inj whole).2⟩
      | field => exact absurd (whole ▸ List.prefix_append opener _) plain
      | tail => exact absurd (whole ▸ List.prefix_append opener _) plain
    | field first =>
      generalize whole : opener ++ _ = input at two
      cases two with
      | literal plain => exact absurd (whole ▸ List.prefix_append opener _) plain
      | field first' =>
        obtain ⟨rfl, rfl⟩ := first_closer_unique (List.append_cancel_left whole) first first'
        exact ⟨rfl, rfl⟩
      | tail unclosed =>
        rw [← List.append_cancel_left whole] at unclosed
        exact absurd ((List.prefix_append closer _).isInfix.trans (List.suffix_append _ _).isInfix)
          unclosed
    | tail unclosed =>
      generalize whole : opener ++ _ = input at two
      cases two with
      | literal plain => exact absurd (whole ▸ List.prefix_append opener _) plain
      | field =>
        rw [List.append_cancel_left whole] at unclosed
        exact absurd ((List.prefix_append closer _).isInfix.trans (List.suffix_append _ _).isInfix)
          unclosed
      | tail => exact ⟨rfl, rfl⟩
  consumes input piece left taken := by
    cases taken with
    | @literal byte => exact ⟨[byte], by simp, rfl⟩
    | @field name => exact ⟨opener ++ (name ++ closer), by simp [opener], by simp⟩
    | @tail body => exact ⟨opener ++ body, by simp [opener], by simp⟩

/-- What comes after a piece has no say in how it is read. -/
theorem isLocal : Local Takes := by
  intro input piece left more taken
  generalize whole : input ++ more = text at taken
  generalize rest : left ++ more = after at taken
  cases taken with
  | literal plain =>
    subst rest
    obtain rfl : input = _ :: left :=
      List.append_cancel_right (whole.trans (List.cons_append ..).symm)
    exact .literal fun opens => plain (opens.trans (List.prefix_append _ more))
  | @field name _ first =>
    subst rest
    obtain rfl : input = opener ++ (name ++ (closer ++ left)) :=
      List.append_cancel_right (whole.trans (by simp))
    exact .field first
  | tail unclosed =>
    obtain ⟨rfl, rfl⟩ := List.append_eq_nil_iff.mp rest
    rw [List.append_nil] at whole
    exact whole ▸ .tail unclosed

theorem exists_scan (template : Bytes) : ∃ pieces, Scan Takes template pieces [] := by
  refine lawful.exists_scan (fun _ => True) (fun input _ nonempty => ?_) trivial
  by_cases opens : opener <+: input
  · obtain ⟨body, rfl⟩ := opens
    by_cases closed : closer <:+: body
    · obtain ⟨name, left, rfl, first⟩ := exists_first_closer closed
      exact ⟨_, _, .field first, trivial⟩
    · exact ⟨_, _, .tail closed, trivial⟩
  · cases input with
    | nil => exact absurd rfl nonempty
    | cons byte left => exact ⟨_, _, .literal opens, trivial⟩

end UiPiece

theorem find_eq_some (start : pos ≤ at_) (found : needle <+: haystack.drop at_)
    (inside : at_ ≤ haystack.length)
    (first : ∀ earlier, pos ≤ earlier → earlier < at_ → ¬ needle <+: haystack.drop earlier) :
    find haystack needle pos = some at_ := by
  rw [find, List.find?_range'_eq_some]
  refine ⟨List.isPrefixOf_iff_prefix.mpr found, ?_, fun earlier after before => ?_⟩
  · rw [List.mem_range'_1]
    omega
  · rw [Bool.not_eq_true', Bool.eq_false_iff, ne_eq, List.isPrefixOf_iff_prefix]
    exact first earlier after before

theorem find_eq_none (absent : ¬ needle <:+: haystack.drop pos) :
    find haystack needle pos = none := by
  rw [find, List.find?_eq_none]
  intro start inside matched
  obtain ⟨more, rfl⟩ := Nat.exists_eq_add_of_le (List.mem_range'_1.mp inside).1
  rw [← List.drop_drop] at matched
  exact absent ((List.isPrefixOf_iff_prefix.mp matched).isInfix.trans
    (List.drop_suffix more _).isInfix)

variable {template : Bytes}

/-- The closer that ends a name is the first one that `find` comes to. -/
private theorem find_closer (here : template.drop pos = name ++ (closer ++ left))
    (first : ¬ closer <:+: name ++ [125]) :
    find template closer pos = some (pos + name.length) := by
  have drops (count : Nat) :
      template.drop (pos + count) = (name ++ (closer ++ left)).drop count := by
    rw [← List.drop_drop, here]
  have long : 0 < (template.drop pos).length := by simp [here, closer]
  refine find_eq_some (Nat.le_add_right ..) ?_ ?_ fun earlier after before early => ?_
  · rw [drops, List.drop_left]
    exact List.prefix_append closer left
  · have size := congrArg List.length here
    simp only [List.length_drop, List.length_append] at size long
    omega
  · obtain ⟨count, rfl⟩ := Nat.exists_eq_add_of_le after
    have inside : count < name.length := by omega
    rw [drops, List.drop_append_of_le_length inside.le] at early
    refine first ((UiPiece.closer_early early ?_).isInfix.trans ?_)
    · simpa using inside
    · rw [← List.drop_append_of_le_length inside.le]
      exact (List.drop_suffix count _).isInfix

private theorem byte_at (here : template.drop i = byte :: left) : template[i]? = some byte := by
  rw [← Nat.add_zero i, ← List.getElem?_drop, here]
  rfl

private theorem opens_iff (here : template.drop i = byte :: left) :
    (byte = 123 ∧ i + 1 < template.length ∧ template[i + 1]? = some 123) ↔
      opener <+: byte :: left := by
  have next : template[i + 1]? = left[0]? := by
    rw [← List.getElem?_drop, here]
    rfl
  rw [next]
  cases left with
  | nil => simp [opener]
  | cons second rest =>
    have size := congrArg List.length here
    simp only [List.length_drop, List.length_cons] at size
    simp only [opener, List.cons_prefix_cons, List.nil_prefix, List.getElem?_cons_zero,
      Option.some.injEq]
    constructor
    · rintro ⟨rfl, _, rfl⟩
      exact ⟨rfl, rfl, trivial⟩
    · rintro ⟨rfl, rfl, _⟩
      exact ⟨rfl, by omega, rfl⟩

variable (view : ViewModel) (localDigitBuffer : Bytes)

/-- The loop reads the template as it is meant to be read, one round for each piece. -/
private theorem resolveFrom_scan (scan : Scan UiPiece.Takes rest pieces [])
    (here : template.drop i = rest) (enough : pieces.length < rounds) (out : Bytes) :
    resolveFrom template view localDigitBuffer rounds i out =
      some (out ++ pieces.flatMap (UiPiece.render view localDigitBuffer)) := by
  generalize empty : ([] : Bytes) = last at scan
  induction scan generalizing i rounds out with
  | here input =>
    subst empty
    obtain ⟨rounds, rfl⟩ := Nat.exists_eq_add_of_lt enough
    have ended : template[i]? = none := by
      rw [List.getElem?_eq_none_iff]
      exact List.drop_eq_nil_iff.mp here
    simp [resolveFrom, ended]
  | @step _ _ left _ _ first further ih =>
    obtain ⟨rounds, rfl⟩ := Nat.exists_eq_succ_of_ne_zero (by omega : rounds ≠ 0)
    have fewer : _ < rounds := Nat.lt_of_succ_lt_succ enough
    cases first with
    | literal plain =>
      have after : template.drop (i + 1) = left := by
        rw [← List.drop_drop, here, List.drop_one, List.tail_cons]
      rw [resolveFrom, byte_at here]
      dsimp only
      rw [if_neg (mt (opens_iff here).mp plain), ih after fewer _ empty]
      simp [UiPiece.render]
    | @field name _ first =>
      replace here : template.drop i = 123 :: 123 :: (name ++ (closer ++ left)) := here
      have opens : opener <+: 123 :: 123 :: (name ++ (closer ++ left)) :=
        List.prefix_append opener _
      have inner : template.drop (i + 2) = name ++ (closer ++ left) := by
        rw [← List.drop_drop, here]
        rfl
      have after : template.drop (i + 2 + name.length + 2) = left := by
        rw [← List.drop_drop, ← List.drop_drop, inner, List.drop_left]
        rfl
      rw [resolveFrom, byte_at here]
      dsimp only
      rw [if_pos ((opens_iff here).mpr opens), find_closer inner first]
      dsimp only
      rw [ih after fewer _ empty, inner, Nat.add_sub_cancel_left, List.take_left]
      simp [UiPiece.render]
    | @tail body unclosed =>
      replace here : template.drop i = 123 :: 123 :: body := here
      have opens : opener <+: 123 :: 123 :: body := List.prefix_append opener _
      have inner : template.drop (i + 2) = body := by rw [← List.drop_drop, here]; rfl
      rw [resolveFrom, byte_at here]
      dsimp only
      rw [if_pos ((opens_iff here).mpr opens), find_eq_none (inner ▸ unclosed)]
      cases further with
      | here => simp [UiPiece.render, here, opener]
      | step again => exact absurd again (UiPiece.lawful.stuck _ _)

/-- What the pieces of a template render to. -/
theorem resolveUiTokens_scan (scan : Scan UiPiece.Takes template pieces []) :
    resolveUiTokens template view localDigitBuffer =
      some (pieces.flatMap (UiPiece.render view localDigitBuffer)) := by
  have fewer := UiPiece.lawful.length_le scan
  rw [resolveUiTokens,
    resolveFrom_scan view localDigitBuffer scan List.drop_zero
    (by simpa using Nat.lt_succ_of_le fewer)]
  simp

/-- The call ends for every template. Its result is that of the one reading the template
has, with the value of each field put in its place: what the values hold has no say in how
the template is read. A template that is read across a boundary is resolved in two parts. -/
theorem resolveUiTokens_reads (template : Bytes) :
    (∃ pieces, Scan UiPiece.Takes template pieces [] ∧
      (∀ other, Scan UiPiece.Takes template other [] → other = pieces) ∧
      ∀ view localDigitBuffer, resolveUiTokens template view localDigitBuffer =
        some (pieces.flatMap (UiPiece.render view localDigitBuffer))) ∧
    ∀ front rest pieces, template = front ++ rest → Scan UiPiece.Takes template pieces rest →
      ∀ view localDigitBuffer, ∃ first second,
        resolveUiTokens front view localDigitBuffer = some first ∧
        resolveUiTokens rest view localDigitBuffer = some second ∧
        resolveUiTokens template view localDigitBuffer = some (first ++ second) := by
  constructor
  · obtain ⟨pieces, scan⟩ := UiPiece.exists_scan template
    exact ⟨pieces, scan, fun other again => UiPiece.lawful.unique again scan,
      fun view localDigitBuffer => resolveUiTokens_scan view localDigitBuffer scan⟩
  · rintro front rest pieces rfl scan view localDigitBuffer
    obtain ⟨more, further⟩ := UiPiece.exists_scan rest
    have before := UiPiece.lawful.before_boundary UiPiece.isLocal scan
    refine ⟨_, _, resolveUiTokens_scan view localDigitBuffer before,
      resolveUiTokens_scan view localDigitBuffer further, ?_⟩
    rw [resolveUiTokens_scan view localDigitBuffer (scan.append further), List.flatMap_append]

/-- The text of one field. -/
private def fieldToken (name : String) : Bytes := opener ++ (text name ++ closer)

/-- Two fields next to each other, the first with a value that spells the second. -/
private def spelledView : ViewModel where
  employeeName := some (fieldToken "session_id")
  sessionId := some (text "S1")

theorem resolveUiTokens_reads_two_fields :
    ∃ first second,
      resolveUiTokens (fieldToken "employee_name") spelledView = some first ∧
      resolveUiTokens (fieldToken "session_id") spelledView = some second ∧
      resolveUiTokens (fieldToken "employee_name" ++ fieldToken "session_id") spelledView =
        some (first ++ second) := by
  have taken : UiPiece.Takes (fieldToken "employee_name" ++ fieldToken "session_id")
    (.field (text "employee_name"))
      (fieldToken "session_id") := by
    simpa [fieldToken] using @UiPiece.Takes.field (text "employee_name") (fieldToken "session_id")
      (by decide)
  exact (resolveUiTokens_reads _).2 _ _ _ rfl (.step taken (.here _)) spelledView []

example : resolveUiTokens (fieldToken "employee_name" ++ fieldToken "session_id") spelledView =
    some (fieldToken "session_id" ++ text "S1") := by decide +kernel

end Kiosk.Protocol
