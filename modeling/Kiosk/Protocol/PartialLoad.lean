import Kiosk.Protocol.TopLevelLookup
import Kiosk.Protocol.UiBundle

/-! What a rejected or truncated UI bundle leaves behind. -/
namespace Kiosk.Protocol

open Library Library.KeySearch Library.JsonGrammar

/-! The output parameter. -/

def manifestOf (manifestJson : Bytes) : UiBundleManifest where
  version := UInt32.ofInt (jsonExtractInt manifestJson (text "version") 0)
  schemaVersion := UInt32.ofInt (jsonExtractInt manifestJson (text "schema_version") 0)
  sha256 := jsonExtractString manifestJson (text "sha256") []
  minRuntimeVersion := jsonExtractString manifestJson (text "min_runtime_version") []

/-- `parse_ui_bundle_json` with its output parameter: it is cleared first, the manifest
is filled before the screens are looked at. -/
def parseUiBundleInto (json : Bytes) (_out : UiBundle) : UiBundle × Bool :=
  let out : UiBundle := {}
  let manifestJson := jsonExtractObject json (text "manifest")
  if manifestJson = [] then (out, false)
  else if !jsonHasKey manifestJson (text "version") ||
    !jsonHasKey manifestJson (text "schema_version") then (out, false)
  else
    let out := { out with manifest := manifestOf manifestJson }
    let screenJsons := jsonExtractObjectArray json (text "screens")
    if screenJsons = [] then (out, false)
    else
      let out := { out with screens := screenJsons.filterMap parseScreen }
      if out.screens = [] then (out, false) else (out, true)

/-- The bundle it returns. -/
theorem parseUiBundleInto_returned (json : Bytes) (out : UiBundle) :
    parseUiBundleJson json =
      if (parseUiBundleInto json out).2 then some (parseUiBundleInto json out).1 else none := by
  unfold parseUiBundleJson parseUiBundleInto
  simp only
  split
  · rfl
  split
  · rfl
  split
  · rfl
  split <;> rfl

/-- A manifest with its two required fields. -/
def ManifestReadable (json : Bytes) : Prop :=
  jsonExtractObject json (text "manifest") ≠ [] ∧
    jsonHasKey (jsonExtractObject json (text "manifest")) (text "version") = true ∧
    jsonHasKey (jsonExtractObject json (text "manifest")) (text "schema_version") = true

/-- Every field of the manifest reads as its default. -/
def ManifestBlank (json : Bytes) : Prop :=
  manifestOf (jsonExtractObject json (text "manifest")) = {}

/-- An element of the screens array has an id. -/
def ScreenReadable (json : Bytes) : Prop :=
  ∃ element ∈ jsonExtractObjectArray json (text "screens"),
    jsonExtractString element (text "id") [] ≠ []

theorem parseScreen_some (element : Bytes) :
    (∃ screen, parseScreen element = some screen) ↔
      jsonExtractString element (text "id") [] ≠ [] := by
  unfold parseScreen
  simp only
  split
  · rename_i missing
    simp [missing]
  · rename_i present
    simp [present]

theorem screens_readable (json : Bytes) :
    (jsonExtractObjectArray json (text "screens")).filterMap parseScreen ≠ [] ↔
      ScreenReadable json := by
  rw [Ne, List.filterMap_eq_nil_iff]
  simp only [not_forall, ScreenReadable, exists_prop]
  refine exists_congr fun element => and_congr_right fun _ => ?_
  rw [← parseScreen_some, ← Ne, Option.ne_none_iff_exists']

private theorem readable_iff (json : Bytes) : ManifestReadable json ↔
    jsonExtractObject json (text "manifest") ≠ [] ∧
      ¬ (!jsonHasKey (jsonExtractObject json (text "manifest")) (text "version") ||
        !jsonHasKey (jsonExtractObject json (text "manifest")) (text "schema_version")) = true := by
  simp [ManifestReadable]

/-- The three ways a parse ends. -/
theorem parseUiBundleInto_cases (json : Bytes) (out : UiBundle) :
    (¬ ManifestReadable json ∧ parseUiBundleInto json out = ({}, false)) ∨
      (ManifestReadable json ∧ ¬ ScreenReadable json ∧
        parseUiBundleInto json out =
          ({ manifest := manifestOf (jsonExtractObject json (text "manifest")) }, false)) ∨
      (ManifestReadable json ∧ ScreenReadable json ∧ (parseUiBundleInto json out).2 = true) := by
  rw [readable_iff]
  unfold parseUiBundleInto
  simp only
  by_cases missing : jsonExtractObject json (text "manifest") = []
  · simp [missing]
  by_cases lacking : (!jsonHasKey (jsonExtractObject json (text "manifest")) (text "version") ||
      !jsonHasKey (jsonExtractObject json (text "manifest")) (text "schema_version")) = true
  · exact .inl ⟨fun readable => readable.2 lacking, by rw [if_neg missing, if_pos lacking]⟩
  simp only [if_neg missing, if_neg lacking]
  by_cases empty : jsonExtractObjectArray json (text "screens") = []
  · have none : ¬ ScreenReadable json := by simp [ScreenReadable, empty]
    exact .inr (.inl ⟨⟨missing, lacking⟩, none, by rw [if_pos empty]⟩)
  rw [if_neg empty]
  by_cases usable : ScreenReadable json
  · refine .inr (.inr ⟨⟨missing, lacking⟩, usable, ?_⟩)
    rw [if_neg ((screens_readable json).mpr usable)]
  · have none := not_not.mp (mt (screens_readable json).mp usable)
    exact .inr (.inl ⟨⟨missing, lacking⟩, usable, by rw [if_pos none, none]⟩)

/-- A parse that returns false leaves the default bundle exactly when it got no further
than the manifest, or the manifest it had filled in reads as the default one; it always
does where it returns true. -/
theorem failed_parse_default_iff (json : Bytes) (out : UiBundle) :
    ((parseUiBundleInto json out).2 = false → (parseUiBundleInto json out).1 = {}) ↔
      ¬ ManifestReadable json ∨ ManifestBlank json ∨ ScreenReadable json := by
  rcases parseUiBundleInto_cases json
    out with ⟨unread, result⟩ | ⟨readable, unusable, result⟩ | ⟨readable, usable, returned⟩
  · simp [result, unread]
  · simp [result, readable, unusable, ManifestBlank]
  · simp [returned, usable]

/-- A manifest and no screens. -/
theorem failed_parse_keeps_manifest :
    (parseUiBundleInto
        (text "\x7b\"manifest\":\x7b\"version\":7,\"schema_version\":1\x7d,\"screens\":[]\x7d")
          {}).2 = false ∧
      (parseUiBundleInto
        (text "\x7b\"manifest\":\x7b\"version\":7,\"schema_version\":1\x7d,\"screens\":[]\x7d")
          {}).1 ≠ {} := by
  decide +kernel

theorem parseUiBundleJson_none_iff (json : Bytes) :
    parseUiBundleJson json = none ↔ ¬ (ManifestReadable json ∧ ScreenReadable json) := by
  rw [parseUiBundleInto_returned json {}]
  rcases parseUiBundleInto_cases json
    {} with ⟨unread, result⟩ | ⟨readable, unusable, result⟩ | ⟨readable, usable, returned⟩
  · simp [result, unread]
  · simp [result, unusable]
  · simp [returned, readable, usable]

/-! Arrays cut short. -/

/-- The text after the bracket of the array the extractor finds. -/
def ArrayText (json key array : Bytes) : Prop :=
  ∃ value, findValueStart json key = some value ∧ skipWs value = 91 :: array

/-- The closing bracket of an array is there, strings and what is nested passed over. -/
def closesFrom (inString escaped : Bool) (depth : Nat) : Bytes → Bool
  | [] => false
  | byte :: rest =>
    if inString then
      if escaped then closesFrom true false depth rest
      else if byte = backslash then closesFrom true true depth rest
      else closesFrom (byte ≠ quote) false depth rest
    else if byte = quote then closesFrom true false depth rest
    else if byte = 91 || byte = 123 then closesFrom false false (depth + 1) rest
    else if byte = 93 || byte = 125 then
      if depth = 0 then byte = 93 else closesFrom false false (depth - 1) rest
    else closesFrom false false depth rest

def Closed (array : Bytes) : Prop := closesFrom false false 0 array = true

/-- The first element is no object, or its braces do not balance before the text ends. -/
def FirstUnfinished (array : Bytes) : Prop :=
  ∀ rest, skipWs array = 123 :: rest → balancedFrom 1 rest = none

/-- Past the blanks and the comma after an element. -/
def afterElement (rest : Bytes) : Bytes :=
  if (skipWs rest).head? = some 44 then (skipWs rest).tail else skipWs rest

/-- An object of the array, as far as its braces tell, with only such objects before it. -/
inductive Finished : Bytes → Bytes → Prop where
  | here (opens : skipWs array = 123 :: rest) (balanced : balancedFrom 1 rest = some object) :
      Finished array (123 :: object)
  | later (opens : skipWs array = 123 :: rest) (balanced : balancedFrom 1 rest = some object)
      (more : Finished (afterElement (rest.drop object.length)) element) : Finished array element

private theorem skipWs_length (input : Bytes) : (skipWs input).length ≤ input.length :=
  (List.dropWhile_sublist _).length_le

private theorem afterElement_length (rest : Bytes) : (afterElement rest).length ≤ rest.length := by
  have short := skipWs_length rest
  unfold afterElement
  split
  · rw [List.length_tail]
    omega
  · exact short

private theorem mem_objectsFrom (fuel : Nat) (array element : Bytes)
    (enough : array.length < fuel) :
    element ∈ objectsFrom fuel array ↔ Finished array element := by
  induction fuel generalizing array with
  | zero => omega
  | succ fuel ih =>
    have short := skipWs_length array
    rw [objectsFrom]
    split
    · rename_i rest opens
      rw [opens, List.length_cons] at short
      cases balanced : balancedFrom 1 rest with
      | none =>
        simp only [List.not_mem_nil, false_iff]
        intro finished
        cases finished with
        | here opens' balanced' =>
          rw [opens] at opens'
          cases opens'
          rw [balanced] at balanced'
          cases balanced'
        | later opens' balanced' _ =>
          rw [opens] at opens'
          cases opens'
          rw [balanced] at balanced'
          cases balanced'
      | some object =>
        have less := afterElement_length (rest.drop object.length)
        have dropped : (rest.drop object.length).length ≤ rest.length :=
          (List.drop_sublist _ _).length_le
        have next := ih (afterElement (rest.drop object.length)) (by omega)
        rw [afterElement] at next
        simp only [List.mem_cons, next]
        constructor
        · rintro (rfl | more)
          · exact .here opens balanced
          · exact .later opens balanced more
        · intro finished
          cases finished with
          | here opens' balanced' =>
            rw [opens] at opens'
            cases opens'
            rw [balanced] at balanced'
            cases balanced'
            exact .inl rfl
          | later opens' balanced' more =>
            rw [opens] at opens'
            cases opens'
            rw [balanced] at balanced'
            cases balanced'
            exact .inr more
    · rename_i different
      simp only [List.not_mem_nil, false_iff]
      intro finished
      cases finished with
      | here opens _ => exact different _ opens
      | later opens _ _ => exact different _ opens

/-- The extractor returns the objects it finds finished, closed array or not. -/
theorem mem_objectArray_iff (json key element : Bytes) :
    element ∈ jsonExtractObjectArray json key ↔
      ∃ array, ArrayText json key array ∧ Finished array element := by
  unfold jsonExtractObjectArray
  cases found : findValueStart json key with
  | none => simp [ArrayText, found]
  | some value =>
    simp only
    split
    · rename_i rest opens
      rw [mem_objectsFrom _ _ _ (Nat.lt_succ_self _)]
      constructor
      · exact fun finished => ⟨rest, ⟨value, found, opens⟩, finished⟩
      · rintro ⟨array, ⟨value', found', opens'⟩, finished⟩
        rw [found] at found'
        cases found'
        rw [opens] at opens'
        cases opens'
        exact finished
    · rename_i different
      simp only [List.not_mem_nil, false_iff]
      rintro ⟨array, ⟨value', found', opens'⟩, _⟩
      rw [found] at found'
      cases found'
      exact different _ opens'

theorem firstUnfinished_iff (array : Bytes) :
    FirstUnfinished array ↔ ∀ element, ¬ Finished array element := by
  constructor
  · intro unfinished element finished
    cases finished with
    | here opens balanced => rw [unfinished _ opens] at balanced; cases balanced
    | later opens balanced _ => rw [unfinished _ opens] at balanced; cases balanced
  · intro none rest opens
    cases balanced : balancedFrom 1 rest with
    | none => rfl
    | some object => exact absurd (.here opens balanced) (none (123 :: object))

theorem objectArray_nil_iff (found : ArrayText json key array) :
    jsonExtractObjectArray json key = [] ↔ FirstUnfinished array := by
  rw [firstUnfinished_iff, List.eq_nil_iff_forall_not_mem]
  refine forall_congr' fun element => not_congr ?_
  rw [mem_objectArray_iff]
  constructor
  · rintro ⟨other, ⟨value, start, opens⟩, finished⟩
    obtain ⟨value', start', opens'⟩ := found
    rw [start] at start'
    cases start'
    rw [opens] at opens'
    cases opens'
    exact finished
  · exact fun finished => ⟨array, found, finished⟩

/-! Documents cut short. -/

/-- A UI bundle document: the manifest, an object, then the screens, an array of objects. -/
structure BundleDocument where
  object : ObjectText
  manifest : Member
  screens : Member
  others : List Member
  gap : Bytes
  elements : List Element
  members : object.members = manifest :: screens :: others
  manifestNamed : decodeString manifest.key = text "manifest"
  manifestObject : ∃ rest, manifest.value = 123 :: rest
  screensNamed : decodeString screens.key = text "screens"
  screensArray : screens.value = enclosed 91 93 gap (elements.map Element.text)
  screenObjects : ∀ e ∈ elements, ∃ rest, e.value = 123 :: rest

namespace BundleDocument

/-- The text before the bracket of the screens. -/
def front (doc : BundleDocument) : Bytes :=
  123 :: (doc.manifest.text ++ 44 :: (doc.screens.before ++
    quote :: (doc.screens.key ++
      quote :: (doc.screens.afterKey ++ colon :: doc.screens.beforeValue))))

/-- The text between the brackets of the screens. -/
def inside (doc : BundleDocument) : Bytes := doc.screens.value.tail.dropLast

/-- The document cut `k` bytes into its screens. -/
def cutAt (doc : BundleDocument) (k : Nat) : Bytes := doc.front ++ 91 :: doc.inside.take k

private theorem enclosed_inside (gap : Bytes) (items : List Bytes) :
    ∃ between, enclosed 91 93 gap items = 91 :: (between ++ [93]) := by
  have closed (items : List Bytes) : ∃ between, closing 93 items = between ++ [93] := by
    induction items with
    | nil => exact ⟨[], rfl⟩
    | cons item rest ih =>
      obtain ⟨between, same⟩ := ih
      exact ⟨44 :: (item ++ between), by simp [closing, same]⟩
  cases items with
  | nil => exact ⟨gap, rfl⟩
  | cons item rest =>
    obtain ⟨between, same⟩ := closed rest
    exact ⟨item ++ between, by simp [enclosed, same]⟩

/-- Before the cut the text is the document's, which goes on at least with the closing bracket. -/
theorem cutAt_prefix (doc : BundleDocument) (k : Nat) :
    ∃ rest, doc.object.text = doc.cutAt k ++ (doc.inside.drop k ++ 93 :: rest) := by
  obtain ⟨between, same⟩ := enclosed_inside doc.gap (doc.elements.map Element.text)
  have bracket : doc.screens.value = 91 :: (doc.inside ++ [93]) := by
    rw [inside, doc.screensArray, same]
    simp
  refine ⟨doc.screens.after ++ closing 125 (doc.others.map Member.text), ?_⟩
  have taken : doc.inside.take k ++ doc.inside.drop k = doc.inside :=
    List.take_append_drop k doc.inside
  rw [ObjectText.text, doc.members, cutAt, front]
  simp only [List.map_cons, enclosed, closing, Member.text, bracket, List.append_assoc,
    List.cons_append, List.nil_append]
  simp only [← List.append_assoc (doc.inside.take k), taken]

/-- The extractor returns nothing of an array that is not closed exactly when not even its
first element is finished; a document cut inside its screens is rejected exactly when its
manifest is not readable or no screen finished before the cut has an id. -/
theorem no_partial_load_iff (json key array : Bytes) (doc : BundleDocument) (k : Nat) :
    (ArrayText json key array →
      ((¬ Closed array → jsonExtractObjectArray json key = []) ↔
        Closed array ∨ FirstUnfinished array)) ∧
    (parseUiBundleJson (doc.cutAt k) = none ↔
      ¬ ManifestReadable (doc.cutAt k) ∨
        ∀ screens, ArrayText (doc.cutAt k) (text "screens") screens →
          ∀ screen, Finished screens screen → jsonExtractString screen (text "id") [] = []) := by
  constructor
  · intro found
    rw [objectArray_nil_iff found, ← or_iff_not_imp_left]
  · rw [parseUiBundleJson_none_iff, not_and_or]
    refine or_congr_right ?_
    simp only [ScreenReadable, mem_objectArray_iff, not_exists, not_and, not_not]
    exact ⟨fun all screens found screen finished => all screen ⟨screens, found, finished⟩,
      fun all screen ⟨screens, found, finished⟩ => all screens found screen finished⟩

end BundleDocument

/-- `"name":value`, without layout. -/
private def bareMember (name value : Bytes) : Member := ⟨[], name, [], [], value, []⟩

private theorem bareMember_formed (plain : isPlain name = true) (value : IsValue v) :
    (bareMember name v).Formed :=
  ⟨by simp [bareMember, Blank], .of_plain (plain_of_isPlain plain), by simp [bareMember, Blank],
    by simp [bareMember, Blank], value, by simp [bareMember, Blank]⟩

private theorem nothing_blank : Blank [] := by simp [Blank]

/-- `\x7b"id":"a"\x7d`. -/
private def screenText (letter : UInt8)
    (plain : 32 ≤ letter ∧ letter ≠ quote ∧ letter ≠ backslash) : ObjectText where
  members := [bareMember (text "id") [quote, letter, quote]]
  gap := []
  formed m member := by
    have name : isPlain (text "id") = true := by decide
    have content : StringContent [letter] := .of_plain (by simpa using plain)
    rw [List.mem_singleton.mp member]
    exact bareMember_formed name (.string content)
  blank := nothing_blank

private def manifestText : ObjectText where
  members := [bareMember (text "version") [49], bareMember (text "schema_version") [49]]
  gap := []
  formed m member := by
    have one : IsValue [49] := .number (.of_digits ⟨by simp, by simp [isDecimal]⟩ (by decide))
    rcases List.mem_cons.mp member with rfl | last
    · exact bareMember_formed (by decide) one
    · rw [List.mem_singleton.mp last]
      exact bareMember_formed (by decide) one
  blank := nothing_blank

private def screenElements : List Element :=
  [⟨[], (screenText 97 (by decide)).text, []⟩, ⟨[], (screenText 98 (by decide)).text, []⟩]

private theorem screens_value : IsValue (enclosed 91 93 [] (screenElements.map Element.text)) := by
  refine .array screenElements (by simp [Blank]) (fun e member => ?_) fun e member => ?_
  · rcases List.mem_cons.mp member with rfl | last
    · simp [Blank]
    · rw [List.mem_singleton.mp last]
      simp [Blank]
  · rcases List.mem_cons.mp member with rfl | last
    · exact (screenText 97 (by decide)).isValue
    · rw [List.mem_singleton.mp last]
      exact (screenText 98 (by decide)).isValue

/-- Two screens, `a` and `b`. -/
def twoScreens : BundleDocument where
  object := {
    members := [bareMember (text "manifest") manifestText.text,
      bareMember (text "screens") (enclosed 91 93 [] (screenElements.map Element.text))]
    gap := []
    formed := by
      intro m member
      rcases List.mem_cons.mp member with rfl | last
      · exact bareMember_formed (by decide) manifestText.isValue
      · rw [List.mem_singleton.mp last]
        exact bareMember_formed (by decide) screens_value
    blank := nothing_blank }
  manifest := bareMember (text "manifest") manifestText.text
  screens := bareMember (text "screens") (enclosed 91 93 [] (screenElements.map Element.text))
  others := []
  gap := []
  elements := screenElements
  members := rfl
  manifestNamed := by decide
  manifestObject := ⟨_, rfl⟩
  screensNamed := by decide
  screensArray := rfl
  screenObjects e member := by
    rcases List.mem_cons.mp member with rfl | last
    · exact ⟨_, rfl⟩
    · rw [List.mem_singleton.mp last]
      exact ⟨_, rfl⟩

/-- Cut in the middle of `b`, the document loads with `a` alone. -/
theorem cut_bundle_loads :
    twoScreens.cutAt 15 =
        text "\x7b\"manifest\":\x7b\"version\":1,\"schema_version\":1\x7d," ++
          text "\"screens\":[\x7b\"id\":\"a\"\x7d,\x7b\"id" ∧
      (parseUiBundleJson (twoScreens.cutAt 15)).map UiBundle.screens = some [⟨text "a", []⟩] := by
  decide +kernel

end Kiosk.Protocol
