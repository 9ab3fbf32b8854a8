import Kiosk.Protocol.StateProjection
import Kiosk.Protocol.TopLevelLookup

/-! The version a snapshot is parsed with, against the literal that stands in its state
object. The reader takes a digit prefix, saturates, and has a default. -/
namespace Kiosk.Protocol

open Library Library.KeySearch Library.JsonGrammar

/-- Blank, comma, closing brace or bracket, or the end. -/
def Delimits (rest : Bytes) : Prop :=
  ∀ byte ∈ rest.head?, isSpace byte = true ∨ byte = 44 ∨ byte = 125 ∨ byte = 93

/-- The value of `version` in the state object is the unsigned integer literal `n`. -/
def VersionLiteral (json : Bytes) (n : Nat) : Prop :=
  ∃ value digits rest,
      findValueStart (jsonExtractObject json (text "state")) (text "version") = some value ∧
    skipWs value = digits ++ rest ∧ IntegerPart digits ∧ Delimits rest ∧ digitsValue digits = n

/-- A state object with a name and a version. -/
def StateReadable (json : Bytes) : Prop :=
  jsonExtractObject json (text "state") ≠ [] ∧
    jsonHasKey (jsonExtractObject json (text "state")) (text "name") = true ∧
    jsonHasKey (jsonExtractObject json (text "state")) (text "version") = true

theorem Delimits.ends (delimits : Delimits rest) : Ends rest := by
  intro byte first
  have delimiter := delimits byte first
  grind [isSpace, isDigit]

/-- The reader takes a literal for its value, up to the largest signed one. -/
theorem jsonExtractInt_literal {json key value digits rest : Bytes}
    (start : findValueStart json key = some value)
    (split : skipWs value = digits ++ rest) (integer : IntegerPart digits)
    (delimits : Delimits rest) (default : Int) :
    jsonExtractInt json key default = min int64Max (digitsValue digits) := by
  have read : jsonExtractInt json key default = integerOf (digits ++ rest) default := by
    have answers := congrArg (fun answers => answers.int default) (extracted_eq json key)
    rw [start] at answers
    exact answers.trans (by rw [← split]; rfl)
  obtain ⟨⟨nonempty, decimal⟩, _⟩ := integer
  obtain ⟨first, more, rfl⟩ := List.exists_cons_of_ne_nil nonempty
  have notMinus : first ≠ 45 := by
    rintro rfl
    exact absurd (decimal 45 (by simp)) (by decide)
  have taken : (first :: more).takeWhile isDigit = first :: more :=
    List.takeWhile_eq_self_iff.mpr decimal
  rw [read, List.cons_append, integerOf_ends delimits.ends, integerOf_unsigned notMinus,
    integerAt, taken, if_neg (by simp), strtoll, if_neg Bool.false_ne_true]

theorem parse_some (json : Bytes) (snap : StateSnapshot)
    (parsed : parseStateSnapshotJson json = some snap) :
    StateReadable json ∧
      snap.stateVersion =
        UInt64.ofInt (jsonExtractInt (jsonExtractObject json (text "state"))
        (text "version") 0) := by
  unfold parseStateSnapshotJson at parsed
  simp only at parsed
  split at parsed
  · cases parsed
  rename_i found
  split at parsed
  · cases parsed
  rename_i keys
  cases parsed
  exact ⟨⟨found, by simpa using keys⟩, rfl⟩

theorem parse_readable (json : Bytes) (readable : StateReadable json) :
    ∃ snap, parseStateSnapshotJson json = some snap := by
  obtain ⟨found, name, version⟩ := readable
  unfold parseStateSnapshotJson
  simp only
  rw [if_neg found, if_neg (by simp [name, version])]
  exact ⟨_, rfl⟩

/-- Every snapshot the parser returns carries the literal of its state object exactly when
there is nothing to parse or that literal is below 2^63. -/
theorem no_fabricated_version_iff (json : Bytes) :
    (∀ snap, parseStateSnapshotJson json = some snap →
      VersionLiteral json snap.stateVersion.toNat ∧ snap.stateVersion.toNat < 2 ^ 64) ↔
      ¬ StateReadable json ∨ ∃ n, VersionLiteral json n ∧ n < 2 ^ 63 := by
  have read {n : Nat} (literal : VersionLiteral json n) :
      jsonExtractInt (jsonExtractObject json (text "state")) (text "version") 0 =
        min int64Max n := by
    obtain ⟨value, digits, rest, start, split, integer, delimits, rfl⟩ := literal
    exact jsonExtractInt_literal start split integer delimits 0
  constructor
  · intro honest
    by_cases readable : StateReadable json
    · obtain ⟨snap, parsed⟩ := parse_readable json readable
      obtain ⟨literal, _⟩ := honest snap parsed
      have version := (parse_some json snap parsed).2
      rw [read literal] at version
      exact .inr ⟨_, literal, (toNat_ofInt_small _).mp (congrArg UInt64.toNat version).symm⟩
    · exact .inl readable
  · rintro (unreadable | ⟨n, literal, small⟩) snap parsed
    · exact absurd (parse_some json snap parsed).1 unreadable
    · have version := (parse_some json snap parsed).2
      rw [read literal] at version
      have same : snap.stateVersion.toNat = n := by rw [version, toNat_ofInt_small]; exact small
      rw [same]
      exact ⟨literal, by omega⟩

/-- The version -1. -/
private def negativeVersion : Bytes :=
  text "\x7b\"state\":\x7b\"name\":\"MAINTENANCE\",\"version\":-1\x7d\x7d"

/-- It is parsed as the largest version there is, above every version a server will send. -/
theorem negative_version_parsed :
    (parseStateSnapshotJson negativeVersion).map StateSnapshot.stateVersion =
        some (UInt64.ofNat (2 ^ 64 - 1)) ∧
      ∀ n, ¬ VersionLiteral negativeVersion n := by
  refine ⟨by decide +kernel, ?_⟩
  rintro n ⟨value, digits, rest, start, split, ⟨⟨nonempty, decimal⟩, _⟩, _⟩
  have found : findValueStart (jsonExtractObject negativeVersion (text "state")) (text "version") =
      some (text "-1\x7d") := by decide +kernel
  rw [found] at start
  obtain rfl : text "-1\x7d" = value := Option.some.inj start
  have minus : skipWs (text "-1\x7d") = 45 :: text "1\x7d" := by decide +kernel
  obtain ⟨first, more, rfl⟩ := List.exists_cons_of_ne_nil nonempty
  rw [minus, List.cons_append] at split
  have same : 45 = first := (List.cons.inj split).1
  rw [← same] at decimal
  exact absurd (decimal 45 (by simp)) (by decide)

end Kiosk.Protocol
