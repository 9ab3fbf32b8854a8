import Kiosk.Library.KeySearch

/-! `backend_url_validation.cpp`: which configured endpoints are accepted, and the parts
of an accepted one. -/
namespace Kiosk.Protocol

open Library Library.KeySearch

abbrev slash : UInt8 := 47

inductive BackendUrlValidation where
  | ok | empty | tooLong | badScheme | missingHost
  deriving DecidableEq, Repr

def backendUrlMaxLength : Int := 160

/-- The first slash from the end of the scheme on, or else the end. -/
def hostEnd (url : Bytes) (schemeLen : Nat) : Nat :=
  match (url.drop schemeLen).findIdx? (· == slash) with
  | some position => schemeLen + position
  | none => url.length

def validateBackendUrl (url : Bytes) (allowHttp : Bool) (maxLength : Int) : BackendUrlValidation :=
  if url = [] then .empty
  else if (url.length : Int) > maxLength then .tooLong
  else
    let isHttps := (text "https://").isPrefixOf url
    let isHttp := (text "http://").isPrefixOf url
    if !isHttps && !(isHttp && allowHttp) then .badScheme
    else
      let schemeLen := if isHttps then 8 else 7
      if hostEnd url schemeLen ≤ schemeLen then .missingHost else .ok

/-- The scheme with its separator, empty where it is none of the two. -/
def urlScheme (url : Bytes) : Bytes :=
  if (text "https://").isPrefixOf url then text "https://"
  else if (text "http://").isPrefixOf url then text "http://"
  else []

/-- The host and port, up to the first slash after the scheme. -/
def urlHost (url : Bytes) : Bytes := (url.drop (urlScheme url).length).takeWhile (· ≠ slash)

/-- What follows the host, from its slash on. -/
def urlPath (url : Bytes) : Bytes := (url.drop (urlScheme url).length).dropWhile (· ≠ slash)

theorem urlScheme_leads (url : Bytes) : urlScheme url <+: url := by
  unfold urlScheme
  split
  · rename_i https
    exact List.isPrefixOf_iff_prefix.mp https
  split
  · rename_i http
    exact List.isPrefixOf_iff_prefix.mp http
  · exact List.nil_prefix

theorem url_after_scheme (url : Bytes) : urlScheme url ++ url.drop (urlScheme url).length = url :=
  (List.prefix_iff_eq_append.mp (urlScheme_leads url))

/-- A URL is its scheme, its host and its path. -/
theorem url_parts (url : Bytes) : urlScheme url ++ (urlHost url ++ urlPath url) = url := by
  rw [urlHost, urlPath, List.takeWhile_append_dropWhile, url_after_scheme]

theorem urlHost_bare (url : Bytes) : ∀ byte ∈ urlHost url, byte ≠ slash := by
  intro byte member
  simpa using List.mem_takeWhile_imp member

theorem urlPath_rooted (path : urlPath url ≠ []) : ∃ rest, urlPath url = slash :: rest := by
  have head := List.head_dropWhile_not (fun byte : UInt8 => decide (byte ≠ slash)) path
  have stop : (urlPath url).head path = slash := by
    simp only [decide_eq_false_iff_not, not_not] at head
    exact head
  obtain ⟨first, rest, whole⟩ := List.exists_cons_of_ne_nil path
  exact ⟨rest, by simpa [whole] using stop⟩

/-- The two schemes an endpoint may have. -/
def KnownScheme (scheme : Bytes) : Prop := scheme = text "https://" ∨ scheme = text "http://"

theorem text_https : text "https://" = [104, 116, 116, 112, 115, 58, 47, 47] := by decide

theorem text_http : text "http://" = [104, 116, 116, 112, 58, 47, 47] := by decide

theorem urlScheme_append (known : KnownScheme scheme) (rest : Bytes) :
    urlScheme (scheme ++ rest) = scheme := by
  rcases known with rfl | rfl
  · rw [urlScheme, if_pos (List.isPrefixOf_iff_prefix.mpr (List.prefix_append _ _))]
  · have plain : (text "https://").isPrefixOf (text "http://" ++ rest) = false := by
      rw [text_http, text_https]
      simp [List.isPrefixOf]
    rw [urlScheme, if_neg (by simp [plain]),
      if_pos (List.isPrefixOf_iff_prefix.mpr (List.prefix_append _ _))]

/-- The parts of a URL are determined by how it is put together. -/
theorem urlHost_append (known : KnownScheme scheme) (bare : ∀ byte ∈ host, byte ≠ slash)
    (rest : Bytes) :
    urlHost (scheme ++ (host ++ slash :: rest)) = host := by
  rw [urlHost, urlScheme_append known, List.drop_left,
    List.takeWhile_append_of_pos (by simpa using bare)]
  simp

private theorem hostEnd_le_iff (url : Bytes) :
    hostEnd url (urlScheme url).length ≤ (urlScheme url).length ↔ urlHost url = [] := by
  have length : url.length = (urlScheme url).length + (url.drop (urlScheme url).length).length := by
    conv_lhs => rw [← url_after_scheme url]
    exact List.length_append
  rw [hostEnd, urlHost, length]
  generalize url.drop (urlScheme url).length = rest
  cases rest with
  | nil => simp
  | cons byte rest =>
    by_cases stop : byte = slash
    · simp [stop, List.findIdx?_cons]
    · rw [List.takeWhile_cons_of_pos (by simpa using stop), List.findIdx?_cons,
        if_neg (by simpa using stop)]
      cases rest.findIdx? (· == slash) <;> simp

/-- An endpoint is accepted when it is not too long, has an allowed scheme, and names a host. -/
theorem validateBackendUrl_ok (url : Bytes) (allowHttp : Bool) (maxLength : Int) :
    validateBackendUrl url allowHttp maxLength = .ok ↔
      (url.length : Int) ≤ maxLength ∧
        (urlScheme url = text "https://" ∨ urlScheme url = text "http://" ∧ allowHttp = true) ∧
          urlHost url ≠ [] := by
  have host := hostEnd_le_iff url
  have differ : text "http://" ≠ text "https://" := by decide
  rw [validateBackendUrl]
  by_cases empty : url = []
  · subst empty
    simp [urlHost]
  rw [if_neg empty]
  by_cases long : (url.length : Int) > maxLength
  · simp [long]
  rw [if_neg long]
  by_cases https : (text "https://").isPrefixOf url = true
  · have scheme : urlScheme url = text "https://" := if_pos https
    have eight : (text "https://").length = 8 := by decide
    rw [scheme, eight] at host
    simp [https, scheme, host, not_lt.mp long]
  by_cases http : (text "http://").isPrefixOf url = true
  · have scheme : urlScheme url = text "http://" := by rw [urlScheme, if_neg https, if_pos http]
    have seven : (text "http://").length = 7 := by decide
    rw [scheme, seven] at host
    cases allowHttp <;> simp [https, http, scheme, host, not_lt.mp long, differ]
  · have scheme : urlScheme url = [] := by rw [urlScheme, if_neg https, if_neg http]
    have none : ([] : Bytes) ≠ text "https://" ∧ ([] : Bytes) ≠ text "http://" := by decide
    simp [https, http, scheme, none]

theorem knownScheme_of_ok (accepted : validateBackendUrl url allowHttp maxLength = .ok) :
    KnownScheme (urlScheme url) :=
  ((validateBackendUrl_ok url allowHttp maxLength).mp accepted).2.1.imp_right And.left

end Kiosk.Protocol
