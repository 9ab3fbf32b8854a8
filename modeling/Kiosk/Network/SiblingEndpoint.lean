import Kiosk.Network.NetworkWorker
import Kiosk.Protocol.BackendUrl

/-! `endpoint_utils.h` on the endpoints that `validate_backend_url` accepts. A bare host
has no sibling, by design. -/
namespace Kiosk.Network

open Library Library.KeySearch Protocol

/-- A URL up to its last slash. -/
def urlBase (url : Bytes) : Bytes := url.rdropWhile (· ≠ slash)

theorem urlBase_ends (found : urlBase url ≠ []) : ∃ front, urlBase url = front ++ [slash] := by
  have last : (urlBase url).getLast found = slash := by
    have stop := List.rdropWhile_last_not _ _ found
    simp only [decide_eq_true_eq, not_not] at stop
    exact stop
  refine ⟨(urlBase url).dropLast, ?_⟩
  rw [← last, List.dropLast_append_getLast]

/-- What stands before the path does not matter for the cut. -/
theorem urlBase_append (front rest : Bytes) :
    urlBase (front ++ slash :: rest) = front ++ urlBase (slash :: rest) := by
  have kept : (slash :: rest).reverse.dropWhile (· ≠ slash) ≠ [] := by
    intro none
    have all := List.dropWhile_eq_nil_iff.mp none slash (by simp)
    simp at all
  rw [urlBase, urlBase, List.rdropWhile, List.rdropWhile, List.reverse_append,
    List.dropWhile_append,
    if_neg (by rwa [List.isEmpty_iff]), List.reverse_append, List.reverse_reverse]

/-- The base of a path is not empty, and starts as the path does. -/
theorem urlBase_rooted (rest : Bytes) : ∃ tail, urlBase (slash :: rest) = slash :: tail := by
  have found : urlBase (slash :: rest) ≠ [] := by
    intro none
    have all := List.rdropWhile_eq_nil_iff.mp none slash (by simp)
    simp at all
  obtain ⟨first, tail, whole⟩ := List.exists_cons_of_ne_nil found
  have before : urlBase (slash :: rest) <+: slash :: rest := List.rdropWhile_prefix _ _
  rw [whole, List.cons_prefix_cons] at before
  exact ⟨tail, by rw [whole, before.1]⟩

private theorem after_scheme (known : KnownScheme scheme) (rest : Bytes) :
    (findAfter (text "://") (scheme ++ rest)).getD (scheme ++ rest) = rest := by
  have separator : text "://" = [58, 47, 47] := by decide
  rcases known with rfl | rfl
  · rw [text_https, separator]
    simp [findAfter, List.isPrefixOf]
  · rw [text_http, separator]
    simp [findAfter, List.isPrefixOf]

/-- The sibling of a URL of a known scheme: nothing for a bare host, else its name after
the last slash. -/
theorem deriveSiblingEndpoint_eq (known : KnownScheme (urlScheme url)) (name : Bytes) :
    deriveSiblingEndpoint url name = if urlPath url = [] then [] else urlBase url ++ name := by
  have after : (findAfter (text "://") url).getD url = urlHost url ++ urlPath url := by
    have found := after_scheme known (urlHost url ++ urlPath url)
    rwa [url_parts] at found
  have bare : slash ∉ urlHost url := fun member => urlHost_bare url slash member rfl
  rw [deriveSiblingEndpoint, after]
  by_cases path : urlPath url = []
  · rw [if_pos path, if_neg (by simpa [path] using bare)]
  · obtain ⟨rest, rooted⟩ := urlPath_rooted path
    rw [if_neg path, if_pos (by simp [rooted])]
    rfl

/-- The sibling of an accepted endpoint with a path is on the same host, under the base of
that path; that of an accepted bare host is empty. -/
theorem accepted_sibling (url name : Bytes) (allowHttp : Bool) (maxLength : Int)
    (accepted : validateBackendUrl url allowHttp maxLength = .ok) :
    (urlPath url ≠ [] →
      deriveSiblingEndpoint url name ≠ [] ∧
        urlScheme (deriveSiblingEndpoint url name) = urlScheme url ∧
        urlHost (deriveSiblingEndpoint url name) = urlHost url ∧
        slash :: name <:+ deriveSiblingEndpoint url name) ∧
      (urlPath url = [] → deriveSiblingEndpoint url name = []) := by
  have known := knownScheme_of_ok accepted
  have derived := deriveSiblingEndpoint_eq known name
  refine ⟨fun path => ?_, fun path => by rw [derived, if_pos path]⟩
  obtain ⟨rest, rooted⟩ := urlPath_rooted path
  obtain ⟨tail, base⟩ := urlBase_rooted rest
  have whole : urlBase url = urlScheme url ++ (urlHost url ++ slash :: tail) := by
    have parts := url_parts url
    rw [rooted, ← List.append_assoc] at parts
    rw [← base, ← List.append_assoc, ← urlBase_append, parts]
  have put : deriveSiblingEndpoint url name =
      urlScheme url ++ (urlHost url ++ slash :: (tail ++ name)) := by
    rw [derived, if_neg path, whole]
    simp
  have found : urlBase url ≠ [] := by
    rw [whole]
    simp
  obtain ⟨front, ends⟩ := urlBase_ends found
  refine ⟨by simp [put], ?_, ?_, front, ?_⟩
  · rw [put, urlScheme_append known]
  · rw [put, urlHost_append known (urlHost_bare url)]
  · rw [derived, if_neg path, ends]
    simp

theorem accepted_sibling_state :
    (urlPath (text "https://h/api/events") ≠ [] →
      deriveSiblingEndpoint (text "https://h/api/events") (text "state") ≠ [] ∧
        urlScheme (deriveSiblingEndpoint (text "https://h/api/events") (text "state")) =
          urlScheme (text "https://h/api/events") ∧
        urlHost (deriveSiblingEndpoint (text "https://h/api/events") (text "state")) =
          urlHost (text "https://h/api/events") ∧
        slash :: text "state" <:+ deriveSiblingEndpoint (text "https://h/api/events")
          (text "state")) ∧
      (urlPath (text "https://h/api/events") = [] →
        deriveSiblingEndpoint (text "https://h/api/events") (text "state") = []) :=
  accepted_sibling (text "https://h/api/events") (text "state") false backendUrlMaxLength
    (by decide +kernel)

/-- A bare host is accepted and has no sibling. -/
theorem bareHost_no_sibling :
    validateBackendUrl (text "http://dev.mesflow.net") true backendUrlMaxLength = .ok ∧
      deriveSiblingEndpoint (text "http://dev.mesflow.net") (text "bootstrap") = [] := by
  decide +kernel

end Kiosk.Network
