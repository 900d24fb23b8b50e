import BlobFiles.Proofs.Results
import BlobFiles.Url

/-! # The parts of a parsed URL

What a text looks like that is taken for a URL, and what its parts can hold: the short form has no
account, and in the long form the account is not empty and no slash is left in the host.
-/
namespace BlobFiles.BlobUrl

/-- The URL of a blob in short form. -/
def short (container path : String) : BlobUrl := ⟨false, "az://", "", "", container, path⟩

theorem of_split {text : List Char} {url : BlobUrl} (h : split text = .ok url) :
    ∃ scheme rest, scheme? text = some (scheme, rest) ∧
      ((∃ container path, rest = container ++ '/' :: path ∧ '/' ∉ container ∧ '.' ∉ container ∧
          url = ⟨false, scheme, "", "", .ofList container, .ofList path⟩) ∨
        ∃ account endpoint afterHost, rest = (account ++ '.' :: endpoint) ++ '/' :: afterHost ∧
          account ≠ [] ∧ '.' ∉ account ∧ '/' ∉ account ∧ '/' ∉ endpoint ∧
          url = ⟨true, scheme, .ofList account, .ofList endpoint,
            .ofList ((Text.cut '/' afterHost).getD (afterHost, [])).1,
            .ofList ((Text.cut '/' afterHost).getD (afterHost, [])).2⟩) := by
  unfold split at h
  cases hScheme : scheme? text with
  | none =>
    rw [hScheme] at h
    cases h
  | some found =>
    obtain ⟨scheme, rest⟩ := found
    refine ⟨scheme, rest, rfl, ?_⟩
    rw [hScheme] at h
    cases hHost : Text.cut '/' rest with
    | none =>
      simp only [hHost] at h
      cases h
    | some halves =>
      obtain ⟨host, afterHost⟩ := halves
      obtain ⟨hRest, hSlash⟩ := Text.cut_eq_some_iff.mp hHost
      simp only [hHost] at h
      cases hDot : Text.cut '.' host with
      | none =>
        simp only [hDot] at h
        cases h
        exact .inl ⟨host, afterHost, hRest, hSlash, Text.cut_eq_none_iff.mp hDot, rfl⟩
      | some names =>
        obtain ⟨account, endpoint⟩ := names
        obtain ⟨rfl, hAccount⟩ := Text.cut_eq_some_iff.mp hDot
        rw [List.mem_append, List.mem_cons, not_or, not_or] at hSlash
        simp only [hDot] at h
        cases account with
        | nil => cases h
        | cons c account =>
          cases h
          exact .inr ⟨c :: account, endpoint, afterHost, hRest, List.cons_ne_nil c account,
            hAccount, hSlash.1, hSlash.2.2, rfl⟩

theorem of_ofText {text : List Char} {url : BlobUrl} (h : ofText text = .ok url) :
    split text = .ok url ∧ url.container.isEmpty = false := by
  obtain ⟨found, hSplit, h⟩ := bind_eq_ok_iff.mp h
  cases hEmpty : found.container.isEmpty with
  | true =>
    simp only [hEmpty] at h
    cases h
  | false =>
    simp only [hEmpty] at h
    cases h
    exact ⟨hSplit, hEmpty⟩

theorem of_parse {text : String} {url : BlobUrl} (h : parse text = .ok url) :
    ofText text.toList = .ok url := mapError_eq_ok_iff.mp h

/-- The long form, and nothing else, names an account. -/
theorem fullyQualified_iff_of_parse {text : String} {url : BlobUrl} (h : parse text = .ok url) :
    url.fullyQualified = true ↔ url.account ≠ "" := by
  obtain ⟨scheme, rest, _, hParts⟩ := of_split (of_ofText (of_parse h)).1
  rcases hParts with ⟨container, path, _, _, _, rfl⟩ |
    ⟨account, endpoint, afterHost, _, hAccount, _, _, _, rfl⟩
  · simp
  · have hNonempty : String.ofList account ≠ "" := by
      intro hEmpty
      have hLists := congrArg String.toList hEmpty
      rw [String.toList_ofList] at hLists
      exact hAccount hLists
    simp [hNonempty]

theorem slash_not_mem_endpoint_of_parse {text : String} {url : BlobUrl}
    (h : parse text = .ok url) : '/' ∉ url.endpoint.toList := by
  obtain ⟨scheme, rest, _, hParts⟩ := of_split (of_ofText (of_parse h)).1
  rcases hParts with ⟨container, path, _, _, _, rfl⟩ |
    ⟨account, endpoint, afterHost, _, _, _, _, hEndpoint, rfl⟩
  · simp
  · rwa [String.toList_ofList]

end BlobFiles.BlobUrl
