import BlobFiles.Proofs.Url.Parts
import Mathlib.Data.List.Basic

/-! # Parsing and building are inverse

The URL of a key in a well-formed container is parsed to that container and that key, whatever
characters the key has. The other way round, a text that is parsed is the URL of what it is parsed
to; only the slash behind the container may be missing, and only in the long form, where the host
has one already. So no text has two readings.
-/
namespace BlobFiles.BlobUrl

/-- The long form names account and endpoint in the host; the short form has the container there. -/
inductive WellFormed : BlobUrl → Prop
  | long {scheme account endpoint container : String} (path : String) (hScheme : scheme ∈ schemes)
      (hAccount : account ≠ "") (hDot : '.' ∉ account.toList) (hSlash : '/' ∉ account.toList)
      (hEndpoint : '/' ∉ endpoint.toList) (hContainer : container ≠ "")
      (hContainerSlash : '/' ∉ container.toList) :
      WellFormed ⟨true, scheme, account, endpoint, container, path⟩
  | short {scheme container : String} (path : String) (hScheme : scheme ∈ schemes)
      (hContainer : container ≠ "") (hDot : '.' ∉ container.toList)
      (hSlash : '/' ∉ container.toList) :
      WellFormed ⟨false, scheme, "", "", container, path⟩

theorem scheme?_append {scheme : String} (h : scheme ∈ schemes) (rest : List Char) :
    scheme? (scheme.toList ++ rest) = some (scheme, rest) := by
  simp only [schemes, List.mem_cons, List.not_mem_nil, or_false] at h
  rcases h with rfl | rfl <;> rfl

theorem of_scheme? {text rest : List Char} {scheme : String}
    (h : scheme? text = some (scheme, rest)) : scheme ∈ schemes ∧ text = scheme.toList ++ rest := by
  obtain ⟨found, hMem, hFound⟩ := List.exists_of_findSome?_eq_some h
  obtain ⟨rest', hPrefix, hPair⟩ := Option.map_eq_some_iff.mp hFound
  cases hPair
  exact ⟨hMem, (List.append_eq_of_isPrefixOf?_eq_some hPrefix).symm⟩

/-! ## The texts of a URL -/

theorem toList_root_long (scheme account endpoint container path : String) :
    (root ⟨true, scheme, account, endpoint, container, path⟩).toList = scheme.toList ++
      ((account.toList ++ '.' :: endpoint.toList) ++ '/' :: container.toList) := by
  simp only [root, if_true, String.toList_append, List.append_assoc]
  rfl

theorem toList_root_short (scheme account endpoint container path : String) :
    (root ⟨false, scheme, account, endpoint, container, path⟩).toList =
      scheme.toList ++ container.toList := String.toList_append

theorem toList_objectUrl (url : BlobUrl) (key : String) :
    (url.objectUrl key).toList = url.root.toList ++ '/' :: key.toList := by
  simp only [objectUrl, String.toList_append, List.append_assoc]
  rfl

theorem objectUrl_eq (url : BlobUrl) (key : String) :
    url.objectUrl key = url.root ++ "/" ++ key := rfl

/-! ## From the parts to the text and back -/

theorem split_long {scheme : String} (hScheme : scheme ∈ schemes) {account endpoint : List Char}
    (hAccount : account ≠ []) (hDot : '.' ∉ account) (hSlash : '/' ∉ account)
    (hEndpoint : '/' ∉ endpoint) (afterHost : List Char) :
    split (scheme.toList ++ ((account ++ '.' :: endpoint) ++ '/' :: afterHost)) =
      .ok ⟨true, scheme, .ofList account, .ofList endpoint,
        .ofList ((Text.cut '/' afterHost).getD (afterHost, [])).1,
        .ofList ((Text.cut '/' afterHost).getD (afterHost, [])).2⟩ := by
  have hHost : '/' ∉ account ++ '.' :: endpoint := by
    rw [List.mem_append, List.mem_cons, not_or, not_or]
    exact ⟨hSlash, by decide, hEndpoint⟩
  have hCutHost : Text.cut '/' ((account ++ '.' :: endpoint) ++ '/' :: afterHost) =
      some (account ++ '.' :: endpoint, afterHost) := Text.cut_eq_some_iff.mpr ⟨rfl, hHost⟩
  have hCutDot : Text.cut '.' (account ++ '.' :: endpoint) = some (account, endpoint) :=
    Text.cut_eq_some_iff.mpr ⟨rfl, hDot⟩
  obtain ⟨c, account, rfl⟩ := List.exists_cons_of_ne_nil hAccount
  rw [split, scheme?_append hScheme]
  simp only [hCutHost, hCutDot]
  rfl

theorem split_short {scheme : String} (hScheme : scheme ∈ schemes) {container : List Char}
    (hDot : '.' ∉ container) (hSlash : '/' ∉ container) (path : List Char) :
    split (scheme.toList ++ (container ++ '/' :: path)) =
      .ok ⟨false, scheme, "", "", .ofList container, .ofList path⟩ := by
  have hCutHost : Text.cut '/' (container ++ '/' :: path) = some (container, path) :=
    Text.cut_eq_some_iff.mpr ⟨rfl, hSlash⟩
  have hCutDot : Text.cut '.' container = none := Text.cut_eq_none_iff.mpr hDot
  rw [split, scheme?_append hScheme]
  simp only [hCutHost, hCutDot]
  rfl

theorem parse_of_split {text : String} {url : BlobUrl} (h : split text.toList = .ok url)
    (hContainer : url.container ≠ "") : parse text = .ok url := by
  have hSome : url.container.isEmpty = false := by
    rw [Bool.eq_false_iff]
    exact fun hEmpty => hContainer (String.isEmpty_iff.mp hEmpty)
  rw [parse, mapError_eq_ok_iff, ofText, h]
  change (if url.container.isEmpty = true then _ else _) = _
  rw [hSome]
  rfl

theorem parse_objectUrl {url : BlobUrl} (h : url.WellFormed) (key : String) :
    parse (url.objectUrl key) = .ok { url with path := key } := by
  cases h with
  | @long scheme account endpoint container path hScheme hAccount hDot hSlash hEndpoint hContainer
      hContainerSlash =>
    refine parse_of_split ?_ hContainer
    rw [toList_objectUrl, toList_root_long, List.append_assoc, List.append_assoc, List.cons_append,
      split_long hScheme (by simpa using hAccount) hDot hSlash hEndpoint]
    have hCut : Text.cut '/' (container.toList ++ '/' :: key.toList) =
        some (container.toList, key.toList) := Text.cut_eq_some_iff.mpr ⟨rfl, hContainerSlash⟩
    simp only [hCut, Option.getD_some, String.ofList_toList]
  | @short scheme container path hScheme hContainer hDot hSlash =>
    refine parse_of_split ?_ hContainer
    rw [toList_objectUrl, toList_root_short, List.append_assoc, split_short hScheme hDot hSlash]
    simp only [String.ofList_toList]

theorem parse_root {url : BlobUrl} (h : url.WellFormed) (hQualified : url.fullyQualified = true) :
    parse url.root = .ok { url with path := "" } := by
  cases h with
  | short => cases hQualified
  | @long scheme account endpoint container path hScheme hAccount hDot hSlash hEndpoint hContainer
      hContainerSlash =>
    refine parse_of_split ?_ hContainer
    rw [toList_root_long, split_long hScheme (by simpa using hAccount) hDot hSlash hEndpoint,
      Text.cut_eq_none_iff.mpr hContainerSlash]
    simp only [Option.getD_none, String.ofList_toList]

theorem cut_getD_cases (afterHost : List Char) :
    ∃ container path, (Text.cut '/' afterHost).getD (afterHost, []) = (container, path) ∧
      '/' ∉ container ∧
      (afterHost = container ++ '/' :: path ∨ afterHost = container ∧ path = []) := by
  cases hCut : Text.cut '/' afterHost with
  | none => exact ⟨afterHost, [], rfl, Text.cut_eq_none_iff.mp hCut, .inr ⟨rfl, rfl⟩⟩
  | some halves =>
    obtain ⟨container, path⟩ := halves
    obtain ⟨hText, hSlash⟩ := Text.cut_eq_some_iff.mp hCut
    exact ⟨container, path, rfl, hSlash, .inl hText⟩

/-- What is parsed is well formed, and its own URL is the text, but for the slash behind a container
that ends it. -/
theorem wellFormed_of_parse {text : String} {url : BlobUrl} (h : parse text = .ok url) :
    url.WellFormed ∧ (url.objectUrl url.path = text ∨
      url.fullyQualified = true ∧ url.path = "" ∧ url.root = text) := by
  obtain ⟨hSplit, hEmpty⟩ := of_ofText (of_parse h)
  have hContainer : url.container ≠ "" := by
    intro hNone
    rw [hNone] at hEmpty
    cases hEmpty
  obtain ⟨scheme, rest, hText, hParts⟩ := of_split hSplit
  obtain ⟨hScheme, hText⟩ := of_scheme? hText
  rcases hParts with ⟨container, path, rfl, hSlash, hDot, rfl⟩ |
    ⟨account, endpoint, afterHost, rfl, hAccount, hDot, hSlash, hEndpoint, rfl⟩
  · constructor
    · exact .short _ hScheme hContainer (by rwa [String.toList_ofList])
        (by rwa [String.toList_ofList])
    · left
      apply String.toList_inj.mp
      rw [toList_objectUrl, toList_root_short, hText, String.toList_ofList, String.toList_ofList,
        List.append_assoc]
  · obtain ⟨container, path, hCut, hContainerSlash, hAfterHost⟩ := cut_getD_cases afterHost
    rw [hCut] at hContainer ⊢
    constructor
    · have hAccountText : String.ofList account ≠ "" := by simpa using hAccount
      apply WellFormed.long _ hScheme hAccountText _ _ _ hContainer
      all_goals rwa [String.toList_ofList]
    · rcases hAfterHost with rfl | ⟨rfl, rfl⟩
      · left
        apply String.toList_inj.mp
        rw [toList_objectUrl, toList_root_long, hText]
        simp only [String.toList_ofList, List.append_assoc, List.cons_append]
      · right
        refine ⟨rfl, rfl, String.toList_inj.mp ?_⟩
        rw [toList_root_long, hText]
        simp only [String.toList_ofList]

theorem parse_inverts_objectUrl (url : BlobUrl) (key text : String) :
    (url.WellFormed → parse (url.objectUrl key) = .ok { url with path := key }) ∧
    (parse text = .ok url ↔ url.WellFormed ∧
      (url.objectUrl url.path = text ∨
        url.fullyQualified = true ∧ url.root = text ∧ url.objectUrl url.path = text ++ "/")) ∧
    ((∀ other, parse text ≠ .ok other) →
      ∃ fault : Fault, parse text = .error (.invalidUrl text fault.reason)) := by
  refine ⟨fun h => parse_objectUrl h key, ⟨fun h => ?_, ?_⟩, fun hNone => ?_⟩
  · obtain ⟨hWellFormed, hText | ⟨hQualified, hPath, hText⟩⟩ := wellFormed_of_parse h
    · exact ⟨hWellFormed, .inl hText⟩
    · refine ⟨hWellFormed, .inr ⟨hQualified, hText, ?_⟩⟩
      rw [objectUrl_eq, hPath, hText, String.append_empty]
  · rintro ⟨hWellFormed, rfl | ⟨hQualified, rfl, hSlash⟩⟩
    · exact parse_objectUrl hWellFormed url.path
    · have hPath : url.path = "" := by
        rw [objectUrl_eq] at hSlash
        simpa using hSlash
      rw [parse_root hWellFormed hQualified, ← hPath]
  · cases hParts : ofText text.toList with
    | ok other => exact absurd (mapError_eq_ok_iff.mpr hParts) (hNone other)
    | error fault => exact ⟨fault, by rw [parse, hParts]; rfl⟩

/-- A key that looks like a pattern and a URL at once, a URL that ends behind its container, and a
text that is no URL. -/
theorem parse_inverts_objectUrl_odd :
    let url : BlobUrl := ⟨true, "azure://", "acct", "", "log.s", ""⟩
    (url.WellFormed ∧
      parse (url.objectUrl "/az://*.[?") = .ok { url with path := "/az://*.[?" }) ∧
    (parse "azure://acct./log.s" = .ok url ∧ url.WellFormed ∧
      (url.objectUrl url.path = "azure://acct./log.s" ∨
        url.fullyQualified = true ∧ url.root = "azure://acct./log.s" ∧
          url.objectUrl url.path = "azure://acct./log.s" ++ "/")) ∧
    ((∀ other, parse "az://.a/c/k" ≠ .ok other) ∧
      ∃ fault : Fault, parse "az://.a/c/k" = .error (.invalidUrl "az://.a/c/k" fault.reason)) := by
  intro url
  have hWellFormed : url.WellFormed :=
    .long "" (by decide) (by decide) (by decide) (by decide) (by decide) (by decide) (by decide)
  have hParse : parse "azure://acct./log.s" = .ok url := by decide
  have hRefused : ∀ other, parse "az://.a/c/k" ≠ .ok other := by
    intro other hOk
    cases hOk
  exact ⟨⟨hWellFormed, (parse_inverts_objectUrl url "/az://*.[?" "").1 hWellFormed⟩,
    ⟨hParse, (parse_inverts_objectUrl url "" "azure://acct./log.s").2.1.mp hParse⟩,
    hRefused, (parse_inverts_objectUrl url "" "az://.a/c/k").2.2 hRefused⟩

end BlobFiles.BlobUrl
