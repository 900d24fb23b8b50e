import BlobFiles.Proofs.Settings.ConnectionString
import BlobFiles.Proofs.Settings.Lookup
import BlobFiles.Proofs.Storage.Resolve
import BlobFiles.Proofs.Url.Parts

/-! # Which account a derived endpoint names

Account and endpoint are resolved one after the other. An endpoint that no source gives as a whole
is derived: from the account name and the suffix of the connection string when it has both, else
from the resolved account and the public cloud. The first of these does not ask which account has
been resolved, so a setting that overrides the account name does not change the endpoint with it.
All this is about the text of the endpoint. The protocol in front of it is as the connection string
has it, unchecked, and where requests go is not said.
-/
namespace BlobFiles

namespace Text

theorem contains_append (before part after : List Char) :
    contains part (before ++ part ++ after) = true := by
  induction before with
  | nil =>
    cases part with
    | nil => cases after <;> rfl
    | cons c part =>
      change ((c :: part).isPrefixOf (c :: part ++ after) || _) = true
      rw [List.isPrefixOf_iff_prefix.mpr (List.prefix_append _ _), Bool.true_or]
  | cons c before ih =>
    change (_ || contains part (before ++ part ++ after)) = true
    rw [ih, Bool.or_true]

theorem dropTrailing_append_cons {sep c : Char} (h : c ≠ sep) (before after : List Char) :
    dropTrailing sep (before ++ c :: after) = before ++ c :: dropTrailing sep after := by
  rw [dropTrailing, List.reverse_append, List.reverse_cons, List.append_assoc,
    List.dropWhile_append, dropTrailing]
  split
  · rename_i hNone
    simp [List.isEmpty_iff.mp hNone, h]
  · simp

end Text

namespace Remote

open ConnectionString

/-! ## What the sources say -/

/-- The entries of the connection string; none when there is no connection string. -/
def givenEntries (s : Settings) : Entries :=
  match s.value? ConnectionString.settingKey with
  | some (.string text) => entries text.toList
  | _ => []

variable {s : Settings} {cs : ConnectionString} {path : String} {url : BlobUrl} {client : Client}

theorem connectionString_eq_ok (h : connectionString s = .ok cs) :
    cs = ofEntries (givenEntries s) := by
  obtain ⟨found, hFound, h⟩ := bind_eq_ok_iff.mp h
  have hValue := Settings.get?_string_eq_ok hFound
  unfold givenEntries
  cases found with
  | none =>
    rw [hValue]
    cases h
    rfl
  | some text =>
    rw [hValue]
    exact (parse_eq_ok_iff.mp h).2

theorem resolveAccount_short {account : String} (hShort : url.fullyQualified = false)
    (h : resolveAccount s cs path url = .ok account) :
    s.value? Settings.accountNameKey = some (.string account) ∨
      s.value? Settings.accountNameKey = none ∧ cs.accountName = some account := by
  unfold resolveAccount at h
  rw [hShort] at h
  obtain ⟨found, hFound, h⟩ := bind_eq_ok_iff.mp h
  obtain ⟨named, hNamed, h⟩ := bind_eq_ok_iff.mp h
  cases hNamed
  have hValue := Settings.get?_string_eq_ok hFound
  beta_reduce at h
  split at h
  · rename_i kept hFilter
    cases h
    have hSome := (Option.filter_eq_some_iff.mp hFilter).1
    cases found with
    | none => exact .inr ⟨hValue, hSome⟩
    | some text =>
      cases hSome
      exact .inl hValue
  · cases h

theorem resolveEndpoint_short {endpoint : String} (hShort : url.fullyQualified = false)
    (hUnset : s.value? Settings.endpointKey = none)
    (h : resolveEndpoint s cs url = .ok endpoint) :
    endpoint = cs.blobEndpoint.getD defaultEndpoint := by
  unfold resolveEndpoint at h
  rw [hShort] at h
  obtain ⟨found, hFound, h⟩ := bind_eq_ok_iff.mp h
  have hValue := Settings.get?_string_eq_ok hFound
  rw [hUnset] at hValue
  cases found with
  | none =>
    cases h
    rfl
  | some text => cases hValue

theorem resolve_short (h : resolve s path url = .ok client) (hShort : url.fullyQualified = false)
    (hUnset : s.value? Settings.endpointKey = none) :
    (s.value? Settings.accountNameKey = some (.string client.account) ∨
      s.value? Settings.accountNameKey = none ∧
        (givenEntries s).last? "AccountName" = some client.account) ∧
    client.endpoint =
      endpointUrl client.account ((givenEntries s).endpoint?.getD defaultEndpoint) := by
  obtain ⟨cs, account, endpoint, credentials, hString, hAccount, hEndpoint, _, hCreate⟩ :=
    of_resolve h
  obtain rfl := connectionString_eq_ok hString
  obtain rfl := resolveEndpoint_short hShort hUnset hEndpoint
  obtain ⟨_, rfl⟩ := Client.create_eq_ok hCreate
  exact ⟨resolveAccount_short hShort hAccount, rfl⟩

/-! ## Whose name it has -/

theorem toList_blobUrl (protocol account suffix : String) :
    s!"{protocol}://{account}.blob.{suffix}".toList = protocol.toList ++ "://".toList ++
      (account.toList ++ ".blob".toList) ++ '.' :: suffix.toList := by
  change (protocol ++ "://" ++ account ++ ".blob." ++ suffix).toList = _
  simp only [String.toList_append, List.append_assoc]
  rfl

def withoutSlashes (suffix : String) : String := .ofList (Text.dropTrailing '/' suffix.toList)

theorem endpointUrl_of_url (own protocol account suffix : String) :
    endpointUrl own s!"{protocol}://{account}.blob.{suffix}" =
      s!"{protocol}://{account}.blob.{withoutSlashes suffix}" := by
  apply String.toList_inj.mp
  rw [endpointUrl, toList_blobUrl, List.append_assoc, Text.contains_append, if_pos rfl,
    ← List.append_assoc, Text.dropTrailing_append_cons (by decide), toList_blobUrl]
  simp only [withoutSlashes, String.toList_ofList]

/-- Where the account of a connection string is reached in the cloud with a suffix. -/
def accountUrl (found : Entries) (account suffix : String) : String :=
  let protocol := (found.last? "DefaultEndpointsProtocol").getD "https"
  s!"{protocol}://{account}.blob.{suffix}"

theorem endpoint?_of_parts {found : Entries} {account suffix : String}
    (hWhole : found.last? "BlobEndpoint" = none) (hName : found.last? "AccountName" = some account)
    (hSuffix : found.last? "EndpointSuffix" = some suffix) :
    found.endpoint? = some (accountUrl found account suffix) := by
  rw [Entries.endpoint?, hWhole, hSuffix, hName]
  rfl

theorem endpoint?_eq_none {found : Entries} (hWhole : found.last? "BlobEndpoint" = none)
    (hPart : found.last? "AccountName" = none ∨ found.last? "EndpointSuffix" = none) :
    found.endpoint? = none := by
  rw [Entries.endpoint?, hWhole]
  rcases hPart with hName | hSuffix
  · rw [hName]
    cases found.last? "EndpointSuffix" <;> rfl
  · rw [hSuffix]

/-- The text of the endpoint has the account's name behind the slashes. That a request goes to a
host of this account is not said: what stands before the slashes is any text, and may hold a
host. -/
def NamesAccount (account endpoint : String) : Prop :=
  ∃ protocol rest : String, endpoint = s!"{protocol}://{account}.{rest}"

theorem namesAccount_iff {account endpoint : String} :
    NamesAccount account endpoint ↔ ∃ before after,
      endpoint.toList = before ++ ("://".toList ++ account.toList ++ ['.']) ++ after := by
  have hText : ∀ protocol rest : String, s!"{protocol}://{account}.{rest}".toList =
      protocol.toList ++ ("://".toList ++ account.toList ++ ['.']) ++ rest.toList := by
    intro protocol rest
    change (protocol ++ "://" ++ account ++ "." ++ rest).toList = _
    simp only [String.toList_append, List.append_assoc]
    rfl
  constructor
  · rintro ⟨protocol, rest, rfl⟩
    exact ⟨_, _, hText protocol rest⟩
  · rintro ⟨before, after, hEndpoint⟩
    refine ⟨.ofList before, .ofList after, String.toList_inj.mp ?_⟩
    rw [hText, hEndpoint]
    simp only [String.toList_ofList]

theorem namesAccount_accountUrl (found : Entries) (account suffix : String) :
    NamesAccount account (accountUrl found account suffix) := by
  refine namesAccount_iff.mpr ⟨((found.last? "DefaultEndpointsProtocol").getD "https").toList,
    "blob.".toList ++ suffix.toList, ?_⟩
  rw [accountUrl, toList_blobUrl]
  simp

theorem namesAccount_https (account rest : String) :
    NamesAccount account s!"https://{account}.{rest}" := by
  refine namesAccount_iff.mpr ⟨"https".toList, rest.toList, ?_⟩
  change ("https://" ++ account ++ "." ++ rest).toList = _
  simp [String.toList_append]

/-- The endpoint of a client that is resolved for a URL in short form, with no endpoint given as a
whole, has the name of its own account in it, with one exception: when the connection string has an
account name and a suffix, it has that of the string's account, whatever account the settings
name. -/
theorem resolve_derived_endpoint (h : resolve s path url = .ok client)
    (hShort : url.fullyQualified = false) (hUnset : s.value? Settings.endpointKey = none)
    (hWhole : (givenEntries s).last? "BlobEndpoint" = none) :
    (∃ account, NamesAccount account client.endpoint ∧
      (account = client.account ∨
        s.value? Settings.accountNameKey = some (.string client.account) ∧
        (givenEntries s).last? "AccountName" = some account ∧
        (givenEntries s).last? "EndpointSuffix" ≠ none)) ∧
    (∀ account suffix, (givenEntries s).last? "AccountName" = some account →
      (givenEntries s).last? "EndpointSuffix" = some suffix →
      client.endpoint = accountUrl (givenEntries s) account (withoutSlashes suffix) ∧
      (account = client.account ↔ s.value? Settings.accountNameKey = none ∨
        s.value? Settings.accountNameKey = some (.string account))) ∧
    ((givenEntries s).last? "AccountName" = none ∨
      (givenEntries s).last? "EndpointSuffix" = none →
      client.endpoint = s!"https://{client.account}.{defaultEndpoint}") := by
  obtain ⟨hAccount, hEndpoint⟩ := resolve_short h hShort hUnset
  have hDefault : (givenEntries s).last? "AccountName" = none ∨
      (givenEntries s).last? "EndpointSuffix" = none →
      client.endpoint = s!"https://{client.account}.{defaultEndpoint}" := by
    intro hPart
    rw [hEndpoint, endpoint?_eq_none hWhole hPart]
    exact endpointUrl_of_suffix (by decide) client.account
  have hDerived : ∀ account suffix, (givenEntries s).last? "AccountName" = some account →
      (givenEntries s).last? "EndpointSuffix" = some suffix →
      client.endpoint = accountUrl (givenEntries s) account (withoutSlashes suffix) := by
    intro account suffix hName hSuffix
    rw [hEndpoint, endpoint?_of_parts hWhole hName hSuffix]
    exact endpointUrl_of_url client.account _ account suffix
  refine ⟨?_, ?_, hDefault⟩
  · have hOwnName := namesAccount_https client.account defaultEndpoint
    cases hName : (givenEntries s).last? "AccountName" with
    | none =>
      rw [← hDefault (.inl hName)] at hOwnName
      exact ⟨client.account, hOwnName, .inl rfl⟩
    | some account =>
      cases hSuffix : (givenEntries s).last? "EndpointSuffix" with
      | none =>
        rw [← hDefault (.inr hSuffix)] at hOwnName
        exact ⟨client.account, hOwnName, .inl rfl⟩
      | some suffix =>
        refine ⟨account, ?_, ?_⟩
        · rw [hDerived account suffix hName hSuffix]
          exact namesAccount_accountUrl _ _ _
        · rcases hAccount with hSet | ⟨-, hOwn⟩
          · exact .inr ⟨hSet, rfl, Option.some_ne_none suffix⟩
          · exact .inl (Option.some.inj (hName.symm.trans hOwn))
  · intro account suffix hName hSuffix
    refine ⟨hDerived account suffix hName hSuffix, ?_⟩
    rcases hAccount with hSet | ⟨hNone, hOwn⟩
    · rw [hSet]
      constructor
      · rintro rfl
        exact .inr rfl
      · rintro (hNone | hSame)
        · cases hNone
        · cases hSame
          rfl
    · have hSame : account = client.account := Option.some.inj (hName.symm.trans hOwn)
      exact ⟨fun _ => .inl hNone, fun _ => hSame⟩

/-! The settings name another account than the connection string. -/

def overridden : Settings where
  values := [(Settings.accountNameKey, .string "other"), (ConnectionString.settingKey,
    .string "AccountName=acct;AccountKey=a2V5;EndpointSuffix=test")]

def misdirected : Client := ⟨"other", "https://acct.blob.test", .key "a2V5"⟩

theorem resolve_overridden : resolve overridden "az://c/k" (.short "c" "k") = .ok misdirected := by
  decide +kernel

theorem resolve_derived_endpoint_overridden :
    (resolve overridden "az://c/k" (.short "c" "k") = .ok misdirected ∧
      (BlobUrl.short "c" "k").fullyQualified = false ∧
      overridden.value? Settings.endpointKey = none ∧
      (givenEntries overridden).last? "BlobEndpoint" = none) ∧
    misdirected.endpoint = accountUrl (givenEntries overridden) "acct" "test" ∧
    "acct" ≠ misdirected.account := by
  have hWhole : (givenEntries overridden).last? "BlobEndpoint" = none := by decide +kernel
  obtain ⟨-, hDerived, -⟩ := resolve_derived_endpoint resolve_overridden rfl rfl hWhole
  obtain ⟨hEndpoint, -⟩ := hDerived "acct" "test" (by decide +kernel)
    (by decide +kernel)
  exact ⟨⟨resolve_overridden, rfl, rfl, hWhole⟩, hEndpoint, by decide⟩

/-- A derived endpoint need not have the name of the client's account in it. -/
theorem not_namesAccount_own :
    ¬ ∀ (s : Settings) (path : String) (url : BlobUrl) (client : Client),
      BlobUrl.parse path = .ok url → resolve s path url = .ok client →
      url.fullyQualified = false → s.value? Settings.endpointKey = none →
      (givenEntries s).last? "BlobEndpoint" = none →
      NamesAccount client.account client.endpoint := by
  intro hOwn
  have hName := hOwn overridden "az://c/k" (.short "c" "k") misdirected (by decide +kernel)
    resolve_overridden rfl rfl (by decide +kernel)
  obtain ⟨before, after, hEndpoint⟩ := namesAccount_iff.mp hName
  have hContains := Text.contains_append before
    ("://".toList ++ misdirected.account.toList ++ ['.']) after
  rw [← hEndpoint] at hContains
  revert hContains
  decide

end Remote

end BlobFiles
