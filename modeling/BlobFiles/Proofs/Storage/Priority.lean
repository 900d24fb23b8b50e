import BlobFiles.Proofs.Storage.DerivedEndpoint
import BlobFiles.Proofs.Url.Parts

/-! # The first source that is set

Account, endpoint and credentials of a client are looked up apart from each other, each in sources
of its own order. A source counts when it is set, whatever it holds, and those behind it are not
looked at: settings that agree on the first source of each of the three give the same client, or
fail in the same way.
-/
namespace BlobFiles

namespace Remote

open ConnectionString

/-- The settings that say how an account is reached. -/
def accessKeys : List String :=
  [ConnectionString.settingKey, Settings.accountNameKey, Settings.endpointKey, Settings.secretKey,
    Settings.tokenKey]

/-- Settings that can be used: texts, where they are set, and a connection string with no entry that
is malformed. -/
structure Usable (s : Settings) : Prop where
  texts : ∀ key ∈ accessKeys, ∀ v ∈ s.value? key, v.isText = true
  entries : ∀ text ∈ s.text? ConnectionString.settingKey,
    ∀ piece ∈ text.toList.splitOn ';', ¬ Malformed piece

/-! ## The sources -/

/-- The value of the first source that is set. -/
def first? {α : Type} (sources : List (Option α)) : Option α := sources.findSome? id

def accountSources (s : Settings) (url : BlobUrl) : List (Option String) :=
  [if url.fullyQualified then some url.account else none,
    s.text? Settings.accountNameKey,
    (givenEntries s).last? "AccountName"]

def endpointSources (s : Settings) (url : BlobUrl) : List (Option String) :=
  [if url.fullyQualified then some url.endpoint else none,
    s.text? Settings.endpointKey,
    (givenEntries s).endpoint?]

def credentialSources (s : Settings) : List (Option Credentials) :=
  [(s.text? Settings.secretKey).map .key,
    (s.text? Settings.tokenKey).map .token,
    ((givenEntries s).last? "AccountKey").map .key,
    ((givenEntries s).last? "SharedAccessSignature").map .token]

def accountOf (s : Settings) (url : BlobUrl) : Option String := first? (accountSources s url)

def endpointOf (s : Settings) (url : BlobUrl) : String :=
  (first? (endpointSources s url)).getD defaultEndpoint

def credentialsOf (s : Settings) : Credentials := (first? (credentialSources s)).getD .anonymous

def noAccount (path : String) : FsError :=
  .invalidSetting Settings.accountNameKey
    s!"no storage account for '{path}', set it or use a fully qualified URL"

def refusedEndpoint (path endpoint : String) (fault : Endpoint.UrlFault) : FsError :=
  .ofStorage "connect to account for" path (invalidUri endpoint fault)

/-- A client for an account, if there is one with a name, at an endpoint that is a URL. -/
def clientOf (path : String) (account? : Option String) (endpoint : String)
    (credentials : Credentials) : Except FsError Client :=
  match account?.filter (!·.isEmpty) with
  | none => .error (noAccount path)
  | some account =>
    let url := endpointUrl account endpoint
    match Endpoint.checkUrl url.toList with
    | .ok () => .ok ⟨account, url, credentials⟩
    | .error fault => .error (refusedEndpoint path url fault)

/-! ## What is looked up -/

variable {s : Settings} {path : String} {url : BlobUrl}

namespace Usable

theorem get?_eq (h : Usable s) {key : String} (hKey : key ∈ accessKeys) :
    s.get? Json.decodeString key = .ok (s.text? key) :=
  Settings.get?_decodeString (h.texts key hKey)

theorem connectionString_eq (h : Usable s) :
    connectionString s = .ok (ofEntries (givenEntries s)) := by
  have hEntries := h.entries
  unfold connectionString givenEntries
  rw [h.get?_eq (by decide)]
  unfold Settings.text? at hEntries ⊢
  cases hValue : s.value? ConnectionString.settingKey with
  | none => rfl
  | some v =>
    rw [hValue] at hEntries
    cases v with
    | string text => exact parse_eq_ok_iff.mpr ⟨hEntries text rfl, rfl⟩
    | _ => rfl

theorem resolveAccount_eq (h : Usable s) :
    resolveAccount s (ofEntries (givenEntries s)) path url =
      match (accountOf s url).filter (!·.isEmpty) with
      | some account => .ok account
      | none => .error (noAccount path) := by
  unfold resolveAccount
  cases hForm : url.fullyQualified with
  | true =>
    have hAccount : accountOf s url = some url.account := by
      simp [accountOf, first?, accountSources, hForm]
    rw [hAccount]
    rfl
  | false =>
    have hAccount : accountOf s url =
        (s.text? Settings.accountNameKey).or ((givenEntries s).last? "AccountName") := by
      simp only [accountOf, first?, accountSources, hForm]
      cases s.text? Settings.accountNameKey <;> cases (givenEntries s).last? "AccountName" <;> rfl
    rw [hAccount, h.get?_eq (by decide)]
    rfl

theorem resolveEndpoint_eq (h : Usable s) :
    resolveEndpoint s (ofEntries (givenEntries s)) url = .ok (endpointOf s url) := by
  unfold resolveEndpoint
  cases hForm : url.fullyQualified with
  | true =>
    have hEndpoint : endpointOf s url = url.endpoint := by
      simp [endpointOf, first?, endpointSources, hForm]
    rw [hEndpoint]
    rfl
  | false =>
    have hEndpoint : endpointOf s url =
        ((s.text? Settings.endpointKey).or (givenEntries s).endpoint?).getD defaultEndpoint := by
      simp only [endpointOf, first?, endpointSources, hForm]
      cases s.text? Settings.endpointKey <;> cases (givenEntries s).endpoint? <;> rfl
    rw [hEndpoint, h.get?_eq (by decide)]
    rfl

theorem resolveCredentials_eq (h : Usable s) :
    resolveCredentials s (ofEntries (givenEntries s)) = .ok (credentialsOf s) := by
  unfold resolveCredentials credentialsOf first? credentialSources
  rw [h.get?_eq (by decide), h.get?_eq (by decide)]
  cases s.text? Settings.secretKey with
  | some key => rfl
  | none =>
    cases s.text? Settings.tokenKey with
    | some token => rfl
    | none =>
      simp only [ofEntries]
      cases (givenEntries s).last? "AccountKey" <;>
        cases (givenEntries s).last? "SharedAccessSignature" <;> rfl

theorem resolve_eq (h : Usable s) :
    resolve s path url = clientOf path (accountOf s url) (endpointOf s url) (credentialsOf s) := by
  unfold resolve clientOf
  rw [h.connectionString_eq, ok_bind, h.resolveAccount_eq, h.resolveEndpoint_eq,
    h.resolveCredentials_eq]
  cases (accountOf s url).filter (!·.isEmpty) with
  | none => rfl
  | some account =>
    simp only [ok_bind, Client.create]
    cases Endpoint.checkUrl (endpointUrl account (endpointOf s url)).toList <;> rfl

end Usable

/-- For a URL in the long form nothing but the credentials is left to the settings. -/
theorem resolve_eq_of_parse (h : Usable s) {text : String} (hParse : BlobUrl.parse text = .ok url)
    (hForm : url.fullyQualified = true) :
    resolve s path url =
      match Endpoint.checkUrl s!"https://{url.account}.{url.endpoint}".toList with
      | .ok () => .ok ⟨url.account, s!"https://{url.account}.{url.endpoint}", credentialsOf s⟩
      | .error fault =>
        .error (refusedEndpoint path s!"https://{url.account}.{url.endpoint}" fault) := by
  have hName : url.account ≠ "" := (BlobUrl.fullyQualified_iff_of_parse hParse).mp hForm
  have hAccount : (accountOf s url).filter (!·.isEmpty) = some url.account := by
    simp [accountOf, first?, accountSources, hForm, hName]
  have hEndpoint : endpointOf s url = url.endpoint := by
    simp [endpointOf, first?, endpointSources, hForm]
  rw [h.resolve_eq, clientOf, hAccount, hEndpoint]
  simp only [endpointUrl_of_suffix (BlobUrl.slash_not_mem_endpoint_of_parse hParse)]

/-- Usable settings count for the first source of the account, of the endpoint and of the
credentials only. For a URL in the long form the account and the endpoint are its own whatever the
settings are, and whether there is a client depends on that endpoint alone. -/
theorem resolve_follows_first_sources (h : Usable s) (path : String) (url : BlobUrl) :
    (∀ s' : Settings, Usable s' → accountOf s url = accountOf s' url →
      endpointOf s url = endpointOf s' url → credentialsOf s = credentialsOf s' →
      resolve s path url = resolve s' path url) ∧
    resolve s path url = clientOf path (accountOf s url) (endpointOf s url) (credentialsOf s) ∧
    ∀ text, BlobUrl.parse text = .ok url → url.fullyQualified = true →
      let endpoint := s!"https://{url.account}.{url.endpoint}"
      (∀ client, resolve s path url = .ok client →
        client = ⟨url.account, endpoint, credentialsOf s⟩) ∧
      ∀ e, resolve s path url = .error e ↔
        ∃ fault, Endpoint.checkUrl endpoint.toList = .error fault ∧
          e = refusedEndpoint path endpoint fault := by
  refine ⟨?_, h.resolve_eq, ?_⟩
  · intro s' h' hAccount hEndpoint hCredentials
    rw [h.resolve_eq, h'.resolve_eq, hAccount, hEndpoint, hCredentials]
  · intro text hParse hForm endpoint
    rw [resolve_eq_of_parse h hParse hForm]
    cases hCheck : Endpoint.checkUrl endpoint.toList with
    | ok checked =>
      constructor
      · intro client hClient
        cases hClient
        rfl
      · simp
    | error fault =>
      constructor
      · intro client hClient
        cases hClient
      · intro e
        simp [eq_comm, endpoint]

/-! One string gives the endpoint as a whole, the other one only its suffix. Their names and secrets
come behind the ones that are set. -/

def namedWith (text : String) : Settings where
  values := [(Settings.accountNameKey, .string "acct"), (Settings.tokenKey, .string "sig=x"),
    (ConnectionString.settingKey, .string text)]

def wholeEndpoint : Settings :=
  namedWith "AccountName=one;AccountKey=a2V5;BlobEndpoint=https://acct.blob.test"

def splitEndpoint : Settings := namedWith "AccountName=acct;EndpointSuffix=test"

theorem usable_wholeEndpoint : Usable wholeEndpoint := ⟨by decide +kernel, by decide +kernel⟩

theorem usable_splitEndpoint : Usable splitEndpoint := ⟨by decide +kernel, by decide +kernel⟩

def longUrl : BlobUrl := ⟨true, "az://", "other", "one.test", "c", "k"⟩

theorem resolve_follows_first_sources_two_strings :
    resolve wholeEndpoint "az://c/k" (.short "c" "k") =
      resolve splitEndpoint "az://c/k" (.short "c" "k") ∧
    resolve wholeEndpoint "az://other.one.test/c/k" longUrl =
      .ok ⟨"other", "https://other.one.test", .token "sig=x"⟩ := by
  obtain ⟨hSame, -, -⟩ :=
    resolve_follows_first_sources usable_wholeEndpoint "az://c/k" (.short "c" "k")
  obtain ⟨-, -, hLong⟩ :=
    resolve_follows_first_sources usable_wholeEndpoint "az://other.one.test/c/k" longUrl
  obtain ⟨hOwn, hFails⟩ := hLong "az://other.one.test/c/k" (by decide +kernel) rfl
  refine ⟨hSame splitEndpoint usable_splitEndpoint (by decide +kernel) (by decide +kernel)
    (by decide +kernel), ?_⟩
  cases hFound : resolve wholeEndpoint "az://other.one.test/c/k" longUrl with
  | ok client =>
    rw [hOwn client hFound]
    decide +kernel
  | error e =>
    obtain ⟨fault, hFault, -⟩ := (hFails e).mp hFound
    have hFine : Endpoint.checkUrl s!"https://{longUrl.account}.{longUrl.endpoint}".toList =
        .ok () := by
      decide +kernel
    cases hFault.symm.trans hFine

end Remote

end BlobFiles
