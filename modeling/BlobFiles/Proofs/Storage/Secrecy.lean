import BlobFiles.Proofs.Settings.ConnectionString
import BlobFiles.Proofs.Settings.Lookup
import BlobFiles.Proofs.Url.Parts
import BlobFiles.Storage.Remote

/-! # Secrets are not shown

An account key and a token are values of two settings and of two entries of the connection string.
Two runs in which nothing else differs fail with the same error, or give clients that look the same;
a text with a part of a secret in it would tell them apart.
-/
namespace BlobFiles

/-- Two texts, or none. -/
inductive BothSet : Option String → Option String → Prop
  | none : BothSet none none
  | some (text text' : String) : BothSet (some text) (some text')

namespace BothSet

theorem refl (text? : Option String) : BothSet text? text? := by
  cases text? with
  | none => exact .none
  | some text => exact .some text text

theorem or {first first' second second' : Option String} (h : BothSet first first')
    (hSecond : BothSet second second') : BothSet (first.or second) (first'.or second') := by
  cases h with
  | none => exact hSecond
  | some text text' => exact .some text text'

end BothSet

namespace ConnectionString

open Text

/-- The names of the entries whose values are secrets. -/
def secretNames : List (List Char) := ["AccountKey".toList, "SharedAccessSignature".toList]

/-- What stands between two semicolons, but for the value of a secret entry. -/
inductive SamePiece : List Char → List Char → Prop
  | same (piece : List Char) : SamePiece piece piece
  | secret {name : List Char} (hName : '=' ∉ name) (hSecret : trim name ∈ secretNames)
      (value value' : List Char) : SamePiece (name ++ '=' :: value) (name ++ '=' :: value')

def SameText (text text' : String) : Prop :=
  List.Forall₂ SamePiece (text.toList.splitOn ';') (text'.toList.splitOn ';')

inductive SameEntry : List Char × List Char → List Char × List Char → Prop
  | same (e : List Char × List Char) : SameEntry e e
  | secret {name : List Char} (hSecret : name ∈ secretNames) (value value' : List Char) :
      SameEntry (name, value) (name, value')

abbrev SameEntries (entries entries' : Entries) : Prop := List.Forall₂ SameEntry entries entries'

structure SameString (cs cs' : ConnectionString) : Prop where
  accountName : cs.accountName = cs'.accountName
  blobEndpoint : cs.blobEndpoint = cs'.blobEndpoint
  accountKey : BothSet cs.accountKey cs'.accountKey
  sasToken : BothSet cs.sasToken cs'.sasToken

theorem SameString.refl (cs : ConnectionString) : SameString cs cs :=
  ⟨rfl, rfl, .refl _, .refl _⟩

theorem SameEntry.name_eq {e e' : List Char × List Char} (h : SameEntry e e') : e.1 = e'.1 := by
  cases h <;> rfl

theorem last?_cons (e : List Char × List Char) (entries : Entries) (name : String) :
    Entries.last? (e :: entries) name =
      (entries.last? name).or (if e.1 = name.toList then some (.ofList e.2) else none) := by
  simp only [Entries.last?, List.reverse_cons, List.find?_append, Option.map_or]
  by_cases hName : e.1 = name.toList <;> simp [hName]

variable {entries entries' : Entries}

theorem last?_eq_of_same (h : SameEntries entries entries') {name : String}
    (hPublic : name.toList ∉ secretNames) : entries.last? name = entries'.last? name := by
  induction h with
  | nil => rfl
  | cons hEntry hRest ih =>
    rw [last?_cons, last?_cons, ih]
    cases hEntry with
    | same e => rfl
    | secret hSecret value value' =>
      have hOther : ¬ _ = name.toList := fun hSame => hPublic (hSame ▸ hSecret)
      rw [if_neg hOther, if_neg hOther]

theorem bothSet_last? (h : SameEntries entries entries') (name : String) :
    BothSet (entries.last? name) (entries'.last? name) := by
  induction h with
  | nil => exact .none
  | cons hEntry hRest ih =>
    rw [last?_cons, last?_cons, hEntry.name_eq]
    apply ih.or
    split
    · exact .some _ _
    · exact .none

theorem sameString_ofEntries (h : SameEntries entries entries') :
    SameString (ofEntries entries) (ofEntries entries') := by
  have hName : entries.last? "AccountName" = entries'.last? "AccountName" :=
    last?_eq_of_same h (by decide)
  have hEndpoint : entries.last? "BlobEndpoint" = entries'.last? "BlobEndpoint" :=
    last?_eq_of_same h (by decide)
  have hSuffix : entries.last? "EndpointSuffix" = entries'.last? "EndpointSuffix" :=
    last?_eq_of_same h (by decide)
  have hProtocol : entries.last? "DefaultEndpointsProtocol" =
      entries'.last? "DefaultEndpointsProtocol" := last?_eq_of_same h (by decide)
  refine ⟨hName, ?_, bothSet_last? h _, bothSet_last? h _⟩
  simp only [ofEntries, Entries.endpoint?, hName, hEndpoint, hSuffix, hProtocol]

/-- A piece with a secret is an entry, whatever the secret is. -/
theorem mapM_entry_secret {name : List Char} (hName : '=' ∉ name) (value : List Char)
    (pieces : List (List Char)) :
    ((((name ++ '=' :: value) :: pieces).map trim).filter (!·.isEmpty)).mapM entry = do
      let more ← ((pieces.map trim).filter (!·.isEmpty)).mapM entry
      return (trim name, trim value) :: more := by
  have hRead := read?_append hName value
  have hSome : trim (name ++ '=' :: value) ≠ [] := by
    intro hBlank
    rw [← read?_trim, hBlank] at hRead
    cases hRead
  rw [mapM_entry_cons hSome, hRead]
  rfl

theorem alike_entries {pieces pieces' : List (List Char)}
    (h : List.Forall₂ SamePiece pieces pieces') :
    Alike SameEntries (((pieces.map trim).filter (!·.isEmpty)).mapM entry)
      (((pieces'.map trim).filter (!·.isEmpty)).mapM entry) := by
  induction h with
  | nil => exact .ok .nil
  | @cons piece _ _ _ hPiece hRest ih =>
    cases hPiece with
    | same =>
      by_cases hBlank : trim piece = []
      · rwa [mapM_entry_cons_of_blank hBlank, mapM_entry_cons_of_blank hBlank]
      · rw [mapM_entry_cons hBlank, mapM_entry_cons hBlank]
        refine (Alike.of_eq SameEntry.same _).bind fun e e' hEntry => ?_
        exact ih.bind fun more more' hMore => .ok (.cons hEntry hMore)
    | secret hName hSecret value value' =>
      -- the equals sign keeps the piece from being blank or malformed in either run
      rw [mapM_entry_secret hName, mapM_entry_secret hName]
      exact ih.bind fun more more' hMore => .ok (.cons (.secret hSecret _ _) hMore)

theorem parse_eq (text : String) :
    parse text = (((parts text.toList).mapM entry).map ofEntries).mapError fun part =>
      .invalidSetting settingKey s!"malformed entry '{String.ofList part}'" := by
  unfold parse
  cases (parts text.toList).mapM entry <;> rfl

theorem alike_parse {text text' : String} (h : SameText text text') :
    Alike SameString (parse text) (parse text') := by
  rw [parse_eq, parse_eq]
  exact ((alike_entries h).map fun _ _ => sameString_ofEntries).mapError _

end ConnectionString

namespace Remote

/-- The settings that are secrets as a whole. -/
def secretKeys : List String := [Settings.secretKey, Settings.tokenKey]

/-- Settings that differ in secrets only. -/
def SameSettings (s s' : Settings) : Prop :=
  ∀ key, s.value? key = s'.value? key ∨
    ∃ text text', s.value? key = some (.string text) ∧ s'.value? key = some (.string text') ∧
      (key ∈ secretKeys ∨
        key = ConnectionString.settingKey ∧ ConnectionString.SameText text text')

/-- Clients that look the same. -/
structure SameClient (client client' : Client) : Prop where
  account : client.account = client'.account
  endpoint : client.endpoint = client'.endpoint
  credentials : client.credentials.redacted = client'.credentials.redacted

namespace SameSettings

open ConnectionString (SameString)

variable {s s' : Settings} {cs cs' : ConnectionString} {key : String}

theorem get?_eq (h : SameSettings s s') (hPublic : key ∉ secretKeys)
    (hKey : key ≠ ConnectionString.settingKey) :
    s.get? Json.decodeString key = s'.get? Json.decodeString key := by
  rcases h key with hSame | ⟨text, text', -, -, hSecret | ⟨hString, -⟩⟩
  · exact Settings.get?_congr hSame
  · exact absurd hSecret hPublic
  · exact absurd hString hKey

/-- Whether a text is set is no secret, nor is a value that is no text. -/
theorem alike_get? (h : SameSettings s s') (key : String) :
    Alike BothSet (s.get? Json.decodeString key) (s'.get? Json.decodeString key) := by
  rcases h key with hSame | ⟨text, text', hValue, hValue', -⟩
  · rw [Settings.get?_congr hSame]
    exact .of_eq BothSet.refl _
  · rw [Settings.get?_of_string hValue, Settings.get?_of_string hValue']
    exact .ok (.some text text')

theorem alike_connectionString (h : SameSettings s s') :
    Alike SameString (connectionString s) (connectionString s') := by
  unfold connectionString
  rcases h ConnectionString.settingKey with
    hSame | ⟨text, text', hValue, hValue', hSecret | ⟨-, hText⟩⟩
  · rw [Settings.get?_congr hSame]
    exact .of_eq SameString.refl _
  · exact absurd hSecret (by decide)
  · rw [Settings.get?_of_string hValue, Settings.get?_of_string hValue']
    exact ConnectionString.alike_parse hText

theorem resolveAccount_eq (h : SameSettings s s') (hString : SameString cs cs') (path : String)
    (url : BlobUrl) : resolveAccount s cs path url = resolveAccount s' cs' path url := by
  unfold resolveAccount
  rw [h.get?_eq (by decide) (by decide), hString.accountName]

theorem resolveEndpoint_eq (h : SameSettings s s') (hString : SameString cs cs') (url : BlobUrl) :
    resolveEndpoint s cs url = resolveEndpoint s' cs' url := by
  unfold resolveEndpoint
  rw [h.get?_eq (by decide) (by decide), hString.blobEndpoint]

theorem alike_resolveCredentials (h : SameSettings s s') (hString : SameString cs cs') :
    Alike (fun c c' => c.redacted = c'.redacted) (resolveCredentials s cs)
      (resolveCredentials s' cs') := by
  unfold resolveCredentials
  refine (h.alike_get? Settings.secretKey).bind fun key? key?' hKey => ?_
  cases hKey with
  | some key key' => exact .ok rfl
  | none =>
    refine (h.alike_get? Settings.tokenKey).bind fun token? token?' hToken => ?_
    cases hToken with
    | some token token' => exact .ok rfl
    | none =>
      -- no setting is left, so the entries of the connection string decide
      obtain ⟨-, -, hKey, hToken⟩ := hString
      generalize cs.accountKey = key?, cs'.accountKey = key?' at hKey ⊢
      generalize cs.sasToken = token?, cs'.sasToken = token?' at hToken ⊢
      cases hKey with
      | some key key' => exact .ok rfl
      | none => cases hToken <;> exact .ok rfl

theorem alike_create {account endpoint : String} {credentials credentials' : Credentials}
    (h : credentials.redacted = credentials'.redacted) :
    Alike SameClient (Client.create account endpoint credentials)
      (Client.create account endpoint credentials') := by
  simp only [Client.create]
  cases Endpoint.checkUrl (endpointUrl account endpoint).toList with
  | error fault => exact .error _
  | ok checked => exact .ok ⟨rfl, rfl, h⟩

theorem alike_resolve (h : SameSettings s s') (path : String) (url : BlobUrl) :
    Alike SameClient (resolve s path url) (resolve s' path url) := by
  unfold resolve
  refine h.alike_connectionString.bind fun cs cs' hString => ?_
  rw [h.resolveAccount_eq hString, h.resolveEndpoint_eq hString]
  -- account and endpoint are the same step in both runs
  refine (Alike.of_eq Eq.refl _).bind fun account account' hAccount => ?_
  refine (Alike.of_eq Eq.refl _).bind fun endpoint endpoint' hEndpoint => ?_
  subst hAccount hEndpoint
  refine (h.alike_resolveCredentials hString).bind fun credentials credentials' hShown => ?_
  exact (alike_create hShown).mapError _

end SameSettings

/-- Connection strings that differ in secrets only are refused with the same error, or have the same
account name and endpoint. Settings that differ in secrets only give the same error, or clients that
look the same. -/
theorem secrets_not_shown :
    (∀ text text' : String, ConnectionString.SameText text text' →
      Alike ConnectionString.SameString (ConnectionString.parse text)
        (ConnectionString.parse text')) ∧
    ∀ (s s' : Settings) (path : String) (url : BlobUrl), SameSettings s s' →
      Alike SameClient (resolve s path url) (resolve s' path url) :=
  ⟨fun _ _ h => ConnectionString.alike_parse h, fun _ _ path url h => h.alike_resolve path url⟩

/-! Two keys in one connection string, next to two tokens. -/

def keyed (key : String) : String := s!"AccountName=acct;AccountKey={key};EndpointSuffix=test"

def keyedSettings (key token : String) : Settings where
  values := [(ConnectionString.settingKey, .string (keyed key)),
    (Settings.tokenKey, .string token)]

theorem sameText_keyed : ConnectionString.SameText (keyed "a2V5") (keyed "b3RoZXI=") := by
  have hSplit : (keyed "a2V5").toList.splitOn ';' = ["AccountName=acct".toList,
      "AccountKey".toList ++ '=' :: "a2V5".toList, "EndpointSuffix=test".toList] := by
    decide
  have hSplit' : (keyed "b3RoZXI=").toList.splitOn ';' = ["AccountName=acct".toList,
      "AccountKey".toList ++ '=' :: "b3RoZXI=".toList, "EndpointSuffix=test".toList] := by
    decide
  rw [ConnectionString.SameText, hSplit, hSplit']
  exact .cons (.same _) (.cons (.secret (by decide) (by decide) _ _) (.cons (.same _) .nil))

theorem sameSettings_keyed :
    SameSettings (keyedSettings "a2V5" "sig=x") (keyedSettings "b3RoZXI=" "sig=y") := by
  intro key
  by_cases hString : key = ConnectionString.settingKey
  · subst hString
    exact .inr ⟨_, _, rfl, rfl, .inr ⟨rfl, sameText_keyed⟩⟩
  · by_cases hToken : key = Settings.tokenKey
    · subst hToken
      exact .inr ⟨_, _, rfl, rfl, .inl (by decide)⟩
    · left
      simp [Settings.value?, keyedSettings, Json.Members.get?, Ne.symm hString, Ne.symm hToken]

theorem secrets_not_shown_keyed :
    ConnectionString.parse (keyed "a2V5") ≠ ConnectionString.parse (keyed "b3RoZXI=") ∧
    Alike ConnectionString.SameString (ConnectionString.parse (keyed "a2V5"))
      (ConnectionString.parse (keyed "b3RoZXI=")) ∧
    Alike SameClient (resolve (keyedSettings "a2V5" "sig=x") "az://c/k" (.short "c" "k"))
      (resolve (keyedSettings "b3RoZXI=" "sig=y") "az://c/k" (.short "c" "k")) := by
  obtain ⟨hParse, hResolve⟩ := secrets_not_shown
  exact ⟨by decide +kernel, hParse _ _ sameText_keyed, hResolve _ _ _ _ sameSettings_keyed⟩

end Remote

end BlobFiles
