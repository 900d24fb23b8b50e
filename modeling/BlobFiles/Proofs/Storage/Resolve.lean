import BlobFiles.Proofs.Results
import BlobFiles.Storage.Remote

/-! # What a remote client is made of

A client that was resolved has the account and the endpoint that `resolveAccount` and
`resolveEndpoint` find, and its endpoint has passed the check. For a fully qualified URL both come
from the URL alone: no setting changes where its requests go.
-/
namespace BlobFiles

theorem Text.mem_of_contains {part text : List Char} (h : Text.contains part text = true)
    {c : Char} (hc : c ∈ part) : c ∈ text := by
  induction text with
  | nil =>
    rw [Text.contains, List.isEmpty_iff] at h
    rw [h] at hc
    cases hc
  | cons d text ih =>
    rw [Text.contains, Bool.or_eq_true, List.isPrefixOf_iff_prefix] at h
    rcases h with hHere | hLater
    · exact hHere.subset hc
    · exact List.mem_cons_of_mem d (ih hLater)

namespace Remote

theorem endpointUrl_of_suffix {endpoint : String} (h : '/' ∉ endpoint.toList) (account : String) :
    endpointUrl account endpoint = s!"https://{account}.{endpoint}" := by
  have hSuffix : Text.contains "://".toList endpoint.toList = false := by
    rw [Bool.eq_false_iff]
    exact fun hUrl => h (Text.mem_of_contains hUrl (by decide))
  rw [endpointUrl, hSuffix]
  rfl

theorem Client.create_eq_ok {account endpoint : String} {credentials : Credentials}
    {client : Client} (h : Client.create account endpoint credentials = .ok client) :
    Endpoint.checkUrl (endpointUrl account endpoint).toList = .ok () ∧
      client = ⟨account, endpointUrl account endpoint, credentials⟩ := by
  unfold Client.create at h
  cases hCheck : Endpoint.checkUrl (endpointUrl account endpoint).toList with
  | error fault =>
    simp only [hCheck] at h
    cases h
  | ok checked =>
    simp only [hCheck] at h
    cases h
    exact ⟨rfl, rfl⟩

theorem of_resolve {s : Settings} {path : String} {url : BlobUrl} {client : Client}
    (h : resolve s path url = .ok client) :
    ∃ cs account endpoint credentials, connectionString s = .ok cs ∧
      resolveAccount s cs path url = .ok account ∧ resolveEndpoint s cs url = .ok endpoint ∧
      resolveCredentials s cs = .ok credentials ∧
      Client.create account endpoint credentials = .ok client := by
  obtain ⟨cs, hString, h⟩ := bind_eq_ok_iff.mp h
  obtain ⟨account, hAccount, h⟩ := bind_eq_ok_iff.mp h
  obtain ⟨endpoint, hEndpoint, h⟩ := bind_eq_ok_iff.mp h
  obtain ⟨credentials, hCredentials, h⟩ := bind_eq_ok_iff.mp h
  exact ⟨cs, account, endpoint, credentials, hString, hAccount, hEndpoint, hCredentials,
    mapError_eq_ok_iff.mp h⟩

end Remote

end BlobFiles
