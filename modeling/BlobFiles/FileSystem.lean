import BlobFiles.Glob.Path
import BlobFiles.Handle.Request
import BlobFiles.Session.Contexts

/-! # The file system

Opening blobs as files, asking whether they exist, and expanding wildcards. Everything needs the
host's settings; nothing writes. A wildcard pattern is listed under its literal start and every
listed name is matched against the whole of it; a pattern without wildcards names itself and is not
looked for.
-/
namespace BlobFiles

structure Handle (κ : Type) where
  blob : BlobRef κ
  reader : Reader

namespace FileSystem

variable {σ κ : Type}

def name : String := "AzureBlobStorageFileSystem"

def openBlob (storage : Storage σ κ) (path : String) (flags : OpenFlags) (options : ReadOptions)
    (blob : BlobRef κ) (s : σ) : Except FsError (Handle κ) × σ :=
  match storage.properties blob.client blob.container blob.key s with
  | (.error e, s) => (.error (.ofStorage "open file" path e), s)
  | (.ok properties, s) => (.ok ⟨blob, .ofProperties path flags options properties⟩, s)

/-- The context of a URL with the URL's container open in it. -/
def enter (storage : Storage σ κ) (settings : Settings) (path : String) (url : BlobUrl)
    (w : World σ κ) : Except FsError (StorageContext κ) × World σ κ :=
  match w.acquire storage settings path url with
  | (.error e, w) => (.error e, w)
  | (.ok (_, context), w) =>
    match context.openContainer storage url.container w.service with
    | (.error e, service) => (.error e, { w with service })
    | (.ok (), service) => (.ok context, { w with service })

def openFile (storage : Storage σ κ) (settings : Option Settings) (path : String)
    (flags : OpenFlags) (w : World σ κ) : Except FsError (Handle κ) × World σ κ :=
  if flags.write then (.error .writeRefused, w)
  else
    match settings with
    | none => (.error (.internal "Cannot do Azure storage CreateHandle without FileOpener"), w)
    | some settings =>
      match BlobUrl.parse path with
      | .error e => (.error e, w)
      | .ok url =>
        match enter storage settings path url w with
        | (.error e, w) => (.error e, w)
        | (.ok context, w) =>
          let blob : BlobRef κ := ⟨context.client, url.container, url.path⟩
          let (result, service) := openBlob storage path flags context.options blob w.service
          (result, { w with service })

/-- Whether a path names a blob that is not empty; every failure means no. -/
def fileExists (storage : Storage σ κ) (settings : Option Settings) (path : String)
    (w : World σ κ) : Bool × World σ κ :=
  match openFile storage settings path { read := true } w with
  | (.ok handle, w) => (0 < handle.reader.length, w)
  | (.error _, w) => (false, w)

/-- The URLs of the names on a page that match. -/
def matching (url : BlobUrl) (names : List String) : List String :=
  let pattern := Glob.segments url.path.toList
  (names.filter fun key => Glob.matchSegments pattern (Glob.segments key.toList)).map url.objectUrl

/-- Asks for the page at a token: the token of the next one with all that was found so far, or the
result of the listing. -/
def collectPage (storage : Storage σ κ) (client : κ) (url : BlobUrl) (start : String) :
    Option String × List String →
      StateM σ ((Option String × List String) ⊕ Except StorageError (List String))
  | (token, found), s =>
    match storage.list client url.container start token s with
    | (.error e, s) => (.inr (.error e), s)
    | (.ok page, s) =>
      let found := found ++ matching url page.names
      match page.next with
      | none => (.inr (.ok found), s)
      | some token => (.inl (some token, found), s)

/-- Asks for page after page from `token` on and collects what matches. How long that takes is up to
the service: nothing is promised of one that has always another page. -/
def collect (storage : Storage σ κ) (client : κ) (url : BlobUrl) (start : String)
    (token : Option String) (found : List String) (s : σ) :
    Except StorageError (List String) × σ :=
  repeatM (collectPage storage client url start) (token, found) s

theorem repeatM_apply {α β : Type} [Nonempty β] (f : α → StateM σ (α ⊕ β)) (a : α) (s : σ) :
    repeatM f a s = match f a s with
      | (.inl a, s) => repeatM f a s
      | (.inr b, s) => (b, s) := by
  have : Nonempty σ := ⟨s⟩
  rw [repeatM_eq_of_monadTail]
  change (match f a s with
    | (next, s) => (match next with
      | .inl a => repeatM f a
      | .inr b => (pure b : StateM σ β)) s) = _
  obtain ⟨next, s'⟩ := f a s
  cases next <;> rfl

theorem collect_eq (storage : Storage σ κ) (client : κ) (url : BlobUrl) (start : String)
    (token : Option String) (found : List String) (s : σ) :
    collect storage client url start token found s =
      match storage.list client url.container start token s with
      | (.error e, s) => (.error e, s)
      | (.ok page, s) =>
        match page.next with
        | none => (.ok (found ++ matching url page.names), s)
        | some token =>
          collect storage client url start (some token) (found ++ matching url page.names) s := by
  rw [collect, repeatM_apply, collectPage]
  obtain ⟨answer, s'⟩ := storage.list client url.container start token s
  cases answer with
  | error e => rfl
  | ok page =>
    obtain ⟨names, next⟩ := page
    cases next <;> rfl

def glob (storage : Storage σ κ) (settings : Option Settings) (path : String) (w : World σ κ) :
    Except FsError (List String) × World σ κ :=
  match settings with
  | none => (.error (.internal "Cannot do Azure storage Glob without FileOpener"), w)
  | some settings =>
    match BlobUrl.parse path with
    | .error e => (.error e, w)
    | .ok url =>
      match Glob.sharedPrefix? url.path with
      | none => (.ok [path], w)
      | some start =>
        match enter storage settings path url w with
        | (.error e, w) => (.error e, w)
        | (.ok context, w) =>
          let (result, service) := collect storage context.client url start none [] w.service
          (result.mapError (.ofStorage "glob" path), { w with service })

end FileSystem

end BlobFiles
