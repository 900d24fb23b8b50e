import BlobFiles.FileSystem
import BlobFiles.Proofs.Results
import BlobFiles.Proofs.Session.Route

/-! # Listing page after page

A service that answers the requests of a listing one after another, the first without a token and
each later one with the token of the page before, ends its listing with a page that has no token, or
with a failure. `Listing` is that sequence of answers, seen from the service alone. Expanding a
wildcard makes exactly its requests, and finds all that matches on its pages, in order, or fails as
its last request did.
-/
namespace BlobFiles

variable {σ κ τ : Type}

structure ListRequest where
  container : String
  start : String
  token : Option String
  deriving DecidableEq, Repr

/-- The same service, with something beside its state that no request looks at. -/
def Storage.beside (storage : Storage σ κ) (τ : Type) : Storage (σ × τ) κ where
  connect settings path url s :=
    let (result, service) := storage.connect settings path url s.1
    (result, service, s.2)
  account := storage.account
  openContainer client container s :=
    let (result, service) := storage.openContainer client container s.1
    (result, service, s.2)
  list client container start token s :=
    let (result, service) := storage.list client container start token s.1
    (result, service, s.2)
  properties client container key s :=
    let (result, service) := storage.properties client container key s.1
    (result, service, s.2)
  download client container key offset length options s :=
    let (result, service) := storage.download client container key offset length options s.1
    (result, service, s.2)

/-- The same service, with a log of the pages it was asked for. -/
def Storage.listLogged (storage : Storage σ κ) : Storage (σ × List ListRequest) κ :=
  { storage.beside (List ListRequest) with
    list := fun client container start token s =>
      let (result, service) := storage.list client container start token s.1
      (result, service, s.2 ++ [⟨container, start, token⟩]) }

theorem Storage.connect_listLogged (storage : Storage σ κ) (settings : Settings) (path : String)
    (url : BlobUrl) (s : σ × List ListRequest) :
    storage.listLogged.connect settings path url s =
      ((storage.connect settings path url s.1).1, (storage.connect settings path url s.1).2,
        s.2) := rfl

theorem Storage.openContainer_listLogged (storage : Storage σ κ) (client : κ) (container : String)
    (s : σ × List ListRequest) :
    storage.listLogged.openContainer client container s =
      ((storage.openContainer client container s.1).1,
        (storage.openContainer client container s.1).2, s.2) := rfl

theorem Storage.list_listLogged (storage : Storage σ κ) (client : κ) (container start : String)
    (token : Option String) (s : σ × List ListRequest) :
    storage.listLogged.list client container start token s =
      ((storage.list client container start token s.1).1,
        (storage.list client container start token s.1).2,
        s.2 ++ [⟨container, start, token⟩]) := rfl

def World.beside (w : World σ κ) (extra : τ) : World (σ × τ) κ := ⟨(w.service, extra), w.contexts⟩

theorem World.acquire_listLogged (storage : Storage σ κ) (settings : Settings) (path : String)
    (url : BlobUrl) (w : World σ κ) (log : List ListRequest) :
    (w.beside log).acquire storage.listLogged settings path url =
      ((w.acquire storage settings path url).1,
        (w.acquire storage settings path url).2.beside log) := by
  have hRoute : (w.beside log).contexts.route settings url.account =
      w.contexts.route settings url.account := rfl
  rw [acquire_eq, acquire_eq, hRoute]
  cases w.contexts.route settings url.account with
  | refused e => rfl
  | shared id context => rfl
  | connect options account =>
    simp only [connectTo, World.beside, Storage.connect_listLogged]
    obtain ⟨answer, service⟩ := storage.connect settings path url w.service
    cases answer <;> rfl

namespace FileSystem

theorem enter_listLogged (storage : Storage σ κ) (settings : Settings) (path : String)
    (url : BlobUrl) (w : World σ κ) (log : List ListRequest) :
    enter storage.listLogged settings path url (w.beside log) =
      ((enter storage settings path url w).1,
        (enter storage settings path url w).2.beside log) := by
  unfold enter
  rw [World.acquire_listLogged]
  obtain ⟨result, w'⟩ := w.acquire storage settings path url
  cases result with
  | error e => rfl
  | ok made =>
    obtain ⟨id, context⟩ := made
    simp only [StorageContext.openContainer, World.beside, Storage.openContainer_listLogged]
    cases (storage.openContainer context.client url.container w'.service).1 <;> rfl

/-- The pages that an expansion asks for. -/
def listRequests (storage : Storage σ κ) (settings : Option Settings) (path : String)
    (w : World σ κ) : List ListRequest :=
  (glob storage.listLogged settings path (w.beside [])).2.service.2

/-- What the service answers, from `token` on, to requests that follow its tokens. -/
inductive Listing (storage : Storage σ κ) (client : κ) (container start : String) :
    (token : Option String) → σ → List (Except StorageError ListPage) → Prop
  | failed {token : Option String} {s s' : σ} {e : StorageError}
      (h : storage.list client container start token s = (.error e, s')) :
      Listing storage client container start token s [.error e]
  | ended {token : Option String} {s s' : σ} {names : List String}
      (h : storage.list client container start token s = (.ok ⟨names, none⟩, s')) :
      Listing storage client container start token s [.ok ⟨names, none⟩]
  | more {token : Option String} {s s' : σ} {names : List String} {next : String}
      {answers : List (Except StorageError ListPage)}
      (h : storage.list client container start token s = (.ok ⟨names, some next⟩, s'))
      (hRest : Listing storage client container start (some next) s' answers) :
      Listing storage client container start token s (.ok ⟨names, some next⟩ :: answers)

/-- The tokens of the answers, in order. -/
def tokens (answers : List (Except StorageError ListPage)) : List String :=
  answers.filterMap fun answer =>
    match answer with
    | .ok page => page.next
    | .error _ => none

/-- All names on the pages, or the failure that came in place of one. -/
def gathered : List (Except StorageError ListPage) → Except StorageError (List String)
  | [] => .ok []
  | .error e :: _ => .error e
  | .ok page :: answers => (gathered answers).map (page.names ++ ·)

theorem matching_append (url : BlobUrl) (names more : List String) :
    matching url (names ++ more) = matching url names ++ matching url more := by
  simp only [matching, List.filter_append, List.map_append]

theorem length_tokens {storage : Storage σ κ} {client : κ} {container start : String}
    {token : Option String} {s : σ} {answers : List (Except StorageError ListPage)}
    (h : Listing storage client container start token s answers) :
    (tokens answers).length + 1 = answers.length := by
  induction h with
  | failed => rfl
  | ended => rfl
  | more h hRest ih => exact congrArg (· + 1) ih

theorem collect_of_listing {storage : Storage σ κ} {client : κ} {url : BlobUrl} {start : String}
    {token : Option String} {s : σ} {answers : List (Except StorageError ListPage)}
    (h : Listing storage client url.container start token s answers) (found : List String)
    (log : List ListRequest) :
    ∃ s', collect storage client url start token found s =
        ((gathered answers).map (found ++ matching url ·), s') ∧
      collect storage.listLogged client url start token found (s, log) =
        ((gathered answers).map (found ++ matching url ·), s',
          log ++ (token :: (tokens answers).map some).map (⟨url.container, start, ·⟩)) := by
  -- Each page extends what was found and the log; the rest of the answers goes on from there.
  induction h generalizing found log with
  | @failed token s s' e h =>
    refine ⟨s', ?_, ?_⟩
    · rw [collect_eq, h]
      rfl
    · rw [collect_eq]
      simp only [Storage.list_listLogged, h]
      rfl
  | @ended token s s' names h =>
    refine ⟨s', ?_, ?_⟩
    · rw [collect_eq, h]
      simp [gathered, Except.map]
    · rw [collect_eq]
      simp only [Storage.list_listLogged, h]
      simp [gathered, Except.map, tokens]
  | @more token s s' names next answers h hRest ih =>
    obtain ⟨s'', hPlain, hLogged⟩ := ih (found ++ matching url names)
      (log ++ [⟨url.container, start, token⟩])
    have hGathered : (gathered (.ok ⟨names, some next⟩ :: answers)).map (found ++ matching url ·) =
        (gathered answers).map (found ++ matching url names ++ matching url ·) := by
      rw [gathered]
      cases gathered answers with
      | error e => rfl
      | ok more => simp only [Except.map, matching_append, List.append_assoc]
    rw [hGathered]
    refine ⟨s'', ?_, ?_⟩
    · rw [collect_eq, h]
      exact hPlain
    · rw [collect_eq]
      simp only [Storage.list_listLogged, h]
      rw [List.append_assoc] at hLogged
      exact hLogged

theorem glob_of_enter (storage : Storage σ κ) {settings : Settings} {path : String} {url : BlobUrl}
    (hUrl : BlobUrl.parse path = .ok url) {start : String}
    (hStart : Glob.sharedPrefix? url.path = some start) {w : World σ κ}
    {context : StorageContext κ} (hEnter : (enter storage settings path url w).1 = .ok context) :
    glob storage (some settings) path w =
      let entered := (enter storage settings path url w).2
      let (result, service) := collect storage context.client url start none [] entered.service
      (result.mapError (.ofStorage "glob" path), { entered with service }) := by
  unfold glob
  simp only [hUrl, hStart]
  generalize enter storage settings path url w = entered at hEnter ⊢
  obtain ⟨result, w'⟩ := entered
  cases hEnter
  rfl

theorem gathered_ok (pages : List ListPage) :
    gathered (pages.map .ok) = .ok (pages.flatMap (·.names)) := by
  induction pages with
  | nil => rfl
  | cons page pages ih =>
    rw [List.map_cons, gathered, ih]
    rfl

theorem gathered_error (pages : List ListPage) (e : StorageError) :
    gathered (pages.map .ok ++ [.error e]) = .error e := by
  induction pages with
  | nil => rfl
  | cons page pages ih =>
    rw [List.map_cons, List.cons_append, gathered, ih]
    rfl

theorem glob_follows_listing {storage : Storage σ κ} {settings : Settings} {path : String}
    {url : BlobUrl} (hUrl : BlobUrl.parse path = .ok url) {start : String}
    (hStart : Glob.sharedPrefix? url.path = some start) {w : World σ κ}
    {context : StorageContext κ} (hEnter : (enter storage settings path url w).1 = .ok context)
    {answers : List (Except StorageError ListPage)}
    (hListing : Listing storage context.client url.container start none
      (enter storage settings path url w).2.service answers) :
    let requests := listRequests storage (some settings) path w
    let result := (glob storage (some settings) path w).1
    requests = (none :: (tokens answers).map some).map (⟨url.container, start, ·⟩) ∧
    requests.length = answers.length ∧
    (∀ pages : List ListPage, answers = pages.map .ok →
      result = .ok (((pages.flatMap (·.names)).filter (Glob.matchKey url.path)).map
        url.objectUrl)) ∧
    ∀ (pages : List ListPage) (e : StorageError), answers = pages.map .ok ++ [.error e] →
      result = .error (.ofStorage "glob" path e) := by
  intro requests result
  obtain ⟨s', hPlain, hLogged⟩ := collect_of_listing hListing [] []
  have hEnterLogged := enter_listLogged storage settings path url w []
  have hRequests : requests =
      (none :: (tokens answers).map some).map (⟨url.container, start, ·⟩) := by
    have hGlob := glob_of_enter storage.listLogged hUrl hStart (w := w.beside [])
      (by rw [hEnterLogged]; exact hEnter)
    change (glob storage.listLogged (some settings) path (w.beside [])).2.service.2 = _
    rw [hGlob, hEnterLogged]
    simp only [World.beside, hLogged, List.nil_append]
  have hResult : result = ((gathered answers).map (matching url)).mapError
      (.ofStorage "glob" path) := by
    change (glob storage (some settings) path w).1 = _
    rw [glob_of_enter storage hUrl hStart hEnter]
    simp only [hPlain, List.nil_append]
  refine ⟨hRequests, ?_, ?_, ?_⟩
  · rw [hRequests, List.length_map, List.length_cons, List.length_map]
    exact length_tokens hListing
  · rintro pages rfl
    rw [hResult, gathered_ok]
    rfl
  · rintro pages e rfl
    rw [hResult, gathered_error]
    rfl

/-- The service that has its answers to a listing ready, whatever it is asked. -/
def replay : Storage (List (Except StorageError ListPage)) Unit where
  connect _ _ _ s := (.ok (), s)
  account _ := ""
  openContainer _ _ s := (.ok (), s)
  list _ _ _ _ s :=
    match s with
    | [] => (.ok ⟨[], none⟩, [])
    | answer :: s => (answer, s)
  properties _ _ key s := (.error ⟨"BlobNotFound", "The blob does not exist.", key⟩, s)
  download _ _ key _ _ _ s := (.error ⟨"BlobNotFound", "The blob does not exist.", key⟩, s)

/-- Any pages are the listing of some service: all but the last with a token for the next. -/
theorem listing_replay (container start : String) (token : Option String)
    (pages : List (List String × String)) (last : List String) :
    let answers : List (Except StorageError ListPage) :=
      pages.map (fun page => .ok ⟨page.1, some page.2⟩) ++ [.ok ⟨last, none⟩]
    Listing replay () container start token answers answers := by
  induction pages generalizing token with
  | nil => exact .ended rfl
  | cons page pages ih => exact .more rfl (ih (some page.2))

/-- Three pages, the second of them empty, and a name that is listed twice. -/
theorem glob_follows_listing_past_empty_page :
    let pages : List ListPage := [⟨["data/a.csv", "data/a.json"], some "t2"⟩, ⟨[], some "t3"⟩,
      ⟨["data/sub/b.csv", "data/a.csv"], none⟩]
    let w : World (List (Except StorageError ListPage)) Unit := ⟨pages.map .ok, {}⟩
    let url : BlobUrl := ⟨false, "az://", "", "", "c", "data/*.csv"⟩
    let entered := enter replay {} "az://c/data/*.csv" url w
    (BlobUrl.parse "az://c/data/*.csv" = .ok url ∧ Glob.sharedPrefix? url.path = some "data/" ∧
      entered.1 = .ok ⟨(), {}, true⟩ ∧
      Listing replay () url.container "data/" none entered.2.service (pages.map .ok)) ∧
    listRequests replay (some {}) "az://c/data/*.csv" w =
      [⟨"c", "data/", none⟩, ⟨"c", "data/", some "t2"⟩, ⟨"c", "data/", some "t3"⟩] ∧
    (glob replay (some {}) "az://c/data/*.csv" w).1 =
      .ok ["az://c/data/a.csv", "az://c/data/a.csv"] := by
  intro pages w url entered
  have hUrl : BlobUrl.parse "az://c/data/*.csv" = .ok url := by rfl
  have hStart : Glob.sharedPrefix? "data/*.csv" = some "data/" := by rfl
  have hEnter : entered.1 = .ok ⟨(), {}, true⟩ := by rfl
  have hListing : Listing replay () url.container "data/" none entered.2.service
      (pages.map .ok) :=
    listing_replay url.container "data/" none [(["data/a.csv", "data/a.json"], "t2"), ([], "t3")]
      ["data/sub/b.csv", "data/a.csv"]
  obtain ⟨hRequests, -, hFound, -⟩ := glob_follows_listing hUrl hStart hEnter hListing
  refine ⟨⟨hUrl, hStart, hEnter, hListing⟩, hRequests, ?_⟩
  rw [hFound pages rfl]
  cbv

end FileSystem

end BlobFiles
