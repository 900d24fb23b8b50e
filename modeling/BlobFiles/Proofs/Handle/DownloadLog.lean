import BlobFiles.Proofs.Handle.Plan
import BlobFiles.Handle.Request

/-! # The downloads of a request

A download can be made to keep a log of what it was asked and what it answered; nothing else about
it changes. `Reader.downloads` is what one request adds to an empty log, and for a read it is what
was planned. A read fails on its way exactly when its one download is of no use.
-/
namespace BlobFiles

structure DownloadRecord where
  offset : Nat
  length : Nat
  options : TransferOptions
  answer : Except StorageError Bytes

/-- Why a download is of no use: it failed, or it brought another number of bytes than it was asked
for. -/
def DownloadRecord.failure? (d : DownloadRecord) : Option StorageError :=
  match d.answer with
  | .error e => some e
  | .ok data =>
    if data.length = d.length then none
    else some (Reader.wrongLength d.length d.offset data.length)

theorem DownloadRecord.failure?_eq_none_iff {d : DownloadRecord} :
    d.failure? = none ↔ ∃ data, d.answer = .ok data ∧ data.length = d.length := by
  unfold failure?
  constructor
  · intro h
    split at h
    · cases h
    · rename_i data hData
      by_cases hLength : data.length = d.length
      · exact ⟨data, hData, hLength⟩
      · rw [if_neg hLength] at h
        cases h
  · rintro ⟨data, hData, hLength⟩
    rw [hData]
    exact if_pos hLength

/-- The same download, with a log of what it was asked and what it answered. -/
def Download.logged {σ : Type} (download : Download σ) : Download (σ × List DownloadRecord) :=
  fun offset length options s =>
    let (answer, service) := download offset length options s.1
    (answer, service, s.2 ++ [⟨offset, length, options, answer⟩])

namespace Reader

variable {σ : Type}

def downloads (download : Download σ) (r : Reader) (request : FileRequest) (s : σ) :
    List DownloadRecord :=
  (r.answer download.logged request (s, [])).2.2.2

def record (download : Download σ) (r : Reader) (offset length : Nat) (s : σ) : DownloadRecord :=
  ⟨offset, length, r.options.transfer, (download offset length r.options.transfer s).1⟩

def planned (download : Download σ) (r : Reader) (n offset : Nat) (s : σ) : List DownloadRecord :=
  match (r.plan n offset).range? with
  | none => []
  | some (start, length) => [r.record download start length s]

def serviceAfter (download : Download σ) (r : Reader) (n offset : Nat) (s : σ) : σ :=
  match (r.plan n offset).range? with
  | none => s
  | some (start, length) => (download start length r.options.transfer s).2

theorem fetch_of_failure {download : Download σ} {r : Reader} {offset length : Nat} {s : σ}
    {e : StorageError} (h : (r.record download offset length s).failure? = some e) :
    r.fetch download offset length s =
      (.error (.ofStorage "read" r.path e), (download offset length r.options.transfer s).2) := by
  unfold record DownloadRecord.failure? at h
  unfold fetch
  generalize download offset length r.options.transfer s = result at h ⊢
  obtain ⟨answer, s'⟩ := result
  cases answer with
  | error e' =>
    cases h
    rfl
  | ok data =>
    by_cases hLength : data.length = length
    · simp only [if_pos hLength] at h
      cases h
    · simp only [if_neg hLength, Option.some.injEq] at h
      subst h
      exact if_neg hLength

theorem fetch_of_answer {download : Download σ} {r : Reader} {offset length : Nat} {s : σ}
    {data : Bytes} (h : (download offset length r.options.transfer s).1 = .ok data)
    (hLength : data.length = length) :
    r.fetch download offset length s =
      (.ok data, (download offset length r.options.transfer s).2) := by
  unfold fetch
  generalize download offset length r.options.transfer s = result at h ⊢
  obtain ⟨answer, s'⟩ := result
  cases h
  exact if_pos hLength

/-- A read ends well when its download does, and otherwise with the download's failure. -/
theorem carryOut_cases (download : Download σ) (r : Reader) (n offset : Nat) (s : σ) :
    (∃ data, r.carryOut download n offset s = (.ok (r.delivered n offset data),
          r.finished n offset data, r.serviceAfter download n offset s) ∧
        (∀ d ∈ r.planned download n offset s, d.failure? = none) ∧
        ∀ start length, (r.plan n offset).range? = some (start, length) →
          (download start length r.options.transfer s).1 = .ok data ∧ data.length = length) ∨
    ∃ d e, r.planned download n offset s = [d] ∧ d.failure? = some e ∧
      r.carryOut download n offset s = (.error (.ofStorage "read" r.path e),
        r.interrupted n offset, r.serviceAfter download n offset s) := by
  unfold carryOut planned serviceAfter
  cases hPlan : (r.plan n offset).range? with
  | none => exact .inl ⟨[], rfl, by simp, by simp⟩
  | some range =>
    obtain ⟨start, length⟩ := range
    cases hFailure : (r.record download start length s).failure? with
    | some e =>
      refine .inr ⟨_, e, rfl, hFailure, ?_⟩
      simp only [fetch_of_failure hFailure]
    | none =>
      obtain ⟨data, hData, hLength⟩ := DownloadRecord.failure?_eq_none_iff.mp hFailure
      refine .inl ⟨data, ?_, ?_, ?_⟩
      · simp only [fetch_of_answer hData hLength]
      · simpa using hFailure
      · rintro start' length' h
        cases h
        exact ⟨hData, hLength⟩

theorem fetch_logged (download : Download σ) (r : Reader) (offset length : Nat) (s : σ)
    (log : List DownloadRecord) :
    r.fetch download.logged offset length (s, log) =
      ((r.fetch download offset length s).1, (r.fetch download offset length s).2,
        log ++ [r.record download offset length s]) := by
  unfold fetch Download.logged record
  obtain ⟨answer, s'⟩ := download offset length r.options.transfer s
  cases answer with
  | error e => rfl
  | ok data =>
    simp only
    split <;> rfl

theorem carryOut_logged (download : Download σ) (r : Reader) (n offset : Nat) (s : σ)
    (log : List DownloadRecord) :
    r.carryOut download.logged n offset (s, log) =
      ((r.carryOut download n offset s).1, (r.carryOut download n offset s).2.1,
        (r.carryOut download n offset s).2.2, log ++ r.planned download n offset s) := by
  unfold carryOut planned
  cases (r.plan n offset).range? with
  | none => simp only [List.append_nil]
  | some range =>
    obtain ⟨start, length⟩ := range
    simp only [fetch_logged]
    obtain ⟨answer, s'⟩ := r.fetch download start length s
    cases answer <;> rfl

theorem downloads_readAt_of_outOfRange (download : Download σ) {r : Reader} {n offset : Nat}
    (h : r.outOfRange n offset = true) (s : σ) :
    r.downloads download (.readAt n offset) s = [] := by
  change (r.readAt download.logged n offset (s, [])).2.2.2 = []
  rw [readAt_of_outOfRange _ h]

theorem downloads_readAt (download : Download σ) {r : Reader} {n offset : Nat}
    (h : r.outOfRange n offset = false) (s : σ) :
    r.downloads download (.readAt n offset) s = r.planned download n offset s := by
  change (r.readAt download.logged n offset (s, [])).2.2.2 = _
  rw [readAt_eq_carryOut _ h, carryOut_logged, List.nil_append]

theorem downloads_read (download : Download σ) (r : Reader) (n : Nat) (s : σ) :
    r.downloads download (.read n) s =
      r.downloads download (.readAt (min n (r.length - r.position)) r.position) s := rfl

end Reader

end BlobFiles
