import BlobFiles.Proofs.Handle.Reachable

/-! # A reader is a plain file

A plain file has some content and a position, and no window. After any requests, whatever became of
their downloads, a reader answers the next one as the plain file at its position does, unless a
download of that very request is of no use: then it answers with that download's failure. Only a
request inside the file can end so; one that reaches behind the end is out of range whatever the
service would say. A download that went wrong earlier does not show in later bytes.
-/
namespace BlobFiles.PlainFile

inductive IsAccess : FileRequest → Prop
  | read (n : Nat) : IsAccess (.read n)
  | readAt (n offset : Nat) : IsAccess (.readAt n offset)
  | seek (offset : Nat) : IsAccess (.seek offset)

/-- An access that asks for bytes, and for none behind the end. -/
inductive Inside (content : Bytes) : FileRequest → Prop
  | read (n : Nat) : Inside content (.read n)
  | readAt (n offset : Nat) (h : n = 0 ∨ offset + n ≤ content.length) :
      Inside content (.readAt n offset)

/-- What the file `path` answers to an access while it stands at `position`, and where it stands
then. -/
inductive Answers (path : String) (content : Bytes) (position : Nat) :
    FileRequest → Except FileFailure FileReply → Nat → Prop
  | read (n m : Nat) (h : m = min n (content.length - position)) :
      Answers path content position (.read n) (.ok (.some (slice content position m)))
        (position + m)
  | readAt (n offset : Nat) (h : n = 0 ∨ offset + n ≤ content.length) :
      Answers path content position (.readAt n offset) (.ok (.exactly (slice content offset n)))
        (offset + n)
  | outOfRange (n offset : Nat) (hPos : 0 < n) (h : content.length < offset + n) :
      Answers path content position (.readAt n offset)
        (.error (.fs (.outOfRange path offset n content.length))) position
  | seek (offset : Nat) : Answers path content position (.seek offset) (.ok .done) offset

theorem answer_of_sound {σ : Type} {download : Download σ} {content : Bytes} {holds : σ → Prop}
    (hServes : download.Serves content holds) (hSize : content.length < maxOffset) {r : Reader}
    (hSound : r.Sound content) {s : σ} (hs : holds s) {request : FileRequest}
    (hAccess : IsAccess request) :
    (Answers r.path content r.position request (r.answer download request s).1
        (r.answer download request s).2.1.position ∧
      ∀ d ∈ r.downloads download request s, d.failure? = none) ∨
    Inside content request ∧ ∃ d e, r.downloads download request s = [d] ∧ d.failure? = some e ∧
      (r.answer download request s).1 = .error (.fs (.ofStorage "read" r.path e)) := by
  have hLength := hSound.length_eq
  cases hAccess with
  | seek offset =>
    refine .inl ⟨.seek offset, ?_⟩
    intro d hd
    cases hd
  | readAt n offset =>
    simp only [Reader.answer]
    rcases Reader.readAt_cases hServes hSize hSound hs n offset with
      ⟨hPos, hOut, hRead, hLog⟩ | ⟨hIn, r', s', hRead, hPosition, -, -, hLog⟩ |
      ⟨hIn, d, e, s', hLog, hFailure, hRead, -⟩
    · rw [hRead, hLog, hLength]
      refine .inl ⟨.outOfRange n offset hPos hOut, ?_⟩
      intro d hd
      cases hd
    · rw [hRead]
      refine .inl ⟨?_, hLog⟩
      rw [hPosition]
      exact .readAt n offset hIn
    · rw [hRead]
      exact .inr ⟨.readAt n offset hIn, d, e, hLog, hFailure, rfl⟩
  | read n =>
    rw [Reader.downloads_read]
    simp only [Reader.answer, Reader.read]
    rcases Reader.readAt_cases hServes hSize hSound hs (min n (r.length - r.position))
        r.position with
      ⟨hPos, hOut, -, -⟩ | ⟨-, r', s', hRead, hPosition, -, -, hLog⟩ |
      ⟨-, d, e, s', hLog, hFailure, hRead, -⟩
    · -- what is left is inside
      omega
    · rw [hRead]
      refine .inl ⟨?_, hLog⟩
      rw [hPosition]
      exact .read n _ (by rw [hLength])
    · rw [hRead]
      exact .inr ⟨.read n, d, e, hLog, hFailure, rfl⟩

theorem answer_refines_plain_file {σ : Type} {download : Download σ} {content : Bytes}
    {holds : σ → Prop} (hServes : download.Serves content holds)
    (hSize : content.length < maxOffset)
    (path : String) (flags : OpenFlags) (options : ReadOptions)
    (lastModified : Option Time.Instant) (history : List FileRequest) {s₀ : σ} (hs : holds s₀)
    {request : FileRequest} (hAccess : IsAccess request) :
    let opened := Reader.ofProperties path flags options ⟨content.length, lastModified⟩
    let now := Reader.run download history (opened, s₀)
    let result := now.1.answer download request now.2
    let log := now.1.downloads download request now.2
    (Answers path content now.1.position request result.1 result.2.1.position ∧
      ∀ d ∈ log, d.failure? = none) ∨
    Inside content request ∧ ∃ d e, log = [d] ∧ d.failure? = some e ∧
      result.1 = .error (.fs (.ofStorage "read" path e)) := by
  intro opened now result log
  have hOpened : opened.Sound content :=
    Reader.sound_ofProperties path flags options content lastModified
  obtain ⟨hSound, hNow⟩ := Reader.sound_run hServes hSize history hOpened hs
  have hFile : now.1.file = opened.file := Reader.file_run download history opened s₀
  have hPath : now.1.path = path := congrArg Prod.fst hFile
  have hStep := answer_of_sound hServes hSize hSound hNow hAccess
  rw [hPath] at hStep
  exact hStep

/-- A download of `content` whose second call fails and whose third falls short of a byte. -/
def flaky (content : Bytes) : Download Nat := fun offset length _ calls =>
  let answer :=
    if calls = 1 then .error (.unknown "connection reset")
    else if calls = 2 then .ok (slice content offset (length - 1))
    else .ok (slice content offset length)
  (answer, calls + 1)

theorem flaky_serves (content : Bytes) : (flaky content).Serves content fun _ => True where
  keeps _ _ _ _ _ := trivial
  exact offset length options calls data _ hInside hAnswer hLength := by
    simp only [flaky] at hAnswer
    split at hAnswer
    · cases hAnswer
    · split at hAnswer
      · cases hAnswer
        rw [length_slice (by omega)] at hLength
        have hNone : length = 0 := by omega
        rw [hNone]
      · cases hAnswer
        rfl

/-- A window of two bytes, a read that fails in the middle, and the read after it. -/
theorem answer_refines_plain_file_flaky :
    let content : Bytes := [10, 11, 12, 13, 14, 15]
    let opened := Reader.ofProperties "az://c/k" { read := true } { bufferSize := 2 } ⟨6, none⟩
    let now := Reader.run (flaky content) [.read 1, .readAt 3 1] (opened, 0)
    let result := now.1.answer (flaky content) (.read 2) now.2
    let log := now.1.downloads (flaky content) (.read 2) now.2
    (flaky content).Serves content (fun _ => True) ∧ content.length < maxOffset ∧
      IsAccess (.read 2) ∧
      ((Answers "az://c/k" content now.1.position (.read 2) result.1 result.2.1.position ∧
          ∀ d ∈ log, d.failure? = none) ∨
        Inside content (.read 2) ∧ ∃ d e, log = [d] ∧ d.failure? = some e ∧
          result.1 = .error (.fs (.ofStorage "read" "az://c/k" e))) := by
  intro content
  refine ⟨flaky_serves content, by decide, .read 2, ?_⟩
  exact answer_refines_plain_file (flaky_serves content) (by decide) "az://c/k" { read := true }
    { bufferSize := 2 } none [.read 1, .readAt 3 1] trivial (.read 2)

end BlobFiles.PlainFile
