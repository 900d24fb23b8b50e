import BlobFiles.Proofs.Handle.PlainFile

/-! # A read downloads once at most

What the window has from the offset on is the supply of a read, and what is missing behind it is one
download: of just that much when it is more than the window can take, of as much as the window can
take otherwise. The first leaves the window alone and the second replaces what it has. Nothing is
assumed of the answers, nor of what was asked before, so the window may be a stale one.
-/
namespace BlobFiles

namespace Window

variable {w : Window} {offset n : Nat}

/-- The range of the blob that the window has, and its bytes. -/
def contents (w : Window) : Nat × Nat × Bytes := (w.start, w.stop, w.bytes)

theorem contents_locate (w : Window) (offset : Nat) : (w.locate offset).contents = w.contents := by
  unfold locate
  split <;> rfl

theorem holds_of_lt_supply {i : Nat} (h : i < w.supply offset n) : w.holds (offset + i) = true := by
  unfold supply at h
  split at h
  · rename_i hHolds
    simp only [holds, Bool.and_eq_true, decide_eq_true_eq] at hHolds ⊢
    omega
  · omega

theorem not_holds_of_supply_lt (h : w.supply offset n < n) :
    w.holds (offset + w.supply offset n) = false := by
  unfold supply at h ⊢
  by_cases hHolds : w.holds offset = true
  · rw [if_pos hHolds] at h ⊢
    simp only [holds, Bool.and_eq_false_iff, decide_eq_false_iff_not]
    omega
  · rw [if_neg hHolds]
    exact Bool.eq_false_iff.mpr hHolds

end Window

namespace Reader

variable {σ : Type} {download : Download σ} {r : Reader} {n offset : Nat}

/-! ## What becomes of the window -/

theorem contents_supplied (r : Reader) (n offset : Nat) :
    (r.supplied n offset).window.contents = r.window.contents := r.window.contents_locate offset

theorem contents_interrupted (r : Reader) (n offset : Nat) :
    (r.interrupted n offset).window.contents = r.window.contents := by
  unfold interrupted
  split
  · rfl
  · exact r.contents_supplied n offset

theorem contents_finished (r : Reader) (n offset : Nat) (data : Bytes) :
    (r.finished n offset data).window.contents =
      match r.plan n offset with
      | .refill start length => (start, start + length, data)
      | _ => r.window.contents := by
  unfold finished
  cases r.plan n offset with
  | direct start length => rfl
  | refill start length => rfl
  | supplied => exact r.contents_supplied n offset
  | past start length => exact r.contents_supplied n offset

/-! ## The plan, case by case -/

theorem plan_of_supplied (hBuffered : (r.flags.directIo && decide (0 < n)) = false)
    (hAll : n - r.window.supply offset n = 0) : r.plan n offset = .supplied := by
  rw [plan_of_buffered hBuffered]
  exact if_pos hAll

theorem plan_of_capacity_lt (hBuffered : (r.flags.directIo && decide (0 < n)) = false)
    (hMore : r.window.capacity < n - r.window.supply offset n) :
    r.plan n offset =
      .past (offset + r.window.supply offset n) (n - r.window.supply offset n) := by
  have hSome : n - r.window.supply offset n ≠ 0 := by omega
  have hRoom : r.room (offset + r.window.supply offset n) < n - r.window.supply offset n :=
    Nat.lt_of_le_of_lt (Nat.min_le_left _ _) hMore
  rw [plan_of_buffered hBuffered]
  simp only [if_neg hSome, if_pos hRoom]

theorem plan_of_le_capacity (hBuffered : (r.flags.directIo && decide (0 < n)) = false)
    (hRange : n = 0 ∨ offset + n ≤ r.length) (hSome : 0 < n - r.window.supply offset n)
    (hFits : n - r.window.supply offset n ≤ r.window.capacity) :
    r.plan n offset = .refill (offset + r.window.supply offset n)
      (r.room (offset + r.window.supply offset n)) := by
  have hRoom : ¬ r.room (offset + r.window.supply offset n) < n - r.window.supply offset n := by
    -- the range ends inside the blob, so the rest of the blob is not too small for it
    unfold room
    omega
  rw [plan_of_buffered hBuffered]
  simp only [if_neg (Nat.ne_of_gt hSome), if_neg hRoom]

/-! ## Requests that read once -/

/-- A read from the position asks for no more than is left, and one at an offset has to end inside
the blob. -/
inductive Reads (r : Reader) : FileRequest → (n offset : Nat) → Prop
  | read (k : Nat) : Reads r (.read k) (min k (r.length - r.position)) r.position
  | readAt (n offset : Nat) (h : n = 0 ∨ offset + n ≤ r.length) :
      Reads r (.readAt n offset) n offset
  | streamRead (k : Nat) : Reads r (.streamRead k) (min k (r.length - r.position)) r.position
  | streamReadExactAt (n offset : Nat) (h : n = 0 ∨ offset + n ≤ r.length) :
      Reads r (.streamReadExactAt n offset) n offset

namespace Reads

variable {request : FileRequest}

theorem inside (h : r.Reads request n offset) : n = 0 ∨ offset + n ≤ r.length := by
  cases h with
  | read k => omega
  | readAt _ _ hInside => exact hInside
  | streamRead k => omega
  | streamReadExactAt _ _ hInside => exact hInside

theorem answer_eq (h : r.Reads request n offset) (download : Download σ) (s : σ) :
    (r.answer download request s).2 = (r.carryOut download n offset s).2 := by
  rw [← readAt_eq_carryOut download (outOfRange_of_inside h.inside)]
  cases h <;> rfl

theorem downloads_eq (h : r.Reads request n offset) (download : Download σ) (s : σ) :
    r.downloads download request s = r.planned download n offset s := by
  rw [downloads, h.answer_eq, carryOut_logged]
  rfl

theorem downloads_of_range (h : r.Reads request n offset) {start length : Nat}
    (hPlan : (r.plan n offset).range? = some (start, length)) (download : Download σ) (s : σ) :
    r.downloads download request s = [r.record download start length s] := by
  rw [h.downloads_eq, planned, hPlan]

theorem downloads_of_supplied (h : r.Reads request n offset)
    (hPlan : r.plan n offset = .supplied) (download : Download σ) (s : σ) :
    r.downloads download request s = [] := by
  rw [h.downloads_eq, planned, hPlan]
  rfl

theorem of_mem_downloads (h : r.Reads request n offset) {s : σ} {d : DownloadRecord}
    (hd : d ∈ r.downloads download request s) :
    0 < d.length ∧ d.offset + d.length ≤ r.length ∧ d.options = r.options.transfer := by
  rw [h.downloads_eq, planned] at hd
  split at hd
  · cases hd
  · rename_i start length hPlan
    obtain ⟨-, hPos, hEnd⟩ := range_of_plan h.inside hPlan
    cases List.mem_singleton.mp hd
    exact ⟨hPos, hEnd, rfl⟩

theorem contents_of_past (h : r.Reads request n offset) {start length : Nat}
    (hPlan : r.plan n offset = .past start length) (download : Download σ) (s : σ) :
    (r.answer download request s).2.1.window.contents = r.window.contents := by
  rw [h.answer_eq]
  rcases carryOut_cases download r n offset s with ⟨data, hOk, -⟩ | ⟨d, e, -, -, hFailed⟩
  · rw [hOk, contents_finished, hPlan]
  · rw [hFailed]
    exact r.contents_interrupted n offset

theorem contents_of_refill (h : r.Reads request n offset) {start length : Nat} {s : σ}
    {data : Bytes} (hPlan : r.plan n offset = .refill start length)
    (hAnswer : (download start length r.options.transfer s).1 = .ok data)
    (hLength : data.length = length) :
    (r.answer download request s).2.1.window.contents = (start, start + length, data) := by
  have hRange : (r.plan n offset).range? = some (start, length) := congrArg Plan.range? hPlan
  have hFinished : (r.carryOut download n offset s).2.1 = r.finished n offset data := by
    rw [carryOut, hRange]
    simp only [fetch_of_answer hAnswer hLength]
  rw [h.answer_eq, hFinished, contents_finished, hPlan]

end Reads

/-- Whatever was asked before, a read makes one download at most, of what the window does not supply
and of what fits into it from there on. -/
theorem read_downloads_missing_range (download : Download σ) (path : String) (flags : OpenFlags)
    (options : ReadOptions) (properties : BlobProperties) (history : List FileRequest) (s₀ : σ)
    {request : FileRequest} {n offset : Nat}
    (hReads : (run download history (ofProperties path flags options properties, s₀)).1.Reads
      request n offset) :
    let now := run download history (ofProperties path flags options properties, s₀)
    let before := now.1.window
    let after := (now.1.answer download request now.2).2.1.window
    let log := now.1.downloads download request now.2
    let asked := log.map fun d => (d.offset, d.length)
    let capacity := if flags.read then options.bufferSize else 0
    let supply := before.supply offset n
    let missing := n - supply
    let room := min capacity (properties.size - (offset + supply))
    ((∀ i < supply, before.holds (offset + i) = true) ∧
      (supply < n → before.holds (offset + supply) = false)) ∧
    (flags.directIo = true ∧ 0 < n → asked = [(offset, n)]) ∧
    (¬(flags.directIo = true ∧ 0 < n) →
      (missing = 0 → asked = []) ∧
      (capacity < missing →
        asked = [(offset + supply, missing)] ∧ after.contents = before.contents) ∧
      (0 < missing → missing ≤ capacity →
        ∃ d, log = [d] ∧ (d.offset, d.length) = (offset + supply, room) ∧
          ∀ data, d.answer = .ok data → data.length = room →
            after.contents = (offset + supply, offset + supply + room, data))) ∧
    ∀ d ∈ log, 0 < d.length ∧ d.offset + d.length ≤ properties.size ∧
      d.options = options.transfer := by
  intro now before after log asked capacity supply missing room
  have hFile : now.1.file = (ofProperties path flags options properties).file :=
    file_run download history _ s₀
  have hFlags : now.1.flags = flags := flags_of_file hFile
  have hOptions : now.1.options = options := options_of_file hFile
  have hLength : now.1.length = properties.size := length_of_file hFile
  have hCapacity : now.1.window.capacity = capacity := capacity_of_file hFile
  refine ⟨⟨fun i hi => Window.holds_of_lt_supply hi, Window.not_holds_of_supply_lt⟩, ?_, ?_, ?_⟩
  · rintro ⟨hDirect, hPos⟩
    rw [← hFlags] at hDirect
    have hPlan := plan_of_directIo hDirect hPos offset
    exact congrArg _ (hReads.downloads_of_range (congrArg Plan.range? hPlan) download now.2)
  · intro hOther
    have hBuffered : (now.1.flags.directIo && decide (0 < n)) = false := by
      rw [hFlags, Bool.eq_false_iff, ne_eq, Bool.and_eq_true, decide_eq_true_eq]
      exact hOther
    refine ⟨?_, ?_, ?_⟩
    · intro hAll
      have hPlan := plan_of_supplied hBuffered hAll
      exact congrArg _ (hReads.downloads_of_supplied hPlan download now.2)
    · intro hMore
      have hPlan := plan_of_capacity_lt hBuffered (hCapacity ▸ hMore)
      constructor
      · exact congrArg _ (hReads.downloads_of_range (congrArg Plan.range? hPlan) download now.2)
      · exact hReads.contents_of_past hPlan download now.2
    · intro hSome hFits
      have hRoom : now.1.room (offset + supply) = room := by rw [Reader.room, hCapacity, hLength]
      have hPlan := plan_of_le_capacity hBuffered hReads.inside hSome (hCapacity ▸ hFits)
      change now.1.plan n offset = .refill (offset + supply) (now.1.room (offset + supply)) at hPlan
      rw [hRoom] at hPlan
      refine ⟨_, hReads.downloads_of_range (congrArg Plan.range? hPlan) download now.2, rfl, ?_⟩
      intro data hAnswer hCount
      exact hReads.contents_of_refill hPlan hAnswer hCount
  · intro d hd
    rw [← hLength, ← hOptions]
    exact hReads.of_mem_downloads hd

/-- One byte of three comes from the window, and the other two fill it anew. -/
theorem read_downloads_missing_range_refill :
    let content : Bytes := [10, 11, 12, 13, 14, 15]
    let opened := ofProperties "az://c/k" { read := true } { bufferSize := 2 } ⟨6, none⟩
    let now := run (PlainFile.flaky content) [.read 1] (opened, 0)
    let after := (now.1.answer (PlainFile.flaky content) (.readAt 3 1) now.2).2.1.window
    let log := now.1.downloads (PlainFile.flaky content) (.readAt 3 1) now.2
    now.1.Reads (.readAt 3 1) 3 1 ∧ now.1.window.supply 1 3 = 1 ∧
      ∃ d, log = [d] ∧ (d.offset, d.length) = (2, 2) ∧
        ∀ data, d.answer = .ok data → data.length = 2 → after.contents = (2, 4, data) := by
  intro content opened now after log
  have hNow : now.1.window = ⟨2, 0, 2, 1, 1, [10, 11]⟩ ∧ now.1.length = 6 := by
    change (opened.read (PlainFile.flaky content) 1 0).2.1.window = _ ∧
      (opened.read (PlainFile.flaky content) 1 0).2.1.length = 6
    rw [read_eq_carryOut]
    exact ⟨rfl, rfl⟩
  have hReads : now.1.Reads (.readAt 3 1) 3 1 := by
    apply Reads.readAt
    rw [hNow.2]
    decide
  have hSupply : now.1.window.supply 1 3 = 1 := by
    rw [hNow.1]
    rfl
  obtain ⟨-, -, hPlanned, -⟩ := read_downloads_missing_range (PlainFile.flaky content) "az://c/k"
    { read := true } { bufferSize := 2 } ⟨6, none⟩ [.read 1] 0 hReads
  obtain ⟨-, -, hRefill⟩ := hPlanned (by decide)
  change 0 < 3 - now.1.window.supply 1 3 → 3 - now.1.window.supply 1 3 ≤ 2 → _ at hRefill
  rw [hSupply] at hRefill
  exact ⟨hReads, hSupply, hRefill (by decide) (by decide)⟩

end Reader

end BlobFiles
