import BlobFiles.Handle.Reader

/-! # What a read downloads

A read is supplied by the window as far as the window goes, and what is missing is one download:
past the window when it is more than the window can take, into the window otherwise. `Reader.plan`
says which from the window and the range alone, and `readAt_eq_carryOut` that the reader does as
planned: everything about its loop follows from the plan, from what the reader is like after the
planned download, and from what it is like when that fails.
-/
namespace BlobFiles

/-- How many of the `n` bytes from `offset` on the window has. -/
def Window.supply (w : Window) (offset n : Nat) : Nat :=
  if w.holds offset then min (w.stop - offset) n else 0

theorem Window.supply_le (w : Window) (offset n : Nat) : w.supply offset n ≤ n := by
  unfold supply
  split
  · exact Nat.min_le_right _ _
  · exact Nat.zero_le n

theorem Window.min_available_locate (w : Window) (offset n : Nat) :
    min (w.locate offset).available n = w.supply offset n := by
  unfold locate supply
  split
  · rename_i hHolds
    simp only [holds, Bool.and_eq_true, decide_eq_true_eq] at hHolds
    have hLeft : w.stop - w.start - (offset - w.start) = w.stop - offset := by omega
    rw [hLeft]
  · exact Nat.zero_min n

theorem Window.capacity_locate (w : Window) (offset : Nat) :
    (w.locate offset).capacity = w.capacity := by
  unfold locate
  split <;> rfl

/-- Where the bytes of a read come from, apart from those that the window has. -/
inductive Plan where
  | supplied
  /-- A read of its own, which does not look at the window. -/
  | direct (offset length : Nat)
  | past (offset length : Nat)
  | refill (offset length : Nat)
  deriving DecidableEq, Repr

def Plan.range? : Plan → Option (Nat × Nat)
  | supplied => none
  | direct offset length | past offset length | refill offset length => some (offset, length)

namespace Reader

variable {σ : Type}

/-- How many bytes a refill at `offset` brings. -/
def room (r : Reader) (offset : Nat) : Nat := min r.window.capacity (r.length - offset)

def plan (r : Reader) (n offset : Nat) : Plan :=
  if r.flags.directIo && 0 < n then .direct offset n
  else
    let supply := r.window.supply offset n
    if n - supply = 0 then .supplied
    else if r.room (offset + supply) < n - supply then .past (offset + supply) (n - supply)
    else .refill (offset + supply) (r.room (offset + supply))

def locate (r : Reader) (offset : Nat) : Reader :=
  { r with window := r.window.locate offset, position := offset }

/-- The reader with the window's share of a read handed out. -/
def supplied (r : Reader) (n offset : Nat) : Reader :=
  (r.locate offset).serve (r.window.supply offset n)

def share (r : Reader) (n offset : Nat) : Bytes :=
  (r.locate offset).window.next (r.window.supply offset n)

/-- What a read hands out once the planned download has brought `data`. -/
def delivered (r : Reader) (n offset : Nat) (data : Bytes) : Bytes :=
  match r.plan n offset with
  | .supplied => r.share n offset
  | .direct _ _ => data
  | .past _ _ => r.share n offset ++ data
  | .refill _ _ => r.share n offset ++ data.take (n - r.window.supply offset n)

def finished (r : Reader) (n offset : Nat) (data : Bytes) : Reader :=
  let supplied := r.supplied n offset
  match r.plan n offset with
  | .supplied => supplied
  | .direct _ _ => r.passBy (offset + n)
  | .past start length => supplied.passBy (start + length)
  | .refill start length =>
    let filled := { supplied with window := supplied.window.fill start length data }
    filled.serve (n - r.window.supply offset n)

/-- The reader after the planned download has failed. -/
def interrupted (r : Reader) (n offset : Nat) : Reader :=
  match r.plan n offset with
  | .direct _ _ => r
  | _ => r.supplied n offset

def carryOut (download : Download σ) (r : Reader) (n offset : Nat) (s : σ) :
    Except FsError Bytes × Reader × σ :=
  match (r.plan n offset).range? with
  | none => (.ok (r.delivered n offset []), r.finished n offset [], s)
  | some (start, length) =>
    match r.fetch download start length s with
    | (.error e, s) => (.error e, r.interrupted n offset, s)
    | (.ok data, s) => (.ok (r.delivered n offset data), r.finished n offset data, s)

theorem take_filled (download : Download σ) (r : Reader) (need : Nat) (out : Bytes) (s : σ)
    (h : need ≤ r.window.available) :
    take download r need out s = (.ok (out ++ r.window.next need), r.serve need, s) := by
  unfold take
  simp only [Nat.min_eq_right h, Nat.sub_self, if_true]

theorem plan_of_directIo {r : Reader} {n : Nat} (h : r.flags.directIo = true) (hPos : 0 < n)
    (offset : Nat) : r.plan n offset = .direct offset n := by
  rw [plan, h, decide_eq_true hPos]
  rfl

theorem plan_of_buffered {r : Reader} {n : Nat} (h : (r.flags.directIo && decide (0 < n)) = false)
    (offset : Nat) : r.plan n offset =
      let supply := r.window.supply offset n
      if n - supply = 0 then .supplied
      else if r.room (offset + supply) < n - supply then .past (offset + supply) (n - supply)
      else .refill (offset + supply) (r.room (offset + supply)) := by
  unfold plan
  rw [h]
  rfl

theorem directIo_of_plan {r : Reader} {n offset start length : Nat}
    (h : r.plan n offset = .direct start length) : r.flags.directIo = true := by
  cases hDirect : r.flags.directIo with
  | true => rfl
  | false =>
    rw [plan_of_buffered (by rw [hDirect, Bool.false_and])] at h
    simp only at h
    split at h
    · cases h
    · split at h <;> cases h

theorem plan_cases (r : Reader) (n offset : Nat) :
    (r.plan n offset = .direct offset n ∧ 0 < n) ∨
    (r.plan n offset = .supplied ∧ r.window.supply offset n = n) ∨
    (r.plan n offset = .past (offset + r.window.supply offset n) (n - r.window.supply offset n) ∧
      r.window.supply offset n < n) ∨
    (r.plan n offset = .refill (offset + r.window.supply offset n)
        (r.room (offset + r.window.supply offset n)) ∧
      r.window.supply offset n < n ∧
      n - r.window.supply offset n ≤ r.room (offset + r.window.supply offset n)) := by
  have hLe := r.window.supply_le offset n
  by_cases hDirect : (r.flags.directIo && decide (0 < n)) = true
  · refine .inl ⟨by rw [plan, if_pos hDirect], ?_⟩
    simp only [Bool.and_eq_true, decide_eq_true_eq] at hDirect
    exact hDirect.2
  · rw [plan_of_buffered (Bool.eq_false_iff.mpr hDirect)]
    by_cases hRest : n - r.window.supply offset n = 0
    · exact .inr (.inl ⟨if_pos hRest, by omega⟩)
    · by_cases hPast : r.room (offset + r.window.supply offset n) < n - r.window.supply offset n
      · exact .inr (.inr (.inl ⟨by simp only [hRest, hPast, if_true, if_false], by omega⟩))
      · refine .inr (.inr (.inr ⟨by simp only [hRest, hPast, if_false], by omega, by omega⟩))

theorem position_finished (r : Reader) (n offset : Nat) (data : Bytes) :
    (r.finished n offset data).position = offset + n := by
  rcases r.plan_cases n offset with ⟨hPlan, -⟩ | ⟨hPlan, hAll⟩ | ⟨hPlan, hLt⟩ | ⟨hPlan, hLt, -⟩
  · simp only [finished, hPlan]
    rfl
  · simp only [finished, hPlan]
    exact congrArg (offset + ·) hAll
  · simp only [finished, hPlan]
    change offset + r.window.supply offset n + (n - r.window.supply offset n) = offset + n
    omega
  · simp only [finished, hPlan]
    change offset + r.window.supply offset n + (n - r.window.supply offset n) = offset + n
    omega

/-- The loop ends after one download: a refill brings all that is missing. -/
theorem take_eq_carryOut (download : Download σ) (r : Reader) (n offset : Nat) (s : σ)
    (h : (r.flags.directIo && decide (0 < n)) = false) :
    take download (r.locate offset) n [] s = r.carryOut download n offset s := by
  have hPlan := plan_of_buffered h offset
  have hSupply : min (r.locate offset).window.available n = r.window.supply offset n :=
    r.window.min_available_locate offset n
  have hRoom : min ((r.locate offset).serve (r.window.supply offset n)).window.capacity
      (((r.locate offset).serve (r.window.supply offset n)).length -
        ((r.locate offset).serve (r.window.supply offset n)).position) =
      r.room (offset + r.window.supply offset n) := by
    simp only [room, serve, locate, Window.advance, Window.capacity_locate]
  unfold take
  simp only [hSupply, hRoom, List.nil_append]
  by_cases hRest : n - r.window.supply offset n = 0
  · simp only [hRest, if_true] at hPlan
    simp only [carryOut, delivered, finished, hPlan, Plan.range?, hRest, if_true]
    rfl
  · by_cases hPast : r.room (offset + r.window.supply offset n) < n - r.window.supply offset n
    · simp only [hRest, hPast, if_true, if_false] at hPlan
      simp only [carryOut, delivered, finished, interrupted, hPlan, Plan.range?, hRest, hPast,
        if_true, if_false]
      rfl
    · simp only [hRest, hPast, if_false] at hPlan
      simp only [carryOut, delivered, finished, interrupted, hPlan, Plan.range?, hRest, hPast,
        if_false]
      have hFetch : ((r.locate offset).serve (r.window.supply offset n)).fetch download
          ((r.locate offset).serve (r.window.supply offset n)).position
          (r.room (offset + r.window.supply offset n)) s =
          r.fetch download (offset + r.window.supply offset n)
            (r.room (offset + r.window.supply offset n)) s := rfl
      rw [hFetch]
      obtain ⟨answer, s'⟩ := r.fetch download (offset + r.window.supply offset n)
        (r.room (offset + r.window.supply offset n)) s
      cases answer with
      | error e => rfl
      | ok data => exact take_filled download _ _ _ s' (Nat.not_lt.mp hPast)

theorem readDirect_eq_carryOut (download : Download σ) (r : Reader) (n offset : Nat) (s : σ)
    (h : (r.flags.directIo && decide (0 < n)) = true) :
    readDirect download r n offset s = r.carryOut download n offset s := by
  have hPlan : r.plan n offset = .direct offset n := by
    unfold plan
    rw [h]
    rfl
  simp only [carryOut, delivered, finished, interrupted, hPlan, Plan.range?]
  rfl

theorem readAt_of_outOfRange (download : Download σ) {r : Reader} {n offset : Nat}
    (h : r.outOfRange n offset = true) (s : σ) :
    r.readAt download n offset s = (.error (.outOfRange r.path offset n r.length), r, s) := by
  rw [readAt, if_pos h]

theorem readAt_eq_carryOut (download : Download σ) {r : Reader} {n offset : Nat}
    (h : r.outOfRange n offset = false) (s : σ) :
    r.readAt download n offset s = r.carryOut download n offset s := by
  rw [readAt, if_neg (by rw [h]; exact Bool.false_ne_true)]
  by_cases hDirect : (r.flags.directIo && decide (0 < n)) = true
  · rw [if_pos hDirect]
    exact readDirect_eq_carryOut download r n offset s hDirect
  · rw [if_neg hDirect]
    exact take_eq_carryOut download r n offset s (Bool.eq_false_iff.mpr hDirect)

theorem outOfRange_of_inside {r : Reader} {n offset : Nat} (h : n = 0 ∨ offset + n ≤ r.length) :
    r.outOfRange n offset = false := by
  simp only [outOfRange, Bool.and_eq_false_iff, decide_eq_false_iff_not]
  omega

/-- What is left from the position on is inside the blob. -/
theorem outOfRange_read (r : Reader) (n : Nat) :
    r.outOfRange (min n (r.length - r.position)) r.position = false :=
  outOfRange_of_inside (by omega)

theorem read_eq_carryOut (download : Download σ) (r : Reader) (n : Nat) (s : σ) :
    r.read download n s = r.carryOut download (min n (r.length - r.position)) r.position s :=
  readAt_eq_carryOut download (r.outOfRange_read n) s

end Reader

end BlobFiles
