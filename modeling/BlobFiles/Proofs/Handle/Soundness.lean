import BlobFiles.Handle.Request
import BlobFiles.Proofs.Handle.Plan

/-! # The window holds what the blob holds

A reader is sound for some content when it knows its length and its window is a piece of it. Every
request keeps a reader sound, also one whose download fails, provided that a download of the right
length inside the content brings the content; what others bring is not looked at.
-/
namespace BlobFiles

/-- The `n` bytes from `offset` on, or as many as there are. -/
def slice (content : Bytes) (offset n : Nat) : Bytes := (content.drop offset).take n

theorem length_slice {content : Bytes} {offset n : Nat} (h : offset + n ≤ content.length) :
    (slice content offset n).length = n := by
  simp only [slice, List.length_take, List.length_drop]
  omega

theorem slice_zero (content : Bytes) (offset : Nat) : slice content offset 0 = [] :=
  List.take_zero

theorem slice_append (content : Bytes) (offset m n : Nat) :
    slice content offset m ++ slice content (offset + m) n = slice content offset (m + n) := by
  simp only [slice]
  rw [List.take_add, List.drop_drop]

theorem take_slice (content : Bytes) (offset : Nat) {m n : Nat} (h : m ≤ n) :
    (slice content offset n).take m = slice content offset m := by
  simp only [slice]
  rw [List.take_take, Nat.min_eq_left h]

theorem drop_slice (content : Bytes) (offset m n : Nat) :
    (slice content offset n).drop m = slice content (offset + m) (n - m) := by
  simp only [slice]
  rw [List.drop_take, List.drop_drop]

theorem length_slice_eq_min (content : Bytes) (offset n : Nat) :
    (slice content offset n).length = min n (content.length - offset) := by
  simp only [slice, List.length_take, List.length_drop]

theorem slice_min (content : Bytes) (offset n : Nat) :
    slice content offset (min n (content.length - offset)) = slice content offset n := by
  simp only [slice, List.take_eq_take_iff, List.length_drop]
  omega

theorem slice_append_slice (content : Bytes) (offset m n : Nat) :
    slice content offset m ++ slice content (offset + (slice content offset m).length) n =
      slice content offset (m + n) := by
  have hEnd : min (min m (content.length - offset) + n) (content.length - offset) =
      min (m + n) (content.length - offset) := by omega
  rw [length_slice_eq_min, ← slice_min content offset m, slice_append, ← slice_min, hEnd, slice_min]

theorem slice_append_drop (content : Bytes) (offset n : Nat) :
    slice content offset n ++ content.drop (offset + n) = content.drop offset := by
  rw [← List.drop_drop]
  exact List.take_append_drop n (content.drop offset)

/-- While `holds` is true of the service, a download of a range inside `content` fails, or has the
wrong length, or is that range. -/
structure Download.Serves {σ : Type} (download : Download σ) (content : Bytes) (holds : σ → Prop) :
    Prop where
  keeps : ∀ offset length options s, holds s → holds (download offset length options s).2
  exact : ∀ offset length options s data, holds s → offset + length ≤ content.length →
    (download offset length options s).1 = .ok data → data.length = length →
    data = slice content offset length

/-- The window is a piece of the content, not larger than its storage, and what is left to hand out
is its end. -/
structure Window.Sound (content : Bytes) (w : Window) : Prop where
  start_le_stop : w.start ≤ w.stop
  stop_le_length : w.stop ≤ content.length
  size_le_capacity : w.stop - w.start ≤ w.capacity
  bytes_eq : w.bytes = slice content w.start (w.stop - w.start)
  available_eq : w.available = 0 ∨ w.index + w.available = w.stop - w.start

namespace Window.Sound

variable {content : Bytes} {w : Window}

theorem empty (content : Bytes) (capacity : Nat) : Window.Sound content { capacity } where
  start_le_stop := Nat.le_refl 0
  stop_le_length := Nat.zero_le _
  size_le_capacity := Nat.zero_le _
  bytes_eq := (slice_zero content 0).symm
  available_eq := .inl rfl

theorem pause (h : w.Sound content) : w.pause.Sound content :=
  { h with available_eq := .inl rfl }

theorem locate (h : w.Sound content) (offset : Nat) : (w.locate offset).Sound content := by
  unfold Window.locate
  split
  · rename_i hHolds
    simp only [holds, Bool.and_eq_true, decide_eq_true_eq] at hHolds
    refine { h with available_eq := .inr ?_ }
    change offset - w.start + (w.stop - w.start - (offset - w.start)) = w.stop - w.start
    omega
  · exact h.pause

theorem advance (h : w.Sound content) (n : Nat) : (w.advance n).Sound content := by
  refine { h with available_eq := ?_ }
  change w.available - n = 0 ∨ w.index + n + (w.available - n) = w.stop - w.start
  rcases h.available_eq with hNone | hSome
  · exact .inl (by omega)
  · by_cases hAll : w.available ≤ n
    · exact .inl (by omega)
    · exact .inr (by omega)

theorem fill {offset n : Nat} (hInside : offset + n ≤ content.length) (hFits : n ≤ w.capacity) :
    (w.fill offset n (slice content offset n)).Sound content where
  start_le_stop := Nat.le_add_right _ _
  stop_le_length := hInside
  size_le_capacity := by
    change offset + n - offset ≤ w.capacity
    omega
  bytes_eq := by
    change slice content offset n = slice content offset (offset + n - offset)
    rw [Nat.add_sub_cancel_left]
  available_eq := by
    right
    change 0 + n = offset + n - offset
    omega

theorem next_locate (h : w.Sound content) (offset n : Nat) :
    (w.locate offset).next (w.supply offset n) = slice content offset (w.supply offset n) := by
  unfold Window.locate supply
  split
  · rename_i hHolds
    simp only [holds, Bool.and_eq_true, decide_eq_true_eq] at hHolds
    have hStart : w.start + (offset - w.start) = offset := by omega
    simp only [next]
    rw [h.bytes_eq, drop_slice, hStart]
    exact take_slice content offset (by omega)
  · rw [slice_zero]
    exact List.take_zero

end Window.Sound

structure Reader.Sound (content : Bytes) (r : Reader) : Prop where
  length_eq : r.length = content.length
  window : r.window.Sound content

namespace Reader

variable {σ : Type} {content : Bytes} {r : Reader} {n offset : Nat}

theorem outOfRange_eq_false_iff (h : r.length < maxOffset) :
    r.outOfRange n offset = false ↔ n = 0 ∨ offset + n ≤ r.length := by
  simp only [outOfRange, Bool.and_eq_false_iff, decide_eq_false_iff_not]
  omega

theorem range_of_plan (hRange : n = 0 ∨ offset + n ≤ r.length) {start length : Nat}
    (h : (r.plan n offset).range? = some (start, length)) :
    offset ≤ start ∧ 0 < length ∧ start + length ≤ r.length := by
  rcases r.plan_cases n offset with ⟨hPlan, hPos⟩ | ⟨hPlan, -⟩ | ⟨hPlan, hLt⟩ | ⟨hPlan, hLt, hRoom⟩
  · rw [hPlan] at h
    cases h
    omega
  · rw [hPlan] at h
    cases h
  · rw [hPlan] at h
    cases h
    omega
  · rw [hPlan] at h
    cases h
    have hInside : r.room (offset + r.window.supply offset n) ≤
        r.length - (offset + r.window.supply offset n) := Nat.min_le_right _ _
    omega

theorem supplied_sound (h : r.Sound content) (n offset : Nat) :
    (r.supplied n offset).Sound content :=
  ⟨h.length_eq, (h.window.locate offset).advance _⟩

theorem passBy_sound (h : r.Sound content) (offset : Nat) : (r.passBy offset).Sound content :=
  ⟨h.length_eq, h.window.pause⟩

theorem interrupted_sound (h : r.Sound content) (n offset : Nat) :
    (r.interrupted n offset).Sound content := by
  unfold interrupted
  split
  · exact h
  · exact supplied_sound h n offset

theorem finished_sound (h : r.Sound content) (hRange : n = 0 ∨ offset + n ≤ r.length) {data : Bytes}
    (hData : ∀ start length, (r.plan n offset).range? = some (start, length) →
      data = slice content start length) :
    r.delivered n offset data = slice content offset n ∧
      (r.finished n offset data).position = offset + n ∧
      (r.finished n offset data).Sound content := by
  refine and_left_comm.mp ⟨r.position_finished n offset data, ?_⟩
  have hShare : r.share n offset = slice content offset (r.window.supply offset n) :=
    h.window.next_locate offset n
  have hSupplied := supplied_sound h n offset
  rcases r.plan_cases n offset with
    ⟨hPlan, hPos⟩ | ⟨hPlan, hAll⟩ | ⟨hPlan, hLt⟩ | ⟨hPlan, hLt, hRoom⟩
  · simp only [delivered, finished, hPlan]
    exact ⟨hData offset n (by rw [hPlan]; rfl), passBy_sound h _⟩
  · simp only [delivered, finished, hPlan]
    exact ⟨by rw [hShare, hAll], hSupplied⟩
  · simp only [delivered, finished, hPlan]
    have hSum : r.window.supply offset n + (n - r.window.supply offset n) = n := by omega
    refine ⟨?_, passBy_sound hSupplied _⟩
    rw [hShare, hData _ _ (by rw [hPlan]; rfl), slice_append, hSum]
  · simp only [delivered, finished, hPlan]
    have hSum : r.window.supply offset n + (n - r.window.supply offset n) = n := by omega
    have hInside := range_of_plan hRange (by rw [hPlan]; rfl)
    have hBytes := hData _ _ (by rw [hPlan]; rfl)
    have hFits : r.room (offset + r.window.supply offset n) ≤
        (r.supplied n offset).window.capacity := by
      change _ ≤ (r.window.locate offset).capacity
      rw [r.window.capacity_locate]
      exact Nat.min_le_left _ _
    refine ⟨?_, h.length_eq, ?_⟩
    · rw [hShare, hBytes, take_slice content _ hRoom, slice_append, hSum]
    · rw [hBytes]
      exact (Window.Sound.fill (h.length_eq ▸ hInside.2.2) hFits).advance _

end Reader

end BlobFiles
