import BlobFiles.Glob.Path

/-! # Literal text in patterns

Text without wildcards stands for itself, in front of a segment pattern as well as in the segments
in front of a path pattern: it is taken off both sides, and the rest of the pattern has to match the
rest of the key.
-/
namespace BlobFiles.Glob

def Literal (text : List Char) : Prop := ∀ c ∈ text, isWildcard c = false

theorem isWildcard_eq_false_iff {c : Char} :
    isWildcard c = false ↔ c ≠ '*' ∧ c ≠ '?' ∧ c ≠ '[' ∧ c ≠ '\\' := by
  simp [isWildcard, and_assoc]

theorem Literal.of_cons {c : Char} {text : List Char} (h : Literal (c :: text)) :
    isWildcard c = false ∧ Literal text :=
  ⟨h c List.mem_cons_self, fun d hd => h d (List.mem_cons_of_mem c hd)⟩

/-! ## Inside one segment -/

theorem takeOne_of_literal {d : Char} (h : isWildcard d = false) (c : Char) (rest : List Char) :
    takeOne c (d :: rest) = if d = c then some rest else none := by
  obtain ⟨_, hOne, hClass, hEscape⟩ := isWildcard_eq_false_iff.mp h
  unfold takeOne
  split
  · contradiction
  · rename_i hCons
    cases hCons
    contradiction
  · rename_i hCons
    cases hCons
    contradiction
  · rename_i hCons
    cases hCons
    contradiction
  · rename_i hCons
    cases hCons
    rfl

theorem matchSegment_nil (text : List Char) : matchSegment [] text = text.isEmpty := by
  cases text <;> rfl

theorem matchSegment_of_literal_nil {d : Char} (h : isWildcard d = false) (pattern : List Char) :
    matchSegment (d :: pattern) [] = false := by
  have hStar := (isWildcard_eq_false_iff.mp h).1
  simp [matchSegment, advance, hStar]

theorem matchSegment_of_literal_cons {d : Char} (h : isWildcard d = false) (c : Char)
    (pattern text : List Char) :
    matchSegment (d :: pattern) (c :: text) = (decide (d = c) && matchSegment pattern text) := by
  have hAdvance : advance (c :: text) (d :: pattern) =
      if d = c then advance text pattern else .stuck := by
    rw [advance, takeOne_of_literal h]
    · by_cases hEq : d = c <;> simp [hEq]
    · intro rest hCons
      exact (isWildcard_eq_false_iff.mp h).1 (List.cons.inj hCons).1
  unfold matchSegment
  rw [hAdvance]
  by_cases hEq : d = c <;> simp [hEq]

theorem matchSegment_append_iff {start pattern text : List Char} (h : Literal start) :
    matchSegment (start ++ pattern) text = true ↔
      ∃ rest, text = start ++ rest ∧ matchSegment pattern rest = true := by
  induction start generalizing text with
  | nil => simp
  | cons d start ih =>
    obtain ⟨hHead, hTail⟩ := h.of_cons
    cases text with
    | nil => simp [matchSegment_of_literal_nil hHead]
    | cons c text =>
      rw [List.cons_append, matchSegment_of_literal_cons hHead, Bool.and_eq_true,
        decide_eq_true_eq, ih hTail]
      constructor
      · rintro ⟨rfl, rest, rfl, hRest⟩
        exact ⟨rest, rfl, hRest⟩
      · rintro ⟨rest, hText, hRest⟩
        obtain ⟨rfl, rfl⟩ := List.cons.inj hText
        exact ⟨rfl, rest, rfl, hRest⟩

theorem matchSegment_literal_iff {pattern text : List Char} (h : Literal pattern) :
    matchSegment pattern text = true ↔ text = pattern := by
  have hAppend : matchSegment (pattern ++ []) text = true ↔
      ∃ rest, text = pattern ++ rest ∧ matchSegment [] rest = true := matchSegment_append_iff h
  rw [List.append_nil] at hAppend
  rw [hAppend]
  constructor
  · rintro ⟨rest, rfl, hRest⟩
    rw [matchSegment_nil, List.isEmpty_iff] at hRest
    rw [hRest, List.append_nil]
  · rintro rfl
    exact ⟨[], (List.append_nil _).symm, rfl⟩

/-! ## Along a path -/

theorem isAnyDepth_of_literal {segment : List Char} (h : Literal segment) :
    isAnyDepth segment = false := by
  rw [isAnyDepth, decide_eq_false_iff_not]
  rintro rfl
  cases h '*' List.mem_cons_self

theorem matchSegments_nil_right (pattern : List (List Char)) :
    matchSegments pattern [] = pattern.all isAnyDepth := by
  cases pattern <;> simp [matchSegments]

theorem matchSegments_append_iff {start pattern key : List (List Char)}
    (h : ∀ segment ∈ start, Literal segment) :
    matchSegments (start ++ pattern) key = true ↔
      ∃ rest, key = start ++ rest ∧ matchSegments pattern rest = true := by
  induction start generalizing key with
  | nil => simp
  | cons p start ih =>
    have hHead : Literal p := h p List.mem_cons_self
    have hTail : ∀ segment ∈ start, Literal segment :=
      fun segment hMem => h segment (List.mem_cons_of_mem p hMem)
    have hOne := isAnyDepth_of_literal hHead
    cases key with
    | nil => simp [matchSegments, hOne]
    | cons k key =>
      simp only [List.cons_append, matchSegments, hOne, Bool.false_eq_true, if_false,
        Bool.and_eq_true, matchSegment_literal_iff hHead, ih hTail]
      constructor
      · rintro ⟨rfl, rest, rfl, hRest⟩
        exact ⟨rest, rfl, hRest⟩
      · rintro ⟨rest, hKey, hRest⟩
        obtain ⟨rfl, rfl⟩ := List.cons.inj hKey
        exact ⟨rfl, rest, rfl, hRest⟩

/-! ## Segments and the text they come from -/

theorem segments_append_slash (text more : List Char) :
    segments (text ++ '/' :: more) = segments text ++ segments more :=
  List.splitOn_append_cons_self text more

theorem segments_ne_nil (text : List Char) : segments text ≠ [] := List.splitOn_ne_nil '/' text

theorem segments_injective {text other : List Char} (h : segments text = segments other) :
    text = other := by
  have hJoined := congrArg ['/'].intercalate h
  simpa [segments] using hJoined

theorem segments_append {start : List Char} (h : '/' ∉ start) (text : List Char) :
    segments (start ++ text) = (segments text).modifyHead (start ++ ·) := by
  induction start with
  | nil => cases hSegments : segments text <;> simp [hSegments]
  | cons c start ih =>
    rw [List.mem_cons, not_or] at h
    have hSlash : (c == '/') = false := by simpa using Ne.symm h.1
    have hCons : segments (c :: (start ++ text)) =
        (segments (start ++ text)).modifyHead (c :: ·) := by
      simp [segments, List.splitOn_cons_eq_if_modifyHead, hSlash]
    rw [List.cons_append, hCons, ih h.2, List.modifyHead_modifyHead]
    rfl

theorem literal_of_mem_segments {text segment : List Char} (h : Literal text)
    (hMem : segment ∈ segments text) : Literal segment := by
  induction text generalizing segment with
  | nil =>
    rw [segments, List.splitOn_nil, List.mem_singleton] at hMem
    rw [hMem]
    intro c hc
    cases hc
  | cons c text ih =>
    obtain ⟨hHead, hTail⟩ := h.of_cons
    rw [segments, List.splitOn_cons_eq_if_modifyHead] at hMem
    split at hMem
    · rcases List.mem_cons.mp hMem with rfl | hMem
      · intro c hc
        cases hc
      · exact ih hTail hMem
    · obtain ⟨first, rest, hSegments⟩ := List.exists_cons_of_ne_nil (segments_ne_nil text)
      have hSplit : text.splitOn '/' = first :: rest := hSegments
      rw [hSplit, List.modifyHead_cons, List.mem_cons] at hMem
      rcases hMem with rfl | hMem
      · intro d hd
        rcases List.mem_cons.mp hd with rfl | hd
        · exact hHead
        · exact ih hTail (hSegments ▸ List.mem_cons_self) d hd
      · exact ih hTail (hSegments ▸ List.mem_cons_of_mem first hMem)

end BlobFiles.Glob
