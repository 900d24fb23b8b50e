import BlobFiles.Proofs.Json.Numeral

/-! # Values with one JSON text

An integer of 64 bits and a truth value have one JSON text each, up to the white space around it:
the one that is written for them. Nothing else is read as them, be it a fraction, an exponent or a
text in quotes.
-/
namespace BlobFiles.Json

inductive Exact : Json → Prop
  | integer {n : Int} (hWord : InWord n) : Exact (.integer n)
  | bool (b : Bool) : Exact (.bool b)

def Spaces (cs : List Char) : Prop := ∀ c ∈ cs, isSpace c = true

instance (cs : List Char) : Decidable (Spaces cs) :=
  List.decidableBAll (fun c => isSpace c = true) cs

/-- A text with the value alone, and white space around it. -/
def WrittenAs (v : Json) (text : String) : Prop :=
  ∃ before after : List Char, Spaces before ∧ Spaces after ∧
    text.toList = before ++ (v.render.toList ++ after)

theorem Spaces.ends {cs : List Char} (h : Spaces cs) : Ends cs := by
  intro c hHead
  have hSpace := h c (List.mem_of_mem_head? hHead)
  simp only [isSpace, Bool.or_eq_true, decide_eq_true_eq] at hSpace
  rcases hSpace with ((rfl | rfl) | rfl) | rfl <;> decide

theorem skipSpace_eq_nil_iff {cs : List Char} : skipSpace cs = [] ↔ Spaces cs := by
  rw [skipSpace, List.dropWhile_eq_nil_iff]
  rfl

theorem skipSpace_append {before cs : List Char} (h : Spaces before) :
    skipSpace (before ++ cs) = skipSpace cs := List.dropWhile_append_of_pos h

/-! ## One value -/

theorem word?_eq_some_iff {word : String} {value v : Json} {cs rest : List Char} :
    word? word value cs = some (v, rest) ↔ v = value ∧ cs = word.toList ++ rest := by
  rw [word?, Option.map_eq_some_iff]
  constructor
  · rintro ⟨rest', hPrefix, hPair⟩
    cases hPair
    exact ⟨rfl, (List.append_eq_of_isPrefixOf?_eq_some hPrefix).symm⟩
  · rintro ⟨rfl, rfl⟩
    exact ⟨rest, List.isPrefixOf?_eq_some_iff_append_eq.mpr rfl, rfl⟩

/-- What white space, texts, words, arrays and objects start with. -/
def otherHeads : List Char := [' ', '\t', '\n', '\r', '"', 't', 'f', 'n', '[', '\x7b']

theorem exists_toString (n : Int) :
    ∃ c cs, (toString n).toList = c :: cs ∧ c ∉ otherHeads := by
  have hOther : ∀ c ∈ otherHeads, c.isDigit = false ∧ c ≠ '-' := by simp [otherHeads]
  rw [toList_toString]
  cases decide (n < 0) with
  | true => exact ⟨'-', _, rfl, by decide⟩
  | false =>
    obtain ⟨hNonempty, hDigits, -⟩ := numeral_toDigits n.natAbs
    obtain ⟨d, ds, hCons⟩ := List.exists_cons_of_ne_nil hNonempty
    have hDigit : d.isDigit = true := hDigits d (hCons ▸ List.mem_cons_self)
    refine ⟨d, ds, hCons, fun hMem => ?_⟩
    rw [(hOther d hMem).1] at hDigit
    cases hDigit

/-- Such a text starts neither with white space nor as an array or an object. -/
theorem Exact.exists_render {v : Json} (h : Exact v) : ∃ c cs, v.render.toList = c :: cs ∧
    isSpace c = false ∧ c ≠ '[' ∧ c ≠ '\x7b' := by
  cases h with
  | @integer n hWord =>
    obtain ⟨c, cs, hText, hHead⟩ := exists_toString n
    simp only [otherHeads, List.mem_cons, not_or] at hHead
    refine ⟨c, cs, by rw [render, hText], ?_⟩
    simp [isSpace, hHead]
  | bool b => cases b <;> exact ⟨_, _, rfl, by decide⟩

theorem scalar?_toString (n : Int) (rest : List Char) :
    scalar? ((toString n).toList ++ rest) = number? ((toString n).toList ++ rest) := by
  obtain ⟨c, cs, hText, hHead⟩ := exists_toString n
  rw [hText]
  unfold scalar?
  split
  case h_5 => rfl
  all_goals
    rename_i hCons
    cases hCons
    exact absurd (by decide) hHead

theorem scalar?_append {v : Json} (h : Exact v) {rest : List Char} (hRest : Ends rest) :
    scalar? (v.render.toList ++ rest) = some (v, rest) := by
  cases h with
  | integer hWord => rw [render, scalar?_toString, number?_append hWord hRest]
  | bool b => cases b <;> exact word?_eq_some_iff.mpr ⟨rfl, rfl⟩

theorem number?_ne_bool {cs rest : List Char} {b : Bool} : number? cs ≠ some (bool b, rest) := by
  intro h
  obtain ⟨⟨t, rest'⟩, -, h⟩ := Option.bind_eq_some_iff.mp h
  obtain ⟨v, hValue, h⟩ := Option.bind_eq_some_iff.mp h
  cases h
  unfold NumberText.value? at hValue
  split at hValue
  · cases hValue
  · obtain ⟨x, -, hFloat⟩ := Option.map_eq_some_iff.mp hValue
    cases hFloat

theorem of_scalar? {v : Json} (h : Exact v) {cs rest : List Char}
    (hRead : scalar? cs = some (v, rest)) : cs = v.render.toList ++ rest := by
  unfold scalar? at hRead
  split at hRead
  · obtain ⟨r, -, hPair⟩ := Option.map_eq_some_iff.mp hRead
    cases hPair
    cases h
  · obtain ⟨rfl, hText⟩ := word?_eq_some_iff.mp hRead
    exact hText
  · obtain ⟨rfl, hText⟩ := word?_eq_some_iff.mp hRead
    exact hText
  · obtain ⟨rfl, -⟩ := word?_eq_some_iff.mp hRead
    cases h
  · cases h with
    | integer hWord => exact (of_number? hRead).1
    | bool b => exact absurd hRead number?_ne_bool

/-! ## A whole text -/

theorem of_value? {v : Json} (h : Exact v) {depth : Nat} {cs rest : List Char}
    (hRead : value? depth cs = some (v, rest)) : skipSpace cs = v.render.toList ++ rest := by
  unfold value? at hRead
  split at hRead
  · unfold array? at hRead
    split at hRead
    · cases hRead
      cases h
    · obtain ⟨r, -, hPair⟩ := Option.map_eq_some_iff.mp hRead
      cases hPair
      cases h
  · unfold object? at hRead
    split at hRead
    · cases hRead
      cases h
    · obtain ⟨r, -, hPair⟩ := Option.map_eq_some_iff.mp hRead
      cases hPair
      cases h
  · exact of_scalar? h hRead

theorem value?_append {v : Json} (h : Exact v) (depth : Nat) {before rest : List Char}
    (hBefore : Spaces before) (hRest : Ends rest) :
    value? depth (before ++ (v.render.toList ++ rest)) = some (v, rest) := by
  obtain ⟨c, cs, hText, hSpace, hArray, hObject⟩ := h.exists_render
  have hSkip : skipSpace (before ++ (v.render.toList ++ rest)) = v.render.toList ++ rest := by
    rw [skipSpace_append hBefore, hText]
    exact List.dropWhile_cons_of_neg (by simp [hSpace])
  unfold value?
  rw [hSkip]
  split
  · rename_i hCons
    rw [hText] at hCons
    cases hCons
    exact absurd rfl hArray
  · rename_i hCons
    rw [hText] at hCons
    cases hCons
    exact absurd rfl hObject
  · exact scalar?_append h hRest

/-- White space in front of a text that is skipped. -/
theorem exists_spaces (cs : List Char) : ∃ before, Spaces before ∧ cs = before ++ skipSpace cs :=
  ⟨cs.takeWhile isSpace, fun _ hMem => List.mem_takeWhile_imp hMem,
    List.takeWhile_append_dropWhile.symm⟩

theorem parse?_eq_some_iff {v : Json} (h : Exact v) {text : String} :
    parse? text = some v ↔ WrittenAs v text := by
  unfold parse? parseWithin?
  constructor
  · intro hRead
    obtain ⟨⟨v', after⟩, hValue, hRead⟩ := Option.bind_eq_some_iff.mp hRead
    obtain ⟨hAfter, hSome⟩ := Option.ite_none_right_eq_some.mp hRead
    cases hSome
    obtain ⟨before, hBefore, hText⟩ := exists_spaces text.toList
    rw [of_value? h hValue] at hText
    exact ⟨before, after, hBefore, skipSpace_eq_nil_iff.mp (List.isEmpty_iff.mp hAfter), hText⟩
  · rintro ⟨before, after, hBefore, hAfter, hText⟩
    rw [hText, value?_append h maxDepth hBefore hAfter.ends]
    change (if (skipSpace after).isEmpty = true then some v else none) = some v
    rw [skipSpace_eq_nil_iff.mpr hAfter]
    rfl

end BlobFiles.Json
