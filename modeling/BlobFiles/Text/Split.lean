/-! # Cutting text at separators

Text is handled as a list of characters. `cut` splits at the first separator only and keeps the
rest whole; what it returns is characterised by putting the two halves back together.
-/
namespace BlobFiles.Text

/-- The text before the first `sep` and the text after it, if there is one. -/
def cut (sep : Char) : List Char → Option (List Char × List Char)
  | [] => none
  | c :: cs =>
    if c = sep then some ([], cs) else (cut sep cs).map fun halves => (c :: halves.1, halves.2)

theorem cut_eq_none_iff {sep : Char} {cs : List Char} : cut sep cs = none ↔ sep ∉ cs := by
  induction cs with
  | nil => simp [cut]
  | cons c cs ih =>
    by_cases h : c = sep
    · simp [cut, h]
    · simp [cut, h, ih, Ne.symm h]

theorem cut_eq_some_iff {sep : Char} {cs before after : List Char} :
    cut sep cs = some (before, after) ↔ cs = before ++ sep :: after ∧ sep ∉ before := by
  induction cs generalizing before with
  | nil => simp [cut]
  | cons c cs ih =>
    by_cases h : c = sep
    · subst h
      cases before with
      | nil => simp [cut, eq_comm]
      | cons b before => simp [cut]; intro hb _; simp [hb]
    · cases before with
      | nil => simp [cut, h]
      | cons b before =>
        simp only [cut, h, if_false, Option.map_eq_some_iff, Prod.mk.injEq, List.cons.injEq,
          List.cons_append, List.mem_cons, not_or]
        constructor
        · rintro ⟨⟨x, y⟩, hxy, ⟨rfl, rfl⟩, rfl⟩
          exact ⟨⟨rfl, (ih.1 hxy).1⟩, Ne.symm h, (ih.1 hxy).2⟩
        · rintro ⟨⟨rfl, hcs⟩, _, hb⟩
          exact ⟨(before, after), ih.2 ⟨hcs, hb⟩, ⟨rfl, rfl⟩, rfl⟩

/-- The text before the last `sep`, that separator included; the empty text without one. -/
def throughLast (sep : Char) (cs : List Char) : List Char :=
  (cs.reverse.dropWhile (· ≠ sep)).reverse

/-- The text without the separators at its end. -/
def dropTrailing (sep : Char) (cs : List Char) : List Char :=
  (cs.reverse.dropWhile (· = sep)).reverse

/-- Whether `part` occurs anywhere in the text. -/
def contains (part : List Char) : List Char → Bool
  | [] => part.isEmpty
  | c :: cs => part.isPrefixOf (c :: cs) || contains part cs

end BlobFiles.Text
