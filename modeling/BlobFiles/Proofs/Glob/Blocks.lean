import Mathlib.Data.List.Forall2

/-! # Matching block by block

A pattern is a list of parts, and what a part takes is a block of consecutive symbols, which may be
empty. The pattern fits a text that can be cut into blocks, one for each part and in their order.
Nothing is said about how such a cut is found. Both the tokens of a segment and the segments of a
path fit in this way.
-/
namespace BlobFiles.Glob

variable {α β : Type} {takes : α → List β → Prop}

def Fits (takes : α → List β → Prop) (pattern : List α) (text : List β) : Prop :=
  ∃ blocks : List (List β), blocks.flatten = text ∧ List.Forall₂ takes pattern blocks

theorem fits_nil_iff {text : List β} : Fits takes [] text ↔ text = [] := by
  constructor
  · rintro ⟨blocks, rfl, hTakes⟩
    cases hTakes
    rfl
  · rintro rfl
    exact ⟨[], rfl, .nil⟩

theorem fits_cons_iff {part : α} {pattern : List α} {text : List β} :
    Fits takes (part :: pattern) text ↔
      ∃ block rest, text = block ++ rest ∧ takes part block ∧ Fits takes pattern rest := by
  constructor
  · rintro ⟨blocks, rfl, hTakes⟩
    obtain ⟨block, blocks, hPart, hPattern, rfl⟩ := List.forall₂_cons_left_iff.mp hTakes
    exact ⟨block, blocks.flatten, rfl, hPart, blocks, rfl, hPattern⟩
  · rintro ⟨block, rest, rfl, hPart, blocks, rfl, hPattern⟩
    exact ⟨block :: blocks, rfl, .cons hPart hPattern⟩

theorem fits_append_iff {front back : List α} {text : List β} :
    Fits takes (front ++ back) text ↔
      ∃ first rest, text = first ++ rest ∧ Fits takes front first ∧ Fits takes back rest := by
  induction front generalizing text with
  | nil => simp [fits_nil_iff]
  | cons part front ih =>
    rw [List.cons_append, fits_cons_iff]
    constructor
    · rintro ⟨block, more, rfl, hPart, hMore⟩
      obtain ⟨first, rest, rfl, hFront, hBack⟩ := ih.mp hMore
      refine ⟨block ++ first, rest, (List.append_assoc block first rest).symm, ?_, hBack⟩
      exact fits_cons_iff.mpr ⟨block, first, rfl, hPart, hFront⟩
    · rintro ⟨first, rest, rfl, hFront, hBack⟩
      obtain ⟨block, more, rfl, hPart, hMore⟩ := fits_cons_iff.mp hFront
      refine ⟨block, more ++ rest, List.append_assoc block more rest, hPart, ?_⟩
      exact ih.mpr ⟨more, rest, rfl, hMore, hBack⟩

end BlobFiles.Glob
