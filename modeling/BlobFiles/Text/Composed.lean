import BlobFiles.Text.CombiningClass
import BlobFiles.Text.Composite

/-! # Composed text

One spelling for all the ways in which marks can be put on a character: composites are taken apart,
the marks on a character are sorted by their classes, and then every mark that can be joined to its
character is, unless another mark of its class stands between.
-/
namespace BlobFiles.Text

/-- Puts a character in front of a text whose marks are in order. -/
def placeMark (c : Char) : List Char → List Char
  | [] => [c]
  | d :: text =>
    if 0 < combiningClass d && combiningClass d < combiningClass c then d :: placeMark c text
    else c :: d :: text

/-- Sorts the marks on every character by their classes; marks of one class keep their order. -/
def orderMarks (text : List Char) : List Char := text.foldr placeMark []

/-- Joins what it can to `base`. The marks that stay, the last one first, are `kept`. -/
def joinMarks (base : Char) (kept : List Char) : List Char → List Char
  | [] => base :: kept.reverse
  | c :: text =>
    let free := (kept.head?.map fun d => decide (combiningClass d < combiningClass c)).getD true
    match if free then composite? base c else none with
    | some joined => joinMarks joined kept text
    | none =>
      if combiningClass c = 0 then base :: kept.reverse ++ joinMarks c [] text
      else joinMarks base (c :: kept) text

/-- Joins marks to their characters; marks in front of the first character stay. -/
def joinAll : List Char → List Char
  | [] => []
  | c :: text => if combiningClass c = 0 then joinMarks c [] text else c :: joinAll text

def composed (text : List Char) : List Char := joinAll (orderMarks (text.flatMap components))

theorem placeMark_perm (c : Char) (text : List Char) : (placeMark c text).Perm (c :: text) := by
  induction text with
  | nil => exact .refl _
  | cons d text ih =>
    simp only [placeMark]
    split
    · exact (ih.cons d).trans (.swap c d text)
    · exact .refl _

theorem orderMarks_perm (text : List Char) : (orderMarks text).Perm text := by
  induction text with
  | nil => exact .refl _
  | cons c text ih => exact (placeMark_perm c _).trans (ih.cons c)

end BlobFiles.Text
