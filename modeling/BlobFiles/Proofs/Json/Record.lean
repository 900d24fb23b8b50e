import BlobFiles.Json.Decode
import BlobFiles.Proofs.Results
import Mathlib.Data.List.Forall2

/-! # Reading records

The members of an object are accepted when every one with a field's name is, in whatever order and
whatever else there is; the items of an array when each is by the field in its place. So the two
forms of a record give the same members.
-/
namespace BlobFiles.Json

theorem checkMembers_eq_ok_iff {fields : List Field} {members : Members} :
    checkMembers fields members = .ok () ↔
      ∀ member ∈ members, ∀ field, fields.find? (·.name = member.1) = some field →
        field.accepts member.2 = .ok () := by
  unfold checkMembers
  simp only
  rw [forM_eq_ok_iff]
  simp only [List.mem_mergeSort]
  refine forall₂_congr fun member _ => ?_
  cases fields.find? (·.name = member.1) with
  | none => exact ⟨fun _ _ h => (nomatch h), fun _ => rfl⟩
  | some field => exact ⟨fun h _ hSame => Option.some.inj hSame ▸ h, fun h => h field rfl⟩

/-- Each field accepts the value in its place. -/
abbrev AcceptsAll : List Field → List Json → Prop :=
  List.Forall₂ fun field v => field.accepts v = .ok ()

theorem checkItems_of_acceptsAll {fields : List Field} {values : List Json}
    (h : AcceptsAll fields values) : checkItems fields values = .ok () := by
  induction h with
  | nil => rfl
  | cons hFirst _ ih => rw [checkItems, hFirst, ok_bind, ih]

theorem checkMembers_of_acceptsAll {fields : List Field} {values : List Json}
    (hNames : (fields.map Field.name).Nodup) (h : AcceptsAll fields values) :
    checkMembers fields ((fields.map Field.name).zip values) = .ok () := by
  rw [checkMembers_eq_ok_iff]
  induction h with
  | nil =>
    intro member hMember
    cases hMember
  | @cons first v fields values hFirst _ ih =>
    rw [List.map_cons, List.nodup_cons] at hNames
    rw [List.map_cons, List.zip_cons_cons, List.forall_mem_cons]
    constructor
    · intro field hField
      rw [List.find?_cons_of_pos (by simp)] at hField
      exact Option.some.inj hField ▸ hFirst
    · -- a later name is not the first, so it is looked for among the later fields
      intro member hMember field hField
      have hOther : first.name ≠ member.1 := by
        intro hSame
        exact hNames.1 (hSame ▸ (List.of_mem_zip (a := member.1) (b := member.2) hMember).1)
      rw [List.find?_cons_of_neg (by simpa using hOther)] at hField
      exact ih hNames.2 member hMember field hField

/-- The names of the fields, with their values. -/
theorem recordMembers_of_acceptsAll (record : String) {fields : List Field} {values : List Json}
    (hNames : (fields.map Field.name).Nodup) (h : AcceptsAll fields values) {required : Nat}
    (hRequired : required ≤ fields.length) :
    recordMembers record fields required (object ((fields.map Field.name).zip values)) =
        .ok ((fields.map Field.name).zip values) ∧
      recordMembers record fields required (array values) =
        .ok ((fields.map Field.name).zip values) := by
  have hLength := h.length_eq
  constructor
  · rw [recordMembers, checkMembers_of_acceptsAll hNames h, ok_bind]
    rfl
  · rw [recordMembers, checkItems_of_acceptsAll h, ok_bind, if_neg (by omega), if_neg (by omega)]
    rfl

theorem accepts_of_decode {α : Type} {name : String} {decode : Decoder α} {v : Json} {a : α}
    (h : decode v = .ok a) : (Field.of name decode).accepts v = .ok () := by
  change (decode v).map (fun _ => ()) = .ok ()
  rw [h]
  rfl

end BlobFiles.Json
