import BlobFiles.Decimal.Binary64

/-! # JSON values

A number is an integer or a binary floating-point number, and the two are never confused. The
members of an object have distinct names and keep the order in which they were first put.
-/
namespace BlobFiles

inductive Json where
  | null
  | bool (b : Bool)
  | integer (n : Int)
  | float (x : Decimal.Binary64)
  | string (s : String)
  | array (items : List Json)
  | object (members : List (String × Json))
  deriving Inhabited, Repr

namespace Json

abbrev Members := List (String × Json)

/-- Sets a member in its old place, or last when it is new. -/
def Members.insert (key : String) (value : Json) : Members → Members
  | [] => [(key, value)]
  | (k, v) :: rest => if k = key then (key, value) :: rest else (k, v) :: insert key value rest

def Members.get? (key : String) : Members → Option Json
  | [] => none
  | (k, v) :: rest => if k = key then some v else get? key rest

theorem Members.get?_insert_self (key : String) (value : Json) (m : Members) :
    (m.insert key value).get? key = some value := by
  induction m with
  | nil => simp [insert, get?]
  | cons p rest ih =>
    simp only [insert]
    split
    · simp [get?]
    · next h => simp [get?, h, ih]

theorem Members.get?_insert_of_ne {key other : String} (h : other ≠ key) (value : Json)
    (m : Members) : (m.insert key value).get? other = m.get? other := by
  induction m with
  | nil => simp [insert, get?, Ne.symm h]
  | cons p rest ih =>
    simp only [insert]
    split
    · next hk => simp [get?, hk, Ne.symm h]
    · simp only [get?, ih]

/-- The member of an object; `none` also for a value that is no object. -/
def member? (key : String) : Json → Option Json
  | object members => Members.get? key members
  | _ => none

end Json

end BlobFiles
