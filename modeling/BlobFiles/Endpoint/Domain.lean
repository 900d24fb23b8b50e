import BlobFiles.Endpoint.Label
import BlobFiles.Text.Split

/-! # Domain names

The host of a web URL as a domain name: percent escapes are undone, characters are mapped, marks are
joined to their characters, and then every label has to be well formed.
-/
namespace BlobFiles.Endpoint

def percentDecode : List UInt8 → List UInt8
  | [] => []
  | b :: rest =>
    match rest with
    | h :: l :: rest' =>
      if b = 0x25 then
        match hexValue? h, hexValue? l with
        | some h, some l => (16 * h + l) :: percentDecode rest'
        | _, _ => b :: percentDecode (h :: l :: rest')
      else b :: percentDecode (h :: l :: rest')
    | rest => b :: percentDecode rest
where
  hexValue? (b : UInt8) : Option UInt8 :=
    if 0x30 ≤ b ∧ b ≤ 0x39 then some (b - 0x30)
    else if 0x41 ≤ b ∧ b ≤ 0x46 then some (b - 0x41 + 10)
    else if 0x61 ≤ b ∧ b ≤ 0x66 then some (b - 0x61 + 10)
    else none

/-- The text whose UTF-8 bytes a host stands for, if it is one. -/
def decodeHost (host : List Char) : Option (List Char) :=
  (String.fromUTF8? ⟨(percentDecode (String.ofList host).toUTF8.toList).toArray⟩).map String.toList

/-- The domain name that a host stands for, if it is well formed. -/
def domain? (host : List Char) : Option (List Char) := do
  let decoded ← decodeHost host
  let mapped ← decoded.mapM mapHostChar
  let name := Text.composed mapped.flatten
  if name.any isForbidden then none
  let labels ← (name.splitOn '.').mapM readLabel?
  let rightward := labels.any fun label => label.any fun c => isRightward (Text.direction c)
  if rightward && !labels.all keepsDirection then none else some name

end BlobFiles.Endpoint
