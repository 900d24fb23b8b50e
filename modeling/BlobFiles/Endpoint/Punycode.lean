/-! # Punycode

Decoding of the ASCII form of a domain label: the ASCII characters stand in front, and the others
are inserted one by one, each by a number that says which character comes where.
-/
namespace BlobFiles.Endpoint.Punycode

def digit? (c : Char) : Option Nat :=
  if c.isDigit then some (c.toNat - '0'.toNat + 26)
  else if 'a' ≤ c ∧ c ≤ 'z' then some (c.toNat - 'a'.toNat)
  else if 'A' ≤ c ∧ c ≤ 'Z' then some (c.toNat - 'A'.toNat)
  else none

def threshold (k bias : Nat) : Nat :=
  if k ≤ bias then 1 else if bias + 26 ≤ k then 26 else k - bias

/-- A number in digits of growing weight, and what follows it. -/
def number? (bias : Nat) : (k weight value : Nat) → List Char → Option (Nat × List Char)
  | _, _, _, [] => none
  | k, weight, value, c :: rest =>
    match digit? c with
    | none => none
    | some d =>
      let value := value + d * weight
      let t := threshold k bias
      if d < t then some (value, rest) else number? bias (k + 36) (weight * (36 - t)) value rest

theorem number?_length_lt {bias k weight value : Nat} {cs : List Char} {r : Nat × List Char}
    (h : number? bias k weight value cs = some r) : r.2.length < cs.length := by
  induction cs generalizing k weight value with
  | nil => simp [number?] at h
  | cons c rest ih =>
    simp only [number?] at h
    split at h
    · simp at h
    · split at h
      · simp only [Option.some.injEq] at h
        simp [← h]
      · have := ih h
        simp only [List.length_cons]
        omega

def reduce (delta k : Nat) : Nat × Nat :=
  if 455 < delta then reduce (delta / 35) (k + 36) else (delta, k)
termination_by delta

/-- The bias for the next number, after `count` characters. -/
def adapt (delta count : Nat) (first : Bool) : Nat :=
  let delta := if first then delta / 700 else delta / 2
  let (delta, k) := reduce (delta + delta / count) 0
  k + 36 * delta / (delta + 38)

/-- Inserts the characters that the rest of the text stands for, each behind the place `i` and not
below the code point `n`. -/
def insertAll (out : List Char) (n i bias : Nat) (cs : List Char) : Option (List Char) :=
  if cs.isEmpty then some out
  else
    match _h : number? bias 36 1 i cs with
    | none => none
    | some (value, rest) =>
      let count := out.length + 1
      let next := n + value / count
      let place := value % count
      if next.isValidChar then
        insertAll (out.take place ++ Char.ofNat next :: out.drop place) next (place + 1)
          (adapt (value - i) count (i = 0)) rest
      else none
termination_by cs.length
decreasing_by exact number?_length_lt _h

/-- The ASCII characters stand in front of the last hyphen; without any there is no hyphen. -/
def decode? (text : List Char) : Option (List Char) :=
  let tail := (text.reverse.takeWhile (· ≠ '-')).reverse
  if tail.length + 1 = text.length then none
  else insertAll (text.take (text.length - (tail.length + 1))) 128 0 72 tail

end BlobFiles.Endpoint.Punycode
