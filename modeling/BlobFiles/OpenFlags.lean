/-! # Open flags

How a file is opened, and the three-bit code of it: 1 for reading, 2 for writing, 4 for direct I/O.
-/
namespace BlobFiles

structure OpenFlags where
  read : Bool := false
  write : Bool := false
  /-- Every read downloads its own range and nothing is kept. -/
  directIo : Bool := false
  deriving DecidableEq, Repr

namespace OpenFlags

def bits (f : OpenFlags) : Nat :=
  f.read.toNat + 2 * f.write.toNat + 4 * f.directIo.toNat

/-- The flags among the lowest three bits; higher bits are ignored. -/
def ofBitsTruncate (n : Nat) : OpenFlags :=
  ⟨n.testBit 0, n.testBit 1, n.testBit 2⟩

def ofBits? (n : Nat) : Option OpenFlags :=
  if n < 8 then some (ofBitsTruncate n) else none

theorem ofBitsTruncate_bits (f : OpenFlags) : ofBitsTruncate f.bits = f := by
  obtain ⟨r, w, d⟩ := f
  cases r <;> cases w <;> cases d <;> decide

theorem bits_lt (f : OpenFlags) : f.bits < 8 := by
  obtain ⟨r, w, d⟩ := f
  cases r <;> cases w <;> cases d <;> decide

def complement (f : OpenFlags) : OpenFlags := ⟨!f.read, !f.write, !f.directIo⟩

def isEmpty (f : OpenFlags) : Bool := f = {}

def isAll (f : OpenFlags) : Bool := f.complement = {}

def names (f : OpenFlags) : List String :=
  (if f.read then ["READ"] else []) ++ (if f.write then ["WRITE"] else []) ++
    (if f.directIo then ["DIRECT_IO"] else [])

/-- The flags with these names; unknown names add nothing. -/
def ofNames (names : List String) : OpenFlags :=
  ⟨names.contains "READ", names.contains "WRITE", names.contains "DIRECT_IO"⟩

theorem ofNames_names (f : OpenFlags) : ofNames f.names = f := by
  obtain ⟨r, w, d⟩ := f
  cases r <;> cases w <;> cases d <;> decide

def describe (f : OpenFlags) : String :=
  let inner := if f.isEmpty then "0x0" else " | ".intercalate f.names
  s!"OpenFlags({inner})"

end OpenFlags

end BlobFiles
