import BlobFiles.Storage.Basic

/-! # The read-ahead window

A window holds the bytes `start` up to `stop` of a blob, in storage of a fixed capacity. While a
read is served from it, `index` is the next byte to hand out and `available` how many are left;
between reads these two only mean something after they have been set again.
-/
namespace BlobFiles

structure Window where
  capacity : Nat
  start : Nat := 0
  stop : Nat := 0
  index : Nat := 0
  available : Nat := 0
  bytes : Bytes := []
  deriving DecidableEq, Repr

namespace Window

def holds (w : Window) (offset : Nat) : Bool := w.start ≤ offset && offset < w.stop

/-- Nothing is handed out from the window until it is located or filled again. -/
def pause (w : Window) : Window := { w with index := 0, available := 0 }

/-- Makes ready to hand out from `offset`, if the window has it. -/
def locate (w : Window) (offset : Nat) : Window :=
  if w.holds offset then
    { w with index := offset - w.start, available := (w.stop - w.start) - (offset - w.start) }
  else w.pause

def next (w : Window) (n : Nat) : Bytes := (w.bytes.drop w.index).take n

def advance (w : Window) (n : Nat) : Window :=
  { w with index := w.index + n, available := w.available - n }

/-- The window with `n` new bytes from `offset` on. -/
def fill (w : Window) (offset n : Nat) (data : Bytes) : Window :=
  { w with start := offset, stop := offset + n, index := 0, available := n, bytes := data }

end Window

end BlobFiles
