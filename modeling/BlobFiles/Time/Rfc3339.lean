import BlobFiles.Text.Blank
import BlobFiles.Time.Calendar

/-! # Timestamps

An `Instant` is a number of seconds since the epoch and a fraction in nanoseconds, which exceeds a
second inside a leap second. `parse` accepts RFC 3339 text in a relaxed form: single digits, blanks
around the parts, a space for the `T`, and years with a sign. `text` writes the instant in UTC.
-/
namespace BlobFiles.Time

structure Instant where
  seconds : Int
  nanos : Nat
  deriving DecidableEq, Repr

inductive Fault where
  | tooShort
  | tooLong
  | invalid
  | outOfRange
  | impossible
  deriving DecidableEq, Repr

def Fault.message : Fault → String
  | .tooShort => "premature end of input"
  | .tooLong => "trailing input"
  | .invalid => "input contains invalid characters"
  | .outOfRange => "input is out of range"
  | .impossible => "no possible date and time matching input"

abbrev Scan (α : Type) := List Char → Except Fault (α × List Char)

def digitsValue (ds : List Char) : Nat :=
  ds.foldl (fun n d => 10 * n + (d.toNat - '0'.toNat)) 0

def literal (c : Char) : Scan Unit
  | [] => .error .tooShort
  | d :: rest => if d = c then .ok ((), rest) else .error .invalid

/-- The digits in front, `max` of them at most. -/
def digits (max : Nat) (cs : List Char) : Except Fault (List Char × List Char) :=
  match cs with
  | [] => .error .tooShort
  | c :: _ =>
    if c.isDigit then
      let ds := (cs.take max).takeWhile Char.isDigit
      .ok (ds, cs.drop ds.length)
    else .error .invalid

/-- A number of at most two digits between two bounds, after blanks. -/
def field (low high : Nat) : Scan Nat := fun cs => do
  let (ds, rest) ← digits 2 (Text.trimStart cs)
  let n := digitsValue ds
  if low ≤ n ∧ n ≤ high then return (n, rest) else throw .outOfRange

/-- Four digits at most, or any number of them behind a sign. -/
def yearField : Scan Int := fun cs =>
  match Text.trimStart cs with
  | '-' :: rest => signed (-1) rest
  | '+' :: rest => signed 1 rest
  | cs => (digits 4 cs).map fun (ds, rest) => ((digitsValue ds : Int), rest)
where
  signed (sign : Int) : Scan Int := fun cs => do
    let (ds, rest) ← digits cs.length cs
    let n := sign * digitsValue ds
    if -0x80000000 ≤ n ∧ n ≤ 0x7FFFFFFF then return (n, rest) else throw .outOfRange

def separator (c : Char) : Scan Unit := fun cs => literal c (Text.trimStart cs)

def dateFields : Scan Date := fun cs => do
  let (year, cs) ← yearField cs
  let ((), cs) ← separator '-' cs
  let (month, cs) ← field 1 12 cs
  let ((), cs) ← separator '-' cs
  let (day, cs) ← field 1 31 cs
  return (⟨year, month, day⟩, cs)

/-- Nanoseconds of a fraction; digits beyond the ninth are cut off. -/
def fraction : Scan Nat
  | '.' :: rest => do
    let (ds, rest) ← digits 9 rest
    return (digitsValue ds * Nat.pow 10 (9 - ds.length), rest.dropWhile Char.isDigit)
  | cs => .ok (0, cs)

structure ClockTime where
  hour : Nat
  minute : Nat
  /-- Up to 60, in a leap second. -/
  second : Nat
  nanos : Nat

def timeFields : Scan ClockTime := fun cs => do
  let (hour, cs) ← field 0 23 cs
  let ((), cs) ← separator ':' cs
  let (minute, cs) ← field 0 59 cs
  let ((), cs) ← separator ':' cs
  let (second, cs) ← field 0 60 cs
  let (nanos, cs) ← fraction cs
  return (⟨hour, minute, second, nanos⟩, Text.trimStart cs)

/-- Two digits, the first of which is at most `high`. -/
def twoDigits (high : Char) : Scan Nat
  | a :: b :: rest =>
    if a.isDigit && b.isDigit then
      if a ≤ high then .ok (digitsValue [a, b], rest) else .error .outOfRange
    else .error .invalid
  | [c] => if c.toNat < 0x80 then .error .tooShort else .error .invalid
  | [] => .error .tooShort

/-- Seconds east of UTC: `Z`, `UTC`, or a sign with hours and minutes. -/
def offset : Scan Int := fun cs =>
  match cs with
  | [] => .error .tooShort
  | c :: rest =>
    if (cs.take 3).map Char.toUpper = ['U', 'T', 'C'] then .ok (0, cs.drop 3)
    else if c = 'Z' || c = 'z' then .ok (0, rest)
    else if c = '+' then signed 1 rest
    else if c = '-' || c.toNat = 0x2212 then signed (-1) rest
    else .error .invalid
where
  signed (sign : Int) : Scan Int := fun cs => do
    let (hours, cs) ← twoDigits '9' cs
    let (minutes, cs) ← twoDigits '5' (cs.dropWhile fun c => c = ':' || Text.isBlank c)
    return (sign * (hours * 3600 + minutes * 60), cs)

def minYear : Int := -262143
def maxYear : Int := 262142

namespace Instant

/-- The instant at which clocks east of UTC by `shift` seconds show this date and time. -/
def ofLocal (date : Date) (time : ClockTime) (shift : Int) : Except Fault Instant :=
  if ¬ date.IsValid ∨ date.year < minYear ∨ maxYear < date.year ∨ 86400 ≤ shift.natAbs then
    .error .outOfRange
  else
    let leap := time.second = 60
    let second := if leap then 59 else time.second
    let nanos := if leap then time.nanos + 1000000000 else time.nanos
    let seconds := date.toDays * 86400 + time.hour * 3600 + time.minute * 60 + second - shift
    let year := (Date.ofDays (seconds / 86400)).year
    if year < minYear ∨ maxYear < year then .error .impossible else .ok ⟨seconds, nanos⟩

def ofText (cs : List Char) : Except Fault Instant := do
  let (date, cs) ← dateFields cs
  let cs ← match cs with
    | [] => throw .tooShort
    | c :: rest => if c = 'T' || c = 't' || c = ' ' then pure rest else throw .invalid
  let (time, cs) ← timeFields cs
  let (shift, cs) ← offset cs
  if !(Text.trimStart cs).isEmpty then throw .tooLong
  ofLocal date time shift

def parse (text : String) : Except Fault Instant := ofText text.toList

/-- A number with zeros in front up to a width. -/
def padded (width n : Nat) : String :=
  let ds := Nat.toDigits 10 n
  .ofList (List.replicate (width - ds.length) '0' ++ ds)

def yearText (year : Int) : String :=
  if 0 ≤ year ∧ year ≤ 9999 then padded 4 year.toNat
  else (if year < 0 then "-" else "+") ++ padded 4 year.natAbs

/-- Nothing, or the fewest groups of three digits that say it all. -/
def fractionText (nanos : Nat) : String :=
  if nanos = 0 then ""
  else if nanos % 1000000 = 0 then "." ++ padded 3 (nanos / 1000000)
  else if nanos % 1000 = 0 then "." ++ padded 6 (nanos / 1000)
  else "." ++ padded 9 nanos

def text (t : Instant) : String :=
  let date := Date.ofDays (t.seconds / 86400)
  let clock := (t.seconds % 86400).toNat
  let leap := if 1000000000 ≤ t.nanos then 1 else 0
  let day := s!"{yearText date.year}-{padded 2 date.month}-{padded 2 date.day}"
  let hour := padded 2 (clock / 3600)
  let minute := padded 2 (clock / 60 % 60)
  let time := s!"{hour}:{minute}:{padded 2 (clock % 60 + leap)}"
  s!"{day}T{time}{fractionText (t.nanos % 1000000000)}Z"

end Instant

end BlobFiles.Time
