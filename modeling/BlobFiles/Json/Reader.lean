import BlobFiles.Json.Basic

/-! # Reading JSON text

The grammar is the strict one: no comments, no trailing commas, no byte order mark, no raw control
characters, and every surrogate escape in a pair. The depth of nesting is limited, and the limit is
what the recursion runs on. Of several members with one name the last one counts. A number without
fraction and exponent is an integer when it fits 64 bits, signed or unsigned; `-0` is not one.
-/
namespace BlobFiles.Json

/-- White space between tokens. -/
def isSpace (c : Char) : Bool := c = ' ' || c = '\t' || c = '\n' || c = '\r'

def skipSpace (cs : List Char) : List Char := cs.dropWhile isSpace

def digitValue (c : Char) : Nat := c.toNat - '0'.toNat

/-- Extends a number by digits for as long as it has 64 bits. -/
def extendDigits (n : Nat) : List Char → Nat × List Char
  | [] => (n, [])
  | d :: ds =>
    let n' := 10 * n + digitValue d
    if n' ≤ 0xFFFFFFFFFFFFFFFF then extendDigits n' ds else (n, d :: ds)

/-- The parts of a number's text: digits before the point, after it, and the exponent. -/
structure NumberText where
  negative : Bool
  whole : List Char
  fraction : Option (List Char)
  exponent : Option Int

/-- At least one digit, and what follows the digits. -/
def digits? (cs : List Char) : Option (List Char × List Char) :=
  match cs.takeWhile Char.isDigit with
  | [] => none
  | ds => some (ds, cs.dropWhile Char.isDigit)

/-- A whole number has no zero in front. -/
def whole? (cs : List Char) : Option (List Char × List Char) := do
  let (ds, rest) ← digits? cs
  if ds.head? = some '0' && 1 < ds.length then none else some (ds, rest)

def naturalOfDigits (ds : List Char) : Nat := ds.foldl (fun n d => 10 * n + digitValue d) 0

/-- The exponent behind an `e`, with or without a sign. -/
def exponent? (cs : List Char) : Option (Int × List Char) := do
  let (negative, unsigned) :=
    match cs with
    | '-' :: rest => (true, rest)
    | '+' :: rest => (false, rest)
    | rest => (false, rest)
  let (ds, rest) ← digits? unsigned
  let n : Int := naturalOfDigits ds
  some (if negative then -n else n, rest)

/-- Whether a minus stands in front, and what follows it. -/
def splitSign (cs : List Char) : Bool × List Char :=
  match cs with
  | '-' :: rest => (true, rest)
  | rest => (false, rest)

/-- The digits behind a point, if there is one. -/
def fractionPart? (cs : List Char) : Option (Option (List Char) × List Char) :=
  match cs with
  | '.' :: rest => (digits? rest).map fun r => (some r.1, r.2)
  | rest => some (none, rest)

/-- The exponent, if there is one. -/
def exponentPart? (cs : List Char) : Option (Option Int × List Char) :=
  match cs with
  | 'e' :: rest | 'E' :: rest => (exponent? rest).map fun r => (some r.1, r.2)
  | rest => some (none, rest)

def numberText? (cs : List Char) : Option (NumberText × List Char) := do
  let (negative, unsigned) := splitSign cs
  let (whole, rest) ← whole? unsigned
  let (fraction, rest) ← fractionPart? rest
  let (exponent, rest) ← exponentPart? rest
  some (⟨negative, whole, fraction, exponent⟩, rest)

namespace NumberText

def minInteger : Int := -0x8000000000000000

/-- The integer a text stands for, when it has the form and the size of one. -/
def integer? (t : NumberText) : Option Int :=
  if t.fraction.isSome || t.exponent.isSome then none
  else
    let n := naturalOfDigits t.whole
    if t.negative then if 0 < n ∧ minInteger ≤ -(n : Int) then some (-n) else none
    else if n ≤ 0xFFFFFFFFFFFFFFFF then some n else none

/-- The floating-point number: the leading digits that fit 64 bits are kept, whole digits beyond
them count as powers of ten, and fraction digits beyond them are dropped. -/
def float? (t : NumberText) : Option Decimal.Binary64 :=
  let (n, beyond) := extendDigits 0 t.whole
  let fraction := t.fraction.getD []
  let (n, dropped) := extendDigits n fraction
  let kept : Int := fraction.length - dropped.length
  (Decimal.Magnitude.ofDecimal n (beyond.length - kept + t.exponent.getD 0)).map (⟨t.negative, ·⟩)

/-- A number too large for a floating-point number is refused. -/
def value? (t : NumberText) : Option Json :=
  match t.integer? with
  | some n => some (integer n)
  | none => t.float?.map float

end NumberText

def number? (cs : List Char) : Option (Json × List Char) := do
  let (t, rest) ← numberText? cs
  let v ← t.value?
  some (v, rest)

def hexValue? (c : Char) : Option Nat :=
  if c.isDigit then some (digitValue c)
  else if 'a' ≤ c ∧ c ≤ 'f' then some (c.toNat - 'a'.toNat + 10)
  else if 'A' ≤ c ∧ c ≤ 'F' then some (c.toNat - 'A'.toNat + 10)
  else none

/-- Four hexadecimal digits. -/
def hex4? : List Char → Option (Nat × List Char)
  | a :: b :: c :: d :: rest => do
    let n := 4096 * (← hexValue? a) + 256 * (← hexValue? b) + 16 * (← hexValue? c) + (← hexValue? d)
    some (n, rest)
  | _ => none

def isHighSurrogate (n : Nat) : Bool := 0xD800 ≤ n && n < 0xDC00
def isLowSurrogate (n : Nat) : Bool := 0xDC00 ≤ n && n < 0xE000

/-- The character of a `\u` escape, read behind the `u`. -/
def unicodeEscape? (cs : List Char) : Option (Char × List Char) := do
  let (high, rest) ← hex4? cs
  if isHighSurrogate high then
    match rest with
    | '\\' :: 'u' :: rest => do
      let (low, rest) ← hex4? rest
      if isLowSurrogate low then
        some (Char.ofNat (0x10000 + (high - 0xD800) * 0x400 + (low - 0xDC00)), rest)
      else none
    | _ => none
  else if isLowSurrogate high then none
  else some (Char.ofNat high, rest)

def simpleEscape? : Char → Option Char
  | '"' => some '"'
  | '\\' => some '\\'
  | '/' => some '/'
  | 'b' => some '\x08'
  | 'f' => some '\x0c'
  | 'n' => some '\n'
  | 'r' => some '\r'
  | 't' => some '\t'
  | _ => none

/-- The characters of a string behind its opening quote. Every round takes a character at least. -/
def stringTail? : Nat → List Char → Option (List Char × List Char)
  | 0, _ => none
  | _ + 1, [] => none
  | _ + 1, '"' :: rest => some ([], rest)
  | fuel + 1, '\\' :: 'u' :: rest => do
    let (c, rest) ← unicodeEscape? rest
    let (text, rest) ← stringTail? fuel rest
    some (c :: text, rest)
  | fuel + 1, '\\' :: e :: rest => do
    let c ← simpleEscape? e
    let (text, rest) ← stringTail? fuel rest
    some (c :: text, rest)
  | fuel + 1, c :: rest => do
    if c.toNat < 0x20 || c = '\\' then none
    let (text, rest) ← stringTail? fuel rest
    some (c :: text, rest)

def string? (cs : List Char) : Option (String × List Char) :=
  match cs with
  | '"' :: rest => (stringTail? (rest.length + 1) rest).map fun r => (.ofList r.1, r.2)
  | _ => none

def word? (word : String) (value : Json) (cs : List Char) : Option (Json × List Char) :=
  (word.toList.isPrefixOf? cs).map fun rest => (value, rest)

def scalar? (cs : List Char) : Option (Json × List Char) :=
  match cs with
  | '"' :: _ => (string? cs).map fun r => (string r.1, r.2)
  | 't' :: _ => word? "true" (bool true) cs
  | 'f' :: _ => word? "false" (bool false) cs
  | 'n' :: _ => word? "null" null cs
  | _ => number? cs

/-- The items of an array from the first one on, through the closing bracket. -/
def items? (value : List Char → Option (Json × List Char)) :
    Nat → List Char → Option (List Json × List Char)
  | 0, _ => none
  | fuel + 1, cs => do
    let (item, rest) ← value cs
    match skipSpace rest with
    | ',' :: rest => do
      let (items, rest) ← items? value fuel rest
      some (item :: items, rest)
    | ']' :: rest => some ([item], rest)
    | _ => none

def array? (value : List Char → Option (Json × List Char)) (cs : List Char) :
    Option (Json × List Char) :=
  match skipSpace cs with
  | ']' :: rest => some (array [], rest)
  | _ => (items? value (cs.length + 1) cs).map fun r => (array r.1, r.2)

/-- The members of an object from the first one on, through the closing brace. -/
def members? (value : List Char → Option (Json × List Char)) :
    Nat → Members → List Char → Option (Members × List Char)
  | 0, _, _ => none
  | fuel + 1, before, cs => do
    let (key, rest) ← string? (skipSpace cs)
    match skipSpace rest with
    | ':' :: rest => do
      let (v, rest) ← value rest
      let before := before.insert key v
      match skipSpace rest with
      | ',' :: rest => members? value fuel before rest
      | '\x7d' :: rest => some (before, rest)
      | _ => none
    | _ => none

def object? (value : List Char → Option (Json × List Char)) (cs : List Char) :
    Option (Json × List Char) :=
  match skipSpace cs with
  | '\x7d' :: rest => some (object [], rest)
  | _ => (members? value (cs.length + 1) [] cs).map fun r => (object r.1, r.2)

/-- A value nested at most `depth` deep, and what follows it. -/
def value? (depth : Nat) (cs : List Char) : Option (Json × List Char) :=
  match skipSpace cs, depth with
  | '[' :: rest, depth + 1 => array? (value? depth) rest
  | '\x7b' :: rest, depth + 1 => object? (value? depth) rest
  | cs, _ => scalar? cs
termination_by depth

def parseWithin? (depth : Nat) (cs : List Char) : Option Json := do
  let (v, rest) ← value? depth cs
  if (skipSpace rest).isEmpty then some v else none

/-- The deepest nesting that settings may have. -/
def maxDepth : Nat := 127

def parse? (text : String) : Option Json := parseWithin? maxDepth text.toList

end BlobFiles.Json
