import BlobFiles.Endpoint.DomainTable
import BlobFiles.Endpoint.Punycode
import BlobFiles.Text.Composed
import BlobFiles.Text.Direction
import BlobFiles.Text.Joining

/-! # Labels of domain names

A label with characters outside ASCII is written as it is or in an ASCII form behind `xn--`. It
begins with no mark, its joiners stand where they change the writing, and it is not too long. When
any label of a name holds letters from right to left, every label keeps to one direction.
-/
namespace BlobFiles.Endpoint

open Text (Direction Joining direction joining)

/-- ASCII characters that no domain name may hold. -/
def isForbidden (c : Char) : Bool :=
  c.toNat ≤ 0x20 || c.toNat = 0x7F ||
    ['%', '#', '/', ':', '<', '>', '?', '@', '[', '\\', ']', '^', '|'].contains c

def isAscii (c : Char) : Bool := c.toNat < 0x80

def mapHostChar (c : Char) : Option (List Char) :=
  if isAscii c then some [c.toLower] else mapChar c

/-- The longest label with characters outside ASCII. -/
def maxLabelLength : Nat := 1000

/-- The longest ASCII form of a label, without the `xn--`. -/
def maxEncodedLength : Nat := 2000

/-- The zero-width characters that ask for or against a ligature. -/
def isJoiner (c : Char) : Bool := c = '\u200C' || c = '\u200D'

def joinsToNext (j : Joining) : Bool := j = .next || j = .both

def joinsToPrevious (j : Joining) : Bool := j = .previous || j = .both

/-- How the first character that is not transparent joins. -/
def firstJoining (text : List Char) : Joining :=
  ((text.map joining).find? (· ≠ .transparent)).getD .none

/-- A joiner may follow a virama. One that parts letters may also stand between letters that would
join; `before` is what stands in front of it, the nearest character first. -/
def joinerAllowed (c : Char) (before after : List Char) : Bool :=
  (before.head?.map Text.isVirama).getD false ||
    (c = '\u200C' && joinsToNext (firstJoining before) && joinsToPrevious (firstJoining after))

def joinersAllowed (before : List Char) : List Char → Bool
  | [] => true
  | c :: after =>
    (!isJoiner c || joinerAllowed c before after) && joinersAllowed (c :: before) after

/-- What a label outside ASCII has to be like. -/
def isProperLabel (label : List Char) : Bool :=
  !(label.head?.map Text.isMark).getD false && joinersAllowed [] label &&
    label.length ≤ maxLabelLength

/-- A label that mapping and composing leave alone. -/
def isStable (label : List Char) : Bool :=
  label.all (fun c => mapHostChar c = some [c]) && Text.composed label = label

/-- The characters that a label stands for, if it is well formed. The ASCII form of a label that is
ASCII anyway, or that mapping and composing would change, is not. -/
def readLabel? (label : List Char) : Option (List Char) :=
  match label with
  | 'x' :: 'n' :: '-' :: '-' :: encoded =>
    if encoded.all isAscii && encoded.length ≤ maxEncodedLength then
      (Punycode.decode? encoded).filter fun decoded =>
        !decoded.all isAscii && isStable decoded && isProperLabel decoded
    else none
  | _ => if label.all isAscii || isProperLabel label then some label else none

def isRightward (d : Direction) : Bool := d = .right || d = .arabicDigit

/-- The directions of a label in which letters go from left to right. -/
def goesRight (rest : List Direction) : Bool :=
  rest.all fun d => d = .left || d = .europeanDigit || d = .mark || d = .neutral

/-- The directions of a label in which letters go from right to left; its numbers are of one
kind. -/
def goesLeft (rest : List Direction) : Bool :=
  (rest.all fun d => d ≠ .left) && !(rest.contains .europeanDigit && rest.contains .arabicDigit)

/-- Whether a label keeps to the direction of its first letter. Marks at the end aside, the last
character is a letter or a digit. -/
def keepsDirection (label : List Char) : Bool :=
  match label.map direction with
  | [] => true
  | first :: rest =>
    let last := (rest.reverse.find? (· ≠ .mark)).getD first
    match first with
    | .left => goesRight rest && (last = .left || last = .europeanDigit)
    | .right => goesLeft rest && last ≠ .neutral
    | _ => false

end BlobFiles.Endpoint
