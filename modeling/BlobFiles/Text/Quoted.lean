import BlobFiles.Text.Printable

/-! # Quoted text

Text between double quotes that shows every character: backslash escapes for quotes, backslashes and
the common controls, `\u{..}` with the code point for what has no visible form, and every other
character as it is.
-/
namespace BlobFiles.Text

def escape (c : Char) : List Char :=
  match c with
  | '\x00' => ['\\', '0']
  | '\t' => ['\\', 't']
  | '\r' => ['\\', 'r']
  | '\n' => ['\\', 'n']
  | '"' => ['\\', '"']
  | '\\' => ['\\', '\\']
  | c =>
    if isPrintable c then [c]
    else ['\\', 'u', '\x7b'] ++ Nat.toDigits 16 c.toNat ++ ['\x7d']

def quoted (s : String) : String :=
  .ofList ('"' :: s.toList.flatMap escape ++ ['"'])

end BlobFiles.Text
