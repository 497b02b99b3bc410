import Diorama.Text.Printable

namespace Diorama.Text

def escapeQuoted (c : Char) : List Char :=
  match c with
  | '"' => ['\\', '"']
  | '\\' => ['\\', '\\']
  | '\n' => ['\\', 'n']
  | '\r' => ['\\', 'r']
  | '\t' => ['\\', 't']
  | '\x00' => ['\\', '0']
  | c =>
    if isPrintable c then [c]
    else "\\u".toList ++ '\x7b' :: Nat.toDigits 16 c.toNat ++ ['\x7d']

def quoted (text : String) : String := .ofList ('"' :: text.toList.flatMap escapeQuoted ++ ['"'])

def bracketed (parts : List String) : String := "[" ++ ", ".intercalate parts ++ "]"

end Diorama.Text
