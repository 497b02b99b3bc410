import Diorama.Json.Basic
import Diorama.Decimal.Numeral

namespace Diorama.Json

def scalarNumeral : NumeralStyle where
  least := some (-6)
  greatest := some 12
  fraction := true
  tie := .even
  plus := "+"
  missing := "null"
  infinite := "null"
  negativeInfinite := "null"

def floatNumeral : NumeralStyle := { scalarNumeral with least := some (-5), greatest := some 15 }

def hexDigit (n : Nat) : Char := (Nat.digitChar n)

def escape (c : Char) : List Char :=
  match c with
  | '"' => ['\\', '"']
  | '\\' => ['\\', '\\']
  | '\n' => ['\\', 'n']
  | '\r' => ['\\', 'r']
  | '\t' => ['\\', 't']
  | '\x08' => ['\\', 'b']
  | '\x0c' => ['\\', 'f']
  | c =>
    if c.toNat < 0x20 then ['\\', 'u', '0', '0', hexDigit (c.toNat / 16), hexDigit (c.toNat % 16)]
    else [c]

def quote (s : String) : String := .ofList ('"' :: s.toList.flatMap escape ++ ['"'])

mutual

def compact : Json → String
  | .null => "null"
  | .bool true => "true"
  | .bool false => "false"
  | .integer n => toString n
  | .real x => floatNumeral.float x
  | .single x => scalarNumeral.scalar x
  | .string s => quote s
  | .array items => "[" ++ compactItems items ++ "]"
  | .object members => "\x7b" ++ compactMembers members ++ "\x7d"
  | .unreadable => "null"

def compactItems : List Json → String
  | [] => ""
  | [item] => item.compact
  | item :: rest => item.compact ++ "," ++ compactItems rest

def compactMembers : List (String × Json) → String
  | [] => ""
  | [(name, item)] => quote name ++ ":" ++ item.compact
  | (name, item) :: rest => quote name ++ ":" ++ item.compact ++ "," ++ compactMembers rest

end

def newline (depth : Nat) : String := "\n" ++ String.ofList (.replicate (2 * depth) ' ')

mutual

def prettyAt (depth : Nat) : Json → String
  | .array [] => "[]"
  | .array (item :: rest) =>
    "[" ++ newline (depth + 1) ++ prettyItems (depth + 1) (item :: rest) ++ newline depth ++ "]"
  | .object [] => "\x7b\x7d"
  | .object (member :: rest) =>
    "\x7b" ++ newline (depth + 1) ++ prettyMembers (depth + 1) (member :: rest) ++ newline depth
      ++ "\x7d"
  | .null => "null"
  | .bool true => "true"
  | .bool false => "false"
  | .integer n => toString n
  | .real x => floatNumeral.float x
  | .single x => scalarNumeral.scalar x
  | .string s => quote s
  | .unreadable => "null"

def prettyItems (depth : Nat) : List Json → String
  | [] => ""
  | [item] => item.prettyAt depth
  | item :: rest => item.prettyAt depth ++ "," ++ newline depth ++ prettyItems depth rest

def prettyMembers (depth : Nat) : List (String × Json) → String
  | [] => ""
  | [(name, item)] => quote name ++ ": " ++ item.prettyAt depth
  | (name, item) :: rest =>
    quote name ++ ": " ++ item.prettyAt depth ++ "," ++ newline depth ++ prettyMembers depth rest

end

def pretty (j : Json) : String := j.prettyAt 0

end Diorama.Json
