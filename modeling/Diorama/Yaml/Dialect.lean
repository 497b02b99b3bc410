import Diorama.Json.Dialect

/-! How YAML reads the numbers and strings of JSON text. Its floats are the nearest ones, a number without a
value is a text, and line breaks in a string fold. -/

namespace Diorama.Yaml

def rounded (t : NumberText) : Float :=
  let fraction := t.fraction.getD []
  let size : Float :=
    .ofModel (.ofScientific (magnitude (t.whole ++ fraction)) (t.power - fraction.length))
  if t.negative then -size else size

def isWide (n : Int) : Bool :=
  let half : Nat := 1 <<< 127
  n < 2 * half && 0 ≤ n + half

/-- The content of a number. Integers of up to 128 bits stay integers, which data holds only up to 64
bits; zero has no sign among them. A number beyond the floats is the text that spells it. -/
def number (t : NumberText) : Json :=
  let n : Int := if t.negative then -magnitude t.whole else magnitude t.whole
  if t.isWhole && Json.inRange n then .integer n
  else if t.isWhole && isWide n then .unreadable
  else if (rounded t).isFinite then .real (rounded t)
  else .string (.ofList t.text)

def isBreak (c : Char) : Bool := c = '\u0085' || c = '\u2028' || c = '\u2029'

def keptBreak (c : Char) : Char := if c = '\u0085' then '\n' else c

/-- What blanks between other characters amount to: the spaces, or the breaks if there are any. A first
break that is no separator of its own is dropped before others, and a space when it is alone. -/
def folded (spaces : Nat) : List Char → List Char
  | [] => .replicate spaces ' '
  | first :: more =>
    if first ≠ '\u0085' then first :: more.map keptBreak
    else if more.isEmpty then [' ']
    else more.map keptBreak

def startsMark : List Piece → Bool
  | .char a :: .char b :: .char c :: .char d :: _ =>
    (a = '-' || a = '.') && b = a && c = a && (d = ' ' || isBreak d)
  | _ => false

def characters? (spaces : Nat) (breaks : List Char) : List Piece → Option (List Char)
  | [] => some (folded spaces breaks)
  | .char c :: rest =>
    if isBreak c then
      if startsMark rest then none else characters? spaces (breaks ++ [c]) rest
    else if c = ' ' then characters? (spaces + 1) breaks rest
    else (folded spaces breaks ++ c :: ·) <$> characters? 0 [] rest
  | .unit value :: rest =>
    if 0xD800 ≤ value ∧ value < 0xE000 then none
    else (folded spaces breaks ++ Char.ofNat value :: ·) <$> characters? 0 [] rest

def dialect : Dialect where
  number := number
  string pieces := (characters? 0 [] pieces).map .ofList
  depth := 128

end Diorama.Yaml
