import Diorama.Json.Token

namespace Diorama.Argument

def isDigit (c : Char) : Bool := '0' ≤ c && c ≤ '9'

def digits? (text : List Char) : Option (List Nat) :=
  if text.isEmpty || !text.all isDigit then none
  else some (text.map fun c => c.toNat - '0'.toNat)

def sign : List Char → Bool × List Char
  | '+' :: rest => (false, rest)
  | '-' :: rest => (true, rest)
  | text => (false, text)

def integer? (text : String) : Option Int :=
  let (negative, rest) := sign text.toList
  (digits? rest).map fun ds =>
    if negative then -(magnitude ds : Int) else magnitude ds

def integerIn? (low high : Int) (text : String) : Option Int :=
  (integer? text).filter fun n => low ≤ n && n ≤ high

def natural? (text : String) : Option Nat :=
  let rest := match text.toList with
    | '+' :: rest => rest
    | text => text
  ((digits? rest).map magnitude).filter (· < UInt64.size)

def exponent? : List Char → Option Int
  | [] => some 0
  | c :: rest =>
    if c = 'e' || c = 'E' then
      let (negative, rest) := sign rest
      (digits? rest).map fun ds =>
        if negative then -(magnitude ds : Int) else magnitude ds
    else none

def decimal? (text : List Char) : Option Scalar :=
  let (whole, rest) := Token.digits text
  let (fraction, rest) := match rest with
    | '.' :: rest => Token.digits rest
    | rest => ([], rest)
  if whole.isEmpty && fraction.isEmpty then none
  else (exponent? rest).map fun exponent =>
    .ofModel (.ofScientific (magnitude (whole ++ fraction)) (exponent - fraction.length))

def scalar? (text : String) : Option Scalar :=
  let (negative, rest) := sign text.toList
  let word := String.ofList (rest.map Char.toLower)
  let magnitude : Option Scalar :=
    if word == "inf" || word == "infinity" then some (1 / 0)
    else if word == "nan" then some (0 / 0)
    else decimal? rest
  magnitude.map fun x => if negative then -x else x

end Diorama.Argument
