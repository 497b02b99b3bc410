import Diorama.Decimal.Shortest
import Diorama.Scalar

/-! How a floating-point number is written. The digits are the shortest that read back; a `NumeralStyle` says
which exponents are written positionally and how the rest looks. `fixed` writes the exact value to a given
number of places instead. -/

namespace Diorama

structure NumeralStyle where
  least : Option Int
  greatest : Option Int
  fraction : Bool
  tie : Tie
  plus : String
  missing : String
  infinite : String
  negativeInfinite : String

namespace Decimal

def text (d : Decimal) : List Char := Nat.toDigits 10 d.digits

def leading (d : Decimal) : Int := d.exponent + d.text.length - 1

def positional (fraction : Bool) (d : Decimal) : String :=
  let digits := d.text
  if 0 ≤ d.exponent then
    .ofList (digits ++ .replicate d.exponent.toNat '0') ++ if fraction then ".0" else ""
  else
    let places := (-d.exponent).toNat
    let padded := .replicate (places + 1 - digits.length) '0' ++ digits
    .ofList (padded.take (padded.length - places) ++ '.' :: padded.drop (padded.length - places))

def scientific (plus : String) (d : Decimal) : String :=
  let mantissa := match d.text with
    | [] => ""
    | [digit] => String.singleton digit
    | digit :: rest => .ofList (digit :: '.' :: rest)
  let exponent := if d.leading < 0 then toString d.leading else plus ++ toString d.leading
  mantissa ++ "e" ++ exponent

end Decimal

namespace NumeralStyle

def decimal (n : NumeralStyle) (d : Decimal) : String :=
  if n.least.all (· ≤ d.leading) && n.greatest.all (d.leading ≤ ·) then d.positional n.fraction
  else d.scientific n.plus

def signed (negative : Bool) (text : String) : String := if negative then "-" ++ text else text

open Float.Model (Format UnpackedFloat)

def unpacked (n : NumeralStyle) (format : Format) : UnpackedFloat → String
  | .notANumber => n.missing
  | .infinity .positive => n.infinite
  | .infinity .negative => n.negativeInfinite
  | .zero sign => signed (sign == .negative) (if n.fraction then "0.0" else "0")
  | .finite sign mantissa exponent _ =>
    let thin := mantissa = 1 <<< format.mantissaBitsWithoutImplicit && format.minExponent < exponent
    signed (sign == .negative)
      (n.decimal ((RoundingInterval.around mantissa exponent thin).shortest n.tie))

def scalar (n : NumeralStyle) (x : Scalar) : String := n.unpacked .binary32 x.toModel.unpack

def float (n : NumeralStyle) (x : Float) : String := n.unpacked .binary64 x.toModel.unpack

end NumeralStyle

def Decimal.fixed (places : Nat) (x : Scalar) : String :=
  let digits (mantissa : Nat) : List Char :=
    let text := Nat.toDigits 10 mantissa
    .replicate (places + 1 - text.length) '0' ++ text
  let point (text : List Char) : String :=
    if places = 0 then .ofList text
    else .ofList (text.take (text.length - places) ++ '.' :: text.drop (text.length - places))
  match x.toModel.unpack with
  | .notANumber => "NaN"
  | .infinity .positive => "inf"
  | .infinity .negative => "-inf"
  | .zero sign => NumeralStyle.signed (sign == .negative) (point (digits 0))
  | .finite sign mantissa exponent _ =>
    let numerator := (mantissa * Nat.pow 10 places) <<< exponent.toNat
    let unit := 1 <<< (-exponent).toNat
    let below := numerator / unit
    let twice := 2 * (numerator % unit)
    let rounded :=
      if twice < unit then below else if unit < twice then below + 1 else below + below % 2
    NumeralStyle.signed (sign == .negative) (point (digits rounded))

end Diorama
