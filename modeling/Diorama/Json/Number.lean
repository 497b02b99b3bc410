import Diorama.Json.Basic

/-! Numbers as they are spelled, and their content in JSON text. Whole numbers that fit 64 bits are integers.
Every other number is read by best effort: the leading digits as far as they fit 64 bits make a float, which one
multiplication or division by a power of ten then scales; further digits count by their place only. -/

namespace Diorama

def magnitude (digits : List Nat) : Nat := digits.foldl (fun n d => n * 10 + d) 0

structure ExponentText where
  mark : Char
  sign : Option Char
  digits : List Nat
deriving Repr, DecidableEq

namespace ExponentText

def value (e : ExponentText) : Int :=
  if e.sign = some '-' then -magnitude e.digits else magnitude e.digits

def text (e : ExponentText) : List Char := e.mark :: e.sign.toList ++ e.digits.map Nat.digitChar

end ExponentText

structure NumberText where
  negative : Bool
  whole : List Nat
  fraction : Option (List Nat)
  exponent : Option ExponentText
deriving Repr, DecidableEq

namespace NumberText

def text (t : NumberText) : List Char :=
  let fraction := match t.fraction with
    | some digits => '.' :: digits.map Nat.digitChar
    | none => []
  let exponent := match t.exponent with
    | some exponent => exponent.text
    | none => []
  (if t.negative then ['-'] else []) ++ t.whole.map Nat.digitChar ++ fraction ++ exponent

def isWhole (t : NumberText) : Bool := t.fraction.isNone && t.exponent.isNone

def power (t : NumberText) : Int := (t.exponent.map (·.value)).getD 0

def absorb (significand : Nat) : List Nat → Nat × List Nat
  | [] => (significand, [])
  | digit :: rest =>
    if significand * 10 + digit < UInt64.size then absorb (significand * 10 + digit) rest
    else (significand, digit :: rest)

def nearest (n : Nat) : Float := .ofModel (.ofNat n)

/-- Scales a float by a power of ten, in steps of `10 ^ 308` where the power is smaller than any
float. There is no result beyond the range. -/
def scale (x : Float) (exponent : Int) : Option Float :=
  if exponent < -308 then
    if x == nearest 0 then some x else scale (x / nearest (Nat.pow 10 308)) (exponent + 308)
  else if exponent < 0 then some (x / nearest (Nat.pow 10 (-exponent).toNat))
  else if exponent ≤ 308 then
    let product := x * nearest (Nat.pow 10 exponent.toNat)
    if product.isFinite then some product else none
  else if x == nearest 0 then some x
  else none
termination_by (-exponent).toNat

def float? (t : NumberText) : Option Float := do
  let (whole, left) := absorb 0 t.whole
  let fraction := t.fraction.getD []
  let (significand, unused) := absorb whole fraction
  let places : Int := fraction.length - unused.length
  let magnitude ← scale (nearest significand) (left.length - places + t.power)
  return if t.negative then -magnitude else magnitude

def json (t : NumberText) : Json :=
  let float := match t.float? with
    | some x => .real x
    | none => .unreadable
  if !t.isWhole then float
  else match absorb 0 t.whole with
    | (_, _ :: _) => float
    | (magnitude, []) =>
      if !t.negative then .integer magnitude
      else if 0 < magnitude && Int64.minValue.toInt ≤ -magnitude then .integer (-magnitude)
      else float

end NumberText

end Diorama
