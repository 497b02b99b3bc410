/-! The scalar of all geometry is the 32-bit binary floating-point number, and free-form data holds 64-bit ones.
This module moves between the two formats and the integers, and fixes the choices that arithmetic leaves open:
extremes that ignore a missing number, a total order, and the integer part. -/

namespace Diorama

open Float.Model (Format UnpackedFloat)

abbrev Scalar := Float32

namespace Scalar

def widen (x : Scalar) : Float :=
  .ofModel <| .pack <| match x.toModel.unpack with
    | .finite sign mantissa exponent _ => .round .binary64 sign mantissa exponent
    | other => other

def narrow (x : Float) : Scalar :=
  .ofModel <| .pack <| match x.toModel.unpack with
    | .finite sign mantissa exponent _ => .round .binary32 sign mantissa exponent
    | other => other

def ofInt (n : Int) : Scalar := .ofModel (.ofInt n)

/-- The smaller number, the second one on a tie, and the other one beside a missing number. The two zeros
tie. -/
protected def min (a b : Scalar) : Scalar :=
  if b.isNaN then a else if a < b then a else b

protected def max (a b : Scalar) : Scalar :=
  if b.isNaN then a else if b < a then a else b

/-- A key whose integer order is the total order of scalars: negative numbers by falling
magnitude, `-0.0` before `0.0`, then positive numbers by rising magnitude. -/
def rank (x : Scalar) : Int :=
  let bits : Int := x.toBits.toNat
  if bits < 0x80000000 then bits else 0x7fffffff - bits

/-- The greatest integer not above a number, from the fields of its format: a sign, eight bits of
exponent and a fraction of 23 bits. A missing number has the integer part zero, an infinite one the given
bounds. -/
def floor (low high : Int) (x : Scalar) : Int :=
  let bits := x.toBits.toNat
  let negative := 0x80000000 ≤ bits
  let exponent : Nat := (bits >>> 23) % 0x100
  let fraction : Nat := bits % 0x800000
  if exponent = 255 then
    if fraction ≠ 0 then 0 else if negative then low else high
  else
    let mantissa : Nat := if exponent = 0 then fraction else 0x800000 + fraction
    let signed : Int := if negative then -mantissa else mantissa
    if 150 ≤ exponent then signed <<< (exponent - 150) else signed >>> (150 - max 1 exponent)

end Scalar

end Diorama
