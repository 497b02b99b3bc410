/-! The shortest decimal of a binary floating-point number: among the decimals that read back as the number,
those on the coarsest grid of powers of ten, and of these the nearest to it. Two can be equally near; a format
says which one it takes. -/

namespace Diorama

structure Decimal where
  digits : Nat
  exponent : Int
deriving Repr, DecidableEq

inductive Tie where
  | even
  | upper
deriving Repr, DecidableEq

/-- The reals that round to one positive binary number. The ends and the number itself are
multiples of `2 ^ exponent`. -/
structure RoundingInterval where
  low : Nat
  middle : Nat
  high : Nat
  exponent : Int
  closed : Bool
deriving Repr, DecidableEq

namespace RoundingInterval

/-- The interval of `mantissa * 2 ^ exponent`. Its lower half is the shorter one where the numbers
below lie twice as dense, which is so at a `thin` mantissa. A tie goes to the even mantissa. -/
def around (mantissa : Nat) (exponent : Int) (thin : Bool) : RoundingInterval where
  low := 4 * mantissa - if thin then 1 else 2
  middle := 4 * mantissa
  high := 4 * mantissa + 2
  exponent := exponent - 2
  closed := mantissa % 2 = 0

def unit (i : RoundingInterval) (place : Int) : Nat :=
  Nat.pow 10 (-place).toNat <<< i.exponent.toNat

def step (i : RoundingInterval) (place : Int) : Nat :=
  Nat.pow 10 place.toNat <<< (-i.exponent).toNat

def contains (i : RoundingInterval) (place : Int) (digits : Nat) : Bool :=
  let point := digits * i.step place
  let low := i.low * i.unit place
  let high := i.high * i.unit place
  if i.closed then low ≤ point && point ≤ high else low < point && point < high

/-- The multiple of `10 ^ place` nearest to the middle, if one lies in the interval. Only the two
neighbours of the middle can be nearest. -/
def nearest? (i : RoundingInterval) (tie : Tie) (place : Int) : Option Nat :=
  let middle := i.middle * i.unit place
  let step := i.step place
  let below := middle / step
  let gapBelow := middle - below * step
  let gapAbove := (below + 1) * step - middle
  match i.contains place below, i.contains place (below + 1) with
  | false, false => none
  | true, false => some below
  | false, true => some (below + 1)
  | true, true =>
    if gapBelow < gapAbove then some below
    else if gapAbove < gapBelow then some (below + 1)
    else match tie with
      | .even => some (below + below % 2)
      | .upper => some (below + 1)

def coarsest (i : RoundingInterval) : Int :=
  let count (n : Nat) : Int := (Nat.toDigits 10 n).length
  let whole := (i.high <<< i.exponent.toNat) >>> (-i.exponent).toNat
  if whole = 0 then 1 - count ((1 <<< (-i.exponent).toNat) / i.high) else count whole

def search (i : RoundingInterval) (tie : Tie) : Nat → Int → Decimal
  | 0, place => ⟨i.middle * i.unit place / i.step place, place⟩
  | fuel + 1, place =>
    match i.nearest? tie place with
    | some digits => ⟨digits, place⟩
    | none => i.search tie fuel (place - 1)

/-- The shortest decimal in the interval. A double has at most seventeen digits, so the grid that
is found is at most eighteen places below the coarsest. -/
def shortest (i : RoundingInterval) (tie : Tie) : Decimal := i.search tie 20 i.coarsest

end RoundingInterval

end Diorama
