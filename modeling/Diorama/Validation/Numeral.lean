import Diorama.Decimal.Numeral
import Diorama.Geometry.Color
import Diorama.Geometry.Vec3
import Diorama.Text.Quoted

/-! How messages write numbers. A value that is checked has its plain digits. Coordinates and channels keep a
fraction, and have a power of ten from `10 ^ 16` on and below `10 ^ -4`. Between two equally near decimals
messages take the one of greater magnitude. -/

namespace Diorama.Message

def plain : NumeralStyle where
  least := none
  greatest := none
  fraction := false
  tie := .upper
  plus := ""
  missing := "NaN"
  infinite := "inf"
  negativeInfinite := "-inf"

def measured : NumeralStyle :=
  { plain with least := some (-4), greatest := some 15, fraction := true }

def vector (v : Vec3) : String :=
  "Vec3(" ++ ", ".intercalate (v.toList.map measured.scalar) ++ ")"

def channels (c : Color) : String := Text.bracketed (c.channels.map measured.scalar)

end Diorama.Message
