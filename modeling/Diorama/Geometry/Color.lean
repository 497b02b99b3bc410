import Diorama.Json.Record

namespace Diorama

structure Color where
  r : Scalar
  g : Scalar
  b : Scalar
  a : Scalar := 1
deriving BEq, DecidableEq, Inhabited

namespace Color

def white : Color := { r := 1, g := 1, b := 1 }

def channels (c : Color) : List Scalar := [c.r, c.g, c.b, c.a]

def form : RecordForm Color where
  blank := white
  others := .refused
  fields := [
    .required "r" (·.r) fun v c => { c with r := v },
    .required "g" (·.g) fun v c => { c with g := v },
    .required "b" (·.b) fun v c => { c with b := v },
    .optional "a" (·.a) fun v c => { c with a := v }]

instance : JsonForm Color := form.jsonForm

end Color

end Diorama
