import Diorama.Json.Token

/-! What spelled numbers and strings stand for, and how deep containers nest. JSON text has one dialect; another
notation that takes JSON text in may read the same spellings in its own way. -/

namespace Diorama

structure Dialect where
  number : NumberText → Json
  string : List Piece → Option String
  depth : Nat

namespace Dialect

/-- The characters of a string in JSON text. A high surrogate joins the low one right after it; any
other surrogate stands for no character. -/
def joined? : List Piece → Option (List Char)
  | [] => some []
  | .char c :: rest => (c :: ·) <$> joined? rest
  | .unit high :: .unit low :: rest =>
    if 0xD800 ≤ high ∧ high < 0xDC00 then
      if 0xDC00 ≤ low ∧ low < 0xE000 then
        (Char.ofNat (0x10000 + (high - 0xD800) * 0x400 + (low - 0xDC00)) :: ·) <$> joined? rest
      else none
    else if 0xDC00 ≤ high ∧ high < 0xE000 then none
    else (Char.ofNat high :: ·) <$> joined? (.unit low :: rest)
  | .unit single :: rest =>
    if 0xD800 ≤ single ∧ single < 0xE000 then none else (Char.ofNat single :: ·) <$> joined? rest

def json : Dialect where
  number := NumberText.json
  string pieces := (joined? pieces).map .ofList
  depth := 127

end Dialect

end Diorama
