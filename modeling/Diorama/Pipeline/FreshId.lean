namespace Diorama.FreshId

def hexDigits (count n : Nat) : List Char :=
  (List.range count).reverse.map fun place => Nat.digitChar ((n >>> (4 * place)) % 16)

def text (n : Nat) : String :=
  let tail := hexDigits 12 n
  let variant := Nat.digitChar (8 + (n >>> 60) % 4)
  let fourth := variant :: hexDigits 3 (n >>> 48)
  let third := '4' :: hexDigits 3 (n >>> 62)
  let second := hexDigits 4 (n >>> 74)
  let first := hexDigits 8 (n >>> 90)
  .ofList (first ++ '-' :: second ++ '-' :: third ++ '-' :: fourth ++ '-' :: tail)

def fromStart (start pass part : Nat) : String := text (start + UInt32.size * pass + part)

end Diorama.FreshId
