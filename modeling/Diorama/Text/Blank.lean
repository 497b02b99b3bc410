namespace Diorama.Text

def isBlank (c : Char) : Bool :=
  let n := c.toNat
  (0x09 ≤ n && n ≤ 0x0D) || n = 0x20 || n = 0x85 || n = 0xA0 || n = 0x1680
    || (0x2000 ≤ n && n ≤ 0x200A) || n = 0x2028 || n = 0x2029 || n = 0x202F || n = 0x205F
    || n = 0x3000

def trimChars (text : List Char) : List Char :=
  ((text.dropWhile isBlank).reverse.dropWhile isBlank).reverse

def trim (text : String) : String := .ofList (trimChars text.toList)

def isBlankText (text : String) : Bool := text.toList.all isBlank

def growWords (c : Char) : List (List Char) → List (List Char)
  | [] => if isBlank c then [[]] else [[c]]
  | word :: rest => if isBlank c then [] :: word :: rest else (c :: word) :: rest

def words (text : String) : List String :=
  ((text.toList.foldr growWords []).filter (!·.isEmpty)).map String.ofList

def after? (mark : List Char) : List Char → Option (List Char)
  | [] => if mark.isEmpty then some [] else none
  | c :: rest =>
    if mark.isPrefixOf (c :: rest) then some ((c :: rest).drop mark.length) else after? mark rest

def before (mark : List Char) : List Char → List Char
  | [] => []
  | c :: rest => if mark.isPrefixOf (c :: rest) then [] else c :: before mark rest

def contains (text part : List Char) : Bool := (after? part text).isSome

end Diorama.Text
