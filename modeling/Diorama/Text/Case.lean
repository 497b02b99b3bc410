import Diorama.Text.CaseTable

namespace Diorama.Text

def inRanges (ranges : Array (Nat × Nat)) (c : Char) : Bool :=
  ranges.any fun (first, last) => first ≤ c.toNat && c.toNat ≤ last

def isCased (c : Char) : Bool := inRanges casedRanges c

def isCaseIgnorable (c : Char) : Bool := inRanges caseIgnorableRanges c

def image (runs : Array (Nat × Nat × Nat × Int)) (expansions : Array (Nat × List Nat)) (c : Char) :
    List Char :=
  match expansions.find? (·.1 = c.toNat) with
  | some (_, parts) => parts.map Char.ofNat
  | none =>
    match runs.find? fun (first, last, step, _) =>
      first ≤ c.toNat && c.toNat ≤ last && (c.toNat - first) % step = 0 with
    | some (_, _, _, distance) => [Char.ofNat (c.toNat + distance).toNat]
    | none => [c]

def lowerChar (c : Char) : List Char :=
  if c.toNat < 0x80 then [c.toLower] else image lowerRuns lowerExpansions c

def upperChar (c : Char) : List Char :=
  if c.toNat < 0x80 then [c.toUpper] else image upperRuns upperExpansions c

def meetsCased (text : List Char) : Bool :=
  match text.dropWhile isCaseIgnorable with
  | [] => false
  | c :: _ => isCased c

def lowerAfter (passed : List Char) : List Char → List Char
  | [] => []
  | c :: rest =>
    let lowered :=
      if c = 'Σ' then
        if meetsCased passed && !meetsCased rest then ['ς'] else ['σ']
      else lowerChar c
    lowered ++ lowerAfter (c :: passed) rest

def lower (text : String) : String := .ofList (lowerAfter [] text.toList)

def capitalize (word : String) : String :=
  match word.toList with
  | [] => ""
  | c :: rest => .ofList (upperChar c ++ rest)

end Diorama.Text
