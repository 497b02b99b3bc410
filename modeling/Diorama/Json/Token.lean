import Diorama.Json.Number

/-! The tokens of JSON text. The lexer fails on text that is no JSON wherever it stands. Numbers and strings are
kept as they are spelled, for a spelling may have no representable content and be passed over. -/

namespace Diorama

inductive Piece where
  | char (c : Char)
  | unit (value : Nat)

inductive Token where
  | openArray
  | closeArray
  | openObject
  | closeObject
  | comma
  | colon
  | null
  | bool (value : Bool)
  | number (text : NumberText)
  | string (pieces : List Piece)

namespace Token

def hexDigit? (c : Char) : Option Nat :=
  if '0' ≤ c ∧ c ≤ '9' then some (c.toNat - '0'.toNat)
  else if 'a' ≤ c ∧ c ≤ 'f' then some (c.toNat - 'a'.toNat + 10)
  else if 'A' ≤ c ∧ c ≤ 'F' then some (c.toNat - 'A'.toNat + 10)
  else none

def unit? (a b c d : Char) : Option Nat := do
  return (((← hexDigit? a) * 16 + (← hexDigit? b)) * 16 + (← hexDigit? c)) * 16 + (← hexDigit? d)

def escaped? : Char → Option Char
  | '"' => some '"'
  | '\\' => some '\\'
  | '/' => some '/'
  | 'b' => some '\x08'
  | 'f' => some '\x0c'
  | 'n' => some '\n'
  | 'r' => some '\r'
  | 't' => some '\t'
  | _ => none

def pieces : List Char → Option (List Piece × List Char)
  | [] => none
  | '"' :: rest => some ([], rest)
  | '\\' :: 'u' :: a :: b :: c :: d :: rest => do
    let unit ← unit? a b c d
    let (parts, rest) ← pieces rest
    return (.unit unit :: parts, rest)
  | '\\' :: c :: rest => do
    let char ← escaped? c
    let (parts, rest) ← pieces rest
    return (.char char :: parts, rest)
  | c :: rest =>
    if c.toNat < 0x20 then none
    else do
      let (parts, rest) ← pieces rest
      return (.char c :: parts, rest)

def isDigit (c : Char) : Bool := '0' ≤ c && c ≤ '9'

def digits (text : List Char) : List Nat × List Char :=
  ((text.takeWhile isDigit).map fun c => c.toNat - '0'.toNat, text.dropWhile isDigit)

def whole? (text : List Char) : Option (List Nat × List Char) :=
  match digits text with
  | ([], _) => none
  | (0 :: _ :: _, _) => none
  | found => some found

def fraction? : List Char → Option (Option (List Nat) × List Char)
  | '.' :: text =>
    match digits text with
    | ([], _) => none
    | (found, rest) => some (some found, rest)
  | text => some (none, text)

def exponentDigits? (mark : Char) (sign : Option Char) (text : List Char) :
    Option (Option ExponentText × List Char) :=
  match digits text with
  | ([], _) => none
  | (found, rest) => some (some ⟨mark, sign, found⟩, rest)

def exponent? : List Char → Option (Option ExponentText × List Char)
  | [] => some (none, [])
  | c :: text =>
    if c = 'e' ∨ c = 'E' then
      match text with
      | '+' :: text => exponentDigits? c (some '+') text
      | '-' :: text => exponentDigits? c (some '-') text
      | text => exponentDigits? c none text
    else some (none, c :: text)

def number? (negative : Bool) (text : List Char) : Option (NumberText × List Char) := do
  let (whole, text) ← whole? text
  let (fraction, text) ← fraction? text
  let (exponent, text) ← exponent? text
  return (⟨negative, whole, fraction, exponent⟩, text)

def isBlank (c : Char) : Bool := c = ' ' || c = '\n' || c = '\t' || c = '\r'

def first? : List Char → Option (Token × List Char)
  | '[' :: rest => some (.openArray, rest)
  | ']' :: rest => some (.closeArray, rest)
  | '{' :: rest => some (.openObject, rest)
  | '}' :: rest => some (.closeObject, rest)
  | ',' :: rest => some (.comma, rest)
  | ':' :: rest => some (.colon, rest)
  | 'n' :: 'u' :: 'l' :: 'l' :: rest => some (.null, rest)
  | 't' :: 'r' :: 'u' :: 'e' :: rest => some (.bool true, rest)
  | 'f' :: 'a' :: 'l' :: 's' :: 'e' :: rest => some (.bool false, rest)
  | '"' :: rest => (fun (parts, rest) => (.string parts, rest)) <$> pieces rest
  | '-' :: rest => (fun (text, rest) => (.number text, rest)) <$> number? true rest
  | text => (fun (text, rest) => (.number text, rest)) <$> number? false text

theorem length_of_pieces {text : List Char} {parts : List Piece} {rest : List Char}
    (h : pieces text = some (parts, rest)) : rest.length < text.length := by
  fun_induction pieces text generalizing parts rest with
  | case1 => simp at h
  | case2 rest => simp_all
  | case3 a b c d text ih =>
    simp only [bind, Option.bind_eq_some_iff, Prod.exists] at h
    obtain ⟨unit, -, found, left, eq, same⟩ := h
    have := ih eq
    simp only [pure, Option.some.injEq, Prod.mk.injEq] at same
    obtain ⟨-, rfl⟩ := same
    simp only [List.length_cons]
    omega
  | case4 c text _ ih =>
    simp only [bind, Option.bind_eq_some_iff, Prod.exists] at h
    obtain ⟨char, -, found, left, eq, same⟩ := h
    have := ih eq
    simp only [pure, Option.some.injEq, Prod.mk.injEq] at same
    obtain ⟨-, rfl⟩ := same
    simp only [List.length_cons]
    omega
  | case5 c text => simp at h
  | case6 c text _ _ _ _ ih =>
    simp only [bind, Option.bind_eq_some_iff, Prod.exists] at h
    obtain ⟨found, left, eq, same⟩ := h
    have := ih eq
    simp only [pure, Option.some.injEq, Prod.mk.injEq] at same
    obtain ⟨-, rfl⟩ := same
    simp only [List.length_cons]
    omega

theorem length_dropWhile_le (p : Char → Bool) (text : List Char) :
    (text.dropWhile p).length ≤ text.length :=
  (List.dropWhile_sublist p).length_le

theorem length_of_whole? {text : List Char} {found : List Nat} {rest : List Char}
    (h : whole? text = some (found, rest)) : rest.length < text.length := by
  unfold whole? digits at h
  cases text with
  | nil => simp at h
  | cons c text =>
    by_cases digit : isDigit c
    · have := length_dropWhile_le isDigit text
      simp only [List.takeWhile_cons, digit, ↓reduceIte, List.map_cons, List.dropWhile_cons] at h
      split at h
      · simp at h
      · simp at h
      · simp only [Option.some.injEq, Prod.mk.injEq] at h
        simp only [List.length_cons, ← h.2]
        omega
    · simp [digit] at h

theorem length_of_fraction? {text : List Char} {found : Option (List Nat)} {rest : List Char}
    (h : fraction? text = some (found, rest)) : rest.length ≤ text.length := by
  unfold fraction? digits at h
  split at h
  · rename_i text
    have := length_dropWhile_le isDigit text
    split at h
    · simp at h
    · rename_i eq
      simp only [Option.some.injEq, Prod.mk.injEq] at h eq
      simp only [List.length_cons, ← h.2, ← eq.2]
      omega
  · simp_all

theorem length_of_exponentDigits? {mark : Char} {sign : Option Char} {text : List Char}
    {found : Option ExponentText} {rest : List Char}
    (h : exponentDigits? mark sign text = some (found, rest)) :
    rest.length ≤ text.length := by
  unfold exponentDigits? digits at h
  have := length_dropWhile_le isDigit text
  split at h
  · simp at h
  · rename_i eq
    simp only [Option.some.injEq, Prod.mk.injEq] at h eq
    simp only [← h.2, ← eq.2]
    omega

theorem length_of_exponent? {text : List Char} {found : Option ExponentText} {rest : List Char}
    (h : exponent? text = some (found, rest)) : rest.length ≤ text.length := by
  unfold exponent? at h
  split at h
  · simp_all
  · split at h
    · split at h <;>
        · have := length_of_exponentDigits? h
          simp only [List.length_cons]
          omega
    · simp only [Option.some.injEq, Prod.mk.injEq] at h
      simp [← h.2]

theorem length_of_number? {negative : Bool} {text : List Char} {found : NumberText}
    {rest : List Char} (h : number? negative text = some (found, rest)) :
    rest.length < text.length := by
  unfold number? at h
  simp only [bind, Option.bind_eq_some_iff, Prod.exists] at h
  obtain ⟨_, _, whole, _, _, fraction, _, _, exponent, same⟩ := h
  have := length_of_whole? whole
  have := length_of_fraction? fraction
  have := length_of_exponent? exponent
  simp only [pure, Option.some.injEq, Prod.mk.injEq] at same
  rw [← same.2]
  omega

theorem length_of_first? {text : List Char} {token : Token} {rest : List Char}
    (h : first? text = some (token, rest)) : rest.length < text.length := by
  unfold first? at h
  split at h
  case h_10 =>
    obtain ⟨⟨parts, left⟩, found, same⟩ := Option.map_eq_some_iff.1 h
    have := length_of_pieces found
    simp only [Prod.mk.injEq] at same
    simp only [List.length_cons, ← same.2]
    omega
  case h_11 =>
    obtain ⟨⟨number, left⟩, found, same⟩ := Option.map_eq_some_iff.1 h
    have := length_of_number? found
    simp only [Prod.mk.injEq] at same
    simp only [List.length_cons, ← same.2]
    omega
  case h_12 =>
    obtain ⟨⟨number, left⟩, found, same⟩ := Option.map_eq_some_iff.1 h
    have := length_of_number? found
    simp only [Prod.mk.injEq] at same
    rw [← same.2]
    omega
  all_goals
    simp only [Option.some.injEq, Prod.mk.injEq] at h
    simp only [List.length_cons, ← h.2]
    omega

def lex (text : List Char) : Option (List Token) :=
  match text with
  | [] => some []
  | c :: rest =>
    if isBlank c then lex rest
    else match h : first? (c :: rest) with
      | none => none
      | some (token, rest) =>
        have := length_of_first? h
        (token :: ·) <$> lex rest
termination_by text.length
decreasing_by
  all_goals simp only [List.length_cons] at *
  all_goals omega

end Token

end Diorama
