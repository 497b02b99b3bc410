import Diorama.Json.Printer
import Diorama.Json.Reader
import Mathlib

namespace Diorama.Token

variable {text middle rest : List Char} {tokens other : List Token} {token : Token} {c : Char}

def Lexed (text : List Char) (tokens : List Token) (rest : List Char) : Prop :=
  lex text = (tokens ++ ·) <$> lex rest

lemma Lexed.refl (text : List Char) : Lexed text [] text := by
  rw [Lexed]
  simp

lemma Lexed.trans (h : Lexed text tokens middle) (h' : Lexed middle other rest) :
    Lexed text (tokens ++ other) rest := by
  rw [Lexed] at h h' ⊢
  rw [h, h', Option.map_eq_map, Option.map_eq_map, Option.map_eq_map, Option.map_map]
  refine congrArg (Option.map · _) (funext fun l => ?_)
  exact (List.append_assoc _ _ _).symm

lemma lexed_blank (h : isBlank c = true) : Lexed (c :: text) [] text := by
  rw [Lexed, lex, if_pos h]
  simp

lemma lexed_blanks {blanks : List Char} (h : ∀ c ∈ blanks, isBlank c = true) : Lexed (blanks ++ text) [] text := by
  induction blanks with
  | nil => exact .refl text
  | cons c blanks ih =>
    rw [List.forall_mem_cons] at h
    exact (lexed_blank h.1).trans (ih h.2)

lemma lexed_first (hc : isBlank c = false) (h : first? (c :: text) = some (token, rest)) :
    Lexed (c :: text) [token] rest := by
  rw [Lexed, lex, hc, if_neg Bool.false_ne_true]
  split
  · rename_i hnone
    rw [h] at hnone
    cases hnone
  · rename_i hsome
    rw [h] at hsome
    cases hsome
    rfl

lemma joined?_unit {n : Nat} (h : n < 0xD800) (parts : List Piece) :
    Dialect.joined? (.unit n :: parts) = (Char.ofNat n :: ·) <$> Dialect.joined? parts := by
  have hhigh : ¬(0xD800 ≤ n ∧ n < 0xDC00) := by omega
  have hlow : ¬(0xDC00 ≤ n ∧ n < 0xE000) := by omega
  have hsingle : ¬(0xD800 ≤ n ∧ n < 0xE000) := by omega
  rcases parts with - | ⟨- | low, parts⟩
  · simp only [Dialect.joined?, hsingle, if_false]
  · simp only [Dialect.joined?, hsingle, if_false]
  · rw [Dialect.joined?, if_neg hhigh, if_neg hlow]

lemma unit?_hexDigit : ∀ n < 0x20, unit? '0' '0' (Json.hexDigit (n / 16)) (Json.hexDigit (n % 16)) = some n := by
  decide

lemma pieces_escaped {mark c : Char} (h : escaped? mark = some c) (text : List Char) :
    pieces ('\\' :: mark :: text) = (fun (parts, rest) => (.char c :: parts, rest)) <$> pieces text := by
  have hmark : mark ≠ 'u' := by
    rintro rfl
    cases h
  rw [pieces, h]
  · rcases pieces text with - | ⟨parts, rest⟩
    · rfl
    · rfl
  · intro _ _ _ _ _ he
    exact (hmark he).elim

lemma pieces_unit {a b c d : Char} {n : Nat} (h : unit? a b c d = some n) (text : List Char) :
    pieces ('\\' :: 'u' :: a :: b :: c :: d :: text) =
      (fun (parts, rest) => (.unit n :: parts, rest)) <$> pieces text := by
  rw [pieces, h]
  rcases pieces text with - | ⟨parts, rest⟩
  · rfl
  · rfl

lemma pieces_plain (hquote : c ≠ '"') (hbackslash : c ≠ '\\') (hcontrol : ¬c.toNat < 0x20) (text : List Char) :
    pieces (c :: text) = (fun (parts, rest) => (.char c :: parts, rest)) <$> pieces text := by
  rw [pieces, if_neg hcontrol]
  · rcases pieces text with - | ⟨parts, rest⟩
    · rfl
    · rfl
  all_goals simp_all

lemma pieces_escape (c : Char) (text : List Char) : ∃ part,
    (∀ parts, Dialect.joined? (part :: parts) = (c :: ·) <$> Dialect.joined? parts) ∧
      pieces (Json.escape c ++ text) = (fun (parts, rest) => (part :: parts, rest)) <$> pieces text := by
  unfold Json.escape
  split
  case h_8 hquote hbackslash _ _ _ _ _ =>
    split
    · rename_i hcontrol
      refine ⟨.unit c.toNat, fun parts => ?_, pieces_unit (unit?_hexDigit _ hcontrol) text⟩
      rw [joined?_unit (by omega), Char.ofNat_toNat]
    · rename_i hcontrol
      exact ⟨.char c, fun parts => rfl, pieces_plain hquote hbackslash hcontrol text⟩
  all_goals exact ⟨.char _, fun parts => rfl, pieces_escaped rfl text⟩

lemma pieces_escapes (chars text : List Char) : ∃ parts, Dialect.joined? parts = some chars ∧
    pieces (chars.flatMap Json.escape ++ '"' :: text) = some (parts, text) := by
  induction chars with
  | nil => exact ⟨[], rfl, by rw [List.flatMap_nil, List.nil_append, pieces]⟩
  | cons c chars ih =>
    obtain ⟨parts, hjoined, hpieces⟩ := ih
    obtain ⟨part, hpart, hescape⟩ := pieces_escape c (chars.flatMap Json.escape ++ '"' :: text)
    refine ⟨part :: parts, by rw [hpart, hjoined]; rfl, ?_⟩
    rw [List.flatMap_cons, List.append_assoc, hescape, hpieces]
    rfl

theorem lexed_quote (s : String) (rest : List Char) : ∃ parts, Dialect.json.string parts = some s ∧
    Lexed ((Json.quote s).toList ++ rest) [.string parts] rest := by
  obtain ⟨parts, hjoined, hpieces⟩ := pieces_escapes s.toList rest
  refine ⟨parts, ?_, ?_⟩
  · change (Dialect.joined? parts).map String.ofList = some s
    rw [hjoined, Option.map_some, String.ofList_toList]
  · have htext : (Json.quote s).toList ++ rest = '"' :: (s.toList.flatMap Json.escape ++ '"' :: rest) := by
      rw [Json.quote, String.toList_ofList]
      simp
    rw [htext]
    refine lexed_first (by decide) ?_
    simp only [first?, hpieces]
    rfl

def EndsNumber (rest : List Char) : Prop := ∀ c ∈ rest.head?, isDigit c = false ∧ c ≠ '.' ∧ c ≠ 'e' ∧ c ≠ 'E'

lemma digitChar_spec : ∀ d < 10, isDigit (Nat.digitChar d) = true ∧ (Nat.digitChar d).toNat - '0'.toNat = d := by
  decide

lemma digits_append {found : List Nat} (hfound : ∀ d ∈ found, d < 10) (hrest : ∀ c ∈ rest.head?, isDigit c = false) :
    digits (found.map Nat.digitChar ++ rest) = (found, rest) := by
  induction found with
  | nil =>
    cases rest with
    | nil => rfl
    | cons c rest =>
      have hc : isDigit c = false := hrest c rfl
      simp [digits, hc]
  | cons d found ih =>
    rw [List.forall_mem_cons] at hfound
    obtain ⟨hdigit, hvalue⟩ := digitChar_spec d hfound.1
    have hih := ih hfound.2
    rw [digits, Prod.mk.injEq] at hih ⊢
    simp only [List.map_cons, List.cons_append, List.takeWhile_cons, List.dropWhile_cons, hdigit, if_true, hvalue]
    exact ⟨congrArg (d :: ·) hih.1, hih.2⟩

end Diorama.Token

namespace Diorama

structure ExponentText.Proper (e : ExponentText) : Prop where
  mark : e.mark = 'e' ∨ e.mark = 'E'
  sign : e.sign = none ∨ e.sign = some '+' ∨ e.sign = some '-'
  digits : e.digits ≠ [] ∧ ∀ d ∈ e.digits, d < 10

structure NumberText.Proper (t : NumberText) : Prop where
  whole : t.whole ≠ [] ∧ ∀ d ∈ t.whole, d < 10
  zero : t.whole.head? = some 0 → t.whole = [0]
  fraction : ∀ digits ∈ t.fraction, digits ≠ [] ∧ ∀ d ∈ digits, d < 10
  exponent : ∀ e ∈ t.exponent, e.Proper

end Diorama

namespace Diorama.Token

variable {rest : List Char} {t : NumberText}

lemma exponentDigits?_text (mark : Char) (sign : Option Char) {found : List Nat}
    (hfound : found ≠ [] ∧ ∀ d ∈ found, d < 10) (hrest : EndsNumber rest) :
    exponentDigits? mark sign (found.map Nat.digitChar ++ rest) = some (some ⟨mark, sign, found⟩, rest) := by
  rw [exponentDigits?, digits_append hfound.2 fun c hc => (hrest c hc).1]
  cases found with
  | nil => exact (hfound.1 rfl).elim
  | cons d found => rfl

lemma exponent?_ends (hrest : EndsNumber rest) : exponent? rest = some (none, rest) := by
  cases rest with
  | nil => rfl
  | cons c rest =>
    obtain ⟨-, -, he, hE⟩ := hrest c rfl
    have hmark : ¬(c = 'e' ∨ c = 'E') := not_or.mpr ⟨he, hE⟩
    rw [exponent?.eq_def]
    exact if_neg hmark

lemma exponent?_text {e : ExponentText} (he : e.Proper) (hrest : EndsNumber rest) :
    exponent? (e.text ++ rest) = some (some e, rest) := by
  obtain ⟨mark, sign, found⟩ := e
  obtain ⟨hmark, hsign, hfound⟩ := he
  have hread := exponentDigits?_text mark sign hfound hrest
  rw [ExponentText.text, List.cons_append, List.cons_append, exponent?.eq_def]
  dsimp only at hmark ⊢
  rw [if_pos hmark]
  obtain ⟨d, tail, rfl⟩ := List.exists_cons_of_ne_nil hfound.1
  have hdigit := (digitChar_spec d (hfound.2 d List.mem_cons_self)).1
  rcases hsign with rfl | rfl | rfl
  · -- No sign: the exponent goes on with a digit, and no digit is a sign.
    simp only [Option.toList_none, List.nil_append, List.map_cons, List.cons_append] at hread ⊢
    split
    · rename_i heq
      obtain ⟨hplus, -⟩ := List.cons.inj heq
      rw [hplus] at hdigit
      exact absurd hdigit (by decide)
    · rename_i heq
      obtain ⟨hminus, -⟩ := List.cons.inj heq
      rw [hminus] at hdigit
      exact absurd hdigit (by decide)
    · exact hread
  · exact hread
  · exact hread

lemma fraction?_text {found : List Nat} (hfound : found ≠ [] ∧ ∀ d ∈ found, d < 10)
    (hrest : ∀ c ∈ rest.head?, isDigit c = false) :
    fraction? ('.' :: found.map Nat.digitChar ++ rest) = some (some found, rest) := by
  rw [List.cons_append, fraction?, digits_append hfound.2 hrest]
  cases found with
  | nil => exact (hfound.1 rfl).elim
  | cons d found => rfl

lemma fraction?_none (hrest : ∀ c ∈ rest.head?, c ≠ '.') : fraction? rest = some (none, rest) := by
  rw [fraction?]
  rintro text rfl
  exact hrest '.' rfl rfl

lemma head?_exponent {e : Option ExponentText} (he : ∀ x ∈ e, x.Proper) (hrest : EndsNumber rest) :
    ∀ c ∈ ((e.map ExponentText.text).getD [] ++ rest).head?, isDigit c = false ∧ c ≠ '.' := by
  cases e with
  | none => exact fun c hc => ⟨(hrest c hc).1, (hrest c hc).2.1⟩
  | some e =>
    intro c hc
    obtain rfl : e.mark = c := Option.some.inj hc
    rcases (he e rfl).mark with h | h
    · rw [h]
      decide
    · rw [h]
      decide

lemma whole?_text {found : List Nat} (hfound : found ≠ [] ∧ ∀ d ∈ found, d < 10)
    (hzero : found.head? = some 0 → found = [0]) (hrest : ∀ c ∈ rest.head?, isDigit c = false) :
    whole? (found.map Nat.digitChar ++ rest) = some (found, rest) := by
  rw [whole?, digits_append hfound.2 hrest]
  split
  · rename_i heq
    exact (hfound.1 (congrArg Prod.fst heq)).elim
  · rename_i heq
    obtain ⟨rfl, -⟩ := Prod.mk.inj heq
    cases hzero rfl
  · rfl

lemma text_eq (t : NumberText) : t.text = (if t.negative then ['-'] else []) ++ (t.whole.map Nat.digitChar ++
    ((t.fraction.map fun found => '.' :: found.map Nat.digitChar).getD [] ++
      (t.exponent.map ExponentText.text).getD [])) := by
  obtain ⟨negative, whole, fraction, exponent⟩ := t
  rcases fraction with - | fraction <;> rcases exponent with - | exponent <;> simp [NumberText.text]

lemma number?_text (ht : t.Proper) (hrest : EndsNumber rest) :
    number? t.negative (t.whole.map Nat.digitChar ++
      (((t.fraction.map fun found => '.' :: found.map Nat.digitChar).getD [] ++
      (t.exponent.map ExponentText.text).getD []) ++ rest)) = some (t, rest) := by
  obtain ⟨negative, whole, fraction, exponent⟩ := t
  obtain ⟨hwhole, hzero, hfraction, hexponent⟩ := ht
  have htail := head?_exponent hexponent hrest
  have hexp : exponent? ((exponent.map ExponentText.text).getD [] ++ rest) = some (exponent, rest) := by
    cases exponent with
    | none => exact exponent?_ends hrest
    | some e => exact exponent?_text (hexponent e rfl) hrest
  rw [List.append_assoc, number?]
  cases fraction with
  | none =>
    have hread := whole?_text hwhole hzero fun c hc => (htail c hc).1
    simp only [Option.map_none, Option.getD_none, List.nil_append, hread, Option.bind_eq_bind, Option.bind_some,
      fraction?_none fun c hc => (htail c hc).2, hexp]
    rfl
  | some found =>
    have hpoint : ∀ c ∈ ('.' :: found.map Nat.digitChar ++ ((exponent.map ExponentText.text).getD [] ++ rest)).head?,
        isDigit c = false := by
      intro c hc
      obtain rfl : '.' = c := Option.some.inj hc
      rfl
    have hread := whole?_text hwhole hzero hpoint
    simp only [Option.map_some, Option.getD_some, hread, Option.bind_eq_bind, Option.bind_some,
      fraction?_text (hfraction found rfl) fun c hc => (htail c hc).1, hexp]
    rfl

lemma first?_digit : ∀ d < 10, ∀ text, isBlank (Nat.digitChar d) = false ∧ first? (Nat.digitChar d :: text) =
    (fun (found, rest) => (.number found, rest)) <$> number? false (Nat.digitChar d :: text) := by
  intro d hd text
  interval_cases d <;> exact ⟨rfl, rfl⟩

theorem lexed_number (ht : t.Proper) (hrest : EndsNumber rest) : Lexed (t.text ++ rest) [.number t] rest := by
  have hread := number?_text ht hrest
  rw [text_eq, List.append_assoc, List.append_assoc]
  cases hsign : t.negative with
  | true =>
    rw [hsign] at hread
    rw [if_pos rfl, List.singleton_append]
    refine lexed_first rfl ?_
    change (fun (found, rest) => (Token.number found, rest)) <$> number? true _ = some _
    rw [hread]
    rfl
  | false =>
    rw [hsign] at hread
    obtain ⟨d, found, hwhole⟩ := List.exists_cons_of_ne_nil ht.whole.1
    have hd : d < 10 := ht.whole.2 d (hwhole ▸ List.mem_cons_self)
    rw [hwhole, List.map_cons, List.cons_append] at hread ⊢
    rw [if_neg Bool.false_ne_true, List.nil_append]
    refine lexed_first (first?_digit d hd []).1 ?_
    rw [(first?_digit d hd _).2, hread]
    rfl

end Diorama.Token
