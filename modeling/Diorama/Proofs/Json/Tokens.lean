import Diorama.Proofs.Json.Lexing
import Diorama.Proofs.Text.Marks

/-! What the tokens of a text take of it. A token takes whole characters up to one that is not blank, and takes the same
ones whatever follows them, unless a number goes on there. So blanks around a text are not part of any token, and no
token of a text is lost when another text is put behind it. -/

namespace Diorama.Token

variable {text used rest other : List Char} {tokens : List Token} {token : Token} {c : Char}

def Stops (c : Char) : Prop := isDigit c = false ∧ c ≠ '.' ∧ c ≠ 'e' ∧ c ≠ 'E'

instance : DecidablePred Stops := fun _ => inferInstanceAs (Decidable (_ ∧ _))

def Replaces (other rest : List Char) : Prop := other.head? = rest.head? ∨ EndsNumber other

lemma Replaces.append (h : Replaces other rest) (front : List Char) : Replaces (front ++ other) (front ++ rest) := by
  cases front with
  | nil => exact h
  | cons c front => exact .inl rfl

lemma Replaces.head {P : Char → Prop} (h : Replaces other rest) (hstops : ∀ c, Stops c → P c)
    (hrest : ∀ c ∈ rest.head?, P c) : ∀ c ∈ other.head?, P c := by
  rcases h with h | h
  · exact h ▸ hrest
  · exact fun c hc => hstops c (h c hc)

lemma solid_of_isDigit (h : isDigit c = true) : Text.isBlank c = false := by
  simp only [isDigit, Bool.and_eq_true, decide_eq_true_eq, Char.le_def, UInt32.le_iff_toNat_le] at h
  have hlow : 48 ≤ c.toNat := h.1
  have hhigh : c.toNat ≤ 57 := h.2
  simp only [Text.isBlank, Bool.or_eq_false_iff, Bool.and_eq_false_iff, decide_eq_false_iff_not]
  omega

/-! The parts of a number. -/

/-- Whether a reader takes some characters, none of them blank, from a text, also where another rest follows. -/
structure Reads {α : Type} (read : List Char → Option (α × List Char)) (used : List Char) (found : α)
    (rest : List Char) : Prop where
  solid : ∀ c ∈ used, Text.isBlank c = false
  reads : ∀ other, Replaces other rest → read (used ++ other) = some (found, other)

lemma digits_reads {found : List Nat} (h : digits text = (found, rest)) : ∃ used, text = used ++ rest ∧
    (found ≠ [] → ∃ c more, used = c :: more ∧ isDigit c = true) ∧
      Reads (fun l => some (digits l)) used found rest := by
  obtain ⟨rfl, rfl⟩ := Prod.mk.inj h
  have hused : ∀ c ∈ text.takeWhile isDigit, isDigit c = true := fun c hc => List.mem_takeWhile_imp hc
  refine ⟨text.takeWhile isDigit, List.takeWhile_append_dropWhile.symm, fun hne => ?_, fun c hc =>
    solid_of_isDigit (hused c hc), fun other hother => ?_⟩
  · obtain ⟨c, more, hmore⟩ := List.exists_cons_of_ne_nil (mt (congrArg (List.map _)) hne)
    exact ⟨c, more, hmore, hused c (hmore ▸ List.mem_cons_self)⟩
  · have hstop : ∀ c ∈ (text.dropWhile isDigit).head?, isDigit c = false := by
      intro c hc
      have hnot := List.head?_dropWhile_not isDigit text
      rw [Option.mem_def.mp hc] at hnot
      simpa using hnot
    have hhead := hother.head (P := fun c => isDigit c = false) (fun c hc => hc.1) hstop
    have hnone : other.takeWhile isDigit = [] ∧ other.dropWhile isDigit = other := by
      cases other with
      | nil => exact ⟨rfl, rfl⟩
      | cons c other => simp [hhead c rfl]
    rw [digits, List.takeWhile_append_of_pos hused, List.dropWhile_append_of_pos hused, hnone.1, hnone.2,
      List.append_nil]

lemma whole?_eq {found : List Nat} (h : digits text = (found, rest)) :
    whole? text = if found = [] ∨ found.head? = some 0 ∧ 1 < found.length then none else some (found, rest) := by
  rw [whole?, h]
  rcases found with - | ⟨- | d, - | ⟨e, more⟩⟩ <;> simp

lemma whole?_reads {found : List Nat} (h : whole? text = some (found, rest)) : ∃ used, text = used ++ rest ∧
    (∃ c more, used = c :: more ∧ isDigit c = true) ∧ Reads whole? used found rest := by
  rw [whole?_eq rfl] at h
  split at h
  case isTrue => cases h
  case isFalse hfound =>
    cases h
    obtain ⟨used, htext, hdigit, hsolid, hreads⟩ := digits_reads (Prod.eta (digits text))
    refine ⟨used, htext, hdigit (not_or.mp hfound).1, hsolid, fun other hother => ?_⟩
    rw [whole?_eq (Option.some.inj (hreads other hother)), if_neg hfound]

lemma fraction?_eq {found : List Nat} (h : digits text = (found, rest)) :
    fraction? ('.' :: text) = if found = [] then none else some (some found, rest) := by
  rw [fraction?, h]
  cases found <;> simp

lemma fraction?_reads {found : Option (List Nat)} (h : fraction? text = some (found, rest)) :
    ∃ used, text = used ++ rest ∧ Reads fraction? used found rest := by
  by_cases hpoint : ∀ c ∈ text.head?, c ≠ '.'
  · rw [fraction?_none hpoint] at h
    cases h
    exact ⟨[], rfl, List.forall_mem_nil _, fun other hother => fraction?_none (hother.head (fun c hc => hc.2.1) hpoint)⟩
  · obtain ⟨text, rfl⟩ := List.head?_eq_some_iff.mp (by simpa using hpoint)
    rw [fraction?_eq rfl] at h
    split at h
    case isTrue => cases h
    case isFalse hfound =>
      cases h
      obtain ⟨used, htext, -, hsolid, hreads⟩ := digits_reads (Prod.eta (digits text))
      refine ⟨'.' :: used, congrArg _ htext, List.forall_mem_cons.mpr ⟨rfl, hsolid⟩,
        fun other hother => ?_⟩
      rw [List.cons_append, fraction?_eq (Option.some.inj (hreads other hother)), if_neg hfound]

lemma exponentDigits?_eq {mark : Char} {sign : Option Char} {found : List Nat} (h : digits text = (found, rest)) :
    exponentDigits? mark sign text = if found = [] then none else some (some ⟨mark, sign, found⟩, rest) := by
  rw [exponentDigits?, h]
  cases found <;> simp

lemma exponentDigits?_reads {mark : Char} {sign : Option Char} {found : Option ExponentText}
    (h : exponentDigits? mark sign text = some (found, rest)) : ∃ used, text = used ++ rest ∧
    (∃ c more, used = c :: more ∧ isDigit c = true) ∧ Reads (exponentDigits? mark sign) used found rest := by
  rw [exponentDigits?_eq rfl] at h
  split at h
  case isTrue => cases h
  case isFalse hfound =>
    cases h
    obtain ⟨used, htext, hdigit, hsolid, hreads⟩ := digits_reads (Prod.eta (digits text))
    refine ⟨used, htext, hdigit hfound, hsolid, fun other hother => ?_⟩
    rw [exponentDigits?_eq (Option.some.inj (hreads other hother)), if_neg hfound]

lemma exponent?_none (h : ∀ c ∈ text.head?, ¬(c = 'e' ∨ c = 'E')) : exponent? text = some (none, text) := by
  cases text with
  | nil => rfl
  | cons c text =>
    rw [exponent?.eq_def]
    exact if_neg (h c rfl)

lemma exponent?_unsigned {mark : Char} (hmark : mark = 'e' ∨ mark = 'E') (hc : isDigit c = true) (text : List Char) :
    exponent? (mark :: c :: text) = exponentDigits? mark none (c :: text) := by
  rw [exponent?.eq_def]
  dsimp only
  rw [if_pos hmark]
  split
  case h_1 heq =>
    cases heq
    cases hc
  case h_2 heq =>
    cases heq
    cases hc
  case h_3 => rfl

lemma exponent?_reads {found : Option ExponentText} (h : exponent? text = some (found, rest)) :
    ∃ used, text = used ++ rest ∧ Reads exponent? used found rest := by
  by_cases hnone : ∀ c ∈ text.head?, ¬(c = 'e' ∨ c = 'E')
  · rw [exponent?_none hnone] at h
    cases h
    refine ⟨[], rfl, List.forall_mem_nil _, fun other hother => exponent?_none (hother.head ?_ hnone)⟩
    exact fun c hc => not_or.mpr hc.2.2
  · obtain ⟨mark, hmem, hmark⟩ := by simpa only [not_forall, not_not] using hnone
    obtain ⟨text, rfl⟩ := List.head?_eq_some_iff.mp hmem
    have hsolid : Text.isBlank mark = false := by rcases hmark with rfl | rfl <;> rfl
    rw [exponent?.eq_def] at h
    dsimp only at h
    rw [if_pos hmark] at h
    split at h
    case h_1 text =>
      obtain ⟨used, rfl, -, hread⟩ := exponentDigits?_reads h
      refine ⟨mark :: '+' :: used, rfl, by simpa [hsolid] using ⟨rfl, hread.solid⟩, fun other hother => ?_⟩
      rw [← hread.reads other hother, List.cons_append, List.cons_append, exponent?.eq_def]
      exact if_pos hmark
    case h_2 text =>
      obtain ⟨used, rfl, -, hread⟩ := exponentDigits?_reads h
      refine ⟨mark :: '-' :: used, rfl, by simpa [hsolid] using ⟨rfl, hread.solid⟩, fun other hother => ?_⟩
      rw [← hread.reads other hother, List.cons_append, List.cons_append, exponent?.eq_def]
      exact if_pos hmark
    case h_3 =>
      obtain ⟨used, rfl, ⟨c, more, rfl, hc⟩, hread⟩ := exponentDigits?_reads h
      refine ⟨mark :: c :: more, rfl, List.forall_mem_cons.mpr ⟨hsolid, hread.solid⟩, fun other hother => ?_⟩
      rw [← hread.reads other hother]
      exact exponent?_unsigned hmark hc (more ++ other)

lemma number?_reads {negative : Bool} {found : NumberText} (h : number? negative text = some (found, rest)) :
    ∃ used, text = used ++ rest ∧ (∃ c more, used = c :: more ∧ isDigit c = true) ∧
      Reads (number? negative) used found rest := by
  simp only [number?, bind, Option.bind_eq_some_iff, Prod.exists] at h
  obtain ⟨whole, middle, hwhole, fraction, last, hfraction, exponent, rest, hexponent, heq⟩ := h
  cases heq
  obtain ⟨first, rfl, ⟨c, more, rfl, hc⟩, hfirst⟩ := whole?_reads hwhole
  obtain ⟨second, rfl, hsecond⟩ := fraction?_reads hfraction
  obtain ⟨third, rfl, hthird⟩ := exponent?_reads hexponent
  refine ⟨c :: more ++ (second ++ third), ?_, ⟨c, _, rfl, hc⟩, fun d hd => ?_, fun other hother => ?_⟩
  · simp
  · rcases List.mem_append.mp hd with hd | hd
    · exact hfirst.solid d hd
    · exact (List.mem_append.mp hd).elim (hsecond.solid d) (hthird.solid d)
  · have hlast := hother.append third
    simp only [List.append_assoc, number?, hfirst.reads _ (hlast.append second), hsecond.reads _ hlast,
      hthird.reads other hother, bind, Option.bind_some]
    rfl

/-! The parts of a string. -/

lemma pieces_reads {parts : List Piece} (h : pieces text = some (parts, rest)) :
    ∃ used, text = used ++ '"' :: rest ∧ ∀ other, pieces (used ++ '"' :: other) = some (parts, other) := by
  fun_induction pieces text generalizing parts rest with
  | case1 => cases h
  | case2 text =>
    cases h
    exact ⟨[], rfl, fun other => rfl⟩
  | case3 a b c d text ih =>
    simp only [bind, Option.bind_eq_some_iff, Prod.exists] at h
    obtain ⟨unit, hunit, parts, rest, hparts, heq⟩ := h
    cases heq
    obtain ⟨used, rfl, hread⟩ := ih hparts
    refine ⟨'\\' :: 'u' :: a :: b :: c :: d :: used, rfl, fun other => ?_⟩
    exact (pieces_unit hunit (used ++ '"' :: other)).trans (by rw [hread other]; rfl)
  | case4 mark text _ ih =>
    simp only [bind, Option.bind_eq_some_iff, Prod.exists] at h
    obtain ⟨c, hc, parts, rest, hparts, heq⟩ := h
    cases heq
    obtain ⟨used, rfl, hread⟩ := ih hparts
    refine ⟨'\\' :: mark :: used, rfl, fun other => ?_⟩
    exact (pieces_escaped hc (used ++ '"' :: other)).trans (by rw [hread other]; rfl)
  | case5 => cases h
  | case6 c text hquote _ hescape hcontrol ih =>
    simp only [bind, Option.bind_eq_some_iff, Prod.exists] at h
    obtain ⟨parts, rest, hparts, heq⟩ := h
    cases heq
    obtain ⟨used, rfl, hread⟩ := ih hparts
    have hbackslash : c ≠ '\\' := by
      rintro rfl
      cases used with
      | nil => exact hescape '"' rest rfl rfl
      | cons d used => exact hescape d (used ++ '"' :: rest) rfl rfl
    refine ⟨c :: used, rfl, fun other => ?_⟩
    exact (pieces_plain hquote hbackslash hcontrol (used ++ '"' :: other)).trans (by rw [hread other]; rfl)

/-! Whole tokens. -/

structure Takes (used : List Char) (token : Token) (rest : List Char) : Prop where
  solid : ∀ c ∈ used.getLast?, Text.isBlank c = false
  lexed : ∀ other, Replaces other rest → Lexed (used ++ other) [token] other

lemma first?_of_isDigit (hc : isDigit c = true) (text : List Char) :
    first? (c :: text) = (fun (found, rest) => (.number found, rest)) <$> number? false (c :: text) := by
  rw [first?.eq_def]
  split
  case h_12 => rfl
  all_goals
    rename_i heq
    cases heq
    cases hc

lemma takes_of_cons (more : List Char) (hc : isBlank c = false) (htext : text = more ++ rest)
    (hlast : ∀ d ∈ (c :: more).getLast?, Text.isBlank d = false)
    (h : ∀ other, Replaces other rest → first? (c :: (more ++ other)) = some (token, other)) :
    ∃ used, c :: text = used ++ rest ∧ Takes used token rest :=
  ⟨c :: more, congrArg (c :: ·) htext, hlast, fun other hother => lexed_first hc (h other hother)⟩

lemma takes_string {parts : List Piece} (h : pieces text = some (parts, rest)) :
    ∃ used, '"' :: text = used ++ rest ∧ Takes used (.string parts) rest := by
  obtain ⟨used, rfl, hread⟩ := pieces_reads h
  refine takes_of_cons (used ++ ['"']) rfl (by simp) (fun d hd => ?_) fun other _ => ?_
  · rw [← List.cons_append, List.getLast?_concat] at hd
    cases hd
    rfl
  · rw [List.append_assoc, List.singleton_append, first?, hread other]
    rfl

lemma takes_negative {found : NumberText} (h : number? true text = some (found, rest)) :
    ∃ used, '-' :: text = used ++ rest ∧ Takes used (.number found) rest := by
  obtain ⟨used, htext, ⟨d, more, rfl, -⟩, hread⟩ := number?_reads h
  refine takes_of_cons (d :: more) rfl htext (fun e he => ?_) fun other hother => ?_
  · exact hread.solid e (List.mem_of_getLast? he)
  · change (fun (found, rest) => (Token.number found, rest)) <$> number? true _ = some _
    rw [hread.reads other hother]
    rfl

lemma takes_number {found : NumberText} (hc : isBlank c = false) (h : number? false (c :: text) = some (found, rest)) :
    ∃ used, c :: text = used ++ rest ∧ Takes used (.number found) rest := by
  obtain ⟨used, htext, ⟨d, more, rfl, hd⟩, hread⟩ := number?_reads h
  obtain ⟨rfl, rfl⟩ := List.cons.inj htext
  refine takes_of_cons more hc rfl (fun e he => hread.solid e (List.mem_of_getLast? he)) fun other hother => ?_
  have hother := hread.reads other hother
  rw [List.cons_append] at hother
  rw [first?_of_isDigit hd, hother]
  rfl

lemma takes_of_first? (hc : isBlank c = false) (h : first? (c :: text) = some (token, rest)) :
    ∃ used, c :: text = used ++ rest ∧ Takes used token rest := by
  rw [first?.eq_def] at h
  split at h
  case h_10 heq =>
    obtain ⟨⟨parts, rest⟩, hparts, hfound⟩ := Option.map_eq_some_iff.mp h
    cases heq
    cases hfound
    exact takes_string hparts
  case h_11 heq =>
    obtain ⟨⟨found, rest⟩, hnumber, hfound⟩ := Option.map_eq_some_iff.mp h
    cases heq
    cases hfound
    exact takes_negative hnumber
  case h_12 =>
    obtain ⟨⟨found, rest⟩, hnumber, hfound⟩ := Option.map_eq_some_iff.mp h
    cases hfound
    exact takes_number hc hnumber
  case h_7 heq =>
    cases heq
    cases h
    exact takes_of_cons "ull".toList hc rfl (fun d hd => by cases hd; rfl) fun other _ => rfl
  case h_8 heq =>
    cases heq
    cases h
    exact takes_of_cons "rue".toList hc rfl (fun d hd => by cases hd; rfl) fun other _ => rfl
  case h_9 heq =>
    cases heq
    cases h
    exact takes_of_cons "alse".toList hc rfl (fun d hd => by cases hd; rfl) fun other _ => rfl
  all_goals
    rename_i heq
    cases heq
    cases h
    exact takes_of_cons [] hc rfl (fun d hd => by cases hd; rfl) fun other _ => rfl

/-! Whole texts. -/

inductive Consists : List Char → List Token → Prop where
  | nil : Consists [] []
  | blank {c : Char} {rest : List Char} {tokens : List Token} (hc : isBlank c = true) (h : Consists rest tokens) :
      Consists (c :: rest) tokens
  | token {used rest : List Char} {token : Token} {tokens : List Token} (htoken : Takes used token rest)
      (h : Consists rest tokens) : Consists (used ++ rest) (token :: tokens)

lemma consists_of_lex (h : lex text = some tokens) : Consists text tokens := by
  fun_induction lex text generalizing tokens with
  | case1 =>
    cases h
    exact .nil
  | case2 c rest hc ih => exact .blank hc (ih h)
  | case3 => cases h
  | case4 c text hc token rest hfirst _ ih =>
    obtain ⟨tokens, hrest, rfl⟩ := Option.map_eq_some_iff.mp h
    obtain ⟨used, htext, htoken⟩ := takes_of_first? (Bool.eq_false_iff.mpr hc) hfirst
    exact htext ▸ .token htoken (ih hrest)

lemma Consists.lexed_append (h : Consists text tokens) (hother : EndsNumber other) :
    Lexed (text ++ other) tokens other := by
  induction h with
  | nil => exact .refl other
  | blank hc _ ih => exact (lexed_blank hc).trans ih
  | @token used rest token tokens htoken _ ih =>
    have hreplaces : Replaces (rest ++ other) rest := by
      cases rest with
      | nil => exact .inr hother
      | cons c rest => exact .inl rfl
    rw [List.append_assoc]
    exact (htoken.lexed (rest ++ other) hreplaces).trans ih

lemma Consists.lex_eq (h : Consists text tokens) : lex text = some tokens := by
  have hnil : EndsNumber [] := fun c hc => by cases hc
  have hend := h.lexed_append hnil
  rw [Lexed, List.append_nil, lex] at hend
  simpa using hend

/-- No token of a text is lost when another text is put behind it. -/
theorem lexed_append (h : lex text = some tokens) (hother : EndsNumber other) : Lexed (text ++ other) tokens other :=
  (consists_of_lex h).lexed_append hother

structure Foreign (c : Char) : Prop where
  blank : isBlank c = false
  start : c ∉ "[]{},:ntf\"-".toList
  number : Stops c

lemma Foreign.lex_eq_none (h : Foreign c) (text : List Char) : lex (c :: text) = none := by
  have hfirst : first? (c :: text) = none := by
    rw [first?.eq_def]
    split
    case h_12 =>
      have hdigits : (digits (c :: text)).1 = [] := by simp [digits, h.number.1]
      rw [number?, whole?_eq rfl, if_pos (.inl hdigits)]
      rfl
    all_goals
      rename_i heq
      cases heq
      exact absurd h.start (by decide)
  rw [lex, h.blank, if_neg Bool.false_ne_true]
  split
  · rfl
  · rename_i hsome
    rw [hfirst] at hsome
    cases hsome

/-! Blanks around a text. -/

lemma stops_of_blank (h : Text.isBlank c = true) : Stops c := by
  refine ⟨Bool.eq_false_iff.mpr fun hdigit => ?_, ?_, ?_, ?_⟩
  · rw [solid_of_isDigit hdigit] at h
    cases h
  all_goals
    rintro rfl
    cases h

lemma foreign_of_blank (h : Text.isBlank c = true) (hc : isBlank c = false) : Foreign c := by
  refine ⟨hc, fun hmem => ?_, stops_of_blank h⟩
  have hall : "[]{},:ntf\"-".toList.all (Text.isBlank · == false) = true := by decide
  have hsolid := List.all_eq_true.mp hall c hmem
  rw [h] at hsolid
  cases hsolid

lemma lex_of_blanks_append {front : List Char} (hfront : ∀ c ∈ front, Text.isBlank c = true)
    (h : lex (front ++ text) = some tokens) : lex text = some tokens := by
  induction front with
  | nil => exact h
  | cons c front ih =>
    obtain ⟨hc, hfront⟩ := List.forall_mem_cons.mp hfront
    rw [List.cons_append] at h
    cases hblank : isBlank c with
    | true =>
      rw [lex, if_pos hblank] at h
      exact ih hfront h
    | false =>
      rw [(foreign_of_blank hc hblank).lex_eq_none] at h
      cases h

lemma Consists.lex_trimmed {back : List Char} (hback : ∀ c ∈ back, Text.isBlank c = true)
    (h : Consists (text ++ back) tokens) : lex text = some tokens := by
  generalize hwhole : text ++ back = whole at h
  induction h generalizing text with
  | nil =>
    obtain ⟨rfl, rfl⟩ := List.append_eq_nil_iff.mp hwhole
    rw [lex]
  | @blank c rest tokens hc hrest ih =>
    rcases List.append_eq_cons_iff.mp hwhole with ⟨rfl, rfl⟩ | ⟨text, rfl, rfl⟩
    · have hblanks := (hrest.blank hc).lex_eq
      rw [← List.append_nil (c :: rest)] at hblanks
      exact lex_of_blanks_append hback hblanks
    · rw [lex, if_pos hc]
      exact ih rfl
  | @token used rest token tokens htoken hrest ih =>
    have hlex : ∀ more, rest = more ++ back → lex (used ++ more) = some (token :: tokens) := by
      rintro more rfl
      have hreplaces : Replaces more (more ++ back) := by
        cases more with
        | nil => exact .inr fun c hc => by cases hc
        | cons c more => exact .inl rfl
      have htext := htoken.lexed more hreplaces
      rw [Lexed, ih rfl] at htext
      exact htext
    rcases List.append_eq_append_iff.mp hwhole with ⟨more, hused, hrest⟩ | ⟨more, rfl, rfl⟩
    · rcases List.eq_nil_or_concat more with rfl | ⟨front, c, rfl⟩
      · have htext := hlex [] (by simpa using hrest.symm)
        rwa [hused, List.append_nil, List.append_nil] at htext
      · -- The token would reach into the blanks behind the text.
        have hsolid := htoken.solid c (by simp [hused])
        rw [hback c (by rw [hrest]; simp)] at hsolid
        cases hsolid
    · exact hlex more rfl

lemma lex_trimChars (h : lex text = some tokens) : lex (Text.trimChars text) = some tokens := by
  obtain ⟨front, back, hfront, hback, htext⟩ := Text.trimChars_spec text
  rw [htext] at h
  exact (consists_of_lex (lex_of_blanks_append hfront h)).lex_trimmed hback

/-- A text that is cut off within a token has no tokens, also without the blanks around it. -/
theorem lex_cut {front back : List Char} (hfront : ∀ c ∈ front, Text.isBlank c = true)
    (hback : ∀ c ∈ back, Text.isBlank c = true) (hc : Foreign c)
    (h : lex (front ++ (text ++ (back ++ c :: rest))) = some tokens) : lex text = none := by
  have hends : EndsNumber (back ++ c :: rest) := by
    cases back with
    | nil => exact fun d hd => Option.some.inj hd ▸ hc.number
    | cons d back => exact fun e he => Option.some.inj he ▸ stops_of_blank (hback d List.mem_cons_self)
  rw [Option.eq_none_iff_forall_ne_some]
  intro found hfound
  have hwhole := lexed_append hfound hends
  rw [Lexed, lex_of_blanks_append hfront h] at hwhole
  obtain ⟨more, hmore, -⟩ := Option.map_eq_some_iff.mp hwhole.symm
  have hrest := lex_of_blanks_append hback hmore
  rw [hc.lex_eq_none] at hrest
  cases hrest

end Diorama.Token
