import Diorama.Decimal.Numeral
import Diorama.Proofs.Decimal.Digits
import Diorama.Proofs.Decimal.Shortest
import Diorama.Proofs.Json.Lexing

namespace Diorama

def NumberText.value (t : NumberText) : ℚ :=
  magnitude (t.whole ++ t.fraction.getD []) * 10 ^ (t.power - (t.fraction.getD []).length)

namespace Decimal

variable {d : Decimal}

def positionalText (d : Decimal) : NumberText :=
  if 0 ≤ d.exponent then ⟨false, digitsOf d.digits ++ .replicate d.exponent.toNat 0, some [0], none⟩
  else
    let places := (-d.exponent).toNat
    let padded := .replicate (places + 1 - (digitsOf d.digits).length) 0 ++ digitsOf d.digits
    ⟨false, padded.take (padded.length - places), some (padded.drop (padded.length - places)), none⟩

def exponentText (d : Decimal) : ExponentText :=
  ⟨'e', some (if d.leading < 0 then '-' else '+'), digitsOf d.leading.natAbs⟩

def scientificText (d : Decimal) : NumberText :=
  ⟨false, (digitsOf d.digits).take 1,
    if (digitsOf d.digits).tail = [] then none else some (digitsOf d.digits).tail, some d.exponentText⟩

lemma text_eq (d : Decimal) : d.text = (digitsOf d.digits).map Nat.digitChar := (map_digitChar_digitsOf _).symm

lemma leading_eq (d : Decimal) : d.leading = d.exponent + (digitsOf d.digits).length - 1 := by
  rw [leading, text, length_digitsOf]

lemma toList_positional (d : Decimal) : (d.positional true).toList = d.positionalText.text := by
  rw [positional, positionalText]
  split
  · simp [NumberText.text, text_eq, String.toList_append, Nat.digitChar]
  · simp [NumberText.text, text_eq, Nat.digitChar, List.map_take, List.map_drop]

lemma toList_toString (n : Int) :
    (toString n).toList = (if n < 0 then ['-'] else []) ++ (digitsOf n.natAbs).map Nat.digitChar := by
  rw [map_digitChar_digitsOf]
  cases n with
  | ofNat m =>
    rw [if_neg (by simp), List.nil_append]
    change (toString m).toList = _
    rw [Nat.toString_eq_ofList_toDigits, String.toList_ofList]
    rfl
  | negSucc m =>
    rw [if_pos (Int.negSucc_lt_zero m)]
    change ("-" ++ toString m.succ).toList = _
    rw [String.toList_append, Nat.toString_eq_ofList_toDigits]
    exact congrArg ('-' :: ·) String.toList_ofList

lemma toList_exponent (d : Decimal) :
    (if d.leading < 0 then toString d.leading else "+" ++ toString d.leading).toList =
      (if d.leading < 0 then '-' else '+') :: (digitsOf d.leading.natAbs).map Nat.digitChar := by
  split
  · rename_i h
    rw [toList_toString, if_pos h, List.singleton_append]
  · rename_i h
    rw [String.toList_append, toList_toString, if_neg h]
    rfl

lemma toList_scientific (d : Decimal) : (d.scientific "+").toList = d.scientificText.text := by
  obtain ⟨c, rest, hdigits⟩ := List.exists_cons_of_ne_nil (digitsOf_ne_nil d.digits)
  rw [scientific, scientificText, String.toList_append, String.toList_append, toList_exponent, text_eq, hdigits]
  cases rest with
  | nil => simp [NumberText.text, ExponentText.text, exponentText]
  | cons c' rest => simp [NumberText.text, ExponentText.text, exponentText]

lemma proper_exponentText (d : Decimal) : d.exponentText.Proper where
  mark := .inl rfl
  sign := by
    rw [exponentText]
    split
    · exact .inr (.inr rfl)
    · exact .inr (.inl rfl)
  digits := ⟨digitsOf_ne_nil _, lt_ten_of_mem_digitsOf _⟩

lemma proper_scientificText (d : Decimal) : d.scientificText.Proper := by
  have hlt := lt_ten_of_mem_digitsOf d.digits
  obtain ⟨c, rest, hdigits⟩ := List.exists_cons_of_ne_nil (digitsOf_ne_nil d.digits)
  rw [scientificText, hdigits]
  rw [hdigits, List.forall_mem_cons] at hlt
  refine ⟨⟨List.cons_ne_nil _ _, ?_⟩, ?_, ?_, ?_⟩
  · simpa using hlt.1
  · exact fun h => by simpa using h
  · rintro digits hmem
    dsimp only at hmem
    split at hmem
    · cases hmem
    · rename_i hne
      obtain rfl := Option.some.inj hmem
      exact ⟨hne, hlt.2⟩
  · rintro e hmem
    obtain rfl := Option.some.inj hmem
    exact d.proper_exponentText

lemma proper_positionalText (h : 0 < d.digits) : d.positionalText.Proper := by
  have hne := digitsOf_ne_nil d.digits
  have hlt := lt_ten_of_mem_digitsOf d.digits
  have hzeros (k : Nat) : ∀ x ∈ List.replicate k 0, x < 10 := fun x hx => (List.eq_of_mem_replicate hx) ▸ (by decide)
  rw [positionalText]
  split
  · refine ⟨⟨by simp [hne], List.forall_mem_append.mpr ⟨hlt, hzeros _⟩⟩, fun hhead => ?_, ?_, fun e he => nomatch he⟩
    · rw [List.head?_append_of_ne_nil _ hne] at hhead
      exact (head?_digitsOf h hhead).elim
    · rintro digits hmem
      obtain rfl := Option.some.inj hmem
      decide
  · rename_i hexp
    dsimp only
    have hpos : 0 < (-d.exponent).toNat := by omega
    generalize (-d.exponent).toNat = places at hpos ⊢
    generalize hz : places + 1 - (digitsOf d.digits).length = zeros
    have hpadded : ∀ x ∈ List.replicate zeros 0 ++ digitsOf d.digits, x < 10 :=
      List.forall_mem_append.mpr ⟨hzeros _, hlt⟩
    have hlength : (List.replicate zeros 0 ++ digitsOf d.digits).length = zeros + (digitsOf d.digits).length := by simp
    refine ⟨⟨?_, fun x hx => hpadded x (List.mem_of_mem_take hx)⟩, fun hhead => ?_, ?_, fun e he => nomatch he⟩
    · rw [Ne, List.take_eq_nil_iff, not_or, hlength]
      exact ⟨by omega, by simp [hne]⟩
    · -- A leading zero was put there, and then it is the only digit before the point.
      dsimp only at hhead ⊢
      rw [hlength] at hhead ⊢
      rcases Nat.eq_zero_or_pos zeros with rfl | hzpos
      · rw [List.replicate_zero, List.nil_append, List.head?_take, if_neg (by omega)] at hhead
        exact (head?_digitsOf h hhead).elim
      · have hone : zeros + (digitsOf d.digits).length - places = 1 := by omega
        obtain ⟨k, rfl⟩ : ∃ k, zeros = k + 1 := ⟨zeros - 1, by omega⟩
        rw [hone, List.replicate_succ, List.cons_append, List.take_succ_cons, List.take_zero]
    · rintro digits hmem
      obtain rfl := Option.some.inj hmem
      refine ⟨?_, fun x hx => hpadded x (List.mem_of_mem_drop hx)⟩
      rw [Ne, List.drop_eq_nil_iff, hlength]
      omega

lemma value_positionalText (d : Decimal) : d.positionalText.value = d.value := by
  rw [positionalText]
  split
  · rename_i h
    obtain ⟨k, hk⟩ : ∃ k : Nat, d.exponent = k := ⟨_, (Int.toNat_of_nonneg h).symm⟩
    simp only [NumberText.value, NumberText.power, Option.getD_some, Option.map_none, Option.getD_none,
      List.length_singleton, magnitude_append, magnitude_digitsOf, magnitude_replicate, List.length_replicate,
      magnitude_singleton, value, hk, Int.toNat_natCast]
    push_cast
    rw [zpow_natCast]
    norm_num
    ring
  · rename_i h
    simp only [NumberText.value, NumberText.power, Option.getD_some, Option.map_none, Option.getD_none,
      List.take_append_drop, magnitude_append, magnitude_digitsOf, magnitude_replicate, List.length_drop,
      List.length_append, List.length_replicate, value]
    rw [zero_mul, zero_add]
    congr 2
    omega

lemma value_scientificText (d : Decimal) : d.scientificText.value = d.value := by
  obtain ⟨c, rest, hdigits⟩ := List.exists_cons_of_ne_nil (digitsOf_ne_nil d.digits)
  have hpower : d.exponentText.value = d.leading := by
    rcases lt_or_ge d.leading 0 with h | h
    · rw [exponentText, if_pos h, ExponentText.value, if_pos rfl, magnitude_digitsOf]
      omega
    · rw [exponentText, if_neg (not_lt.mpr h), ExponentText.value, if_neg (by simp), magnitude_digitsOf]
      omega
  have hall : d.scientificText.whole ++ d.scientificText.fraction.getD [] = digitsOf d.digits := by
    rw [scientificText, hdigits]
    cases rest <;> rfl
  have hfraction : (d.scientificText.fraction.getD []).length = rest.length := by
    rw [scientificText, hdigits]
    cases rest <;> rfl
  rw [NumberText.value, hall, hfraction, magnitude_digitsOf, NumberText.power]
  change (d.digits : ℚ) * 10 ^ (d.exponentText.value - (rest.length : Int)) = _
  rw [hpower, leading_eq, hdigits, value]
  congr 2
  rw [List.length_cons]
  push_cast
  ring

end Decimal

namespace NumeralStyle

open Float.Model (Format UnpackedFloat)

variable {n : NumeralStyle} {d : Decimal}

structure Plain (n : NumeralStyle) : Prop where
  fraction : n.fraction = true
  plus : n.plus = "+"

def spelling (n : NumeralStyle) (d : Decimal) : NumberText :=
  if n.least.all (· ≤ d.leading) && n.greatest.all (d.leading ≤ ·) then d.positionalText else d.scientificText

lemma toList_decimal (hn : n.Plain) (d : Decimal) : (n.decimal d).toList = (n.spelling d).text := by
  rw [decimal, spelling, hn.fraction, hn.plus]
  split
  · exact d.toList_positional
  · exact d.toList_scientific

lemma proper_spelling (n : NumeralStyle) (h : 0 < d.digits) : (n.spelling d).Proper := by
  rw [spelling]
  split
  · exact d.proper_positionalText h
  · exact d.proper_scientificText

lemma value_spelling (n : NumeralStyle) (d : Decimal) : (n.spelling d).value = d.value := by
  rw [spelling]
  split
  · exact d.value_positionalText
  · exact d.value_scientificText

lemma negative_spelling (n : NumeralStyle) (d : Decimal) : (n.spelling d).negative = false := by
  rw [spelling, Decimal.positionalText]
  split
  · split
    · rfl
    · rfl
  · rfl

lemma isWhole_spelling (n : NumeralStyle) (d : Decimal) : (n.spelling d).isWhole = false := by
  rw [spelling, Decimal.positionalText]
  split
  · split
    · rfl
    · rfl
  · exact Bool.and_false _

lemma length_whole_spelling {greatest : Nat} (h : n.greatest = some (greatest : Int)) (d : Decimal) :
    (n.spelling d).whole.length ≤ greatest + 1 := by
  rw [spelling]
  split
  · rename_i hplace
    rw [Bool.and_eq_true, h, Option.all_some, decide_eq_true_eq, Decimal.leading_eq] at hplace
    have hleading := hplace.2
    rw [Decimal.positionalText]
    split
    · rw [List.length_append, List.length_replicate]
      omega
    · rw [List.length_take, List.length_append, List.length_replicate]
      omega
  · exact (List.length_take_le _ _).trans (Nat.le_add_left _ _)

lemma toList_signed (negative : Bool) {text : String} {t : NumberText} (ht : t.negative = false)
    (h : text.toList = t.text) :
    (signed negative text).toList = ({ t with negative := negative } : NumberText).text := by
  rw [Token.text_eq, ht, if_neg Bool.false_ne_true, List.nil_append] at h
  rw [Token.text_eq, signed]
  cases negative with
  | false => exact h
  | true =>
    rw [if_pos rfl, String.toList_append, h]
    rfl

def shortest (n : NumeralStyle) (format : Format) (mantissa : Nat) (exponent : Int) : Decimal :=
  (RoundingInterval.around mantissa exponent
    (mantissa = 1 <<< format.mantissaBitsWithoutImplicit && format.minExponent < exponent)).shortest n.tie

def spelled? (n : NumeralStyle) (format : Format) : UnpackedFloat → Option NumberText
  | .zero sign => some ⟨sign == .negative, [0], some [0], none⟩
  | .finite sign mantissa exponent _ =>
    some { n.spelling (n.shortest format mantissa exponent) with negative := sign == .negative }
  | _ => none

variable {format : Format} {x : UnpackedFloat} {t : NumberText}

lemma proper_spelled? (h : n.spelled? format x = some t) : t.Proper := by
  cases x with
  | zero sign =>
    obtain rfl := Option.some.inj h
    have hzero : ([0] : List Nat) ≠ [] ∧ ∀ d ∈ [0], d < 10 := by decide
    refine ⟨hzero, fun _ => rfl, fun found hfound => ?_, fun _ he => nomatch he⟩
    obtain rfl := Option.some.inj hfound
    exact hzero
  | finite sign mantissa exponent hm =>
    obtain rfl := Option.some.inj h
    have hproper := proper_spelling n
      (RoundingInterval.shortest_spec n.tie (RoundingInterval.proper_around hm exponent
        (mantissa = 1 <<< format.mantissaBitsWithoutImplicit && format.minExponent < exponent))).1
    exact ⟨hproper.whole, hproper.zero, hproper.fraction, hproper.exponent⟩
  | _ => cases h

theorem toList_unpacked (hn : n.Plain) (h : n.spelled? format x = some t) :
    (n.unpacked format x).toList = t.text := by
  cases x with
  | zero sign =>
    obtain rfl := Option.some.inj h
    rw [unpacked, hn.fraction]
    exact toList_signed _ (t := ⟨false, [0], some [0], none⟩) rfl rfl
  | finite sign mantissa exponent hm =>
    obtain rfl := Option.some.inj h
    exact toList_signed _ (negative_spelling n _) (toList_decimal hn _)
  | _ => cases h

lemma exists_spelled? (n : NumeralStyle) (format : Format) (h : x.isFinite = true) :
    ∃ t, n.spelled? format x = some t := by
  cases x with
  | zero sign => exact ⟨_, rfl⟩
  | finite sign mantissa exponent hm => exact ⟨_, rfl⟩
  | _ => cases h

end NumeralStyle

end Diorama
