import Diorama.Text.Blank
import Mathlib

namespace Diorama.Text

variable {mark text rest : List Char} {c : Char}

lemma after?_eq_none_iff : after? mark text = none ↔ ¬mark <:+: text := by
  induction text with
  | nil => simp [after?]
  | cons c text ih =>
    rw [after?, List.infix_cons_iff, not_or, ← ih]
    split
    case isTrue h => simp [List.isPrefixOf_iff_prefix.mp h]
    case isFalse h => simp [mt List.isPrefixOf_iff_prefix.mpr h]

lemma contains_iff : contains text mark = true ↔ mark <:+: text := by
  rw [contains, Option.isSome_iff_ne_none, Ne, after?_eq_none_iff, not_not]

lemma contains_eq_false_iff : contains text mark = false ↔ ¬mark <:+: text := by
  rw [← contains_iff, Bool.not_eq_true]

lemma after?_self (mark rest : List Char) : after? mark (mark ++ rest) = some rest := by
  cases h : mark ++ rest with
  | nil =>
    obtain ⟨rfl, rfl⟩ := List.append_eq_nil_iff.mp h
    rfl
  | cons c text =>
    have hprefix : mark <+: c :: text := ⟨rest, h⟩
    rw [after?, if_pos (List.isPrefixOf_iff_prefix.mpr hprefix), ← h, List.drop_left]

lemma after?_skip (hmark : mark ≠ []) (h : ∀ c ∈ mark.head?, c ∉ text) (rest : List Char) :
    after? mark (text ++ rest) = after? mark rest := by
  obtain ⟨c, more, rfl⟩ := List.exists_cons_of_ne_nil hmark
  have hc : c ∉ text := h c rfl
  clear h
  induction text with
  | nil => rfl
  | cons d text ih =>
    obtain ⟨hd, htext⟩ := not_or.mp (mt List.mem_cons.mpr hc)
    have hprefix : ¬(c :: more).isPrefixOf (d :: (text ++ rest)) = true := by
      rw [List.isPrefixOf_iff_prefix, List.cons_prefix_cons]
      exact fun hp => hd hp.1
    rw [List.cons_append, after?, if_neg hprefix, ih htext]

lemma not_infix_of_length (h : text.length < mark.length) : ¬mark <:+: text :=
  fun hm => absurd hm.length_le (Nat.not_le.mpr h)

lemma not_infix_of_not_mem (hc : c ∈ mark) (h : c ∉ text) : ¬mark <:+: text := fun hm => h (hm.subset hc)

lemma prefix_of_prefix_append (text : List Char) (hc : c ∉ mark) (h : mark <+: text ++ c :: rest) : mark <+: text := by
  rcases List.prefix_or_prefix_of_prefix h (List.prefix_append text (c :: rest)) with hm | ⟨other, rfl⟩
  · exact hm
  · -- What the mark has beyond the text would start with the parting character.
    rw [List.prefix_append_right_inj] at h
    cases other with
    | nil => simp
    | cons d other =>
      obtain rfl := (List.cons_prefix_cons.mp h).1
      simp at hc

lemma infix_append_cons (hc : c ∉ mark) (h : mark <:+: text ++ c :: rest) : mark <:+: text ∨ mark <:+: rest := by
  induction text with
  | nil =>
    rcases List.infix_cons_iff.mp h with hp | hr
    · exact .inl (prefix_of_prefix_append [] hc hp).isInfix
    · exact .inr hr
  | cons d text ih =>
    rcases List.infix_cons_iff.mp h with hp | hr
    · exact .inl (prefix_of_prefix_append (d :: text) hc hp).isInfix
    · exact (ih hr).imp List.infix_cons id

lemma before_cons_of_not_mem (hc : c ∉ mark) (hmark : mark ≠ []) (text : List Char) :
    before mark (c :: text) = c :: before mark text := by
  have hprefix : ¬mark.isPrefixOf (c :: text) = true := by
    rw [List.isPrefixOf_iff_prefix, List.prefix_cons_iff]
    rintro (h | ⟨more, rfl, -⟩)
    · exact hmark h
    · simp at hc
  rw [before, if_neg hprefix]

lemma before_self (hmark : mark ≠ []) (rest : List Char) : before mark (mark ++ rest) = [] := by
  obtain ⟨c, more, rfl⟩ := List.exists_cons_of_ne_nil hmark
  rw [List.cons_append, before, if_pos]
  exact List.isPrefixOf_iff_prefix.mpr (List.prefix_append (c :: more) rest)

lemma before_parted (hc : c ∉ mark) (hmark : mark ≠ []) (h : ¬mark <:+: text) (rest : List Char) :
    before mark (text ++ c :: (mark ++ rest)) = text ++ [c] := by
  induction text with
  | nil => rw [List.nil_append, before_cons_of_not_mem hc hmark, before_self hmark, List.nil_append]
  | cons d text ih =>
    have htext : ¬mark <:+: text := fun hm => h (List.infix_cons hm)
    have hprefix : ¬mark.isPrefixOf (d :: (text ++ c :: (mark ++ rest))) = true := by
      rw [List.isPrefixOf_iff_prefix]
      exact fun hp => h (prefix_of_prefix_append (d :: text) hc hp).isInfix
    rw [List.cons_append, before, if_neg hprefix, ih htext, List.cons_append]

lemma before_append (h : mark <:+: text) :
    ∃ more, text = before mark text ++ mark ++ more ∧ ∀ rest, before mark (text ++ rest) = before mark text := by
  induction text with
  | nil =>
    obtain rfl := List.infix_nil.mp h
    exact ⟨[], rfl, fun rest => by cases rest <;> simp [before]⟩
  | cons c text ih =>
    by_cases hprefix : mark <+: c :: text
    · obtain ⟨more, hmore⟩ := hprefix
      have hcut : ∀ rest, before mark (c :: text ++ rest) = [] := by
        intro rest
        have hp : mark <+: c :: (text ++ rest) := ⟨more ++ rest, by rw [← List.append_assoc, hmore, List.cons_append]⟩
        rw [List.cons_append, before, if_pos (List.isPrefixOf_iff_prefix.mpr hp)]
      have hnil := hcut []
      rw [List.append_nil] at hnil
      exact ⟨more, by rw [hnil, List.nil_append, hmore], fun rest => by rw [hcut, hnil]⟩
    · obtain ⟨more, htext, hrest⟩ := ih ((List.infix_cons_iff.mp h).resolve_left hprefix)
      have hkeep : before mark (c :: text) = c :: before mark text := by
        rw [before, if_neg (mt List.isPrefixOf_iff_prefix.mp hprefix)]
      refine ⟨more, ?_, fun rest => ?_⟩
      · rw [hkeep, List.cons_append, List.cons_append, ← htext]
      · have hlength : mark.length ≤ (c :: text).length := h.length_le
        have hprefix' : ¬mark <+: c :: (text ++ rest) := fun hp =>
          hprefix (List.prefix_of_prefix_length_le hp (List.prefix_append (c :: text) rest) hlength)
        rw [hkeep, ← hrest rest, List.cons_append, before, if_neg (mt List.isPrefixOf_iff_prefix.mp hprefix')]

lemma trimChars_append {front back : List Char} (hfront : ∀ c ∈ front, isBlank c = true)
    (hback : ∀ c ∈ back, isBlank c = true) (text : List Char) : trimChars (front ++ text ++ back) = trimChars text := by
  rw [trimChars, trimChars, List.append_assoc, List.dropWhile_append_of_pos hfront, List.dropWhile_append]
  split
  case isTrue h => rw [List.isEmpty_iff.mp h, List.dropWhile_eq_nil_iff.mpr hback]
  case isFalse =>
    rw [List.reverse_append, List.dropWhile_append_of_pos]
    exact fun c hc => hback c (List.mem_reverse.mp hc)

lemma trimChars_spec (text : List Char) : ∃ front back, (∀ c ∈ front, isBlank c = true) ∧
    (∀ c ∈ back, isBlank c = true) ∧ text = front ++ (trimChars text ++ back) := by
  refine ⟨text.takeWhile isBlank, ((text.dropWhile isBlank).reverse.takeWhile isBlank).reverse, fun c hc =>
    List.mem_takeWhile_imp hc, fun c hc => List.mem_takeWhile_imp (List.mem_reverse.mp hc), ?_⟩
  rw [trimChars, ← List.reverse_append, List.takeWhile_append_dropWhile, List.reverse_reverse,
    List.takeWhile_append_dropWhile]

end Diorama.Text
