import Diorama.Json.Number
import Mathlib

namespace Diorama

def digitsOf (n : Nat) : List Nat := (Nat.toDigits 10 n).map fun c => c.toNat - '0'.toNat

lemma digitsOf_of_lt {n : Nat} (h : n < 10) : digitsOf n = [n] := by
  rw [digitsOf, Nat.toDigits_of_lt_base h, List.map_singleton, Nat.toNat_digitChar_of_lt_ten h]
  exact congrArg (fun d => [d]) (Nat.add_sub_cancel_left 48 n)

lemma digitsOf_of_le {n : Nat} (h : 10 ≤ n) : digitsOf n = digitsOf (n / 10) ++ [n % 10] := by
  have hlt : n % 10 < 10 := Nat.mod_lt n (by decide)
  rw [digitsOf, Nat.toDigits_of_base_le (by decide) h, List.map_append, List.map_singleton,
    Nat.toNat_digitChar_of_lt_ten hlt]
  exact congrArg (fun d => digitsOf (n / 10) ++ [d]) (Nat.add_sub_cancel_left 48 _)

lemma digits_induction {P : Nat → Prop} (hlt : ∀ n < 10, P n) (hle : ∀ n, 10 ≤ n → P (n / 10) → P n) (n : Nat) :
    P n := by
  induction n using Nat.strong_induction_on with
  | h n ih =>
    rcases Nat.lt_or_ge n 10 with h | h
    · exact hlt n h
    · exact hle n h (ih (n / 10) (Nat.div_lt_self (by omega) (by decide)))

lemma map_digitChar_digitsOf (n : Nat) : (digitsOf n).map Nat.digitChar = Nat.toDigits 10 n := by
  induction n using digits_induction with
  | hlt n h => rw [digitsOf_of_lt h, Nat.toDigits_of_lt_base h, List.map_singleton]
  | hle n h ih => rw [digitsOf_of_le h, Nat.toDigits_of_base_le (by decide) h, List.map_append, ih, List.map_singleton]

lemma lt_ten_of_mem_digitsOf (n : Nat) : ∀ d ∈ digitsOf n, d < 10 := by
  induction n using digits_induction with
  | hlt n h => simpa [digitsOf_of_lt h] using h
  | hle n h ih =>
    rw [digitsOf_of_le h, List.forall_mem_append, List.forall_mem_singleton]
    exact ⟨ih, Nat.mod_lt n (by decide)⟩

lemma digitsOf_ne_nil (n : Nat) : digitsOf n ≠ [] := by
  rw [digitsOf, Ne, List.map_eq_nil_iff]
  exact Nat.toDigits_ne_nil

lemma head?_digitsOf {n : Nat} (h : 0 < n) : (digitsOf n).head? ≠ some 0 := by
  induction n using digits_induction with
  | hlt n hlt =>
    rw [digitsOf_of_lt hlt]
    exact fun he => h.ne' (Option.some.inj he)
  | hle n hle ih =>
    rw [digitsOf_of_le hle, List.head?_append_of_ne_nil _ (digitsOf_ne_nil _)]
    exact ih (Nat.div_pos hle (by decide))

lemma length_digitsOf (n : Nat) : (digitsOf n).length = (Nat.toDigits 10 n).length := List.length_map _

lemma foldl_digits (found : List Nat) (n : Nat) :
    found.foldl (fun n d => n * 10 + d) n = n * 10 ^ found.length + magnitude found := by
  induction found generalizing n with
  | nil => simp [magnitude]
  | cons d found ih =>
    rw [magnitude, List.foldl_cons, List.foldl_cons, ih, ih (0 * 10 + d), List.length_cons, pow_succ]
    ring

@[simp] lemma magnitude_singleton (d : Nat) : magnitude [d] = d := Nat.zero_add d

lemma magnitude_append (found other : List Nat) :
    magnitude (found ++ other) = magnitude found * 10 ^ other.length + magnitude other := by
  rw [magnitude, List.foldl_append, foldl_digits]
  rfl

lemma magnitude_digitsOf (n : Nat) : magnitude (digitsOf n) = n := by
  induction n using digits_induction with
  | hlt n h =>
    rw [digitsOf_of_lt h, magnitude_singleton]
  | hle n h ih =>
    rw [digitsOf_of_le h, magnitude_append, ih, magnitude_singleton, List.length_singleton, pow_one]
    exact Nat.div_add_mod' n 10

lemma magnitude_lt {found : List Nat} (h : ∀ d ∈ found, d < 10) : magnitude found < 10 ^ found.length := by
  induction found with
  | nil => exact Nat.one_pos
  | cons d found ih =>
    rw [List.forall_mem_cons] at h
    have hsplit : magnitude (d :: found) = d * 10 ^ found.length + magnitude found := by
      rw [← List.singleton_append, magnitude_append, magnitude_singleton]
    have hd : (d + 1) * 10 ^ found.length ≤ 10 * 10 ^ found.length := Nat.mul_le_mul_right _ h.1
    have hrest := ih h.2
    rw [hsplit, List.length_cons, pow_succ']
    linarith

lemma magnitude_replicate (k : Nat) : magnitude (List.replicate k 0) = 0 := by
  induction k with
  | zero => rfl
  | succ k ih => exact (foldl_digits (.replicate k 0) _).trans (by simpa using ih)

namespace NumberText

lemma absorb_all {n : Nat} (found : List Nat) (h : n * 10 ^ found.length + magnitude found < UInt64.size) :
    absorb n found = (n * 10 ^ found.length + magnitude found, []) := by
  induction found generalizing n with
  | nil => simp [absorb, magnitude]
  | cons d found ih =>
    have hsplit : n * 10 ^ (d :: found).length + magnitude (d :: found) =
        (n * 10 + d) * 10 ^ found.length + magnitude found := by
      rw [← foldl_digits, List.foldl_cons, foldl_digits]
    rw [hsplit] at h ⊢
    have hle : n * 10 + d ≤ (n * 10 + d) * 10 ^ found.length := Nat.le_mul_of_pos_right _ (by positivity)
    rw [absorb, if_pos (by omega), ih h]

lemma absorb_split (n : Nat) (found : List Nat) : ∃ taken, found = taken ++ (absorb n found).2 ∧
    (absorb n found).1 = n * 10 ^ taken.length + magnitude taken := by
  induction found generalizing n with
  | nil => exact ⟨[], rfl, by simp [absorb, magnitude]⟩
  | cons d found ih =>
    rw [absorb]
    split
    · obtain ⟨taken, hfound, hvalue⟩ := ih (n * 10 + d)
      refine ⟨d :: taken, congrArg (d :: ·) hfound, ?_⟩
      rw [hvalue, ← foldl_digits taken (n * 10 + d), ← foldl_digits (d :: taken) n, List.foldl_cons]
    · exact ⟨[], rfl, by simp [magnitude]⟩

end NumberText

end Diorama
