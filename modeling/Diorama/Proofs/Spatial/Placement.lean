import Diorama.Spatial.Placement
import Mathlib.Logic.Basic

namespace Diorama

variable {p : Vec3} {count : Nat}

namespace PlacementSearch

variable {clear : Vec3 → Bool} {spacing : Scalar}

lemma mem_accept {s : PlacementSearch} {sample : Vec3} (h : p ∈ (s.accept sample).accepted) :
    p ∈ s.accepted ∨ p = sample :=
  Array.mem_push.mp h

lemma mem_visit {samples : List Vec3} {s : PlacementSearch}
    (h : p ∈ (visit clear spacing count samples s).accepted) : p ∈ s.accepted ∨ p ∈ samples := by
  induction samples generalizing s with
  | nil => exact .inl h
  | cons sample rest ih =>
    rw [visit] at h
    split at h
    · exact .inl h
    · split at h
      · rcases ih h with h | h
        · rcases mem_accept h with h | rfl
          · exact .inl h
          · exact .inr List.mem_cons_self
        · exact .inr (List.mem_cons_of_mem _ h)
      · exact (ih h).imp_right (List.mem_cons_of_mem _)

lemma mem_visitRings {visitRing : Nat → PlacementSearch → PlacementSearch} {ring : Nat → List Vec3} {rings k : Nat}
    {s : PlacementSearch} (h : p ∈ (visitRings visitRing count rings k s).accepted)
    (hring : ∀ k s, p ∈ (visitRing k s).accepted → p ∈ s.accepted ∨ p ∈ ring k) :
    p ∈ s.accepted ∨ ∃ i < k + rings, p ∈ ring i := by
  induction rings generalizing k s with
  | zero => exact .inl h
  | succ rings ih =>
    rw [visitRings] at h
    split at h
    · exact .inl h
    · rcases ih h with h | ⟨i, hi, h⟩
      · exact (hring k s h).imp_right fun h => ⟨k, by omega, h⟩
      · exact .inr ⟨i, by omega, h⟩

end PlacementSearch

def Rings.step (desired : Scalar) : Scalar :=
  let spacing := Scalar.max desired 0
  if 0 < spacing then spacing * Rings.stepFactor else 1

namespace World

variable {w : World} {cellSize desired reach : Scalar} {near : Vec3}

theorem mem_placementsWithin (h : p ∈ w.placementsWithin cellSize near desired count reach) :
    ∃ k ≤ Rings.within reach (Rings.step desired), p ∈ Rings.ring near (Rings.step desired) k := by
  rw [placementsWithin] at h
  split at h
  · cases h
  · have haccepted := Array.mem_toList_iff.mp h
    rcases PlacementSearch.mem_visitRings haccepted fun _ _ => PlacementSearch.mem_visit with hempty | ⟨k, hk, hring⟩
    · cases Array.not_mem_empty _ hempty
    · exact ⟨k, Nat.le_of_lt_succ (Nat.lt_of_lt_of_eq hk (Nat.zero_add _)), hring⟩

end World

end Diorama
