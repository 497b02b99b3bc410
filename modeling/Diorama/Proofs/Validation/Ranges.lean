import Diorama.Proofs.Scalar.Order
import Diorama.Proofs.Validation.Clean
import Diorama.Validation.Rules.Ranges
import Mathlib.Logic.Basic
import Mathlib.Tactic.SplitIfs

namespace Diorama

def Scalar.InUnit (x : Scalar) : Prop := 0 ≤ x ∧ x ≤ 1

def Color.InRange (c : Color) : Prop := ∀ x ∈ c.channels, x.InUnit

structure Light.InRange (l : Light) : Prop where
  intensity : 0 ≤ l.intensity
  range : ∀ x, l.range = some x → 0 < x
  spotAngle : ∀ x, l.spotAngle = some x → 0 < x ∧ x ≤ 180
  color : l.color.InRange

structure Material.InRange (m : Material) : Prop where
  roughness : m.roughness.InUnit
  metallic : m.metallic.InUnit
  emissionStrength : 0 ≤ m.emissionStrength
  baseColor : m.baseColor.InRange
  emissionColor : ∀ c, m.emissionColor = some c → c.InRange

structure Physics.InRange (p : Physics) : Prop where
  mass : 0 ≤ p.mass
  drag : 0 ≤ p.drag
  angularDrag : 0 ≤ p.angularDrag

structure Environment.InRange (v : Environment) : Prop where
  fogDensity : v.fog.density.InUnit
  hour : v.timeOfDay.hour ≤ 23
  minute : v.timeOfDay.minute ≤ 59
  ambientLight : v.ambientLight.InRange
  fogColor : v.fog.color.InRange
  skyboxTint : v.skybox.tint.InRange

namespace Rule

lemma inUnitInterval_iff {x : Scalar} : inUnitInterval x = true ↔ x.InUnit := by
  simp [inUnitInterval, Scalar.InUnit]

lemma isNegative_iff {x : Scalar} : isNegative x = true ↔ ¬0 ≤ x := by
  have hzero : Float32.isNaN 0 = false := by decide
  rw [Scalar.le_iff_not_lt, isNegative]
  simp only [hzero, true_and, Bool.or_eq_true, decide_eq_true_eq]
  cases Float32.isNaN x <;> simp

lemma isNotPositive_iff {x : Scalar} : isNotPositive x = true ↔ ¬0 < x := by
  have hzero : Float32.isNaN 0 = false := by decide
  rw [Scalar.lt_iff_not_le, isNotPositive]
  simp only [hzero, true_and, Bool.or_eq_true, decide_eq_true_eq]
  cases Float32.isNaN x <;> simp

lemma beyondSpot_iff {x : Scalar} :
    (isNotPositive x || 180 < x) = true ↔ ¬(0 < x ∧ x ≤ 180) := by
  have h180 : Float32.isNaN 180 = false := by decide
  rw [Bool.or_eq_true, isNotPositive_iff, decide_eq_true_eq, not_and]
  constructor
  · rintro (h | h) hx
    · exact (h hx).elim
    · exact (Scalar.lt_iff_not_le.mp h).2.2
  · intro h
    by_cases hx : 0 < x
    · exact Or.inr (Scalar.lt_iff_not_le.mpr ⟨h180, (Scalar.lt_iff_not_le.mp hx).2.1, h hx⟩)
    · exact Or.inl hx

lemma clean_flag {c : Bool} {subject : Option String} {field about : String} {x : Scalar} :
    Clean (flag c subject field about x) ↔ ¬c = true := Clean.ite_iff rfl

lemma clean_colorRange {subject : Option String} {field : String} {c : Color} :
    Clean (colorRange subject field c) ↔ c.InRange := by
  rw [colorRange, Clean.ite_nil_iff rfl, List.all_eq_true]
  exact forall₂_congr fun _ _ => inUnitInterval_iff

lemma clean_lightRanges {l : Light} : Clean (lightRanges l) ↔ l.InRange := by
  have hint : Clean (if isNegative l.intensity then
        flag true (some l.id) "intensity" "light intensity must be >= 0" l.intensity
      else if brightIntensity < l.intensity then
        [{ severity := .warning
           code := .outOfRange
           message := s!"light intensity {Message.plain.scalar l.intensity} is unusually high"
           subject := some l.id
           field := some "intensity" }]
      else []) ↔ 0 ≤ l.intensity := by
    split_ifs with hneg hbright
    · simpa [clean_flag] using isNegative_iff.mp hneg
    · simpa [Clean, Issue.isError] using not_not.mp (mt isNegative_iff.mpr hneg)
    · simpa using not_not.mp (mt isNegative_iff.mpr hneg)
  rw [lightRanges, Clean.append_iff, Clean.append_iff, Clean.append_iff, hint]
  simp only [Clean.flatMap_iff, clean_flag, isNotPositive_iff, beyondSpot_iff, not_not, clean_colorRange,
    Option.mem_toList]
  constructor
  · rintro ⟨⟨⟨h1, h2⟩, h3⟩, h4⟩
    exact ⟨h1, h2, h3, h4⟩
  · rintro ⟨h1, h2, h3, h4⟩
    exact ⟨⟨⟨h1, h2⟩, h3⟩, h4⟩

lemma clean_materialRanges {id : Option String} {m : Material} :
    Clean (materialRanges id m) ↔ m.InRange := by
  rw [materialRanges, Clean.append_iff, Clean.append_iff, Clean.append_iff, Clean.append_iff]
  simp only [Clean.flatMap_iff, clean_flag, clean_colorRange, Option.mem_toList, Bool.not_eq_true',
    Bool.not_eq_false, inUnitInterval_iff, isNegative_iff, not_not]
  constructor
  · rintro ⟨⟨⟨⟨h1, h2⟩, h3⟩, h4⟩, h5⟩
    exact ⟨h1, h2, h3, h4, h5⟩
  · rintro ⟨h1, h2, h3, h4, h5⟩
    exact ⟨⟨⟨⟨h1, h2⟩, h3⟩, h4⟩, h5⟩

lemma clean_physicsRanges {id : Option String} {p : Physics} :
    Clean (physicsRanges id p) ↔ p.InRange := by
  simp only [physicsRanges, Clean.flatMap_iff, clean_flag, isNegative_iff, not_not, List.forall_mem_cons,
    List.not_mem_nil, false_implies, implies_true, and_true]
  constructor
  · rintro ⟨h1, h2, h3⟩
    exact ⟨h1, h2, h3⟩
  · rintro ⟨h1, h2, h3⟩
    exact ⟨h1, h2, h3⟩

lemma clean_environmentRanges {v : Environment} : Clean (environmentRanges v) ↔ v.InRange := by
  rw [environmentRanges, Clean.append_iff, Clean.append_iff, Clean.append_iff, Clean.append_iff,
    Clean.append_iff, Clean.ite_iff rfl, Clean.ite_iff rfl]
  simp only [clean_flag, clean_colorRange, Bool.not_eq_true', Bool.not_eq_false, inUnitInterval_iff,
    UInt8.not_lt]
  constructor
  · rintro ⟨⟨⟨⟨⟨h1, h2⟩, h3⟩, h4⟩, h5⟩, h6⟩
    exact ⟨h1, h2, h3, h4, h5, h6⟩
  · rintro ⟨h1, h2, h3, h4, h5, h6⟩
    exact ⟨⟨⟨⟨⟨h1, h2⟩, h3⟩, h4⟩, h5⟩, h6⟩

lemma clean_numericRanges {w : World} : Clean (numericRanges w) ↔ (∀ l ∈ w.lights, l.InRange) ∧
    (∀ e ∈ w.entities, (∀ m, e.material = some m → m.InRange) ∧ ∀ p, e.physics = some p → p.InRange) ∧
      w.environment.InRange := by
  simp only [numericRanges, entityRanges, Clean.append_iff, Clean.flatMap_iff, Option.mem_toList,
    clean_lightRanges, clean_materialRanges, clean_physicsRanges, clean_environmentRanges, and_assoc]

lemma field_of_mem_flag {c : Bool} {subject : Option String} {field about : String} {x : Scalar} {i : Issue}
    (hi : i ∈ flag c subject field about x) : i.field = some field := by
  unfold flag at hi
  split at hi
  · rw [List.mem_singleton.mp hi]
    rfl
  · cases hi

lemma field_of_mem_colorRange {subject : Option String} {field : String} {c : Color} {i : Issue}
    (hi : i ∈ colorRange subject field c) : i.field = some field := by
  unfold colorRange at hi
  split at hi
  · cases hi
  · rw [List.mem_singleton.mp hi]
    rfl

lemma advisory_of_bright {l : Light} (h : brightIntensity < l.intensity) {i : Issue} (hi : i ∈ lightRanges l)
    (hf : i.field = some "intensity") : i.isError = false := by
  have hpos : (0 : Scalar) < l.intensity := Scalar.lt_trans (by decide) h
  have hneg : ¬isNegative l.intensity = true := fun hn => isNegative_iff.mp hn (Scalar.le_of_lt hpos)
  -- Of the four checks only the first is about the intensity, and it has taken its warning branch.
  rw [lightRanges, if_neg hneg, if_pos h] at hi
  simp only [List.mem_append, List.mem_flatMap, List.mem_singleton] at hi
  rcases hi with ((rfl | ⟨x, _, hi⟩) | ⟨x, _, hi⟩) | hi
  · rfl
  · rw [field_of_mem_flag hi] at hf
    exact absurd hf (by decide)
  · rw [field_of_mem_flag hi] at hf
    exact absurd hf (by decide)
  · rw [field_of_mem_colorRange hi] at hf
    exact absurd hf (by decide)

end Rule

end Diorama
