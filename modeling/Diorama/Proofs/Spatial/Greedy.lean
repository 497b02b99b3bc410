import Diorama.Proofs.Spatial.Grid
import Diorama.Proofs.Spatial.Reach

/-! The search for free places is the plain greedy one, which goes through the samples in order and compares each with
every entity and every accepted sample. The two grids hide no place that is too close, whatever their cells. -/

namespace Diorama

open Scalar

variable {places samples more accepted : List Vec3} {spacing cellSize : Scalar} {sample p q : Vec3} {count : Nat}

def Clear (spacing : Scalar) (sample p : Vec3) : Prop :=
  0 < spacing → ¬sample.distanceSquared p < spacing * spacing

instance : Decidable (Clear spacing sample p) :=
  inferInstanceAs (Decidable (0 < spacing → ¬sample.distanceSquared p < spacing * spacing))

lemma Clear.symm (h : Clear spacing p q) : Clear spacing q p := by
  unfold Clear
  rwa [Vec3.distanceSquared_comm]

def consider (places : List Vec3) (spacing : Scalar) (accepted : List Vec3) (sample : Vec3) : List Vec3 :=
  if ∀ p ∈ places ++ accepted, Clear spacing sample p then accepted ++ [sample] else accepted

def greedy (places : List Vec3) (spacing : Scalar) (samples : List Vec3) : List Vec3 :=
  samples.foldl (consider places spacing) []

lemma isPrefix_consider : accepted <+: consider places spacing accepted sample := by
  unfold consider
  split_ifs
  · exact List.prefix_append _ _
  · exact List.prefix_rfl

lemma isPrefix_foldl (places : List Vec3) (spacing : Scalar) (samples accepted : List Vec3) :
    accepted <+: samples.foldl (consider places spacing) accepted := by
  induction samples generalizing accepted with
  | nil => exact List.prefix_rfl
  | cons sample samples ih => exact isPrefix_consider.trans (ih _)

lemma greedy_isPrefix (h : samples <+: more) : greedy places spacing samples <+: greedy places spacing more := by
  obtain ⟨rest, rfl⟩ := h
  rw [greedy, greedy, List.foldl_append]
  exact isPrefix_foldl _ _ _ _

lemma take_foldl {n : Nat} (samples : List Vec3) (hn : n ≤ accepted.length) :
    (samples.foldl (consider places spacing) accepted).take n = accepted.take n := by
  obtain ⟨rest, hrest⟩ := isPrefix_foldl places spacing samples accepted
  rw [← hrest, List.take_append_of_le_length hn]

lemma take_foldl_take (samples accepted : List Vec3) (n : Nat) :
    (samples.foldl (consider places spacing) (accepted.take n)).take n =
      (samples.foldl (consider places spacing) accepted).take n := by
  by_cases hn : accepted.length ≤ n
  · rw [List.take_of_length_le hn]
  · have hlong : n ≤ (accepted.take n).length := by
      rw [List.length_take]
      omega
    rw [take_foldl samples hlong, take_foldl samples (le_of_not_ge hn), List.take_take, min_self]

structure Apart (places : List Vec3) (spacing : Scalar) (accepted : List Vec3) : Prop where
  from_places : ∀ p ∈ accepted, ∀ q ∈ places, Clear spacing p q
  pairwise : accepted.Pairwise fun p q => Clear spacing p q ∧ Clear spacing q p

lemma Apart.consider (h : Apart places spacing accepted) (sample : Vec3) :
    Apart places spacing (consider places spacing accepted sample) := by
  unfold Diorama.consider
  split_ifs with hclear
  · rw [List.forall_mem_append] at hclear
    refine ⟨fun p hp => ?_, List.pairwise_append.mpr ⟨h.pairwise, List.pairwise_singleton _ _, ?_⟩⟩
    · rcases List.mem_append.mp hp with hp | hp
      · exact h.from_places p hp
      · rw [List.mem_singleton.mp hp]
        exact hclear.1
    · intro p hp q hq
      rw [List.mem_singleton.mp hq]
      exact ⟨(hclear.2 p hp).symm, hclear.2 p hp⟩
  · exact h

lemma apart_greedy (places : List Vec3) (spacing : Scalar) (samples : List Vec3) :
    Apart places spacing (greedy places spacing samples) := by
  have hfold : ∀ accepted, Apart places spacing accepted →
      Apart places spacing (samples.foldl (consider places spacing) accepted) := by
    induction samples with
    | nil => exact fun _ h => h
    | cons sample samples ih => exact fun accepted h => ih _ (h.consider sample)
  exact hfold [] ⟨fun p hp => (List.not_mem_nil hp).elim, .nil⟩

lemma Apart.sublist (h : Apart places spacing accepted) {spots : List Vec3} (hs : spots.Sublist accepted) :
    Apart places spacing spots :=
  ⟨fun p hp => h.from_places p (hs.subset hp), h.pairwise.sublist hs⟩

namespace PlacementSearch

variable {grid : Grid} {s : PlacementSearch} {clear : Vec3 → Bool}

lemma isClear_iff {places : Array Vec3} (h : grid.Files places.toList) (hs : spacing.isFinite = true) :
    isClear grid places spacing sample = true ↔ ∀ p ∈ places.toList, Clear spacing sample p := by
  unfold isClear
  by_cases hpos : 0 < spacing
  · rw [decide_eq_true hpos, Bool.not_true, Bool.false_or, List.all_eq_true]
    constructor
    · intro hall p hp _ hlt
      obtain ⟨i, hi⟩ := List.getElem?_of_mem hp
      have hmem := h.mem_candidatesNear_of_near hs (Scalar.le_of_lt hpos) hi fun hc =>
        Vec3.near_of_distanceSquared_lt hc hs (Scalar.le_of_lt hpos) hlt
      have := hall i hmem
      rw [← Array.getElem?_toList, hi, Option.all_some, Bool.not_eq_true', decide_eq_false_iff_not] at this
      exact this hlt
    · intro hall i _
      rw [← Array.getElem?_toList]
      cases hi : places.toList[i]? with
      | none => rfl
      | some p =>
        rw [Option.all_some, Bool.not_eq_true', decide_eq_false_iff_not]
        exact hall p (List.mem_of_getElem? hi) hpos
  · rw [decide_eq_false hpos]
    exact iff_of_true rfl fun p _ h => absurd h hpos

/-- What a run does that goes on from one search to another: the grid holds what is accepted, and that is what the
greedy search accepts, up to the count. -/
structure Follows (places : List Vec3) (spacing : Scalar) (count : Nat) (samples : List Vec3) (s t : PlacementSearch) :
    Prop where
  files : t.grid.Files t.accepted.toList
  accepted_eq : t.accepted.toList = (samples.foldl (consider places spacing) s.accepted.toList).take count

variable {t u : PlacementSearch}

lemma Follows.size_le (h : Follows places spacing count samples s t) : t.accepted.size ≤ count := by
  rw [← Array.length_toList, h.accepted_eq, List.length_take]
  exact min_le_left _ _

lemma Follows.refl (h : s.grid.Files s.accepted.toList) (hsize : s.accepted.size ≤ count) :
    Follows places spacing count [] s s :=
  ⟨h, (List.take_of_length_le hsize).symm⟩

lemma Follows.trans (hst : Follows places spacing count samples s t) (htu : Follows places spacing count more t u) :
    Follows places spacing count (samples ++ more) s u := by
  refine ⟨htu.files, ?_⟩
  rw [htu.accepted_eq, hst.accepted_eq, take_foldl_take, List.foldl_append]

lemma Follows.full (h : s.grid.Files s.accepted.toList) (hsize : s.accepted.size = count) :
    Follows places spacing count samples s s := by
  have hlength : s.accepted.toList.length = count := hsize
  exact ⟨h, by rw [take_foldl samples hlength.ge, List.take_of_length_le hlength.le]⟩

lemma Follows.accept (h : s.grid.Files s.accepted.toList) (hsize : s.accepted.size < count)
    (hclear : ∀ p ∈ places ++ s.accepted.toList, Clear spacing sample p) :
    Follows places spacing count [sample] s (s.accept sample) := by
  have haccepted : (s.accept sample).accepted.toList = s.accepted.toList ++ [sample] := Array.toList_push
  refine ⟨haccepted ▸ h.insert sample, ?_⟩
  rw [haccepted, List.foldl_cons, List.foldl_nil, consider, if_pos hclear, List.take_of_length_le]
  simpa using hsize

lemma Follows.reject (h : s.grid.Files s.accepted.toList) (hsize : s.accepted.size < count)
    (hclear : ¬∀ p ∈ places ++ s.accepted.toList, Clear spacing sample p) :
    Follows places spacing count [sample] s s := by
  refine ⟨h, ?_⟩
  rw [List.foldl_cons, List.foldl_nil, consider, if_neg hclear, List.take_of_length_le]
  exact hsize.le

lemma follows_visit (hclear : ∀ sample, clear sample = true ↔ ∀ p ∈ places, Clear spacing sample p)
    (hs : spacing.isFinite = true) (h : s.grid.Files s.accepted.toList) (hsize : s.accepted.size ≤ count) :
    Follows places spacing count samples s (visit clear spacing count samples s) := by
  induction samples generalizing s with
  | nil => exact .refl h hsize
  | cons sample samples ih =>
    have hboth : (clear sample && isClear s.grid s.accepted spacing sample) = true ↔
        ∀ p ∈ places ++ s.accepted.toList, Clear spacing sample p := by
      rw [Bool.and_eq_true, hclear, isClear_iff h hs, List.forall_mem_append]
    rw [visit]
    split_ifs with hfull haccept
    · exact .full h (le_antisymm hsize hfull)
    · have hfirst := Follows.accept h (not_le.mp hfull) (hboth.mp haccept)
      exact hfirst.trans (ih hfirst.files hfirst.size_le)
    · exact (Follows.reject h (not_le.mp hfull) (mt hboth.mpr haccept)).trans (ih h hsize)

lemma follows_visitRings {visitRing : Nat → PlacementSearch → PlacementSearch} {ring : Nat → List Vec3} {rings k : Nat}
    (hring : ∀ k s, s.grid.Files s.accepted.toList → s.accepted.size ≤ count →
      Follows places spacing count (ring k) s (visitRing k s))
    (h : s.grid.Files s.accepted.toList) (hsize : s.accepted.size ≤ count) :
    Follows places spacing count ((List.range' k rings).flatMap ring) s (visitRings visitRing count rings k s) := by
  induction rings generalizing k s with
  | zero => exact .refl h hsize
  | succ rings ih =>
    rw [visitRings]
    split_ifs with hfull
    · exact .full h (le_antisymm hsize hfull)
    · have hfirst := hring k s h hsize
      rw [List.range'_succ, List.flatMap_cons]
      exact hfirst.trans (ih hfirst.files hfirst.size_le)

end PlacementSearch

namespace World

variable {w : World} {near : Vec3} {desired reach : Scalar}

lemma isFinite_spacing (h : desired.isFinite = true) : (Scalar.max desired 0).isFinite = true :=
  (max_cases h isFinite_zero).1

theorem placementsWithin_eq_greedy (hnear : near.isFinite = true) (hdesired : desired.isFinite = true) :
    w.placementsWithin cellSize near desired count reach = (greedy w.positions (Scalar.max desired 0)
      (Rings.samples near (Rings.step desired) (Rings.within reach (Rings.step desired)))).take count := by
  unfold placementsWithin
  by_cases hcount : count = 0
  · rw [if_pos (by simp [hcount]), hcount, List.take_zero]
  · rw [if_neg (by simp [hcount, hnear, hdesired])]
    have hs := isFinite_spacing hdesired
    have hclear : ∀ sample,
        PlacementSearch.isClear (w.grid cellSize) w.positions.toArray (Scalar.max desired 0) sample = true ↔
          ∀ p ∈ w.positions, Clear (Scalar.max desired 0) sample p :=
      fun sample => PlacementSearch.isClear_iff (Grid.files_ofPlaces w.positions cellSize) hs
    rw [greedy, Rings.samples, List.range_eq_range']
    refine PlacementSearch.Follows.accepted_eq (s := ⟨#[], .ofCellSize (Scalar.max desired 0)⟩) ?_
    refine PlacementSearch.follows_visitRings (fun k s h hsize => ?_) (Grid.files_ofCellSize _) (Nat.zero_le _)
    exact PlacementSearch.follows_visit hclear hs h hsize

lemma placementsWithin_eq_nil (h : near.isFinite = false ∨ desired.isFinite = false) :
    w.placementsWithin cellSize near desired count reach = [] := by
  unfold placementsWithin
  rw [if_pos (by rcases h with h | h <;> simp [h])]

lemma finite_or (near : Vec3) (desired : Scalar) : (near.isFinite = true ∧ desired.isFinite = true) ∨
    near.isFinite = false ∨ desired.isFinite = false := by
  cases near.isFinite <;> cases desired.isFinite <;> simp

lemma apart_placementsWithin (w : World) (cellSize : Scalar) (near : Vec3) (desired : Scalar) (count : Nat)
    (reach : Scalar) :
    Apart w.positions (Scalar.max desired 0) (w.placementsWithin cellSize near desired count reach) := by
  rcases finite_or near desired with ⟨hnear, hdesired⟩ | h
  · rw [placementsWithin_eq_greedy hnear hdesired]
    exact (apart_greedy _ _ _).sublist (List.take_sublist _ _)
  · rw [placementsWithin_eq_nil h]
    exact ⟨fun p hp => (List.not_mem_nil hp).elim, .nil⟩

lemma placementsWithin_congr (w : World) (cellSize other : Scalar) (near : Vec3) (desired : Scalar) (count : Nat)
    (reach : Scalar) : w.placementsWithin cellSize near desired count reach =
      w.placementsWithin other near desired count reach := by
  rcases finite_or near desired with ⟨hnear, hdesired⟩ | h
  · rw [placementsWithin_eq_greedy hnear hdesired, placementsWithin_eq_greedy hnear hdesired]
  · rw [placementsWithin_eq_nil h, placementsWithin_eq_nil h]

lemma placementsWithin_isPrefix {m n : Nat} {farther : Scalar} (hcount : m ≤ n) (h0 : 0 ≤ reach) (h : reach ≤ farther) :
    w.placementsWithin cellSize near desired m reach <+: w.placementsWithin cellSize near desired n farther := by
  rcases finite_or near desired with ⟨hnear, hdesired⟩ | h
  · rw [placementsWithin_eq_greedy hnear hdesired, placementsWithin_eq_greedy hnear hdesired]
    have hrings := Rings.within_mono h0 h (Rings.step_pos hdesired)
    exact ((greedy_isPrefix (Rings.samples_isPrefix hrings)).take m).trans (List.take_prefix_take_left hcount)
  · rw [placementsWithin_eq_nil h, placementsWithin_eq_nil h]

lemma placements_isPrefix {m n : Nat} (hcount : m ≤ n) :
    w.placements cellSize near desired m <+: w.placements cellSize near desired n := by
  rcases finite_or near desired with ⟨-, hdesired⟩ | h
  · obtain ⟨h0, hreach⟩ := w.placementReach_mono near hdesired hcount
    exact placementsWithin_isPrefix hcount h0 hreach
  · unfold placements
    rw [placementsWithin_eq_nil h, placementsWithin_eq_nil h]

/-- That a search can count the cells around each sample that it looks at, in the grid of the entities and, if no entity
is too close, in the one of the accepted samples. -/
def SearchSpans (w : World) (cellSize : Scalar) (near : Vec3) (desired : Scalar) (count : Nat) (reach : Scalar) :
    Prop :=
  let spacing := Scalar.max desired 0
  let samples := Rings.samples near (Rings.step desired) (Rings.within reach (Rings.step desired))
  desired.isFinite = true → 0 < spacing → ∀ i (_ : i < samples.length), samples[i].isFinite = true →
    (greedy w.positions spacing (samples.take i)).length < count → (w.grid cellSize).Spans samples[i] spacing ∧
      ((∀ p ∈ w.positions, Clear spacing samples[i] p) → (Grid.ofCellSize spacing).Spans samples[i] spacing)

instance (w : World) (cellSize : Scalar) (near : Vec3) (desired : Scalar) (count : Nat) (reach : Scalar) :
    Decidable (w.SearchSpans cellSize near desired count reach) :=
  inferInstanceAs (Decidable (_ → _ → ∀ i (_ : i < _), _ → _ → _ ∧ (_ → _)))

/-- As long as it can count the cells that it meets, a search finds the first samples that the greedy search accepts. So
its spots keep the spacing from all entities and from each other, the cell size does not matter, and a search for fewer
spots or with a smaller reach finds the first of them. -/
theorem placements_greedy (w : World) (near : Vec3) (desired : Scalar) :
    (near.isFinite = false ∨ desired.isFinite = false →
      ∀ cellSize count reach, w.placementsWithin cellSize near desired count reach = []) ∧
    (near.isFinite = true → desired.isFinite = true → ∀ cellSize count reach,
      w.SearchSpans cellSize near desired count reach →
      w.placementsWithin cellSize near desired count reach = (greedy w.positions (Scalar.max desired 0)
        (Rings.samples near (Rings.step desired) (Rings.within reach (Rings.step desired)))).take count) ∧
    (∀ cellSize count reach, w.SearchSpans cellSize near desired count reach →
      (∀ p ∈ w.placementsWithin cellSize near desired count reach, ∀ q ∈ w.positions,
        Clear (Scalar.max desired 0) p q) ∧
      (w.placementsWithin cellSize near desired count reach).Pairwise fun p q =>
        Clear (Scalar.max desired 0) p q ∧ Clear (Scalar.max desired 0) q p) ∧
    (∀ cellSize other count reach, w.SearchSpans cellSize near desired count reach →
      w.SearchSpans other near desired count reach →
      w.placementsWithin cellSize near desired count reach = w.placementsWithin other near desired count reach) ∧
    (∀ cellSize m n reach farther, m ≤ n → 0 ≤ reach → reach ≤ farther →
      w.SearchSpans cellSize near desired n farther →
      w.placementsWithin cellSize near desired m reach <+: w.placementsWithin cellSize near desired n farther) ∧
    (∀ cellSize m n, m ≤ n → w.SearchSpans cellSize near desired n (w.placementReach near desired n) →
      w.placements cellSize near desired m <+: w.placements cellSize near desired n) := by
  refine ⟨fun h _ _ _ => placementsWithin_eq_nil h,
    fun hnear hdesired _ _ _ _ => placementsWithin_eq_greedy hnear hdesired, fun cellSize count reach _ => ?_,
    fun cellSize other count reach _ _ => w.placementsWithin_congr cellSize other near desired count reach,
    fun _ _ _ _ _ hcount h0 hreach _ => placementsWithin_isPrefix hcount h0 hreach,
    fun _ _ _ hcount _ => placements_isPrefix hcount⟩
  have h := w.apart_placementsWithin cellSize near desired count reach
  exact ⟨h.from_places, h.pairwise⟩

def bollard : World where
  metadata := { title := "t" }
  entities := [{ id := "a", name := "A", transform := { position := ⟨15.5, 0, 0⟩ } }]

theorem placements_greedy_bollard : bollard.placementsWithin 16 ⟨17, 0, 0⟩ 2 1 0 = [] ∧
    bollard.placementsWithin 16 ⟨18, 0, 0⟩ 2 1 0 = [⟨18, 0, 0⟩] ∧
    bollard.placementsWithin 16 ⟨18, 0, 0⟩ 2 1 0 = bollard.placementsWithin 64 ⟨18, 0, 0⟩ 2 1 0 ∧
    bollard.placementsWithin 16 ⟨18, 0, 0⟩ 2 1 0 <+: bollard.placementsWithin 16 ⟨18, 0, 0⟩ 2 3 1 ∧
    bollard.placements 16 ⟨18, 0, 0⟩ 0 1 <+: bollard.placements 16 ⟨18, 0, 0⟩ 0 3 ∧
    bollard.placementsWithin 16 ⟨18, 0, 0⟩ (1 / 0) 1 8 = [] := by
  obtain ⟨-, hgreedy, -, hsize, hreach, -⟩ := placements_greedy bollard ⟨18, 0, 0⟩ 2
  have hblocked := (placements_greedy bollard ⟨17, 0, 0⟩ 2).2.1 (by decide +kernel) (by decide +kernel) 16 1 0
    (by decide +kernel)
  -- Without spacing no cells are counted.
  have hcount := (placements_greedy bollard ⟨18, 0, 0⟩ 0).2.2.2.2.2 16 1 3 (by decide) fun _ hpos =>
    absurd hpos (by decide +kernel)
  refine ⟨?_, ?_, hsize 16 64 1 0 (by decide +kernel) (by decide +kernel),
    hreach 16 1 3 0 1 (by decide) (by decide +kernel) (by decide +kernel) (by decide +kernel), hcount,
    (placements_greedy bollard ⟨18, 0, 0⟩ (1 / 0)).1 (.inr (by decide +kernel)) 16 1 8⟩
  · rw [hblocked]
    decide +kernel
  · rw [hgreedy (by decide +kernel) (by decide +kernel) 16 1 0 (by decide +kernel)]
    decide +kernel

end World

end Diorama
