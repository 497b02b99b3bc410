import Diorama.Proofs.Scalar.Floor
import Diorama.Proofs.Spatial.Distance
import Diorama.Spatial.Grid

/-! What a grid finds around a point: the places whose cell lies in the rectangle of cells that the square around the
point meets, each once and in order. Rounding keeps the order of numbers, and so no place of the square is lost. -/

namespace Diorama

open Scalar

namespace Cell

variable {c low high : Cell}

lemma within_iff : c.within low high = true ↔ low.x ≤ c.x ∧ c.x ≤ high.x ∧ low.z ≤ c.z ∧ c.z ≤ high.z := by
  simp only [within, Bool.and_eq_true, decide_eq_true_eq, and_assoc]

lemma mem_rectangle_iff : c ∈ rectangle low high ↔ c.within low high = true := by
  simp only [rectangle, List.mem_flatMap, List.mem_map, List.mem_range, within_iff]
  constructor
  · rintro ⟨column, hcolumn, row, hrow, rfl⟩
    dsimp only
    omega
  · intro h
    refine ⟨(c.x - low.x).toNat, by omega, (c.z - low.z).toNat, by omega, ?_⟩
    rw [Int.toNat_of_nonneg (by omega), Int.toNat_of_nonneg (by omega), add_sub_cancel, add_sub_cancel]

lemma nodup_rectangle (low high : Cell) : (rectangle low high).Nodup := by
  refine List.nodup_flatMap.mpr ⟨fun column _ => ?_, List.nodup_range.imp fun {i j} (hij : i ≠ j) => ?_⟩
  · refine List.nodup_range.map fun i j (h : Cell.mk _ _ = Cell.mk _ _) => ?_
    simpa using h
  · refine List.disjoint_left.mpr fun c hi hj => hij ?_
    obtain ⟨row, -, rfl⟩ := List.mem_map.mp hi
    obtain ⟨row', -, h⟩ := List.mem_map.mp hj
    simp only [mk.injEq, add_right_inj, Nat.cast_inj] at h
    exact h.1.symm

def area (low high : Cell) : Int := (high.x - low.x + 1) * (high.z - low.z + 1)

lemma span_eq (low high : Cell) : span low high = .ofInt (area low high) := by
  simp only [span, area, Int64.ofInt_mul, Int64.ofInt_add, Int64.ofInt_sub]
  rfl

lemma toInt_span (hc : c.within low high = true) (h : area low high ≤ Int64.maxValue.toInt) :
    (span low high).toInt = area low high := by
  obtain ⟨hx, hx', hz, hz'⟩ := within_iff.mp hc
  have hnonneg : 0 ≤ area low high := mul_nonneg (by omega) (by omega)
  rw [Int64.toInt_maxValue] at h
  rw [span_eq, Int64.toInt_ofInt_of_le (by omega) (by omega)]

end Cell

namespace Grid

variable {g : Grid} {places more : List Vec3} {center p : Vec3} {radius cellSize a b : Scalar} {i : Nat} {c : Cell}

lemma cellSize_ofCellSize (cellSize : Scalar) :
    (ofCellSize cellSize).cellSize.isFinite = true ∧ 0 < (ofCellSize cellSize).cellSize := by
  unfold ofCellSize
  dsimp only
  split_ifs with h
  · simpa using h
  · decide +kernel

/-! Filing places. -/

def extend (g : Grid) (places : List Vec3) : Grid := places.foldl (fun g p => g.insert g.size p) g

lemma extend_cons (g : Grid) (p : Vec3) (places : List Vec3) :
    g.extend (p :: places) = (g.insert g.size p).extend places := rfl

lemma extend_append (g : Grid) (places more : List Vec3) : g.extend (places ++ more) = (g.extend places).extend more :=
  List.foldl_append

lemma size_insert (g : Grid) (p : Vec3) : (g.insert g.size p).size = g.size + 1 := Nat.max_eq_right (Nat.le_succ _)

lemma foldl_file_eq_extend (g : Grid) (places : List Vec3) :
    (places.zipIdx g.size).foldl (fun g filed => g.file filed.2 filed.1) { g with size := g.size + places.length } =
      g.extend places := by
  induction places generalizing g with
  | nil => rfl
  | cons p places ih =>
    have hsize : g.size + (p :: places).length = (g.insert g.size p).size + places.length := by
      rw [size_insert, List.length_cons, Nat.add_assoc, Nat.add_comm 1]
    have hfiled : Grid.file { g with size := g.size + (p :: places).length } g.size p =
        { g.insert g.size p with size := (g.insert g.size p).size + places.length } := by
      rw [hsize]
      rfl
    rw [List.zipIdx_cons, List.foldl_cons, hfiled, extend_cons, ← ih, size_insert]

lemma ofPlaces_eq_extend (places : List Vec3) (cellSize : Scalar) :
    ofPlaces places cellSize = (ofCellSize cellSize).extend places := by
  have hsize : (ofCellSize cellSize).size + places.length = places.length := Nat.zero_add _
  rw [← foldl_file_eq_extend, hsize]
  rfl

lemma ofPlaces_append (places more : List Vec3) (cellSize : Scalar) :
    ofPlaces (places ++ more) cellSize = (ofPlaces places cellSize).extend more := by
  rw [ofPlaces_eq_extend, ofPlaces_eq_extend, extend_append]

lemma indicesIn_insert (g : Grid) (i : Nat) (p : Vec3) (c : Cell) :
    (g.insert i p).indicesIn c = if g.cell p = c then g.indicesIn c ++ [i] else g.indicesIn c := by
  unfold indicesIn insert file
  dsimp only
  rw [Std.HashMap.getD_alter]
  by_cases h : g.cell p = c
  · rw [if_pos (beq_iff_eq.mpr h), if_pos h, h, Option.getD_some, Array.toList_push, Std.HashMap.getD_eq_getD_getElem?]
  · rw [if_neg (mt beq_iff_eq.mp h), if_neg h]

structure Files (g : Grid) (places : List Vec3) : Prop where
  isFinite_cellSize : g.cellSize.isFinite = true
  cellSize_pos : 0 < g.cellSize
  size_eq : g.size = places.length
  nodup_indicesIn : ∀ c, (g.indicesIn c).Nodup
  mem_indicesIn_iff : ∀ {c i}, i ∈ g.indicesIn c ↔ ∃ p, places[i]? = some p ∧ g.cell p = c

lemma files_ofCellSize (cellSize : Scalar) : (ofCellSize cellSize).Files [] := by
  have hempty : ∀ c, (ofCellSize cellSize).indicesIn c = [] := fun c => by simp [indicesIn, ofCellSize]
  refine ⟨(cellSize_ofCellSize cellSize).1, (cellSize_ofCellSize cellSize).2, rfl, fun c => ?_, fun {c i} => ?_⟩
  · rw [hempty]
    exact List.nodup_nil
  · rw [hempty]
    simp

lemma Files.insert (h : g.Files places) (p : Vec3) : (g.insert places.length p).Files (places ++ [p]) := by
  have hfresh : ∀ c, places.length ∉ g.indicesIn c := by
    intro c hc
    obtain ⟨q, hq, -⟩ := h.mem_indicesIn_iff.mp hc
    exact absurd (List.getElem?_eq_some_iff.mp hq).1 (lt_irrefl _)
  refine ⟨h.isFinite_cellSize, h.cellSize_pos, ?_, fun c => ?_, fun {c i} => ?_⟩
  · rw [← h.size_eq, size_insert, h.size_eq, List.length_append, List.length_singleton]
  · rw [indicesIn_insert]
    split_ifs
    · refine List.nodup_append.mpr ⟨h.nodup_indicesIn c, List.nodup_singleton _, fun i hi j hj hij => ?_⟩
      rw [List.mem_singleton] at hj
      exact hfresh c (hj ▸ hij ▸ hi)
    · exact h.nodup_indicesIn c
  · have hcell : ∀ q, (g.insert places.length p).cell q = g.cell q := fun _ => rfl
    have hold : (∃ q, (places ++ [p])[i]? = some q ∧ g.cell q = c) ↔
        i ∈ g.indicesIn c ∨ i = places.length ∧ g.cell p = c := by
      rw [h.mem_indicesIn_iff]
      rcases lt_trichotomy i places.length with hi | rfl | hi
      · simp [List.getElem?_append_left hi, hi.ne]
      · simp
      · simp [List.getElem?_eq_none (l := places ++ [p]) (by simpa using hi), hi.ne', hi.le]
    rw [indicesIn_insert]
    simp only [hcell, hold]
    split_ifs with hp
    · simp [hp]
    · simp [hp]

lemma Files.extend (h : g.Files places) (more : List Vec3) : (g.extend more).Files (places ++ more) := by
  induction more generalizing g places with
  | nil => simpa [Grid.extend] using h
  | cons p more ih =>
    rw [extend_cons, h.size_eq, List.append_cons]
    exact ih (h.insert p)

theorem files_ofPlaces (places : List Vec3) (cellSize : Scalar) : (ofPlaces places cellSize).Files places := by
  rw [ofPlaces_eq_extend]
  exact (files_ofCellSize cellSize).extend places

/-! Cells of places, in order. -/

lemma Files.coordinate_mono (h : g.Files places) (hab : a ≤ b) : g.coordinate a ≤ g.coordinate b :=
  clamp_floor_mono (by decide) (by decide) (by decide) (div_le_div h.isFinite_cellSize h.cellSize_pos hab)

lemma sub_le_of_abs_le {x r q : Scalar} (hx : x.isFinite = true) (hr : r.isFinite = true) (hq : q.isFinite = true)
    (h : |value x - value q| ≤ value r) : x - r ≤ q ∧ q ≤ x + r := by
  obtain ⟨hlow, hhigh⟩ := abs_le.mp h
  exact ⟨(makes_sub hx hr).le (makes_self hq) (by linarith), (makes_self hq).le (makes_add hx hr) (by linarith)⟩

lemma Files.within_of_near (h : g.Files places) (hc : center.isFinite = true) (hr : radius.isFinite = true)
    (hp : center.Near radius p) :
    (g.cell p).within (g.cell (center - .splat radius)) (g.cell (center + .splat radius)) = true := by
  obtain ⟨hx, -, hz⟩ := Vec3.isFinite_iff.mp hc
  obtain ⟨⟨hpx, hdx⟩, hpz, hdz⟩ := hp
  obtain ⟨hx1, hx2⟩ := sub_le_of_abs_le hx hr hpx hdx
  obtain ⟨hz1, hz2⟩ := sub_le_of_abs_le hz hr hpz hdz
  exact Cell.within_iff.mpr ⟨h.coordinate_mono hx1, h.coordinate_mono hx2, h.coordinate_mono hz1, h.coordinate_mono hz2⟩

lemma Files.within_self (h : g.Files places) (hc : center.isFinite = true) (hr : radius.isFinite = true)
    (h0 : 0 ≤ radius) :
    (g.cell center).within (g.cell (center - .splat radius)) (g.cell (center + .splat radius)) = true := by
  obtain ⟨hx, -, hz⟩ := Vec3.isFinite_iff.mp hc
  have hself : ∀ a : Scalar, |value a - value a| ≤ value radius := by
    intro a
    rw [sub_self, abs_zero]
    exact value_nonneg hr h0
  exact h.within_of_near hc hr ⟨⟨hx, hself _⟩, hz, hself _⟩

/-- That the cells which the square around a point meets can be counted in 64 bits. -/
def Spans (g : Grid) (center : Vec3) (radius : Scalar) : Prop :=
  Cell.area (g.cell (center - .splat radius)) (g.cell (center + .splat radius)) ≤ Int64.maxValue.toInt

instance (g : Grid) (center : Vec3) (radius : Scalar) : Decidable (g.Spans center radius) :=
  inferInstanceAs (Decidable (_ ≤ _))

/-! The two ways through the cells of a rectangle. -/

lemma toList_getD (g : Grid) (c : Cell) : g.indicesIn c = (g.cells[c]?.getD #[]).toList := by
  rw [indicesIn, Std.HashMap.getD_eq_getD_getElem?]

lemma indicesIn_of_mem {indices : Array Nat} (h : (c, indices) ∈ g.cells.toList) : g.indicesIn c = indices.toList := by
  rw [toList_getD, Std.HashMap.mem_toList_iff_getElem?_eq_some.mp h, Option.getD_some]

def scanned (g : Grid) (low high : Cell) : List Nat :=
  g.cells.toList.flatMap fun (c, indices) => if c.within low high then indices.toList else []

def enumerated (g : Grid) (low high : Cell) : List Nat := (Cell.rectangle low high).flatMap g.indicesIn

variable {low high : Cell}

lemma mem_scanned_iff : i ∈ g.scanned low high ↔ ∃ c, c.within low high = true ∧ i ∈ g.indicesIn c := by
  simp only [scanned, List.mem_flatMap, Prod.exists]
  constructor
  · rintro ⟨c, indices, hmem, hi⟩
    split_ifs at hi with hc
    · exact ⟨c, hc, indicesIn_of_mem hmem ▸ hi⟩
    · cases hi
  · rintro ⟨c, hc, hi⟩
    cases hfound : g.cells[c]? with
    | none =>
      rw [toList_getD, hfound] at hi
      cases hi
    | some indices =>
      have hmem := Std.HashMap.mem_toList_iff_getElem?_eq_some.mpr hfound
      refine ⟨c, indices, hmem, ?_⟩
      rw [if_pos hc, ← indicesIn_of_mem hmem]
      exact hi

lemma mem_enumerated_iff : i ∈ g.enumerated low high ↔ ∃ c, c.within low high = true ∧ i ∈ g.indicesIn c := by
  simp only [enumerated, List.mem_flatMap, Cell.mem_rectangle_iff]

lemma Files.disjoint (h : g.Files places) {c d : Cell} (hcd : c ≠ d) : (g.indicesIn c).Disjoint (g.indicesIn d) := by
  refine List.disjoint_left.mpr fun i hc hd => hcd ?_
  obtain ⟨p, hp, rfl⟩ := h.mem_indicesIn_iff.mp hc
  obtain ⟨q, hq, rfl⟩ := h.mem_indicesIn_iff.mp hd
  rw [hp, Option.some.injEq] at hq
  rw [hq]

lemma Files.nodup_scanned (h : g.Files places) : (g.scanned low high).Nodup := by
  refine List.nodup_flatMap.mpr ⟨fun (c, indices) hmem => ?_, ?_⟩
  · dsimp only
    split_ifs
    · exact indicesIn_of_mem hmem ▸ h.nodup_indicesIn c
    · exact List.nodup_nil
  · refine Std.HashMap.distinct_keys_toList.imp_of_mem fun {x y} hx hy hxy => ?_
    have hdisjoint := h.disjoint (ne_of_beq_false hxy)
    rw [indicesIn_of_mem hx, indicesIn_of_mem hy] at hdisjoint
    refine List.disjoint_left.mpr fun i hi hj => ?_
    dsimp only at hi hj
    split_ifs at hi hj
    · exact hdisjoint hi hj
    all_goals simp at hi hj

lemma Files.nodup_enumerated (h : g.Files places) : (g.enumerated low high).Nodup :=
  List.nodup_flatMap.mpr ⟨fun c _ => h.nodup_indicesIn c, (Cell.nodup_rectangle low high).imp fun hcd => h.disjoint hcd⟩

/-! The indices around a point. -/

def filedWithin (g : Grid) (places : List Vec3) (low high : Cell) (i : Nat) : Bool :=
  places[i]?.any fun p => (g.cell p).within low high

lemma filedWithin_iff :
    g.filedWithin places low high i = true ↔ ∃ p, places[i]? = some p ∧ (g.cell p).within low high = true := by
  rw [filedWithin, Option.any_eq_true]

lemma Files.mem_cells_iff (h : g.Files places) : (∃ c, c.within low high = true ∧ i ∈ g.indicesIn c) ↔
    i ∈ (List.range places.length).filter (g.filedWithin places low high) := by
  simp only [List.mem_filter, List.mem_range, filedWithin_iff, h.mem_indicesIn_iff]
  constructor
  · rintro ⟨c, hc, p, hp, rfl⟩
    exact ⟨(List.getElem?_eq_some_iff.mp hp).1, p, hp, hc⟩
  · rintro ⟨-, p, hp, hc⟩
    exact ⟨_, hc, p, hp, rfl⟩

lemma mergeSort_eq_filter_range {found : List Nat} {n : Nat} {f : Nat → Bool} (hnodup : found.Nodup)
    (hmem : ∀ i, i ∈ found ↔ i ∈ (List.range n).filter f) : found.mergeSort (· ≤ ·) = (List.range n).filter f := by
  have hperm : (found.mergeSort (· ≤ ·)).Perm ((List.range n).filter f) :=
    (List.mergeSort_perm _ _).trans ((List.perm_ext_iff_of_nodup hnodup (List.nodup_range.filter _)).mpr hmem)
  have hsorted : (found.mergeSort (· ≤ ·)).Pairwise fun i j => decide (i ≤ j) = true :=
    List.pairwise_mergeSort (fun i j k hij hjk => by simp at *; omega) (fun i j => by simp; omega) found
  refine hperm.eq_of_pairwise (fun i j _ _ hij hji => ?_) hsorted
    ((List.pairwise_le_range.filter _).imp fun h => decide_eq_true h)
  exact le_antisymm (of_decide_eq_true hij) (of_decide_eq_true hji)

lemma Files.sort_scanned (h : g.Files places) : (g.scanned low high).mergeSort (· ≤ ·) =
    (List.range places.length).filter (g.filedWithin places low high) :=
  mergeSort_eq_filter_range h.nodup_scanned fun _ => mem_scanned_iff.trans h.mem_cells_iff

lemma Files.sort_enumerated (h : g.Files places) : (g.enumerated low high).mergeSort (· ≤ ·) =
    (List.range places.length).filter (g.filedWithin places low high) :=
  mergeSort_eq_filter_range h.nodup_enumerated fun _ => mem_enumerated_iff.trans h.mem_cells_iff

theorem Files.candidatesNear_eq (h : g.Files places) (hc : center.isFinite = true) (hr : radius.isFinite = true)
    (h0 : 0 ≤ radius) : g.candidatesNear center radius = (List.range places.length).filter
      (g.filedWithin places (g.cell (center - .splat radius)) (g.cell (center + .splat radius))) := by
  have hpos : ¬radius < 0 := (le_iff_not_lt.mp h0).2.2
  unfold candidatesNear
  rw [if_neg (by simp [hc, hr]), if_neg hpos]
  dsimp only
  split_ifs
  · exact h.sort_scanned
  · exact h.sort_enumerated

theorem Files.candidatesNear_eq_range (h : g.Files places) (hc : center.isFinite = false ∨ radius.isFinite = false) :
    g.candidatesNear center radius = List.range places.length := by
  unfold candidatesNear
  rw [if_pos (by rcases hc with hc | hc <;> simp [hc]), h.size_eq]

lemma Files.mem_candidatesNear_iff (h : g.Files places) (hc : center.isFinite = true) (hr : radius.isFinite = true)
    (h0 : 0 ≤ radius) : i ∈ g.candidatesNear center radius ↔ ∃ p, places[i]? = some p ∧
      (g.cell p).within (g.cell (center - .splat radius)) (g.cell (center + .splat radius)) = true := by
  rw [h.candidatesNear_eq hc hr h0, List.mem_filter, filedWithin_iff, List.mem_range]
  exact and_iff_right_of_imp fun ⟨p, hp, _⟩ => (List.getElem?_eq_some_iff.mp hp).1

lemma Files.mem_candidatesNear_of_near (h : g.Files places) (hr : radius.isFinite = true) (h0 : 0 ≤ radius)
    (hi : places[i]? = some p) (hp : center.isFinite = true → center.Near radius p) :
    i ∈ g.candidatesNear center radius := by
  cases hc : center.isFinite with
  | false =>
    rw [h.candidatesNear_eq_range (.inl hc)]
    exact List.mem_range.mpr (List.getElem?_eq_some_iff.mp hi).1
  | true =>
    exact (h.mem_candidatesNear_iff hc hr h0).mpr ⟨p, hi, h.within_of_near hc hr (hp hc)⟩

/-- A grid that is built of a list of places and then gets more of them, each under the next index, is the grid of all,
and the two ways through the cells of a rectangle agree. Around a region that is not finite it finds every index. Around
a finite one whose cells can be counted it finds the indices of the places whose cell lies in the rectangle, in
increasing order, and the places of the square are among them. -/
theorem candidatesNear_extend (places more : List Vec3) (cellSize : Scalar) (center : Vec3) (radius : Scalar) :
    let g := (ofPlaces places cellSize).extend more
    let low := g.cell (center - .splat radius)
    let high := g.cell (center + .splat radius)
    g = ofPlaces (places ++ more) cellSize ∧
      (∀ low high, (g.scanned low high).mergeSort (· ≤ ·) = (g.enumerated low high).mergeSort (· ≤ ·)) ∧
      (center.isFinite = false ∨ radius.isFinite = false →
        g.candidatesNear center radius = List.range (places ++ more).length) ∧
      (center.isFinite = true → radius.isFinite = true → 0 ≤ radius → g.Spans center radius →
        (Cell.span low high).toInt = Cell.area low high ∧
        (g.candidatesNear center radius).Pairwise (· < ·) ∧
        (∀ i, i ∈ g.candidatesNear center radius ↔
          ∃ p, (places ++ more)[i]? = some p ∧ (g.cell p).within low high = true) ∧
        ∀ i p, (places ++ more)[i]? = some p → center.Near radius p → i ∈ g.candidatesNear center radius) := by
  intro g low high
  have h : g.Files (places ++ more) := (files_ofPlaces places cellSize).extend more
  refine ⟨(ofPlaces_append places more cellSize).symm, fun low high => h.sort_scanned.trans h.sort_enumerated.symm,
    h.candidatesNear_eq_range, fun hc hr h0 hspans => ⟨?_, ?_, fun i => ?_, ?_⟩⟩
  · exact Cell.toInt_span (h.within_self hc hr h0) hspans
  · rw [h.candidatesNear_eq hc hr h0]
    exact List.pairwise_lt_range.filter _
  · exact h.mem_candidatesNear_iff hc hr h0
  · exact fun i p hi hp => h.mem_candidatesNear_of_near hr h0 hi fun _ => hp

theorem candidatesNear_extend_corner :
    1 ∈ ((ofPlaces [.zero] 16).extend [⟨32, 0, -5⟩]).candidatesNear ⟨27, 0, 0⟩ 5 ∧
      ((ofPlaces [.zero] 16).extend [⟨32, 0, -5⟩]).candidatesNear ⟨27, 0, 0⟩ (1 / 0) = [0, 1] := by
  refine ⟨?_, (candidatesNear_extend [.zero] [⟨32, 0, -5⟩] 16 ⟨27, 0, 0⟩ (1 / 0)).2.2.1 (.inr (by decide +kernel))⟩
  refine (candidatesNear_extend [.zero] [⟨32, 0, -5⟩] 16 ⟨27, 0, 0⟩ 5).2.2.2 (by decide +kernel) (by decide +kernel)
    (by decide +kernel) (by decide +kernel) |>.2.2.2 1 ⟨32, 0, -5⟩ rfl ⟨⟨by decide +kernel, ?_⟩, by decide +kernel, ?_⟩
  · exact abs_le.mpr ⟨by decide +kernel, by decide +kernel⟩
  · exact abs_le.mpr ⟨by decide +kernel, by decide +kernel⟩

end Grid

end Diorama
