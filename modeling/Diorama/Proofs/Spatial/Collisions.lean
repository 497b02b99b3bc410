import Diorama.Proofs.Hierarchy.Entities
import Diorama.Proofs.Spatial.Overlap
import Diorama.Spatial.Collision

/-! Which pairs of entities collide. The sweep along the first axis finds every overlap of two finite boxes and
nothing else, in whatever order the entities stand, and agrees with the search from one entity. -/

namespace Diorama

/-! Sorted lists without repetition. -/

section Repetitions

variable {α : Type} [BEq α] [LawfulBEq α] {a b : α} {l acc : List α} {R S : α → α → Prop}

lemma mem_eraseReps_loop : b ∈ List.eraseRepsBy.loop (· == ·) a l acc ↔ b ∈ acc ∨ b = a ∨ b ∈ l := by
  induction l generalizing a acc with
  | nil => simp [List.eraseRepsBy.loop, or_comm]
  | cons x l ih =>
    simp only [List.eraseRepsBy.loop]
    split
    · rename_i h
      rw [ih, List.mem_cons, eq_of_beq h]
      tauto
    · rw [ih, List.mem_cons, List.mem_cons]
      tauto

lemma mem_eraseReps : b ∈ l.eraseReps ↔ b ∈ l := by
  cases l with
  | nil => rfl
  | cons a l => simp [List.eraseReps, List.eraseRepsBy, mem_eraseReps_loop]

lemma pairwise_eraseReps_loop (hS : ∀ a b, R a b → a ≠ b → S a b) (hRS : ∀ a b c, S a b → R b c → S a c)
    (hl : (a :: l).Pairwise R) (hacc : (a :: acc).Pairwise fun x y => S y x) :
    (List.eraseRepsBy.loop (· == ·) a l acc).Pairwise S := by
  induction l generalizing a acc with
  | nil => exact List.pairwise_reverse.mpr hacc
  | cons x l ih =>
    obtain ⟨ha, hl⟩ := List.pairwise_cons.mp hl
    simp only [List.eraseRepsBy.loop]
    split
    · rename_i h
      obtain rfl := eq_of_beq h
      exact ih hl hacc
    · rename_i h
      have hax : S a x := hS a x (ha x List.mem_cons_self) (by simpa using h)
      refine ih hl (List.pairwise_cons.mpr ⟨fun y hy => ?_, hacc⟩)
      rcases List.mem_cons.mp hy with rfl | hy
      · exact hax
      · exact hRS y a x ((List.pairwise_cons.mp hacc).1 y hy) (ha x List.mem_cons_self)

lemma pairwise_eraseReps (hS : ∀ a b, R a b → a ≠ b → S a b) (hRS : ∀ a b c, S a b → R b c → S a c)
    (hl : l.Pairwise R) : l.eraseReps.Pairwise S := by
  cases l with
  | nil => exact .nil
  | cons a l => exact pairwise_eraseReps_loop hS hRS hl (List.pairwise_singleton _ _)

end Repetitions

namespace CollisionPair

def Before (p q : CollisionPair) : Prop := p.first < q.first ∨ p.first = q.first ∧ p.second < q.second

variable {p q r : CollisionPair}

lemma le_iff : p.le q = true ↔ p.Before q ∨ p = q := by
  obtain ⟨a, b⟩ := p
  obtain ⟨c, d⟩ := q
  simp only [le, Before, Bool.or_eq_true, Bool.and_eq_true, decide_eq_true_eq, beq_iff_eq, mk.injEq, le_iff_lt_or_eq]
  tauto

lemma Before.trans (hpq : p.Before q) (hqr : q.Before r) : p.Before r := by
  unfold Before at *
  rcases hpq with hpq | ⟨hpq, hpq'⟩
  · rcases hqr with hqr | ⟨hqr, -⟩
    · exact Or.inl (hpq.trans hqr)
    · exact Or.inl (hqr ▸ hpq)
  · rcases hqr with hqr | ⟨hqr, hqr'⟩
    · exact Or.inl (hpq ▸ hqr)
    · exact Or.inr ⟨hpq.trans hqr, hpq'.trans hqr'⟩

lemma Before.irrefl : ¬p.Before p := by
  simp [Before]

lemma le_trans (hpq : p.le q = true) (hqr : q.le r = true) : p.le r = true := by
  rw [le_iff] at *
  rcases hpq with hpq | rfl
  · rcases hqr with hqr | rfl
    · exact Or.inl (hpq.trans hqr)
    · exact Or.inl hpq
  · exact hqr

lemma le_total (p q : CollisionPair) : (p.le q || q.le p) = true := by
  rw [Bool.or_eq_true, le_iff, le_iff]
  obtain ⟨a, b⟩ := p
  obtain ⟨c, d⟩ := q
  simp only [Before, mk.injEq]
  rcases lt_trichotomy a c with h | rfl | h
  · exact Or.inl (Or.inl (Or.inl h))
  · rcases lt_trichotomy b d with h | rfl | h
    · exact Or.inl (Or.inl (Or.inr ⟨rfl, h⟩))
    · exact Or.inl (Or.inr ⟨rfl, rfl⟩)
    · exact Or.inr (Or.inl (Or.inr ⟨rfl, h⟩))
  · exact Or.inr (Or.inl (Or.inl h))

lemma of_comm (a b : String) : of a b = of b a := by
  unfold of
  rcases lt_trichotomy a b with h | rfl | h
  · rw [if_pos h.le, if_neg (not_le.mpr h)]
  · rfl
  · rw [if_neg (not_le.mpr h), if_pos h.le]

lemma of_eq_of_iff {a b c d : String} : of a b = of c d ↔ a = c ∧ b = d ∨ a = d ∧ b = c := by
  constructor
  · intro h
    unfold of at h
    split at h <;> split at h <;> simp only [mk.injEq] at h <;> tauto
  · rintro (⟨rfl, rfl⟩ | ⟨rfl, rfl⟩)
    · rfl
    · exact of_comm a b

end CollisionPair

namespace World

open Scalar

variable {w v : World} {p : CollisionPair}

def Makes (p : CollisionPair) (x y : String × Box) : Prop :=
  x.2.isFinite = true ∧ y.2.isFinite = true ∧ x.2.overlaps y.2 = true ∧ p = .of x.1 y.1

lemma Makes.symm {x y : String × Box} (h : Makes p x y) : Makes p y x := by
  obtain ⟨hx, hy, ho, rfl⟩ := h
  exact ⟨hy, hx, Box.overlaps_symm hx hy ho, CollisionPair.of_comm _ _⟩

def Ranked (x y : String × Box) : Prop := rank x.2.min.x ≤ rank y.2.min.x

lemma min_le_of_ranked {x y : String × Box} (hx : x.2.isFinite = true) (hy : y.2.isFinite = true) (h : Ranked x y) :
    value x.2.min.x ≤ value y.2.min.x :=
  value_le_of_rank_le (Box.finite_iff.mp hx).1.1 (Box.finite_iff.mp hy).1.1 h

/-- No box that begins behind the end of another overlaps it, nor does any box after it in the sweep. -/
lemma mem_ahead {box : Box} (hbox : box.isFinite = true) {later : List (String × Box)} (hl : later.Pairwise Ranked)
    (hfin : ∀ x ∈ later, x.2.isFinite = true) {x : String × Box} (hx : x ∈ later) (ho : box.overlaps x.2 = true) :
    x ∈ later.takeWhile fun y => !decide (box.max.x ≤ y.2.min.x) := by
  have hends := ((Box.overlaps_iff hbox (hfin x hx)).mp ho).1.begins
  have hopen : ∀ y ∈ later, value y.2.min.x ≤ value x.2.min.x → (!decide (box.max.x ≤ y.2.min.x)) = true := by
    intro y hy hle
    have := mt (le_iff_value (Box.finite_iff.mp hbox).2.1 (Box.finite_iff.mp (hfin y hy)).1.1).mp
      (not_le.mpr (hle.trans_lt hends))
    simpa using this
  clear hends
  induction later with
  | nil => cases hx
  | cons y later ih =>
    obtain ⟨hy, hl⟩ := List.pairwise_cons.mp hl
    have hfiny := hfin y List.mem_cons_self
    rcases List.mem_cons.mp hx with rfl | hx
    · rw [List.takeWhile_cons, if_pos (hopen x List.mem_cons_self le_rfl)]
      exact List.mem_cons_self
    · have hle := min_le_of_ranked hfiny (hfin x (List.mem_cons_of_mem _ hx)) (hy x hx)
      rw [List.takeWhile_cons, if_pos (hopen y List.mem_cons_self hle)]
      exact List.mem_cons_of_mem _ (ih hl (fun z hz => hfin z (List.mem_cons_of_mem _ hz)) hx
        fun z hz => hopen z (List.mem_cons_of_mem _ hz))

lemma mem_sweepFrom_iff {x : String × Box} {later : List (String × Box)} (hl : later.Pairwise Ranked)
    (hx : x.2.isFinite = true) (hfin : ∀ y ∈ later, y.2.isFinite = true) :
    p ∈ sweepFrom x.1 x.2 later ↔ ∃ y ∈ later, Makes p x y := by
  simp only [sweepFrom, List.mem_filterMap, Option.ite_none_right_eq_some, Option.some.injEq]
  constructor
  · rintro ⟨y, hy, ho, rfl⟩
    have hy := (List.takeWhile_sublist _).subset hy
    exact ⟨y, hy, hx, hfin y hy, ho, rfl⟩
  · rintro ⟨y, hy, -, -, ho, rfl⟩
    exact ⟨y, mem_ahead hx hl hfin hy ho, ho, rfl⟩

lemma mem_sweep_iff {order : List (String × Box)} (hl : order.Pairwise Ranked)
    (hfin : ∀ x ∈ order, x.2.isFinite = true) : p ∈ sweep order ↔ ¬order.Pairwise fun x y => ¬Makes p x y := by
  induction order with
  | nil => simp [sweep]
  | cons x later ih =>
    obtain ⟨-, hl'⟩ := List.pairwise_cons.mp hl
    have hfin' : ∀ y ∈ later, y.2.isFinite = true := fun y hy => hfin y (List.mem_cons_of_mem _ hy)
    rw [sweep, List.mem_append, mem_sweepFrom_iff hl' (hfin x List.mem_cons_self) hfin', ih hl' hfin',
      List.pairwise_cons, not_and_or]
    simp only [not_forall, not_not, exists_prop]

def Collide (p : CollisionPair) (a b : Entity) : Prop := Makes p (a.id, a.box) (b.id, b.box)

lemma mem_collisions_iff_not_pairwise :
    p ∈ w.collisions ↔ ¬w.entities.Pairwise fun a b => ¬Collide p a b := by
  unfold collisions
  set named := w.entities.map fun e => (e.id, e.box) with hnamed
  set solid := named.filter fun x => x.2.isFinite && !x.2.isDegenerate with hsolid
  set order := solid.mergeSort fun x y => decide (rank x.2.min.x ≤ rank y.2.min.x) with horder
  have hperm : order.Perm solid := List.mergeSort_perm _ _
  have hfin : ∀ x ∈ order, x.2.isFinite = true := by
    intro x hx
    have hx := (List.mem_filter.mp (hperm.mem_iff.mp hx)).2
    exact (Bool.and_eq_true _ _ ▸ hx).1
  have hranked : order.Pairwise Ranked := by
    refine (List.pairwise_mergeSort ?_ ?_ solid).imp fun h => by simpa [Ranked] using h
    · intro x y z hxy hyz
      simp only [decide_eq_true_eq] at *
      omega
    · intro x y
      simp only [Bool.or_eq_true, decide_eq_true_eq]
      omega
  have hsymm : ∀ {x y : String × Box}, ¬Makes p x y → ¬Makes p y x := fun h h' => h h'.symm
  rw [mem_eraseReps, List.mem_mergeSort]
  refine (mem_sweep_iff hranked hfin).trans (not_congr ?_)
  rw [hperm.pairwise_iff hsymm, hsolid, List.pairwise_filter, hnamed, List.pairwise_map]
  -- A box that overlaps another one has a volume, so the filter passes over no colliding entity.
  refine List.Pairwise.iff fun a b => ⟨fun h hc => ?_, fun h _ _ => h⟩
  have hsolid : ∀ {x y : String × Box}, Makes p x y → (x.2.isFinite && !x.2.isDegenerate) = true := by
    rintro x y ⟨hx, hy, ho, -⟩
    rw [hx, Box.not_degenerate_of_overlaps hx hy ho]
    rfl
  exact h (hsolid hc) (hsolid hc.symm) hc

def Collides (w : World) (p : CollisionPair) : Prop :=
  ∃ i j : Nat, ∃ a b : Entity, i < j ∧ w.entities[i]? = some a ∧ w.entities[j]? = some b ∧ a.box.isFinite = true ∧
    b.box.isFinite = true ∧ a.box.overlaps b.box = true ∧ p = .of a.id b.id

lemma mem_collisions_iff : p ∈ w.collisions ↔ w.Collides p := by
  rw [mem_collisions_iff_not_pairwise, List.pairwise_iff_getElem]
  simp only [not_forall, not_not, exists_prop]
  constructor
  · rintro ⟨i, j, hi, hj, hij, hc⟩
    exact ⟨i, j, _, _, hij, List.getElem?_eq_getElem hi, List.getElem?_eq_getElem hj, hc⟩
  · rintro ⟨i, j, a, b, hij, hi, hj, hc⟩
    obtain ⟨hi', rfl⟩ := List.getElem?_eq_some_iff.mp hi
    obtain ⟨hj', rfl⟩ := List.getElem?_eq_some_iff.mp hj
    exact ⟨i, j, hi', hj', hij, hc⟩

lemma collisions_sorted (w : World) : w.collisions.Pairwise CollisionPair.Before := by
  refine pairwise_eraseReps (R := fun p q => p.le q = true) ?_ ?_ (List.pairwise_mergeSort ?_ ?_ _)
  · exact fun p q h hne => (CollisionPair.le_iff.mp h).resolve_right hne
  · intro p q r hpq hqr
    rcases CollisionPair.le_iff.mp hqr with hqr | rfl
    · exact hpq.trans hqr
    · exact hpq
  · exact fun _ _ _ => CollisionPair.le_trans
  · exact CollisionPair.le_total

lemma collisions_eq_of_perm (h : v.entities.Perm w.entities) : v.collisions = w.collisions := by
  have hnodup : ∀ w : World, w.collisions.Nodup := fun w =>
    (collisions_sorted w).imp fun {p q} h (he : p = q) => CollisionPair.Before.irrefl (he ▸ h)
  have hmem : ∀ p, p ∈ v.collisions ↔ p ∈ w.collisions := by
    intro p
    rw [mem_collisions_iff_not_pairwise, mem_collisions_iff_not_pairwise]
    exact not_congr (h.pairwise_iff fun h hc => h hc.symm)
  refine ((List.perm_ext_iff_of_nodup (hnodup v) (hnodup w)).mpr hmem).eq_of_pairwise ?_ (collisions_sorted v)
    (collisions_sorted w)
  intro p q _ _ hpq hqp
  exact (CollisionPair.Before.irrefl (hpq.trans hqp)).elim

/-! The search from one entity, where each identifier names one entity. -/

lemma mem_collisions_iff_of_nodup (hn : w.entityIds.Nodup) :
    p ∈ w.collisions ↔ ∃ a ∈ w.entities, ∃ b ∈ w.entities, a.id ≠ b.id ∧ Collide p a b := by
  constructor
  · intro h
    obtain ⟨i, j, a, b, hij, hi, hj, hc⟩ := mem_collisions_iff.mp h
    refine ⟨a, List.mem_of_getElem? hi, b, List.mem_of_getElem? hj, fun he => ?_, hc⟩
    have hab : w.entityIds[i]? = w.entityIds[j]? := by
      rw [entityIds, List.getElem?_map, List.getElem?_map, hi, hj, Option.map_some, Option.map_some, he]
    have hlt : i < w.entityIds.length := by
      rw [entityIds, List.length_map]
      exact (List.getElem?_eq_some_iff.mp hi).1
    exact hij.ne ((List.getElem?_inj hlt hn).mp hab)
  · rintro ⟨a, ha, b, hb, hne, hc⟩
    refine mem_collisions_iff_not_pairwise.mpr fun h => ?_
    have hsymm : Std.Symm fun a b => ¬Collide p a b := ⟨fun _ _ h h' => h h'.symm⟩
    exact h.forall ha hb (fun he => hne (congrArg Entity.id he)) hc

lemma mem_collidingWith_iff (hn : w.entityIds.Nodup) {a x : Entity} (ha : a ∈ w.entities) :
    x ∈ w.collidingWith a.id ↔ x ∈ w.entities ∧ a.id ≠ x.id ∧ a.box.overlaps x.box = true := by
  obtain ⟨k, hk⟩ : ∃ k, w.entities.findIdx? (·.id == a.id) = some k :=
    Option.isSome_iff_exists.mp (List.findIdx?_isSome.trans (List.any_eq_true.mpr ⟨a, ha, beq_self_eq_true _⟩))
  obtain ⟨hlt, hid, -⟩ := List.findIdx?_eq_some_iff_getElem.mp hk
  have hka : w.entities[k] = a :=
    List.inj_on_of_nodup_map hn (List.getElem_mem hlt) ha (eq_of_beq hid)
  have hbox : w.boxes[k]? = some a.box := by
    rw [boxes, List.getElem?_map, List.getElem?_eq_getElem hlt, hka, Option.map_some]
  simp only [collidingWith, hk, hbox, List.mem_filterMap, Prod.exists, List.mk_mem_zipIdx_iff_getElem?,
    Option.ite_none_right_eq_some, Bool.and_eq_true, bne_iff_ne, Option.some.injEq]
  constructor
  · rintro ⟨x, i, hi, ⟨hik, ho⟩, rfl⟩
    obtain ⟨hi', rfl⟩ := List.getElem?_eq_some_iff.mp hi
    refine ⟨List.getElem_mem hi', fun he => hik ?_, ho⟩
    have := List.inj_on_of_nodup_map hn ha (List.getElem_mem hi') he
    exact (List.Nodup.getElem_inj_iff hn.of_map).mp (this.symm.trans hka.symm)
  · rintro ⟨hx, hne, ho⟩
    obtain ⟨i, hi, rfl⟩ := List.getElem_of_mem hx
    refine ⟨_, i, List.getElem?_eq_getElem hi, ⟨fun hik => ?_, ho⟩, rfl⟩
    subst hik
    exact hne (hka ▸ rfl)

lemma exists_mem_collidingWith_iff (hn : w.entityIds.Nodup) (hfin : ∀ e ∈ w.entities, e.box.isFinite = true)
    {a b : String} (ha : a ∈ w.entityIds) (hb : b ∈ w.entityIds) :
    (∃ e ∈ w.collidingWith a, e.id = b) ↔ a ≠ b ∧ .of a b ∈ w.collisions := by
  rw [mem_entityIds] at ha hb
  obtain ⟨a, ha, rfl⟩ := ha
  obtain ⟨b, hb, rfl⟩ := hb
  have hcollide : ∀ {c d : Entity}, c ∈ w.entities → d ∈ w.entities →
      (Collide (.of a.id b.id) c d ↔ c.box.overlaps d.box = true ∧ CollisionPair.of a.id b.id = .of c.id d.id) :=
    fun hc hd => ⟨fun h => h.2.2, fun h => ⟨hfin _ hc, hfin _ hd, h⟩⟩
  rw [mem_collisions_iff_of_nodup hn]
  constructor
  · rintro ⟨e, he, hid⟩
    obtain ⟨he, hne, ho⟩ := (mem_collidingWith_iff hn ha).mp he
    exact ⟨hid ▸ hne, a, ha, e, he, hne, (hcollide ha he).mpr ⟨ho, hid ▸ rfl⟩⟩
  · rintro ⟨hne, c, hc, d, hd, hcd, h⟩
    obtain ⟨ho, he⟩ := (hcollide hc hd).mp h
    rcases CollisionPair.of_eq_of_iff.mp he with ⟨hac, hbd⟩ | ⟨had, hbc⟩
    · obtain rfl := List.inj_on_of_nodup_map hn ha hc hac
      exact ⟨d, (mem_collidingWith_iff hn ha).mpr ⟨hd, hcd, ho⟩, hbd.symm⟩
    · obtain rfl := List.inj_on_of_nodup_map hn ha hd had
      exact ⟨c, (mem_collidingWith_iff hn ha).mpr ⟨hc, hcd.symm, Box.overlaps_symm (hfin c hc) (hfin a ha) ho⟩,
        hbc.symm⟩

/-- The collisions of a world are the overlaps of finite boxes, each once and in order, whatever the order of the
entities; where every box is finite and every identifier distinct, each search from one entity finds the same. -/
theorem collisions_found (w : World) :
    (w.collisions.Pairwise CollisionPair.Before ∧ ∀ p, p ∈ w.collisions ↔ w.Collides p) ∧
    (∀ v : World, v.entities.Perm w.entities → v.collisions = w.collisions) ∧
    (w.entityIds.Nodup → (∀ e ∈ w.entities, e.box.isFinite = true) → ∀ a ∈ w.entityIds, ∀ b ∈ w.entityIds,
      ((∃ e ∈ w.collidingWith a, e.id = b) ↔ a ≠ b ∧ .of a b ∈ w.collisions)) := by
  refine ⟨⟨collisions_sorted w, fun _ => mem_collisions_iff⟩, fun _ => collisions_eq_of_perm, ?_⟩
  intro hn hfin a ha b hb
  exact exists_mem_collidingWith_iff hn hfin ha hb

def shelved : World where
  metadata := { title := "Store" }
  entities := [{ id := "shelf", name := "Shelf" },
    { id := "crate", name := "Crate", transform := { position := ⟨0, 0.5, 0⟩ } }]

theorem collisions_found_shelved : shelved.entityIds.Nodup ∧ (∀ e ∈ shelved.entities, e.box.isFinite = true) ∧
    (∃ e ∈ shelved.collidingWith "shelf", e.id = "crate") ∧ .of "shelf" "crate" ∈ shelved.collisions := by
  have hn : shelved.entityIds.Nodup := by decide
  have hfin : ∀ e ∈ shelved.entities, e.box.isFinite = true := by decide +kernel
  have hfound : ∃ e ∈ shelved.collidingWith "shelf", e.id = "crate" := by decide +kernel
  have hsearch := (collisions_found shelved).2.2 hn hfin "shelf" (by decide) "crate" (by decide)
  exact ⟨hn, hfin, hfound, (hsearch.mp hfound).2⟩

end World

end Diorama
