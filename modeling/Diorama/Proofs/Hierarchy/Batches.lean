import Diorama.Proofs.Hierarchy.Adoption
import Mathlib.Data.Fintype.Card
import Mathlib.Data.Set.Finite.List

/-! A batch of entities against the same entities one by one. An entity whose parent is not in the rest of a batch
can be added before the rest, and every batch that can be added has such an entity, so a batch can be added exactly
if some order of it can be added one by one. The world may have any form. -/

namespace Diorama.World

open Ancestry Relation

variable {w v : World} {e : Entity} {batch rest : List Entity}

/-! Parents after a new entity. -/

lemma find?_updateFirst {id key : String} {change : Entity → Entity} (hid : ∀ e, (change e).id = e.id)
    (es : List Entity) : (updateFirst key change es).find? (·.id == id) =
      (es.find? (·.id == id)).map fun e => if e.id = key then change e else e := by
  induction es with
  | nil => rfl
  | cons e es ih =>
    rw [updateFirst]
    by_cases hk : e.id = key
    · by_cases he : e.id = id
      · simp [hk, ← he, hid]
      · have hne : ∀ x ∈ es.find? (·.id == id), ¬x.id = key := by
          intro x hx h
          have := List.find?_some hx
          simp_all
        rw [if_pos hk, List.find?_cons_of_neg (by simpa [hid] using he), List.find?_cons_of_neg (by simpa using he)]
        cases h : es.find? (·.id == id) with
        | none => rfl
        | some x => simp [hne x (by simp [h])]
    · by_cases he : e.id = id <;> simp_all

lemma entity?_updateEntity {key : String} {change : Entity → Entity} (hid : ∀ e, (change e).id = e.id)
    (w : World) (id : String) : (w.updateEntity key change).entity? id =
      (w.entity? id).map fun e => if e.id = key then change e else e :=
  find?_updateFirst hid w.entities

lemma parent?_updateEntity {key : String} {change : Entity → Entity} (hid : ∀ e, (change e).id = e.id)
    (hp : ∀ e, (change e).parent = e.parent) (w : World) : (w.updateEntity key change).parent? = w.parent? := by
  funext id
  rw [parent?, entity?_updateEntity hid, parent?]
  cases w.entity? id with
  | none => rfl
  | some e =>
    simp only [Option.map_some, Option.bind_some]
    split
    · exact hp e
    · rfl

lemma parent?_enter (w : World) (e : Entity) : (w.enter e).parent? = w.parent? := by
  cases hp : e.parent with
  | none => simp only [enter, hp]
  | some up =>
    simp only [enter, hp]
    exact parent?_updateEntity (addChild_id e.id) (addChild_parent e.id) w

lemma parentWith?_cons (w : World) (e : Entity) (batch : List Entity) (id : String) :
    w.parentWith? (e :: batch) id = if e.id = id then e.parent else w.parentWith? batch id := by
  unfold parentWith?
  by_cases h : e.id = id <;> simp [h]

lemma parentWith?_of_notMem {id : String} (h : id ∉ batch.map (·.id)) : w.parentWith? batch id = w.parent? id := by
  have hnone : batch.find? (·.id == id) = none := by
    rw [List.find?_eq_none]
    intro e he hid
    exact h (List.mem_map.mpr ⟨e, he, eq_of_beq hid⟩)
  rw [parentWith?, hnone]

lemma parent?_link (hid : e.id ∉ w.entityIds) (id : String) :
    (w.link e).parent? id = if e.id = id then e.parent else w.parent? id := by
  have hw : w.parent? id = ((w.enter e).entity? id).bind (·.parent) := (congrFun (parent?_enter w e) id).symm
  have hlink : (w.link e).entity? id = ((w.enter e).entity? id).or ([w.placed e].find? (·.id == id)) := by
    rw [entity?, link_eq]
    exact List.find?_append
  rw [parent?, hlink, hw]
  cases h : (w.enter e).entity? id with
  | none =>
    by_cases he : e.id = id
    · simp [placed, he]
    · simp [placed, he]
  | some q =>
    have hne : e.id ≠ id := by
      rintro rfl
      have hq : q.id = e.id := by simpa using List.find?_some h
      exact hid (entityIds_enter w e ▸ mem_entityIds.mpr ⟨q, List.mem_of_find?_eq_some h, hq⟩)
    simp [hne]

lemma parentWith?_link (hid : e.id ∉ w.entityIds) (hrest : e.id ∉ rest.map (·.id)) :
    (w.link e).parentWith? rest = w.parentWith? (e :: rest) := by
  funext id
  rw [parentWith?_cons]
  by_cases hin : id ∈ rest.map (·.id)
  · have hne : e.id ≠ id := fun h => hrest (h ▸ hin)
    rw [if_neg hne]
    obtain ⟨x, hx⟩ : ∃ x, rest.find? (·.id == id) = some x := by
      rw [← Option.isSome_iff_exists, List.find?_isSome]
      simpa using hin
    simp only [parentWith?, hx]
  · rw [parentWith?_of_notMem hin, parentWith?_of_notMem hin, parent?_link hid]

lemma parentWith?_eq_some_iff (hn : (batch.map (·.id)).Nodup) {a b : String} :
    w.parentWith? batch a = some b ↔
      (∃ e ∈ batch, e.id = a ∧ e.parent = some b) ∨ a ∉ batch.map (·.id) ∧ w.parent? a = some b := by
  by_cases ha : a ∈ batch.map (·.id)
  · obtain ⟨e, he, rfl⟩ := List.mem_map.mp ha
    have hfind := (find?_id_iff hn).mpr ⟨he, rfl⟩
    simp only [parentWith?, hfind, ha, not_true_eq_false, false_and, or_false]
    constructor
    · exact fun hp => ⟨e, he, rfl, hp⟩
    · rintro ⟨x, hx, hid, hp⟩
      obtain rfl := List.inj_on_of_nodup_map hn hx he hid
      exact hp
  · have hnone : ¬∃ e ∈ batch, e.id = a ∧ e.parent = some b := by
      rintro ⟨e, he, rfl, -⟩
      exact ha (List.mem_map_of_mem he)
    simp only [parentWith?_of_notMem ha, ha, hnone, not_false_eq_true, true_and, false_or]

lemma parentWith?_perm {other : List Entity} (h : batch.Perm other) (hn : (batch.map (·.id)).Nodup) :
    w.parentWith? batch = w.parentWith? other := by
  funext a
  refine Option.ext fun b => ?_
  rw [parentWith?_eq_some_iff hn, parentWith?_eq_some_iff ((h.map _).nodup_iff.mp hn), (h.map _).mem_iff]
  simp only [h.mem_iff]

/-! When a batch can be added. -/

/-- What must hold of a batch that a world takes: fresh and distinct names, known parents, and no way up from an
entity of the batch back to it. -/
structure Takes (w : World) (batch : List Entity) : Prop where
  fresh : ∀ e ∈ batch, e.id ∉ w.ids
  nodup : (batch.map (·.id)).Nodup
  known : ∀ e ∈ batch, ∀ up, e.parent = some up → up ∈ batch.map (·.id) ∨ up ∈ w.entityIds
  acyclic : ∀ e ∈ batch, ¬TransGen (Up (w.parentWith? batch)) e.id e.id

lemma Takes.notMem_entityIds (h : w.Takes batch) : ∀ e ∈ batch, e.id ∉ w.entityIds :=
  fun e he hm => h.fresh e he (ids_eq w ▸ List.mem_append_left _ hm)

lemma up_parentWith?_of_mem (hn : (batch.map (·.id)).Nodup) (he : e ∈ batch) {up : String} :
    Up (w.parentWith? batch) e.id up ↔ e.parent = some up := by
  rw [Up, parentWith?, (find?_id_iff hn).mpr ⟨he, rfl⟩]

lemma Takes.parent_ne (h : w.Takes batch) : ∀ e ∈ batch, e.parent ≠ some e.id :=
  fun e he hp => h.acyclic e he (.single ((up_parentWith?_of_mem h.nodup he).mpr hp))

lemma transGen_parentWith?_iff (hn : (batch.map (·.id)).Nodup) (he : e ∈ batch) :
    TransGen (Up (w.parentWith? batch)) e.id e.id ↔
      ∃ up, e.parent = some up ∧ ReflTransGen (Up (w.parentWith? batch)) up e.id := by
  rw [TransGen.head'_iff]
  exact exists_congr fun up => and_congr_left' (up_parentWith?_of_mem hn he)

lemma addEntities_eq_ok_iff_takes : w.addEntities batch = .ok v ↔ w.Takes batch ∧ v = batch.foldl link w := by
  rw [addEntities_eq_ok_iff]
  constructor
  · rintro ⟨hfresh, hn, hup, rfl⟩
    refine ⟨⟨hfresh, hn, fun e he up hp => (hup e he up hp).1, fun e he hc => ?_⟩, rfl⟩
    obtain ⟨up, hp, hway⟩ := (transGen_parentWith?_iff hn he).mp hc
    exact (hup e he up hp).2 hway
  · rintro ⟨h, rfl⟩
    refine ⟨h.fresh, h.nodup, fun e he up hp => ⟨h.known e he up hp, fun hway => ?_⟩, rfl⟩
    exact h.acyclic e he ((transGen_parentWith?_iff h.nodup he).mpr ⟨up, hp, hway⟩)

lemma Takes.perm {other : List Entity} (h : w.Takes batch) (hp : batch.Perm other) : w.Takes other := by
  refine ⟨fun e he => h.fresh e (hp.mem_iff.mpr he), (hp.map _).nodup_iff.mp h.nodup, ?_, ?_⟩
  · intro e he up hup
    rw [← (hp.map (·.id)).mem_iff]
    exact h.known e (hp.mem_iff.mpr he) up hup
  · intro e he
    rw [← parentWith?_perm hp h.nodup]
    exact h.acyclic e (hp.mem_iff.mpr he)

/-! The entity that can be added first. -/

/-- A way up that returns to a new entity and meets no other one is a way of the old world. -/
lemma way_before (hrest : ∀ x ∈ rest, ¬TransGen (Up (w.parentWith? (e :: rest))) x.id x.id) {up : String}
    (hp : e.parent = some up) (h : ReflTransGen (Up (w.parentWith? (e :: rest))) up e.id) :
    ReflTransGen (Up w.parent?) up e.id := by
  have hfirst : Up (w.parentWith? (e :: rest)) e.id up := by
    rw [Up, parentWith?_cons, if_pos rfl, hp]
  have hway : ∀ a, ReflTransGen (Up (w.parentWith? (e :: rest))) up a →
      ReflTransGen (Up (w.parentWith? (e :: rest))) a e.id → ReflTransGen (Up w.parent?) a e.id := by
    intro a hto hfrom
    induction hfrom using ReflTransGen.head_induction_on with
    | refl => exact .refl
    | @head a b hab hb ih =>
      by_cases ha : e.id = a
      · exact ha ▸ .refl
      · have hnot : a ∉ rest.map (·.id) := by
          intro hmem
          obtain ⟨x, hx, rfl⟩ := List.mem_map.mp hmem
          exact hrest x hx (TransGen.head' hab (hb.trans (.head hfirst hto)))
        have hold : Up w.parent? a b := by
          rwa [Up, parentWith?_cons, if_neg ha, parentWith?_of_notMem hnot] at hab
        exact .head hold (ih (hto.tail hab))
  exact hway up .refl h

lemma Takes.first (h : w.Takes (e :: rest)) (hfree : ∀ up, e.parent = some up → up ∉ rest.map (·.id)) :
    w.addEntity e = .ok (w.link e) := by
  have hold : ∀ a b, Up w.parent? a b → Up (w.parentWith? (e :: rest)) a b := by
    intro a b hab
    have hnot : a ∉ (e :: rest).map (·.id) := by
      intro ha
      obtain ⟨x, hx, rfl⟩ := List.mem_map.mp ha
      exact h.notMem_entityIds x hx (mem_of_under (under_of_parent? hab))
    rwa [Up, parentWith?_of_notMem hnot]
  refine addEntity_eq_ok_iff.mpr ⟨h.fresh e List.mem_cons_self, fun up hp => ⟨?_, ?_⟩, rfl⟩
  · rw [Bool.eq_false_iff, ne_eq, reaches_iff]
    intro hway
    exact h.acyclic e List.mem_cons_self
      ((transGen_parentWith?_iff h.nodup List.mem_cons_self).mpr ⟨up, hp, ReflTransGen.mono hold _ _ hway⟩)
  · rcases h.known e List.mem_cons_self up hp with hup | hup
    · rcases List.mem_cons.mp hup with rfl | hup
      · exact (h.parent_ne e List.mem_cons_self hp).elim
      · exact (hfree up hp hup).elim
    · exact hup

lemma Takes.after_first (h : w.Takes (e :: rest)) : (w.link e).Takes rest := by
  obtain ⟨hid, hn⟩ := List.nodup_cons.mp h.nodup
  refine ⟨?_, hn, ?_, ?_⟩
  · intro x hx hmem
    rcases List.mem_cons.mp ((ids_link w e).mem_iff.mp hmem) with hxe | hmem
    · exact hid (List.mem_map.mpr ⟨x, hx, hxe⟩)
    · exact h.fresh x (List.mem_cons_of_mem _ hx) hmem
  · intro x hx up hp
    rw [entityIds_link, List.mem_append, List.mem_singleton]
    rcases h.known x (List.mem_cons_of_mem _ hx) up hp with hup | hup
    · rcases List.mem_cons.mp hup with rfl | hup
      · exact Or.inr (Or.inr rfl)
      · exact Or.inl hup
    · exact Or.inr (Or.inl hup)
  · intro x hx
    rw [parentWith?_link (h.notMem_entityIds e List.mem_cons_self) hid]
    exact h.acyclic x (List.mem_cons_of_mem _ hx)

lemma takes_cons (he : w.addEntity e = .ok v) (h : v.Takes rest) : w.Takes (e :: rest) := by
  obtain ⟨hfresh, hup, rfl⟩ := addEntity_eq_ok_iff.mp he
  have hid : e.id ∉ w.entityIds := fun hm => hfresh (ids_eq w ▸ List.mem_append_left _ hm)
  have hnew : ∀ x ∈ rest, x.id ≠ e.id ∧ x.id ∉ w.ids := by
    intro x hx
    have := h.fresh x hx
    rwa [(ids_link w e).mem_iff, List.mem_cons, not_or] at this
  have hrest : e.id ∉ rest.map (·.id) := by
    intro hmem
    obtain ⟨x, hx, hxe⟩ := List.mem_map.mp hmem
    exact (hnew x hx).1 hxe
  have hn : ((e :: rest).map (·.id)).Nodup := List.nodup_cons.mpr ⟨hrest, h.nodup⟩
  have hacyclic : ∀ x ∈ rest, ¬TransGen (Up (w.parentWith? (e :: rest))) x.id x.id := by
    rw [← parentWith?_link hid hrest]
    exact h.acyclic
  refine ⟨?_, hn, ?_, ?_⟩
  · rw [List.forall_mem_cons]
    exact ⟨hfresh, fun x hx => (hnew x hx).2⟩
  · rw [List.forall_mem_cons]
    refine ⟨fun up hp => Or.inr (hup up hp).2, fun x hx up hp => ?_⟩
    have hknown := h.known x hx up hp
    rw [entityIds_link, List.mem_append, List.mem_singleton] at hknown
    rw [List.map_cons, List.mem_cons]
    tauto
  · rw [List.forall_mem_cons]
    refine ⟨fun hc => ?_, hacyclic⟩
    obtain ⟨up, hp, hway⟩ := (transGen_parentWith?_iff hn List.mem_cons_self).mp hc
    have hreach := reaches_iff.mpr (way_before hacyclic hp hway)
    rw [(hup up hp).1] at hreach
    cases hreach

/-! Entities one by one. -/

lemma addEntities_of_foldlM {es : List Entity} (h : es.foldlM addEntity w = .ok v) : w.addEntities es = .ok v := by
  rw [addEntities_eq_ok_iff_takes]
  induction es generalizing w with
  | nil =>
    obtain rfl := pure_eq_ok_iff.mp h
    exact ⟨⟨by simp, by simp, by simp, by simp⟩, rfl⟩
  | cons e es ih =>
    obtain ⟨u, hu, h⟩ := bind_eq_ok_iff.mp h
    obtain ⟨ht, rfl⟩ := ih h
    obtain ⟨-, -, rfl⟩ := addEntity_eq_ok_iff.mp hu
    exact ⟨takes_cons hu ht, rfl⟩

lemma Takes.exists_free (h : w.Takes batch) (hne : batch ≠ []) :
    ∃ e ∈ batch, ∀ up, e.parent = some up → up ∉ batch.map (·.id) := by
  -- Of the entities of the batch, one has no other one above it, since no way up goes round.
  let Above (a b : { e // e ∈ batch }) : Prop := TransGen (Up (w.parentWith? batch)) b.1.id a.1.id
  have hfinite : Finite { e // e ∈ batch } := (List.finite_toSet batch).to_subtype
  have htrans : IsTrans _ Above := ⟨fun _ _ _ hab hbc => hbc.trans hab⟩
  have hirrefl : Std.Irrefl Above := ⟨fun a => h.acyclic a.1 a.2⟩
  obtain ⟨x, hx⟩ := List.exists_mem_of_ne_nil batch hne
  obtain ⟨⟨e, he⟩, -, hmin⟩ :=
    (Finite.wellFounded_of_trans_of_irrefl Above).has_min Set.univ ⟨⟨x, hx⟩, Set.mem_univ _⟩
  refine ⟨e, he, fun up hp hup => ?_⟩
  obtain ⟨q, hq, rfl⟩ := List.mem_map.mp hup
  exact hmin ⟨q, hq⟩ (Set.mem_univ _) (.single ((up_parentWith?_of_mem h.nodup he).mpr hp))

lemma Takes.exists_order (h : w.Takes batch) :
    ∃ es : List Entity, es.Perm batch ∧ ∃ v, es.foldlM addEntity w = .ok v := by
  induction hl : batch.length generalizing w batch with
  | zero =>
    obtain rfl := List.length_eq_zero_iff.mp hl
    exact ⟨[], .refl _, w, rfl⟩
  | succ n ih =>
    obtain ⟨e, he, hfree⟩ := h.exists_free (by rintro rfl; simp at hl)
    obtain ⟨l, r, rfl⟩ := List.append_of_mem he
    have hperm : (e :: (l ++ r)).Perm (l ++ e :: r) := List.perm_middle.symm
    have hfirst := h.perm hperm.symm
    obtain ⟨es, hes, v, hv⟩ := ih hfirst.after_first (by simpa [← Nat.add_assoc] using hl)
    refine ⟨e :: es, (hes.cons e).trans hperm, v, ?_⟩
    have hadd := hfirst.first fun up hp hmem =>
      hfree up hp ((hperm.map (·.id)).mem_iff.mp (List.mem_cons_of_mem _ hmem))
    rw [List.foldlM_cons, hadd]
    exact hv

/-- A batch that can be added one by one gives the same world so, each order of a batch gives the same world up to
orders, and a batch that can be added has an order that can be added one by one. -/
theorem addEntities_orderly (w : World) (es : List Entity) :
    (∀ v, es.foldlM addEntity w = .ok v → w.addEntities es = .ok v) ∧
    (∀ es' : List Entity, es'.Perm es → ((∃ v, w.addEntities es' = .ok v) ↔ ∃ v, w.addEntities es = .ok v) ∧
      ∀ v v', w.addEntities es = .ok v → w.addEntities es' = .ok v' → v.Alike v') ∧
    ((∃ v, w.addEntities es = .ok v) → ∃ es' : List Entity, es'.Perm es ∧ ∃ v, es'.foldlM addEntity w = .ok v) := by
  refine ⟨fun v => addEntities_of_foldlM, fun es' hp => ⟨⟨?_, ?_⟩, ?_⟩, ?_⟩
  · rintro ⟨v, hv⟩
    exact ⟨_, addEntities_eq_ok_iff_takes.mpr ⟨(addEntities_eq_ok_iff_takes.mp hv).1.perm hp, rfl⟩⟩
  · rintro ⟨v, hv⟩
    exact ⟨_, addEntities_eq_ok_iff_takes.mpr ⟨(addEntities_eq_ok_iff_takes.mp hv).1.perm hp.symm, rfl⟩⟩
  · intro v v' hv hv'
    obtain ⟨h, rfl⟩ := addEntities_eq_ok_iff_takes.mp hv
    obtain ⟨-, rfl⟩ := addEntities_eq_ok_iff_takes.mp hv'
    exact alike_foldl_link hp.symm h.nodup h.notMem_entityIds h.parent_ne
  · rintro ⟨v, hv⟩
    exact (addEntities_eq_ok_iff_takes.mp hv).1.exists_order

def furnished : World where
  metadata := { title := "Room" }
  entities := [{ id := "lamp", name := "Lamp", parent := some "table" }]

def served : List Entity := [{ id := "cup", name := "Cup", parent := some "table" }, { id := "table", name := "Table" }]

theorem addEntities_orderly_served : (∃ v, furnished.addEntities served = .ok v) ∧
    (∃ v, furnished.addEntities served.reverse = .ok v) ∧
    ∃ es : List Entity, es.Perm served ∧ ∃ v, es.foldlM addEntity furnished = .ok v := by
  have hadd : ∃ v, furnished.addEntities served = .ok v := ⟨_, rfl⟩
  obtain ⟨-, horder, hone⟩ := addEntities_orderly furnished served
  exact ⟨hadd, (horder _ served.reverse_perm).1.mpr hadd, hone hadd⟩

end Diorama.World
