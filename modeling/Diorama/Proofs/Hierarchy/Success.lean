import Diorama.Proofs.Hierarchy.Links

namespace Diorama.World

open Ancestry Relation

lemma throw_bind {ε α β : Type} (e : ε) (f : α → Except ε β) : (throw e >>= f) = .error e := rfl

lemma bind_eq_ok_iff {ε α β : Type} {x : Except ε α} {f : α → Except ε β} {b : β} :
    x >>= f = .ok b ↔ ∃ a, x = .ok a ∧ f a = .ok b := by
  cases x <;> simp [bind, Except.bind]

lemma guard_eq_ok_iff {ε α : Type} {c : Prop} [Decidable c] {e : ε} {x : Except ε α} {a : α} :
    (if c then .error e else x) = .ok a ↔ ¬c ∧ x = .ok a := by
  split <;> simp_all

lemma ok_eq_ok_iff {ε α : Type} {a b : α} : (.ok a : Except ε α) = .ok b ↔ b = a := by
  rw [Except.ok.injEq, eq_comm]

lemma pure_eq_ok_iff {ε α : Type} {a b : α} : (pure a : Except ε α) = .ok b ↔ b = a := ok_eq_ok_iff

lemma addEntity_eq_ok_iff {w w' : World} {e : Entity} :
    w.addEntity e = .ok w' ↔ e.id ∉ w.ids ∧
      (∀ up, e.parent = some up → w.reaches up e.id = false ∧ up ∈ w.entityIds) ∧ w' = w.link e := by
  unfold addEntity
  cases e.parent with
  | none =>
    simp only [throw_bind, guard_eq_ok_iff, pure_eq_ok_iff, containsId_iff, reduceCtorEq, false_implies,
      implies_true, true_and]
  | some up =>
    simp only [throw_bind, guard_eq_ok_iff, pure_eq_ok_iff, containsId_iff, entity?_isNone_iff, not_not,
      Option.some.injEq, forall_eq', Bool.not_eq_true, and_assoc]

lemma setParent_eq_ok_iff_moved {w w' : World} {child : String} {parent : Option String} :
    w.setParent child parent = .ok w' ↔ child ∈ w.entityIds ∧
      (∀ up, parent = some up → up ∈ w.entityIds ∧ w.reaches up child = false) ∧ w' = w.moved child parent := by
  unfold setParent
  cases parent with
  | none =>
    simp only [throw_bind, guard_eq_ok_iff, pure_eq_ok_iff, entity?_isNone_iff, not_not, reduceCtorEq,
      false_implies, implies_true, true_and, moved]
  | some up =>
    simp only [throw_bind, guard_eq_ok_iff, pure_eq_ok_iff, entity?_isNone_iff, not_not,
      Option.some.injEq, forall_eq', Bool.not_eq_true, and_assoc, moved]

lemma setParent_eq_ok_iff {w w' : World} (hn : w.entityIds.Nodup) {child : String} {parent : Option String} :
    w.setParent child parent = .ok w' ↔ child ∈ w.entityIds ∧
      (∀ up, parent = some up → up ∈ w.entityIds ∧ w.reaches up child = false) ∧
      w' = w.reparented child parent := by
  rw [setParent_eq_ok_iff_moved, moved_eq_reparented hn]

lemma setTransform_eq_ok_iff {w w' : World} {id : String} {t : Transform} :
    w.setTransform id t = .ok w' ↔ id ∈ w.entityIds ∧
      w' = w.updateEntity id fun e => { e with transform := t } := by
  simp only [setTransform, guard_eq_ok_iff, entity?_isNone_iff, not_not, ok_eq_ok_iff]

lemma addLight_eq_ok_iff {w w' : World} {l : Light} :
    w.addLight l = .ok w' ↔ l.id ∉ w.ids ∧ w' = { w with lights := w.lights ++ [l] } := by
  simp only [addLight, guard_eq_ok_iff, containsId_iff, ok_eq_ok_iff]

lemma addMechanism_eq_ok_iff {w w' : World} {m : Mechanism} :
    w.addMechanism m = .ok w' ↔ m.id ∉ w.ids ∧ w' = { w with mechanisms := w.mechanisms ++ [m] } := by
  simp only [addMechanism, guard_eq_ok_iff, containsId_iff, ok_eq_ok_iff]

lemma removeEntity_eq_ok_iff {w w' : World} (hn : w.entityIds.Nodup) {id : String} {e : Entity} :
    w.removeEntity id = .ok (e, w') ↔ w.entity? id = some e ∧ w' = w.without id := by
  unfold removeEntity without
  rw [eraseP_id_eq_filter hn]
  cases w.entity? id with
  | none => simp
  | some x => simp [eq_comm]

lemma firstTaken?_eq_none_iff {w : World} {seen : List String} {batch : List Entity} :
    w.firstTaken? seen batch = none ↔
      (∀ e ∈ batch, e.id ∉ w.ids ∧ e.id ∉ seen) ∧ (batch.map (·.id)).Nodup := by
  induction batch generalizing seen with
  | nil => simp [firstTaken?]
  | cons e rest ih =>
    by_cases ht : e.id ∈ w.ids ∨ e.id ∈ seen
    · have hc : (w.containsId e.id || seen.contains e.id) = true := by simpa [containsId_iff] using ht
      simp only [firstTaken?, hc, if_true, reduceCtorEq, false_iff, List.forall_mem_cons]
      tauto
    · have hc : ¬(w.containsId e.id || seen.contains e.id) = true := by simpa [containsId_iff] using ht
      rw [firstTaken?, if_neg hc, ih, List.forall_mem_cons, List.map_cons, List.nodup_cons]
      simp only [List.mem_cons, List.mem_map, not_exists, not_or, not_and]
      constructor
      · rintro ⟨hr, hn⟩
        exact ⟨⟨not_or.mp ht, fun x hx => ⟨(hr x hx).1, (hr x hx).2.2⟩⟩, fun x hx => (hr x hx).2.1, hn⟩
      · rintro ⟨⟨_, hr⟩, hd, hn⟩
        exact ⟨fun x hx => ⟨(hr x hx).1, hd x hx, (hr x hx).2⟩, hn⟩

lemma mem_of_parentWith? {w : World} {batch : List Entity} {a b : String}
    (h : w.parentWith? batch a = some b) : a ∈ batch.map (·.id) ++ w.entityIds := by
  unfold parentWith? at h
  cases hf : batch.find? (·.id == a) with
  | some e =>
    have hid : e.id = a := by simpa using List.find?_some hf
    exact List.mem_append_left _ (List.mem_map.mpr ⟨e, List.mem_of_find?_eq_some hf, hid⟩)
  | none =>
    simp only [hf] at h
    obtain ⟨e, he, hid, _⟩ := under_of_parent? h
    exact List.mem_append_right _ (mem_entityIds.mpr ⟨e, he, hid⟩)

lemma parentProblem?_eq_none_iff {w : World} {batch : List Entity} {e : Entity} :
    w.parentProblem? batch e = none ↔ ∀ up, e.parent = some up →
      (up ∈ batch.map (·.id) ∨ up ∈ w.entityIds) ∧
        ¬ReflTransGen (Up (w.parentWith? batch)) up e.id := by
  have hway : ∀ up, e.id ∈ lineage (w.parentWith? batch) (batch.length + w.entities.length) up ↔
      ReflTransGen (Up (w.parentWith? batch)) up e.id := fun up =>
    mem_lineage_iff_reflTransGen (fun _ _ => mem_of_parentWith?) (by simp [entityIds])
  have hknown : ∀ up, (!batch.any (·.id == up) && (w.entity? up).isNone) = true ↔
      ¬(up ∈ batch.map (·.id) ∨ up ∈ w.entityIds) := by
    intro up
    rw [Bool.and_eq_true, entity?_isNone_iff, not_or]
    simp
  cases hp : e.parent with
  | none => simp [parentProblem?, hp]
  | some up =>
    simp only [parentProblem?, hp, Option.bind_some, Option.some.injEq, forall_eq', List.contains_iff_mem,
      hway, hknown]
    split_ifs <;> simp_all

lemma addEntities_eq_ok_iff {w w' : World} {batch : List Entity} :
    w.addEntities batch = .ok w' ↔ (∀ e ∈ batch, e.id ∉ w.ids) ∧ (batch.map (·.id)).Nodup ∧
      (∀ e ∈ batch, ∀ up, e.parent = some up → (up ∈ batch.map (·.id) ∨ up ∈ w.entityIds) ∧
        ¬ReflTransGen (Up (w.parentWith? batch)) up e.id) ∧ w' = batch.foldl link w := by
  unfold addEntities
  have hids : w.firstTaken? [] batch = none ↔
      (∀ e ∈ batch, e.id ∉ w.ids) ∧ (batch.map (·.id)).Nodup := by
    simp [firstTaken?_eq_none_iff]
  have hups : batch.findSome? (w.parentProblem? batch) = none ↔ ∀ e ∈ batch, ∀ up, e.parent = some up →
      (up ∈ batch.map (·.id) ∨ up ∈ w.entityIds) ∧ ¬ReflTransGen (Up (w.parentWith? batch)) up e.id := by
    rw [List.findSome?_eq_none_iff]
    exact forall₂_congr fun e _ => parentProblem?_eq_none_iff
  rw [← and_assoc, ← hids, ← hups]
  cases w.firstTaken? [] batch with
  | some id => simp only [throw_bind, reduceCtorEq, false_and]
  | none =>
    cases batch.findSome? (w.parentProblem? batch) with
    | some problem => simp only [throw_bind, reduceCtorEq, false_and, and_false]
    | none => simp only [pure_eq_ok_iff, true_and]

lemma foldlM_add_eq_ok_iff {α : Type} {add : World → α → Except WorldError World} {id : α → String}
    {put : World → List α → World}
    (hadd : ∀ {w w' : World} {a : α}, add w a = .ok w' ↔ id a ∉ w.ids ∧ w' = put w [a])
    (hids : ∀ (w : World) (a : α) (x : String), x ∈ (put w [a]).ids ↔ x = id a ∨ x ∈ w.ids)
    (hnil : ∀ w, put w [] = w) (hcons : ∀ w a parts, put (put w [a]) parts = put w (a :: parts))
    {w w' : World} {parts : List α} : parts.foldlM add w = .ok w' ↔
      (∀ a ∈ parts, id a ∉ w.ids) ∧ (parts.map id).Nodup ∧ w' = put w parts := by
  induction parts generalizing w with
  | nil => simp [hnil, pure_eq_ok_iff]
  | cons a parts ih =>
    rw [List.foldlM_cons, List.forall_mem_cons, List.map_cons, List.nodup_cons]
    by_cases hid : id a ∈ w.ids
    · cases h : add w a with
      | ok v => exact ((hadd.mp h).1 hid).elim
      | error e => simp [hid, bind, Except.bind]
    · have hrest : (∀ x ∈ parts, id x ∉ (put w [a]).ids) ↔ id a ∉ parts.map id ∧ ∀ x ∈ parts, id x ∉ w.ids := by
        simp only [hids, not_or, List.mem_map, not_exists, not_and]
        exact ⟨fun h => ⟨fun x hx => (h x hx).1, fun x hx => (h x hx).2⟩, fun h x hx => ⟨h.1 x hx, h.2 x hx⟩⟩
      rw [hadd.mpr ⟨hid, rfl⟩]
      change parts.foldlM add (put w [a]) = .ok w' ↔ _
      rw [ih, hrest, hcons]
      tauto

def lit (w : World) (lights : List Light) : World := { w with lights := w.lights ++ lights }

def driven (w : World) (mechanisms : List Mechanism) : World := { w with mechanisms := w.mechanisms ++ mechanisms }

lemma ids_lit {w : World} (h : w.mechanisms = []) (lights : List Light) :
    (w.lit lights).ids = w.ids ++ lights.map (·.id) := by
  simp [ids, lit, h]

lemma ids_driven (w : World) (mechanisms : List Mechanism) :
    (w.driven mechanisms).ids = w.ids ++ mechanisms.map (·.id) := by
  simp [ids, driven]

lemma foldlM_addLight_eq_ok_iff {w w' : World} {lights : List Light} : lights.foldlM addLight w = .ok w' ↔
    (∀ l ∈ lights, l.id ∉ w.ids) ∧ (lights.map (·.id)).Nodup ∧ w' = w.lit lights := by
  refine foldlM_add_eq_ok_iff addLight_eq_ok_iff (fun w l x => ?_) (fun w => ?_) fun w l lights => ?_
  · simp only [ids, lit, List.map_append, List.mem_append, List.map_cons, List.map_nil, List.mem_singleton]
    tauto
  · simp [lit]
  · simp [lit]

lemma foldlM_addMechanism_eq_ok_iff {w w' : World} {mechanisms : List Mechanism} :
    mechanisms.foldlM addMechanism w = .ok w' ↔ (∀ m ∈ mechanisms, m.id ∉ w.ids) ∧
      (mechanisms.map (·.id)).Nodup ∧ w' = w.driven mechanisms := by
  refine foldlM_add_eq_ok_iff addMechanism_eq_ok_iff (fun w m x => ?_) (fun w => ?_) fun w m mechanisms => ?_
  · simp only [ids, driven, List.map_append, List.mem_append, List.map_cons, List.map_nil, List.mem_singleton]
    tauto
  · simp [driven]
  · simp [driven]

end Diorama.World
