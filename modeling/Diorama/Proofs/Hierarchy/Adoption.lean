import Diorama.Proofs.Hierarchy.Success

/-! Who adopts the entities of a batch. In a world of any form, each newcomer becomes the last child of the first
entity that bears the name of its parent, so batches that differ in order alone give worlds that differ in order
alone. -/

namespace Diorama

def naming (es : List Entity) (parent : String) : List String := (es.filter (·.parent = some parent)).map (·.id)

def Entity.adopting (newcomers : List Entity) (q : Entity) : Entity :=
  { q with children := q.children ++ naming newcomers q.id }

def adopt : List Entity → List Entity → List Entity
  | [], _ => []
  | q :: es, newcomers => q.adopting newcomers :: adopt es (newcomers.filter (·.parent ≠ some q.id))

variable {es newcomers batch : List Entity} {w : World}

lemma naming_append (es batch : List Entity) (parent : String) :
    naming (es ++ batch) parent = naming es parent ++ naming batch parent := by
  simp [naming]

lemma adopting_snoc (e q : Entity) : q.adopting (newcomers ++ [e]) =
    if e.parent = some q.id then World.addChild e.id (q.adopting newcomers) else q.adopting newcomers := by
  unfold Entity.adopting World.addChild
  rw [naming_append]
  split
  · rename_i h
    simp [naming, h]
  · rename_i h
    simp [naming, h]

lemma naming_filter {other parent : String} (h : other ≠ parent) :
    naming (newcomers.filter (·.parent ≠ some other)) parent = naming newcomers parent := by
  unfold naming
  rw [List.filter_filter]
  congr 1
  refine List.filter_congr fun e _ => ?_
  by_cases he : e.parent = some parent
  · simp [he, h.symm]
  · simp [he]

lemma adopt_nil : adopt es [] = es := by
  induction es with
  | nil => rfl
  | cons q es ih => simp [adopt, Entity.adopting, naming, ih]

lemma map_adopt {α : Type} {f : Entity → α} (hf : ∀ q cs, f { q with children := cs } = f q) :
    (adopt es newcomers).map f = es.map f := by
  induction es generalizing newcomers with
  | nil => rfl
  | cons q es ih => rw [adopt, List.map_cons, List.map_cons, ih, Entity.adopting, hf]

lemma naming_eq_of_map {es es' : List Entity}
    (h : es.map (fun e => (e.id, e.parent)) = es'.map fun e => (e.id, e.parent)) (parent : String) :
    naming es parent = naming es' parent := by
  have hnaming : ∀ es : List Entity, naming es parent =
      ((es.map fun e => (e.id, e.parent)).filter fun x => x.2 = some parent).map (·.1) := by
    intro es
    rw [List.filter_map, List.map_map]
    rfl
  rw [hnaming, hnaming, h]

lemma adopt_snoc_of_none {e : Entity} (hp : e.parent = none) : adopt es (newcomers ++ [e]) = adopt es newcomers := by
  induction es generalizing newcomers with
  | nil => rfl
  | cons q es ih =>
    rw [adopt, adopt, adopting_snoc, List.filter_append]
    simp [hp, ih]

lemma adopt_snoc {e : Entity} {up : String} (hp : e.parent = some up) :
    adopt es (newcomers ++ [e]) = World.updateFirst up (World.addChild e.id) (adopt es newcomers) := by
  induction es generalizing newcomers with
  | nil => rfl
  | cons q es ih =>
    rw [adopt, adopt, World.updateFirst, adopting_snoc, List.filter_append]
    by_cases hq : q.id = up
    · subst hq
      simp [hp, Entity.adopting]
    · have hne : e.parent ≠ some q.id := fun h => hq (Option.some.inj (hp.symm.trans h)).symm
      simp [hq, hne, ih, Entity.adopting]

lemma map_adopting_filter {p : Entity} (h : ∀ q ∈ es, q.id ≠ p.id) :
    es.map (Entity.adopting (newcomers.filter (·.parent ≠ some p.id))) = es.map (Entity.adopting newcomers) := by
  refine List.map_congr_left fun q hq => ?_
  rw [Entity.adopting, Entity.adopting, naming_filter (h q hq).symm]

lemma adopt_eq_map (hn : (es.map (·.id)).Nodup) : adopt es newcomers = es.map (Entity.adopting newcomers) := by
  induction es generalizing newcomers with
  | nil => rfl
  | cons p es ih =>
    obtain ⟨hp, hn⟩ := List.nodup_cons.mp hn
    have hne : ∀ q ∈ es, q.id ≠ p.id := fun q hq he => hp (List.mem_map.mpr ⟨q, hq, he⟩)
    rw [adopt, ih hn, map_adopting_filter hne, List.map_cons]

lemma adopt_append {es' : List Entity} (hn : (es'.map (·.id)).Nodup) (h : ∀ q ∈ es', q.id ∉ es.map (·.id)) :
    adopt (es ++ es') newcomers = adopt es newcomers ++ es'.map (Entity.adopting newcomers) := by
  induction es generalizing newcomers with
  | nil => exact adopt_eq_map hn
  | cons p es ih =>
    simp only [List.map_cons, List.mem_cons, not_or] at h
    rw [List.cons_append, adopt, adopt, List.cons_append, ih fun q hq => (h q hq).2,
      map_adopting_filter fun q hq => (h q hq).1]

namespace World

def placed (w : World) (e : Entity) : Entity := { e with children := w.childrenOf e.id }

lemma entities_foldl_link (hn : (batch.map (·.id)).Nodup) (hfresh : ∀ e ∈ batch, e.id ∉ w.entityIds)
    (hself : ∀ e ∈ batch, e.parent ≠ some e.id) :
    (batch.foldl link w).entities = adopt (w.entities ++ batch.map w.placed) batch := by
  induction batch using List.reverseRecOn with
  | nil => simp [adopt_nil]
  | append_singleton batch e ih =>
    simp only [List.mem_append, List.mem_singleton, or_imp, forall_and, forall_eq] at hfresh hself
    rw [List.map_append, List.nodup_append] at hn
    have ih := ih hn.1 hfresh.1 hself.1
    set v := batch.foldl link w
    have hmap : ∀ {α : Type} {f : Entity → α}, (∀ q cs, f { q with children := cs } = f q) →
        v.entities.map f = (w.entities ++ batch).map f := by
      intro α f hf
      rw [ih, map_adopt hf, List.map_append, List.map_append, List.map_map]
      congr 1
      exact List.map_congr_left fun e _ => hf e _
    have henter : (v.enter e).entities = adopt (w.entities ++ batch.map w.placed) (batch ++ [e]) := by
      cases hp : e.parent with
      | none => rw [adopt_snoc_of_none hp, ← ih, enter, hp]
      | some up => simp only [adopt_snoc hp, ← ih, enter, hp, updateEntity]
    have hchildren : v.childrenOf e.id = w.childrenOf e.id ++ naming (batch ++ [e]) e.id := by
      change naming v.entities e.id = naming w.entities e.id ++ _
      rw [naming_eq_of_map (hmap fun _ _ => rfl), naming_append, naming_append batch]
      simp [naming, hself.2]
    have hid : ∀ q ∈ [w.placed e], q.id ∉ (w.entities ++ batch.map w.placed).map (·.id) := by
      intro q hq
      obtain rfl := List.mem_singleton.mp hq
      rw [List.map_append, map_id_of_keeps (f := w.placed) (fun _ => rfl), List.mem_append, not_or]
      exact ⟨hfresh.2, fun hb => hn.2.2 _ hb _ (List.mem_singleton_self _) rfl⟩
    have hone : ([w.placed e].map (·.id)).Nodup := List.nodup_singleton _
    rw [List.foldl_append, List.foldl_cons, List.foldl_nil, link_eq, henter, List.map_append, ← List.append_assoc,
      List.map_singleton, adopt_append hone hid, List.map_singleton, hchildren]
    rfl

end World

structure Entity.Alike (a b : Entity) : Prop where
  same : { a with children := b.children } = b
  children : a.children.Perm b.children

/-- Worlds that differ in the order of their entities and of the children of each alone. -/
structure World.Alike (v w : World) : Prop where
  same : { v with entities := w.entities } = w
  entities : ∃ es, List.Forall₂ Entity.Alike v.entities es ∧ es.Perm w.entities

section Orders

variable {other : List Entity}

lemma naming_perm (h : newcomers.Perm other) (parent : String) :
    (naming newcomers parent).Perm (naming other parent) :=
  (h.filter _).map _

lemma alike_adopting (h : newcomers.Perm other) (q : Entity) : (q.adopting newcomers).Alike (q.adopting other) :=
  ⟨rfl, (naming_perm h q.id).append_left _⟩

lemma alike_adopt (h : newcomers.Perm other) : List.Forall₂ Entity.Alike (adopt es newcomers) (adopt es other) := by
  induction es generalizing newcomers other with
  | nil => exact .nil
  | cons q es ih => exact .cons (alike_adopting h q) (ih (h.filter _))

lemma alike_map_adopting (h : newcomers.Perm other) :
    List.Forall₂ Entity.Alike (es.map (Entity.adopting newcomers)) (es.map (Entity.adopting other)) := by
  rw [List.forall₂_map_left_iff, List.forall₂_map_right_iff]
  exact List.forall₂_same.mpr fun q _ => alike_adopting h q

lemma alike_foldl_link (h : batch.Perm other) (hn : (batch.map (·.id)).Nodup)
    (hfresh : ∀ e ∈ batch, e.id ∉ w.entityIds) (hself : ∀ e ∈ batch, e.parent ≠ some e.id) :
    (batch.foldl World.link w).Alike (other.foldl World.link w) := by
  constructor
  · rw [World.foldl_link_eq w other, World.foldl_link_eq w batch]
  · have hn' := (h.map (·.id)).nodup_iff.mp hn
    have hsplit : ∀ {es : List Entity}, (es.map (·.id)).Nodup → (∀ e ∈ es, e.id ∉ w.entityIds) →
        (∀ e ∈ es, e.parent ≠ some e.id) → (es.foldl World.link w).entities =
          adopt w.entities es ++ (es.map w.placed).map (Entity.adopting es) := by
      intro es hn hfresh hself
      rw [World.entities_foldl_link hn hfresh hself, adopt_append]
      · rwa [World.map_id_of_keeps (f := w.placed) fun _ => rfl]
      · intro q hq
        obtain ⟨e, he, rfl⟩ := List.mem_map.mp hq
        exact hfresh e he
    rw [hsplit hn hfresh hself, hsplit hn' (fun e he => hfresh e (h.mem_iff.mpr he))
      fun e he => hself e (h.mem_iff.mpr he)]
    refine ⟨adopt w.entities other ++ (batch.map w.placed).map (Entity.adopting other), ?_, ?_⟩
    · exact List.rel_append (alike_adopt h) (alike_map_adopting h)
    · exact ((h.map w.placed).map _).append_left _

end Orders

end Diorama
