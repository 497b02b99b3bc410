import Diorama.Proofs.Validation.Soundness

namespace Diorama

namespace Rule

lemma code_of_mem_flag {c : Bool} {subject : Option String} {field about : String} {x : Scalar} :
    ∀ i ∈ flag c subject field about x, i.code = .outOfRange := by
  unfold flag
  split <;> simp [outOfRange]

lemma code_of_mem_colorRange {subject : Option String} {field : String} {c : Color} :
    ∀ i ∈ colorRange subject field c, i.code = .outOfRange := by
  unfold colorRange
  split <;> simp [outOfRange]

lemma code_of_mem_lightRanges (l : Light) : ∀ i ∈ lightRanges l, i.code = .outOfRange := by
  simp only [lightRanges, List.forall_mem_append, List.forall_mem_flatMap]
  refine ⟨⟨⟨?_, fun _ _ => code_of_mem_flag⟩, fun _ _ => code_of_mem_flag⟩, code_of_mem_colorRange⟩
  split_ifs
  · exact code_of_mem_flag
  · simp
  · simp

lemma code_of_mem_entityRanges (e : Entity) : ∀ i ∈ entityRanges e, i.code = .outOfRange := by
  simp only [entityRanges, materialRanges, physicsRanges, List.forall_mem_append, List.forall_mem_flatMap]
  refine ⟨fun m _ => ⟨⟨⟨⟨?_, ?_⟩, ?_⟩, ?_⟩, fun _ _ => ?_⟩, fun p _ x _ => ?_⟩
  · exact code_of_mem_flag
  · exact code_of_mem_flag
  · exact code_of_mem_flag
  · exact code_of_mem_colorRange
  · exact code_of_mem_colorRange
  · exact code_of_mem_flag

lemma code_of_mem_environmentRanges (v : Environment) : ∀ i ∈ environmentRanges v, i.code = .outOfRange := by
  simp only [environmentRanges, List.forall_mem_append]
  refine ⟨⟨⟨⟨⟨?_, ?_⟩, ?_⟩, ?_⟩, ?_⟩, ?_⟩
  · exact code_of_mem_flag
  · split <;> simp [outOfRange]
  · split <;> simp [outOfRange]
  · exact code_of_mem_colorRange
  · exact code_of_mem_colorRange
  · exact code_of_mem_colorRange

lemma code_of_mem_numericRanges (w : World) : ∀ i ∈ numericRanges w, i.code = .outOfRange := by
  simp only [numericRanges, List.forall_mem_append, List.forall_mem_flatMap]
  exact ⟨⟨fun l _ => code_of_mem_lightRanges l, fun e _ => code_of_mem_entityRanges e⟩,
    code_of_mem_environmentRanges _⟩

lemma code_of_mem_systemReferences (w : World) : ∀ i ∈ systemReferences w, i.code = .danglingReference := by
  simp only [systemReferences, List.forall_mem_flatMap]
  intro m _ i hi
  obtain ⟨⟨x, index⟩, _, hi⟩ := List.mem_filterMap.mp hi
  obtain ⟨target, _, hi⟩ := Option.bind_eq_some_iff.mp hi
  split at hi
  · cases hi
  · rw [← Option.some.inj hi]
    rfl

lemma version_of_mem_requiredFields {w : World} (htitle : Text.Visible w.metadata.title)
    (hids : ∀ id ∈ w.ids, Text.Visible id) (hnames : ∀ e ∈ w.entities, Text.Visible e.name) {i : Issue}
    (hi : i ∈ requiredFields w) (he : i.isError = true) :
    i.code = .missingField ∧ i.field = some "metadata.version" := by
  rw [← map_fst_namedParts, List.forall_mem_map] at hids
  simp only [← Text.not_isBlankText_iff] at htitle hids hnames
  rw [requiredFields, List.filter_eq_nil_iff.mpr hids, List.filter_eq_nil_iff.mpr hnames, if_neg htitle] at hi
  simp only [List.map_nil, List.nil_append, List.append_nil, List.mem_append] at hi
  rcases hi with hi | hi
  · split at hi
    · rw [List.mem_singleton.mp hi]
      exact ⟨rfl, rfl⟩
    · cases hi
  · split at hi
    · rw [List.mem_singleton.mp hi] at he
      cases he
    · cases hi

end Rule

open Rule

lemma World.Consistent.errors {w : World} (h : w.Consistent) (htitle : Text.Visible w.metadata.title)
    (hids : ∀ id ∈ w.ids, Text.Visible id) (hnames : ∀ e ∈ w.entities, Text.Visible e.name) {i : Issue}
    (hi : i ∈ (Validator.standard.validate w).issues) (he : i.isError = true) :
    i.code = .outOfRange ∨ i.code = .danglingReference ∨
      i.code = .missingField ∧ i.field = some "metadata.version" := by
  have hn := nodup_entityIds h.distinct
  have hclean : ∀ {issues : List Issue}, Clean issues → i ∉ issues := by
    intro issues hc hi
    rw [hc i hi] at he
    cases he
  rw [issues_standard] at hi
  simp only [List.mem_append, List.not_mem_nil, or_false] at hi
  rcases hi with hi | hi | hi | hi | hi | hi | hi | hi
  · exact (hclean (clean_uniqueIds.mpr h.distinct) hi).elim
  · exact (hclean ((clean_parentReferences hn).mpr ⟨h.rooted, h.acyclic, h.mirrored⟩) hi).elim
  · exact Or.inr (Or.inr (version_of_mem_requiredFields htitle hids hnames hi he))
  · exact Or.inl (code_of_mem_numericRanges w i hi)
  · exact Or.inr (Or.inl (code_of_mem_systemReferences w i hi))
  · exact (hclean (clean_physicsSettings w) hi).elim
  · exact (hclean (clean_boundsConsistency w) hi).elim
  · exact (hclean (clean_collisions w) hi).elim

end Diorama
