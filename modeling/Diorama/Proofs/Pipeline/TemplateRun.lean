import Diorama.Proofs.Pipeline.Approval
import Diorama.Proofs.Pipeline.Calls
import Diorama.Proofs.Pipeline.TemplateSpots
import Diorama.Proofs.Pipeline.TemplateWorld
import Diorama.Proofs.Scalar.Arithmetic

/-! Runs with the template. Every pass is answered in the same way, so no stage of it fails and its world has no errors,
and the score of the template alone decides whether the first pass is approved or none is. -/

namespace Diorama

lemma Scalar.ofInt_le_eighty_iff {least : UInt8} : ofInt least.toNat ≤ ofInt 80 ↔ least ≤ 80 := by
  rw [UInt8.le_iff_toNat_le]
  change ofInt least.toNat ≤ ofInt 80 ↔ least.toNat ≤ 80
  have hnext : ¬ofInt 81 ≤ ofInt 80 := by decide
  constructor
  · intro hle
    by_contra h
    exact hnext (le_trans (ofInt_mono (by omega)) hle)
  · exact fun h => ofInt_mono (by omega)

open Template

lemma Template.suffices_verdict_iff {least : Option UInt8} :
    verdict.Suffices least ↔ ∀ bound, least = some bound → bound ≤ 80 := by
  have hscore : verdict.score = some (Scalar.ofInt 80) := rfl
  simp only [Verdict.Suffices, hscore, Option.some.injEq, exists_eq_left', Scalar.ofInt_le_eighty_iff]
  exact and_iff_right rfl

namespace RunState

variable {places : List Vec3} {prompt : String} {s : RunState} {setting : RunSetting}

lemma generatorAt_asked (places : List Vec3) (s : RunState) (stage : Stage) (structural : Option String) :
    generatorAt places (s.asked stage structural).requests = .ok (answerAt places stage s.contract.prompt) := by
  simp [generatorAt, asked, request]

lemma stage_eq_merge {α : Type} [JsonForm α] {stage : Stage} {toDelta : α → Except String Delta} {a : α} {d : Delta}
    (ha : decodeAnswer (answerAt places stage s.contract.prompt) = .ok a) (hd : toDelta a = .ok d) :
    s.stage (generatorAt places) stage toDelta = (s.asked stage none).merge d := by
  rw [stage_eq, generatorAt_asked, decoded, ha]
  simp [Except.mapError, Except.bind, hd, result]

structure OnCourse (prompt : String) (s : RunState) : Prop where
  prompt : s.contract.prompt = prompt
  errors : s.contract.errors = []

lemma OnCourse.merge_asked (h : s.OnCourse prompt) (stage : Stage) (structural : Option String) {d : Delta}
    (hd : d.error? = none) : ((s.asked stage structural).merge d).OnCourse prompt := by
  obtain ⟨hprompt, herrors⟩ := h
  cases d with
  | failed failure => cases hd
  | _ => exact ⟨hprompt, herrors⟩

lemma OnCourse.design (h : s.OnCourse prompt) (places : List Vec3) : (s.design (generatorAt places)).OnCourse prompt ∧
    (s.design (generatorAt places)).contract.vision = some (Cues.ofPrompt prompt).design := by
  have hvision : decodeAnswer (answerAt places .vision s.contract.prompt) = .ok (Cues.ofPrompt prompt).design := by
    rw [h.prompt]
    exact decode_vision places prompt
  have henvisioned := h.merge_asked .vision none (d := .vision (Cues.ofPrompt prompt).design) rfl
  obtain ⟨systems, hsystems⟩ := decode_systems
  have hsystematic := henvisioned.merge_asked .systems none (d := .systems systems) rfl
  obtain ⟨technical, htechnical⟩ := decode_technical
  have hdesigned := hsystematic.merge_asked .technical none (d := .technical technical) rfl
  rw [RunState.design, stage_eq_merge hvision rfl, stage_eq_merge (hsystems _ _) rfl,
    stage_eq_merge (htechnical _ _) rfl]
  exact ⟨hdesigned, rfl⟩

structure Templated (places : List Vec3) (setting : RunSetting) : Prop where
  finite : ∀ place ∈ places, place.isFinite = true
  generator : setting.generator = generatorAt places
  validator : setting.validator = .standard
  fresh : ∃ serials : Nat → Nat → Nat, setting.fresh = fun pass part => FreshId.text (serials pass part)

variable (ht : Templated places setting)

include ht

lemma OnCourse.drafted (h : s.OnCourse prompt) (hvision : s.contract.vision = some (Cues.ofPrompt prompt).design) :
    ∃ w, s.drafted setting = .ok w ∧ w.Sound := by
  obtain ⟨serials, hfresh⟩ := ht.fresh
  have hc := Cues.known_ofPrompt prompt
  have hdraft := decode_synthesis prompt ht.finite
  generalize Cues.ofPrompt prompt = c at hvision hc hdraft
  obtain ⟨w, hw, hsound⟩ := exists_sound_world (serials s.contract.iteration.toNat) prompt hc places
  refine ⟨w, ?_, hsound⟩
  rw [RunState.drafted, ht.generator, generatorAt_asked, h.prompt, decoded, hdraft, hfresh, hvision]
  exact congrArg (Except.mapError fun e => e.message) hw

lemma OnCourse.prepared (h : s.OnCourse prompt) : (s.prepared setting).OnCourse prompt ∧
    ∃ w, (s.prepared setting).contract.candidate = some w ∧ w.Sound := by
  obtain ⟨hdesigned, hvision⟩ := h.design places
  obtain ⟨w, hw, hsound⟩ := hdesigned.drafted ht hvision
  have hmerged := hdesigned.merge_asked .synthesis none (d := .synthesis w) rfl
  rw [RunState.prepared, ht.generator, synthesize_eq, hw]
  exact ⟨hmerged, w, rfl, hsound⟩

lemma judged_eq (s : RunState) (w : World) : s.judged setting w = .ok verdict := by
  rw [judged, presented, ht.generator, generatorAt_asked, decoded, decode_review]
  rfl

lemma decides_template_iff (s : RunState) {w : World} (hw : w.Sound) :
    s.decides setting w = true ↔ ∀ bound, setting.leastScore = some bound → bound ≤ 80 := by
  have hvalid : (StructuralReview.of w setting.validator).report.isValid = true := by
    rw [ht.validator]
    exact (Clean.isValid_iff _).mpr (World.sound_iff.mp hw)
  rw [decides, judged_eq ht, isApproved, Bool.and_eq_true, ← suffices_verdict_iff, ← Verdict.suffices_iff]
  exact and_iff_right hvalid

lemma OnCourse.pass (h : s.OnCourse prompt) : (s.pass setting).1.OnCourse prompt ∧
    (∃ w, (s.pass setting).1.contract.candidate = some w ∧ w.Sound) ∧
      ((s.pass setting).2 = true ↔ ∀ bound, setting.leastScore = some bound → bound ≤ 80) := by
  obtain ⟨hprepared, w, hw, hsound⟩ := h.prepared ht
  have hcandidate : (s.pass setting).1.contract.candidate = some w := (candidate_review setting _).trans hw
  refine ⟨?_, ⟨w, hcandidate, hsound⟩, ?_⟩
  · rw [pass_eq, review_of_some _ _ hw, heard, judged_eq ht]
    exact hprepared.merge_asked .review _ rfl
  · rw [pass_eq, review_of_some _ _ hw]
    exact decides_template_iff ht _ hsound

variable {start : RunState}

lemma OnCourse.opening (h : start.OnCourse prompt) (i : Nat) : (start.opening setting i).OnCourse prompt := by
  induction i with
  | zero => exact h
  | succ i ih =>
    obtain ⟨hprompt, herrors⟩ := (ih.pass ht).1
    exact ⟨hprompt, herrors⟩

end RunState

structure Outcome.Furnished (o : Outcome) (c : Config) : Prop where
  faultless : ∀ i ∈ (Validator.standard.validate o.world).issues, i.isError = false
  errors : o.contract.errors = []
  approved : (∀ least, c.minApprovalScore = some least → least ≤ 80) →
    o.completion = .approved ∧ o.contract.iteration = 0
  exhausted : ∀ least, c.minApprovalScore = some least → 80 < least →
    o.completion = .exhausted ∧ o.contract.iteration = c.maxIterations

open RunState

lemma exists_furnished {c : Config} (h : c.problem? = none) {g : Generator} {v : Validator}
    {fresh : Nat → Nat → String} {places : List Vec3} (ht : Templated places (c.setting g v fresh)) (prompt : String) :
    ∃ o, (c.run g v fresh prompt).result = .ok o ∧ o.Furnished c := by
  have hstart : (c.start prompt).OnCourse prompt := ⟨rfl, rfl⟩
  have hpass := fun i => (hstart.opening ht i).pass ht
  obtain ⟨last, hlast⟩ : ∃ last, (c.start prompt).EndsWith (c.setting g v fresh) last :=
    Config.exists_endsWith h _ _ _ prompt
  rw [Config.run_eq h]
  change ∃ o, ((c.start prompt).passes _).1.outcome ((c.start prompt).passes _).2 = .ok o ∧ _
  obtain ⟨hclosed, ⟨w, hw, hsound⟩, hcontent⟩ := hpass last
  have hclean := World.sound_iff.mp hsound
  cases ha : (c.start prompt).approves (c.setting g v fresh) last with
  | true =>
    have hreached := hcontent.mp ha
    obtain rfl := hlast.eq_of_approves (Nat.zero_le last) ((hpass 0).2.2.mpr hreached)
    rw [hlast.of_approved ha]
    refine ⟨_, outcome_of_some hw _, hclean, hclosed.errors, fun _ => ⟨rfl, ?_⟩, fun least hleast hlt => ?_⟩
    · exact iteration_closing 0
    · exact absurd (hreached least hleast) (UInt8.not_le.mpr hlt)
  | false =>
    have hspent := (hlast.iteration_of_rejected rfl ha).2
    have hrevised : ((c.start prompt).opening (c.setting g v fresh) (last + 1)).contract.candidate = some w := hw
    rw [hlast.of_rejected ha] at hspent ⊢
    refine ⟨_, outcome_of_some hrevised _, hclean, hclosed.errors, fun hreached => ?_, fun _ _ _ => ⟨rfl, hspent⟩⟩
    have happroved : (c.start prompt).approves _ last = true := hcontent.mpr hreached
    rw [ha] at happroved
    cases happroved

/-- The landmarks of the template may stand at any finite places, and there may be none. -/
theorem run_furnishes (c : Config) (prompt : String) (places : List Vec3) (serials : Nat → Nat → Nat)
    (h : c.problem? = none) (hplaces : ∀ place ∈ places, place.isFinite = true) :
    ∃ o, (c.run (generatorAt places) .standard (fun pass part => FreshId.text (serials pass part)) prompt).result =
      .ok o ∧ o.Furnished c :=
  exists_furnished h ⟨hplaces, rfl, rfl, serials, rfl⟩ prompt

theorem run_furnishes_garden : Config.problem? { minApprovalScore := some 90 } = none ∧
    (∀ place ∈ [(⟨7, 0.5, 0⟩ : Vec3), ⟨0, 0.5, -7⟩], place.isFinite = true) ∧
      ∃ o, (Config.run { minApprovalScore := some 90 } (generatorAt [⟨7, 0.5, 0⟩, ⟨0, 0.5, -7⟩]) .standard
        (fun pass part => FreshId.text (1000 * pass + part)) "a foggy garden").result = .ok o ∧
          o.Furnished { minApprovalScore := some 90 } :=
  ⟨by decide, by decide, run_furnishes { minApprovalScore := some 90 } "a foggy garden" [⟨7, 0.5, 0⟩, ⟨0, 0.5, -7⟩]
    (fun pass part => 1000 * pass + part) (by decide) (by decide)⟩

/-- The places of the search are finite, so the template itself is a generator of that kind. -/
theorem run_template_furnishes {c : Config} (h : c.problem? = none) (hturns : TurnsWithinUnit) (prompt : String)
    (serials : Nat → Nat → Nat) :
    ∃ o, (c.run generator .standard (fun pass part => FreshId.text (serials pass part)) prompt).result = .ok o ∧
      o.Furnished c :=
  exists_furnished h ⟨isFinite_of_mem_spots hturns, rfl, rfl, serials, rfl⟩ prompt

end Diorama
