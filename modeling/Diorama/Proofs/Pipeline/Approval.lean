import Diorama.Proofs.Pipeline.Passes
import Diorama.Proofs.Validation.Clean
import Diorama.Validation.Default

namespace Diorama

def Verdict.Suffices (v : Verdict) (least : Option UInt8) : Prop :=
  v.approved = true ∧
    ∀ bound, least = some bound → ∃ score, v.score = some score ∧ Scalar.ofInt bound.toNat ≤ score

lemma Verdict.suffices_iff {v : Verdict} {least : Option UInt8} :
    (v.approved && v.reaches least) = true ↔ v.Suffices least := by
  simp only [Suffices, reaches, Bool.and_eq_true, Option.all_eq_true, Option.any_eq_true, decide_eq_true_eq]

lemma Rule.check_of_clean {r : Rule} {w : World} (h : Clean (r.findings w)) : ∃ issues, r.check w = .ok issues := by
  cases hc : r.check w with
  | ok issues => exact ⟨issues, rfl⟩
  | error failure =>
    simp only [findings, hc] at h
    cases (Clean.cons_iff.mp h).1

namespace RunState

variable {setting : RunSetting} {start s : RunState}

def Accepted (setting : RunSetting) (s : RunState) (w : World) : Prop :=
  (∃ e, setting.generator (s.presented setting w).requests = .error e) ∨
    ∃ answer, setting.generator (s.presented setting w).requests = .ok answer ∧
      ((∃ e, (decodeAnswer answer : Except WorldError Verdict) = .error e) ∨
        ∃ verdict : Verdict, decodeAnswer answer = .ok verdict ∧ verdict.Suffices setting.leastScore)

lemma accepted_iff {w : World} : ((s.judged setting w).toOption.all fun v =>
    v.approved && v.reaches setting.leastScore) = true ↔ s.Accepted setting w := by
  unfold judged Accepted
  cases setting.generator (s.presented setting w).requests with
  | error e => simp [decoded, Except.toOption]
  | ok answer =>
    cases hd : (decodeAnswer answer : Except WorldError Verdict) with
    | error e => simp [decoded, hd, Except.mapError, Except.toOption]
    | ok verdict => simp [decoded, hd, Except.mapError, Except.toOption, Verdict.suffices_iff, -Bool.and_eq_true]

lemma decides_iff {w : World} :
    s.decides setting w = true ↔ (setting.validator.validate w).isValid = true ∧ s.Accepted setting w := by
  rw [decides, isApproved, Bool.and_eq_true, accepted_iff]
  rfl

lemma record_review (setting : RunSetting) (s : RunState) : ∃ record,
    (s.review setting).1.contract.review = some record ∧ record.approved = (s.review setting).2 := by
  cases h : s.contract.candidate with
  | none =>
    rw [review_of_none _ _ h]
    exact ⟨_, rfl, rfl⟩
  | some w =>
    rw [review_of_some _ _ h]
    exact ⟨_, rfl, rfl⟩

lemma approves_iff {i : Nat} : start.approves setting i = true ↔ ∃ w, start.candidate setting i = some w ∧
    (setting.validator.validate w).isValid = true ∧
      ((start.opening setting i).prepared setting).Accepted setting w := by
  rw [approves, pass_eq]
  cases h : ((start.opening setting i).prepared setting).contract.candidate with
  | none =>
    rw [review_of_none _ _ h]
    simp [candidate, h]
  | some w =>
    rw [review_of_some _ _ h]
    simp [candidate, h, decides_iff]

variable (setting start) in
lemma record_closing (i : Nat) : ∃ record,
    (start.closing setting i).contract.review = some record ∧ record.approved = start.approves setting i :=
  record_review setting ((start.opening setting i).prepared setting)

end RunState

open RunState

structure RunTrace.Justified (t : RunTrace) (setting : RunSetting) (start : RunState) (last : Nat) : Prop where
  approved : ∀ o, t.result = .ok o → o.completion = .approved →
    start.candidate setting last = some o.world ∧
    (∀ i ∈ (setting.validator.validate o.world).issues, i.isError = false) ∧
    (∀ r ∈ setting.validator.rules, ∃ issues, r.check o.world = .ok issues) ∧
    (∃ record, o.contract.review = some record ∧ record.approved = true) ∧
    ((start.opening setting last).prepared setting).Accepted setting o.world
  stops : ∀ i ≤ last, ∀ w, start.candidate setting i = some w →
    (setting.validator.validate w).isValid = true →
    ((start.opening setting i).prepared setting).Accepted setting w →
    i = last ∧ ∃ o, t.result = .ok o ∧ o.completion = .approved ∧ o.world = w
  exhausted : ∀ o, t.result = .ok o → o.completion = .exhausted →
    ∃ record, o.contract.review = some record ∧ record.approved = false

theorem run_justified (c : Config) (g : Generator) (v : Validator) (fresh : Nat → Nat → String)
    (prompt : String) (h : c.problem? = none) : ∃ last, (c.start prompt).EndsWith (c.setting g v fresh) last ∧
      (c.run g v fresh prompt).Justified (c.setting g v fresh) (c.start prompt) last := by
  obtain ⟨last, hlast⟩ := Config.exists_endsWith h g v fresh prompt
  refine ⟨last, hlast, ?_⟩
  rw [Config.run_eq h]
  obtain ⟨record, hrecord, happroved⟩ := record_closing (c.setting g v fresh) (c.start prompt) last
  refine ⟨fun o ho hcompletion => ?_, fun i hi w hw hvalid haccepted => ?_, fun o ho hcompletion => ?_⟩
  · obtain ⟨hworld, hc, hcontract⟩ := outcome_eq_ok_iff.mp ho
    have ha := hlast.completion_passes.mp (hc.symm.trans hcompletion)
    rw [hlast.of_approved ha] at hworld hcontract
    obtain ⟨w, hw, hvalid, haccepted⟩ := approves_iff.mp ha
    rw [candidate_closing, hw] at hworld
    obtain rfl := Option.some.inj hworld
    have hclean := (Clean.isValid_iff _).mp hvalid
    refine ⟨hw, hclean, fun r hr => ?_, ⟨record, hcontract ▸ hrecord, happroved.trans ha⟩, haccepted⟩
    exact Rule.check_of_clean (Clean.flatMap_iff.mp hclean r hr)
  · have ha : (c.start prompt).approves (c.setting g v fresh) i = true :=
      approves_iff.mpr ⟨w, hw, hvalid, haccepted⟩
    obtain rfl := hlast.eq_of_approves hi ha
    rw [hlast.of_approved ha]
    exact ⟨rfl, _, outcome_of_some ((candidate_closing i).trans hw) _, rfl, rfl⟩
  · obtain ⟨_, hc, hcontract⟩ := outcome_eq_ok_iff.mp ho
    have ha : (c.start prompt).approves (c.setting g v fresh) last = false := by
      cases ha : (c.start prompt).approves (c.setting g v fresh) last with
      | true =>
        rw [hc, hlast.completion_passes.mpr ha] at hcompletion
        cases hcompletion
      | false => rfl
    rw [hlast.of_rejected ha] at hcontract
    exact ⟨record, hcontract ▸ hrecord, happroved.trans ha⟩

theorem run_justified_apprentice : apprenticeship.problem? = none ∧
    ((apprenticeship.run apprentice .standard (FreshId.fromStart 0) "a room").result.toOption.map fun o =>
      (o.completion, o.passCount, o.world.lights.map (·.id))) = some (.approved, 2, ["lamp"]) ∧
    ∃ last, (apprenticeship.start "a room").EndsWith
        (apprenticeship.setting apprentice .standard (FreshId.fromStart 0)) last ∧
      (apprenticeship.run apprentice .standard (FreshId.fromStart 0) "a room").Justified
        (apprenticeship.setting apprentice .standard (FreshId.fromStart 0)) (apprenticeship.start "a room") last :=
  ⟨by decide, by decide +kernel,
    run_justified apprenticeship apprentice .standard (FreshId.fromStart 0) "a room" (by decide)⟩

end Diorama
