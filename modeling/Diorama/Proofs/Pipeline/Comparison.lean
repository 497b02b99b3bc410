import Diorama.Proofs.Pipeline.Approval
import Diorama.Proofs.Scalar.Arithmetic

/-! Two runs of one generator under two configurations. Until one of them ends they are in the same state but for
the limit of passes, which no request tells. So the run that ends first has made the first requests of the other. -/

namespace Diorama

def RunSetting.requiring (setting : RunSetting) (least : Option UInt8) : RunSetting :=
  { setting with leastScore := least }

def Lenient (mild strict : Option UInt8) : Prop :=
  ∀ score, mild = some score → ∃ bound, strict = some bound ∧ score ≤ bound

lemma Lenient.refl (least : Option UInt8) : Lenient least least :=
  fun score h => ⟨score, h, UInt8.le_refl score⟩

lemma Verdict.Suffices.of_lenient {v : Verdict} {mild strict : Option UInt8} (h : v.Suffices strict)
    (hl : Lenient mild strict) : v.Suffices mild := by
  refine ⟨h.1, fun score hs => ?_⟩
  obtain ⟨bound, hb, hle⟩ := hl score hs
  obtain ⟨given, hg, hreached⟩ := h.2 bound hb
  have hscore := Scalar.ofInt_mono (Int.ofNat_le.mpr (UInt8.le_iff_toNat_le.mp hle))
  exact ⟨given, hg, Scalar.le_trans hscore hreached⟩

namespace RunState

def within (s : RunState) (limit : UInt32) : RunState :=
  { s with contract := { s.contract with maxIterations := limit } }

variable (setting : RunSetting) (least : Option UInt8) (s : RunState) (limit : UInt32)

lemma merge_within (d : Delta) : (s.within limit).merge d = (s.merge d).within limit := by
  cases d <;> rfl

lemma request_within (stage : Stage) (structural : Option String) :
    (s.within limit).request stage structural = s.request stage structural := by
  cases stage <;> rfl

lemma asked_within (stage : Stage) (structural : Option String) :
    (s.within limit).asked stage structural = (s.asked stage structural).within limit := by
  rw [asked, request_within]
  rfl

lemma stage_within {α : Type} [JsonForm α] (g : Generator) (stage : Stage) (toDelta : α → Except String Delta) :
    (s.within limit).stage g stage toDelta = (s.stage g stage toDelta).within limit := by
  rw [stage_eq, stage_eq, asked_within, merge_within]
  rfl

lemma prepared_within :
    (s.within limit).prepared (setting.requiring least) = (s.prepared setting).within limit := by
  simp only [prepared, synthesize, design, RunSetting.requiring, stage_within]
  rfl

lemma made_within : (s.within limit).made (setting.requiring least) = s.made setting := by
  have hprepares : (s.within limit).prepares (setting.requiring least) = s.prepares setting := by
    simp only [prepares, design, request_within, stage_within]
    rfl
  simp only [made, hprepares, prepared_within, request_within]
  rfl

lemma judged_within (w : World) : (s.within limit).judged (setting.requiring least) w = s.judged setting w := by
  simp only [judged, presented, asked_within]
  rfl

lemma heard_within (w : World) :
    (s.within limit).heard (setting.requiring least) w = (s.heard setting w).within limit := by
  simp only [heard, judged_within, presented, asked_within]
  cases s.judged setting w with
  | ok v => rfl
  | error reason => exact merge_within _ limit _

variable {setting least s limit}

lemma review_within (h : ((s.within limit).review (setting.requiring least)).2 = (s.review setting).2) :
    ((s.within limit).review (setting.requiring least)).1 = (s.review setting).1.within limit := by
  cases hw : s.contract.candidate with
  | none =>
    rw [review_of_none _ _ hw, review_of_none _ (s.within limit) hw]
    exact merge_within _ _ _
  | some w =>
    rw [review_of_some _ _ hw, review_of_some _ (s.within limit) hw] at h ⊢
    have hdecides : (s.within limit).decides (setting.requiring least) w = s.decides setting w := h
    simp only [heard_within, judged_within, hdecides, merge_within]
    rfl

lemma pass_within (h : ((s.within limit).pass (setting.requiring least)).2 = (s.pass setting).2) :
    ((s.within limit).pass (setting.requiring least)).1 = (s.pass setting).1.within limit := by
  rw [pass_eq, pass_eq, prepared_within] at h ⊢
  exact review_within h

lemma revise_within (h : s.contract.iteration < s.contract.maxIterations) (hlimit : s.contract.iteration < limit) :
    (s.within limit).revise = s.revise.within limit := by
  have hwithin : (s.within limit).contract.iteration < (s.within limit).contract.maxIterations := hlimit
  have hiteration : (s.within limit).contract.revise.iteration = s.contract.revise.iteration := by
    rw [← UInt32.toNat_inj, Contract.toNat_iteration_revise_of_lt h, Contract.toNat_iteration_revise_of_lt hwithin]
    rfl
  have hrevise : (s.within limit).contract.revise =
      { (s.within limit).contract with iteration := (s.within limit).contract.revise.iteration } := rfl
  rw [revise, hrevise, hiteration]
  rfl

section Openings

variable {start : RunState} {i : Nat}

lemma opening_within
    (hdecided : ∀ j < i, (start.within limit).approves (setting.requiring least) j = start.approves setting j)
    (hmax : start.contract.iteration.toNat + i ≤ start.contract.maxIterations.toNat)
    (hlimit : start.contract.iteration.toNat + i ≤ limit.toNat) :
    (start.within limit).opening (setting.requiring least) i = (start.opening setting i).within limit := by
  induction i with
  | zero => rfl
  | succ i ih =>
    have hopening := ih (fun j hj => hdecided j (Nat.lt_succ_of_lt hj)) (by omega) (by omega)
    have hpass := hdecided i (Nat.lt_succ_self i)
    rw [approves, approves, hopening] at hpass
    have hcount : (start.closing setting i).contract.iteration.toNat = start.contract.iteration.toNat + i := by
      rw [iteration_closing, toNat_iteration_opening (by omega)]
    have hspare : (start.closing setting i).contract.maxIterations = start.contract.maxIterations :=
      (counts_pass setting _).2.trans (maxIterations_opening i)
    rw [opening, opening, hopening, pass_within hpass]
    refine revise_within ?_ ?_
    · rw [UInt32.lt_iff_toNat_lt]
      change (start.closing setting i).contract.iteration.toNat < (start.closing setting i).contract.maxIterations.toNat
      rw [hcount, hspare]
      omega
    · rw [UInt32.lt_iff_toNat_lt]
      change (start.closing setting i).contract.iteration.toNat < limit.toNat
      rw [hcount]
      omega

lemma approves_of_lenient (hl : Lenient least setting.leastScore)
    (hopening : (start.within limit).opening (setting.requiring least) i = (start.opening setting i).within limit)
    (h : start.approves setting i = true) : (start.within limit).approves (setting.requiring least) i = true := by
  obtain ⟨w, hw, hvalid, haccepted⟩ := approves_iff.mp h
  refine approves_iff.mpr ⟨w, ?_, hvalid, ?_⟩
  · rw [candidate, hopening, prepared_within]
    exact hw
  · rw [hopening, prepared_within, Accepted, presented, asked_within]
    refine haccepted.imp id ?_
    rintro ⟨answer, hanswer, hread⟩
    refine ⟨answer, hanswer, hread.imp id ?_⟩
    rintro ⟨verdict, hverdict, hsuffices⟩
    exact ⟨verdict, hverdict, hsuffices.of_lenient hl⟩

variable {last last' : Nat} (h : start.EndsWith setting last)
  (h' : (start.within limit).EndsWith (setting.requiring least) last')

include h h'

namespace EndsWith

lemma opening_within (hi : i ≤ last) (hi' : i ≤ last') :
    (start.within limit).opening (setting.requiring least) i = (start.opening setting i).within limit := by
  have hbound : start.contract.iteration.toNat + last < start.contract.maxIterations.toNat := h.bounded
  have hbound' : start.contract.iteration.toNat + last' < limit.toNat := h'.bounded
  refine RunState.opening_within (fun j hj => ?_) (by omega) (by omega)
  rw [h.rejected j (by omega), h'.rejected j (by omega)]

lemma requests_prefix (hle : last ≤ last') : (start.passes setting).1.requests <+:
    ((start.within limit).passes (setting.requiring least)).1.requests := by
  rw [h.requests_passes, h'.requests_passes, requests_opening, requests_opening]
  obtain ⟨k, rfl⟩ := Nat.exists_eq_add_of_le hle
  have hsame : (List.range (last + 1)).flatMap (fun j =>
      ((start.within limit).opening (setting.requiring least) j).made (setting.requiring least)) =
      (List.range (last + 1)).flatMap fun j => (start.opening setting j).made setting := by
    refine List.flatMap_congr fun j hj => ?_
    have hj' := List.mem_range.mp hj
    rw [h.opening_within h' (by omega) (by omega), made_within]
  have hrange : List.range (last + k + 1) = List.range (last + 1) ++ (List.range k).map (last + 1 + ·) := by
    rw [← List.range_add]
    congr 1
    omega
  rw [hrange, List.flatMap_append, hsame]
  exact (List.prefix_append_right_inj start.requests).mpr (List.prefix_append _ _)

lemma last_le_of_approved (hl : Lenient least setting.leastScore) (ha : start.approves setting last = true) :
    last' ≤ last := by
  by_contra hlt
  have hrejected := h'.rejected last (by omega)
  rw [approves_of_lenient hl (h.opening_within h' (Nat.le_refl last) (by omega)) ha] at hrejected
  cases hrejected

lemma last_le_of_lenient (hl : Lenient least setting.leastScore) (hlimit : limit ≤ start.contract.maxIterations) :
    last' ≤ last := by
  cases ha : start.approves setting last with
  | true => exact h.last_le_of_approved h' hl ha
  | false =>
    have hspent := h.spent ha
    have hbound' : start.contract.iteration.toNat + last' < limit.toNat := h'.bounded
    have := UInt32.le_iff_toNat_le.mp hlimit
    omega

end EndsWith

end Openings

end RunState

open RunState

def RunTrace.passes (t : RunTrace) : Nat := t.requests.countP (·.stage = .vision)

lemma RunState.EndsWith.countP_vision {setting : RunSetting} {start : RunState} {last : Nat}
    (h : start.EndsWith setting last) (hrequests : start.requests = []) (hcount : start.contract.iteration = 0)
    (hcandidate : start.contract.candidate = none) :
    (start.passes setting).1.requests.countP (·.stage = .vision) = last + 1 := by
  have hlabel : (fun r : StageRequest => decide (r.stage = .vision)) =
      (fun p : Stage × UInt32 => decide (p.1 = .vision)) ∘ StageRequest.label := rfl
  have hschedule : ∀ iteration reviewed,
      (schedule iteration reviewed).countP (fun p => decide (p.1 = .vision)) = 1 := by
    intro iteration reviewed
    cases reviewed <;> rfl
  rw [hlabel, ← List.countP_map, h.labels_passes hrequests hcount hcandidate, List.countP_flatMap]
  simp [Function.comp_def, hschedule]

structure RunTrace.Compares (t t' : RunTrace) (c c' : Config) : Prop where
  requests : t.requests <+: t'.requests ∨ t'.requests <+: t.requests
  approved : c.minApprovalScore = c'.minApprovalScore → c.maxIterations ≤ c'.maxIterations →
    ∀ o, t.result = .ok o → o.completion = .approved → ∃ o', t'.result = .ok o' ∧ o'.completion = .approved ∧
      o'.contract.iteration = o.contract.iteration ∧ o'.world = o.world
  lenient : Lenient c'.minApprovalScore c.minApprovalScore → c'.maxIterations ≤ c.maxIterations →
    t'.passes ≤ t.passes

namespace RunState.EndsWith

variable {setting : RunSetting} {least : Option UInt8} {start : RunState} {limit : UInt32} {last last' : Nat}

lemma outcome_within (h : start.EndsWith setting last)
    (h' : (start.within limit).EndsWith (setting.requiring setting.leastScore) last')
    (hlimit : start.contract.maxIterations ≤ limit) {o : Outcome}
    (ho : (start.passes setting).1.outcome (start.passes setting).2 = .ok o) (happroved : o.completion = .approved) :
    ∃ o', ((start.within limit).passes setting).1.outcome ((start.within limit).passes setting).2 = .ok o' ∧
      o'.completion = .approved ∧ o'.contract.iteration = o.contract.iteration ∧ o'.world = o.world := by
  obtain ⟨hworld, hcompletion, hcontract⟩ := outcome_eq_ok_iff.mp ho
  have ha := h.completion_passes.mp (hcompletion.symm.trans happroved)
  -- The second run can end neither later, as the first is approved, nor earlier, as its limit is no less.
  have hlast : last' = last :=
    Nat.le_antisymm (h.last_le_of_approved h' (.refl _) ha) (h'.last_le_of_lenient h (.refl _) hlimit)
  subst hlast
  have hopening := h.opening_within h' (Nat.le_refl _) (Nat.le_refl _)
  have ha' := approves_of_lenient (.refl _) hopening ha
  have hclosing : (start.within limit).closing setting last' = (start.closing setting last').within limit := by
    rw [approves, hopening] at ha'
    exact (congrArg (fun s => (s.pass setting).1) hopening).trans (pass_within (ha'.trans ha.symm))
  rw [h.of_approved ha] at hworld hcontract
  have hpasses : (start.within limit).passes setting = ((start.closing setting last').within limit, .approved) := by
    rw [← hclosing]
    exact h'.of_approved ha'
  have hwithin : ((start.closing setting last').within limit).contract.candidate = some o.world := hworld
  rw [hpasses]
  exact ⟨_, outcome_of_some hwithin _, rfl, (congrArg Contract.iteration hcontract).symm, rfl⟩

end RunState.EndsWith

/-- That two runs draw the same generated identifiers. -/
def SameSupply (fresh fresh' : Nat → Nat → String) : Prop := ∀ pass part, fresh pass part = fresh' pass part

theorem run_compares (c c' : Config) (g : Generator) (v : Validator) (fresh fresh' : Nat → Nat → String)
    (prompt : String) (h : c.problem? = none) (h' : c'.problem? = none) (hsame : SameSupply fresh fresh') :
    (c.run g v fresh prompt).Compares (c'.run g v fresh' prompt) c c' := by
  obtain rfl : fresh = fresh' := funext fun pass => funext fun part => hsame pass part
  obtain ⟨last, hlast⟩ := Config.exists_endsWith h g v fresh prompt
  obtain ⟨last', hlast'⟩ := Config.exists_endsWith h' g v fresh prompt
  rw [Config.run_eq h, Config.run_eq h']
  refine ⟨?_, fun hleast hlimit o ho happroved => ?_, fun hl hlimit => ?_⟩
  · rcases Nat.le_total last last' with hle | hle
    · exact Or.inl (hlast.requests_prefix hlast' hle)
    · exact Or.inr (hlast'.requests_prefix hlast hle)
  · have hsetting : c'.setting g v fresh = c.setting g v fresh := by
      rw [Config.setting, ← hleast]
      rfl
    rw [hsetting] at hlast' ⊢
    exact hlast.outcome_within hlast' hlimit ho happroved
  · have hcount := hlast.countP_vision rfl rfl rfl
    have hcount' := hlast'.countP_vision rfl rfl rfl
    have hle := hlast.last_le_of_lenient hlast' hl hlimit
    simp only [RunTrace.passes, hcount, hcount']
    exact Nat.succ_le_succ hle

theorem run_compares_apprentice : apprenticeship.problem? = none ∧
    Config.problem? { maxIterations := 1, minApprovalScore := some 60 } = none ∧
    SameSupply (FreshId.fromStart 0) (FreshId.fromStart 0) ∧
    (apprenticeship.run apprentice .standard (FreshId.fromStart 0) "a room").passes = 2 ∧
    (Config.run { maxIterations := 1, minApprovalScore := some 60 } apprentice .standard (FreshId.fromStart 0)
      "a room").passes = 1 ∧
    (apprenticeship.run apprentice .standard (FreshId.fromStart 0) "a room").Compares
      (Config.run { maxIterations := 1, minApprovalScore := some 60 } apprentice .standard (FreshId.fromStart 0)
        "a room")
      apprenticeship { maxIterations := 1, minApprovalScore := some 60 } :=
  ⟨by decide, by decide, fun _ _ => rfl, by decide +kernel, by decide +kernel,
    run_compares apprenticeship { maxIterations := 1, minApprovalScore := some 60 } apprentice .standard
      (FreshId.fromStart 0) (FreshId.fromStart 0) "a room" (by decide) (by decide) fun _ _ => rfl⟩

def drafter : Generator := fun requests =>
  let stages : List Stage := requests.map (·.stage)
  let thing := Json.object [("physics", .object [("enabled", .bool true), ("mass", .integer 0)])]
  .ok <| match stages.getLast? with
    | some .synthesis => (Json.object [("entities", .array [thing])]).value
    | some .review => (Json.object [("approved", .bool true)]).value
    | _ => (Json.object []).value

/-- Each of the two runs makes up an identifier for the thing, and warns of it by that. -/
theorem run_compares_drafter : Config.problem? { maxIterations := 1 } = none ∧
    Config.problem? { maxIterations := 2 } = none ∧
    ((Config.run { maxIterations := 1 } drafter .standard (FreshId.fromStart 0) "a room").result.toOption.map
      fun o => (o.completion, o.world.entities.map (·.id))) =
        some (.approved, ["00000000-0000-4000-8000-000000000000"]) ∧
    ((Config.run { maxIterations := 2 } drafter .standard (FreshId.fromStart 7) "a room").result.toOption.map
      fun o => (o.completion, o.world.entities.map (·.id))) =
        some (.approved, ["00000000-0000-4000-8000-000000000007"]) ∧
    ¬(Config.run { maxIterations := 1 } drafter .standard (FreshId.fromStart 0) "a room").Compares
      (Config.run { maxIterations := 2 } drafter .standard (FreshId.fromStart 7) "a room")
      { maxIterations := 1 } { maxIterations := 2 } := by
  have hlength : (Config.run { maxIterations := 1 } drafter .standard (FreshId.fromStart 0) "a room").requests.length =
      (Config.run { maxIterations := 2 } drafter .standard (FreshId.fromStart 7) "a room").requests.length := by
    decide +kernel
  have hreview :
      ((Config.run { maxIterations := 1 } drafter .standard (FreshId.fromStart 0) "a room").requests.map
        (·.context))[4]? ≠
      ((Config.run { maxIterations := 2 } drafter .standard (FreshId.fromStart 7) "a room").requests.map
        (·.context))[4]? := by
    decide +kernel
  refine ⟨by decide, by decide, by decide +kernel, by decide +kernel, fun h => hreview ?_⟩
  rcases h.requests with h | h
  · rw [h.eq_of_length hlength]
  · rw [h.eq_of_length hlength.symm]

end Diorama
