import Diorama.Proofs.Pipeline.Passes

/-! What a run reports, told from its calls alone. A call is a request with the requests before it, which is all
that its answer depends on. The world and the designs of a run are those of its latest calls that gave one, and its
errors are its failed calls in order. -/

namespace Diorama

structure Call where
  earlier : List StageRequest
  request : StageRequest

def callsAfter (earlier : List StageRequest) : List StageRequest → List Call
  | [] => []
  | r :: rest => ⟨earlier, r⟩ :: callsAfter (earlier ++ [r]) rest

def calls (requests : List StageRequest) : List Call := callsAfter [] requests

def latest? {α : Type} (given : Call → Option α) (requests : List StageRequest) : Option α :=
  ((calls requests).filterMap given).getLast?

lemma callsAfter_append (earlier requests : List StageRequest) (r : StageRequest) :
    callsAfter earlier (requests ++ [r]) = callsAfter earlier requests ++ [⟨earlier ++ requests, r⟩] := by
  induction requests generalizing earlier with
  | nil => simp [callsAfter]
  | cons q rest ih => simp [callsAfter, ih]

lemma calls_append (requests : List StageRequest) (r : StageRequest) :
    calls (requests ++ [r]) = calls requests ++ [⟨requests, r⟩] := callsAfter_append [] requests r

lemma latest?_append {α : Type} (given : Call → Option α) (requests : List StageRequest) (r : StageRequest) :
    latest? given (requests ++ [r]) = (given ⟨requests, r⟩).or (latest? given requests) := by
  rw [latest?, calls_append, List.filterMap_append, List.getLast?_append]
  cases h : given ⟨requests, r⟩ <;> simp [h, latest?]

lemma latest?_eq_none_iff {α : Type} {given : Call → Option α} {requests : List StageRequest} :
    latest? given requests = none ↔ ∀ c ∈ calls requests, given c = none := by
  rw [latest?, List.getLast?_eq_none_iff, List.filterMap_eq_nil_iff]

namespace Call

def output (g : Generator) (c : Call) : Except String StageOutput :=
  match g (c.earlier ++ [c.request]) with
  | .error e => .error e.message
  | .ok v => (StageOutput.decode c.request.stage v).mapError (·.message)

def vision? (g : Generator) (c : Call) : Option Vision :=
  match c.output g with
  | .ok (.vision d) => some d
  | _ => none

def systems? (g : Generator) (c : Call) : Option SystemsDesign :=
  match c.output g with
  | .ok (.systems d) => some d
  | _ => none

def technical? (g : Generator) (c : Call) : Option TechnicalDesign :=
  match c.output g with
  | .ok (.technical d) => some d
  | _ => none

def assemble (setting : RunSetting) (c : Call) (draft : WorldDraft) : Except WorldError World :=
  let vision := (latest? (vision? setting.generator) c.earlier).getD {}
  draft.assemble (setting.fresh c.request.iteration.toNat) c.request.prompt (some vision.mood)

def world? (setting : RunSetting) (c : Call) : Option World :=
  match c.output setting.generator with
  | .ok (.synthesis draft) => (c.assemble setting draft).toOption
  | _ => none

def failure? (setting : RunSetting) (c : Call) : Option String :=
  match c.output setting.generator with
  | .error reason => some reason
  | .ok (.synthesis draft) =>
    match c.assemble setting draft with
    | .error e => some e.message
    | .ok _ => none
  | .ok _ => none

def errorText? (setting : RunSetting) (c : Call) : Option String :=
  (c.failure? setting).map fun reason => c.request.stage.name ++ " stage failed: " ++ reason

end Call

namespace Delta

def vision? : Delta → Option Vision
  | .vision d => some d
  | _ => none

def systems? : Delta → Option SystemsDesign
  | .systems d => some d
  | _ => none

def technical? : Delta → Option TechnicalDesign
  | .technical d => some d
  | _ => none

def error? : Delta → Option String
  | .failed failure => some failure.text
  | _ => none

variable {setting : RunSetting} {c : Call}

structure Holds (d : Delta) (setting : RunSetting) (c : Call) : Prop where
  vision : d.vision? = c.vision? setting.generator
  systems : d.systems? = c.systems? setting.generator
  technical : d.technical? = c.technical? setting.generator
  candidate : d.candidate? = c.world? setting
  error : d.error? = c.errorText? setting

inductive Carries (setting : RunSetting) (c : Call) : StageOutput → Delta → Prop
  | vision (d : Vision) : Carries setting c (.vision d) (.vision d)
  | systems (d : SystemsDesign) : Carries setting c (.systems d) (.systems d)
  | technical (d : TechnicalDesign) : Carries setting c (.technical d) (.technical d)
  | synthesis (draft : WorldDraft) (w : World) (h : c.assemble setting draft = .ok w) :
    Carries setting c (.synthesis draft) (.synthesis w)
  | review (v : Verdict) (record : ReviewRecord) : Carries setting c (.review v) (.review record)

lemma holds_of_carries {out : StageOutput} (h : c.output setting.generator = .ok out) {d : Delta}
    (hd : Carries setting c out d) : d.Holds setting c := by
  cases hd <;> constructor <;> simp_all [Call.vision?, Call.systems?, Call.technical?, Call.world?, Call.errorText?,
    Call.failure?, vision?, systems?, technical?, candidate?, error?, Except.toOption]

lemma holds_failed {reason : String} (h : c.failure? setting = some reason) :
    (failed ⟨c.request.stage, reason⟩).Holds setting c := by
  have herror : c.errorText? setting = some (StageFailure.mk c.request.stage reason).text := by
    rw [Call.errorText?, h]
    rfl
  unfold Call.failure? at h
  refine ⟨?_, ?_, ?_, ?_, herror.symm⟩
  · rw [Call.vision?]
    split at h <;> simp_all [vision?]
  · rw [Call.systems?]
    split at h <;> simp_all [systems?]
  · rw [Call.technical?]
    split at h <;> simp_all [technical?]
  · rw [Call.world?]
    split at h
    · simp_all [candidate?]
    · split at h <;> simp_all [candidate?, Except.toOption]
    · cases h

end Delta

namespace RunState

structure Tells (s : RunState) (setting : RunSetting) : Prop where
  vision : s.contract.vision = latest? (Call.vision? setting.generator) s.requests
  systems : s.contract.systems = latest? (Call.systems? setting.generator) s.requests
  technical : s.contract.technical = latest? (Call.technical? setting.generator) s.requests
  candidate : s.contract.candidate = latest? (Call.world? setting) s.requests
  errors : s.contract.errors = (calls s.requests).filterMap (Call.errorText? setting)

variable {setting : RunSetting} {s : RunState}

def call (s : RunState) (stage : Stage) (structural : Option String) : Call :=
  ⟨s.requests, s.request stage structural⟩

lemma Tells.merge_asked (h : s.Tells setting) {stage : Stage} {structural : Option String} {d : Delta}
    (hd : d.Holds setting (s.call stage structural)) : ((s.asked stage structural).merge d).Tells setting := by
  have hlatest : ∀ {α : Type} (given : Call → Option α),
      latest? given (s.asked stage structural).requests =
        (given (s.call stage structural)).or (latest? given s.requests) :=
    fun given => latest?_append given s.requests _
  refine ⟨?_, ?_, ?_, ?_, ?_⟩
  · rw [requests_merge, hlatest, ← hd.vision, ← h.vision]
    cases d <;> rfl
  · rw [requests_merge, hlatest, ← hd.systems, ← h.systems]
    cases d <;> rfl
  · rw [requests_merge, hlatest, ← hd.technical, ← h.technical]
    cases d <;> rfl
  · rw [requests_merge, hlatest, ← hd.candidate, ← h.candidate]
    cases d <;> rfl
  · have hcalls : calls (s.asked stage structural).requests = calls s.requests ++ [s.call stage structural] :=
      calls_append s.requests _
    rw [requests_merge, hcalls, List.filterMap_append, ← h.errors, List.filterMap_cons, ← hd.error]
    cases d <;> simp [merge, Contract.merge, Contract.put, Delta.error?, asked]

lemma Tells.merge_review (h : s.Tells setting) (record : ReviewRecord) :
    (s.merge (.review record)).Tells setting :=
  ⟨h.vision, h.systems, h.technical, h.candidate, h.errors⟩

lemma Tells.revise (h : s.Tells setting) : s.revise.Tells setting :=
  ⟨h.vision, h.systems, h.technical, h.candidate, h.errors⟩

lemma output_call {α : Type} [JsonForm α] {g : Generator} {stage : Stage} {toOutput : α → StageOutput}
    (hdecode : ∀ v, StageOutput.decode stage v = toOutput <$> decodeAnswer v) (structural : Option String) :
    (s.call stage structural).output g = (decoded (g (s.asked stage structural).requests)).map toOutput := by
  have hcall : g ((s.call stage structural).earlier ++ [(s.call stage structural).request]) =
      g (s.asked stage structural).requests := rfl
  have hstage : (s.call stage structural).request.stage = stage := rfl
  rw [Call.output, hcall, hstage]
  cases g (s.asked stage structural).requests with
  | error e => rfl
  | ok v =>
    simp only [hdecode, decoded]
    cases (decodeAnswer v : Except WorldError α) <;> rfl

lemma Tells.stage (h : s.Tells setting) {α : Type} [JsonForm α] {stage : Stage} {toOutput : α → StageOutput}
    {toDelta : α → Except String Delta}
    (hdecode : ∀ v, StageOutput.decode stage v = toOutput <$> decodeAnswer v)
    (hok : ∀ a, (s.call stage none).output setting.generator = .ok (toOutput a) →
      (result stage id (toDelta a)).Holds setting (s.call stage none)) :
    (s.stage setting.generator stage toDelta).Tells setting := by
  rw [stage_eq]
  refine h.merge_asked ?_
  have hout := output_call (s := s) (g := setting.generator) hdecode none
  cases hx : (decoded (setting.generator (s.asked stage none).requests) : Except String α) with
  | ok a =>
    rw [hx] at hout
    exact hok a hout
  | error reason =>
    rw [hx] at hout
    refine Delta.holds_failed (c := s.call stage none) ?_
    rw [Call.failure?, hout]
    rfl

lemma Tells.envision (h : s.Tells setting) :
    (s.stage setting.generator .vision fun d => .ok (.vision d)).Tells setting :=
  h.stage (fun _ => rfl) fun d hd => Delta.holds_of_carries hd (.vision d)

lemma Tells.systemize (h : s.Tells setting) :
    (s.stage setting.generator .systems fun d => .ok (.systems d)).Tells setting :=
  h.stage (fun _ => rfl) fun d hd => Delta.holds_of_carries hd (.systems d)

lemma Tells.design (h : s.Tells setting) : (s.design setting.generator).Tells setting :=
  h.envision.systemize.stage (fun _ => rfl) fun d hd => Delta.holds_of_carries hd (.technical d)

lemma Tells.assemble_call (h : s.Tells setting) (draft : WorldDraft) :
    (s.call .synthesis none).assemble setting draft =
      draft.assemble (setting.fresh s.contract.iteration.toNat) s.contract.prompt
        (some (s.contract.vision.getD {}).mood) := by
  rw [Call.assemble, h.vision]
  rfl

lemma Tells.synthesize (h : s.Tells setting) : (s.synthesize setting).Tells setting := by
  refine h.stage (fun _ => rfl) fun draft hd => ?_
  rw [← h.assemble_call]
  cases hw : (s.call .synthesis none).assemble setting draft with
  | ok w => exact Delta.holds_of_carries hd (.synthesis draft w hw)
  | error e =>
    refine Delta.holds_failed (c := s.call .synthesis none) ?_
    rw [Call.failure?, hd]
    simp [hw]

lemma Tells.review (h : s.Tells setting) : (s.review setting).1.Tells setting := by
  cases hw : s.contract.candidate with
  | none =>
    rw [review_of_none _ _ hw]
    exact h.merge_review _
  | some w =>
    have hdecode : ∀ v, StageOutput.decode .review v = StageOutput.review <$> decodeAnswer v := fun _ => rfl
    have hout := output_call (s := s) (g := setting.generator) hdecode
      (some (StructuralReview.of w setting.validator).text)
    change _ = (s.judged setting w).map StageOutput.review at hout
    rw [review_of_some _ _ hw, heard]
    cases hv : s.judged setting w with
    | ok v =>
      rw [hv] at hout
      exact h.merge_asked (Delta.holds_of_carries hout (.review v _))
    | error reason =>
      rw [hv] at hout
      refine Tells.merge_review (h.merge_asked (Delta.holds_failed (c := s.call .review _) ?_)) _
      rw [Call.failure?, hout]
      rfl

lemma Tells.pass (h : s.Tells setting) : (s.pass setting).1.Tells setting := h.design.synthesize.review

lemma Tells.opening (h : s.Tells setting) (i : Nat) : (s.opening setting i).Tells setting := by
  induction i with
  | zero => exact h
  | succ i ih => exact ih.pass.revise

lemma Tells.passes (h : s.Tells setting) {last : Nat} (hlast : s.EndsWith setting last) :
    (s.passes setting).1.Tells setting := by
  cases ha : s.approves setting last with
  | true =>
    rw [hlast.of_approved ha]
    exact (h.opening last).pass
  | false =>
    rw [hlast.of_rejected ha]
    exact h.opening (last + 1)

end RunState

def RunTrace.reported (t : RunTrace) : List String :=
  match t.result with
  | .ok o => o.contract.errors
  | .error (.noWorld errors) => errors
  | .error (.invalidConfig _) => []

structure RunTrace.Accounts (t : RunTrace) (setting : RunSetting) : Prop where
  worldless : (∃ errors, t.result = .error (.noWorld errors)) ↔ ∀ c ∈ calls t.requests, c.world? setting = none
  world : ∀ w, (∃ o, t.result = .ok o ∧ o.world = w) ↔ latest? (Call.world? setting) t.requests = some w
  vision : ∀ o, t.result = .ok o → o.contract.vision = latest? (Call.vision? setting.generator) t.requests
  systems : ∀ o, t.result = .ok o → o.contract.systems = latest? (Call.systems? setting.generator) t.requests
  technical : ∀ o, t.result = .ok o → o.contract.technical = latest? (Call.technical? setting.generator) t.requests
  errors : t.reported = (calls t.requests).filterMap (Call.errorText? setting)

namespace RunState

lemma Tells.accounts_of_none {setting : RunSetting} {s : RunState} (h : s.Tells setting)
    (hw : s.contract.candidate = none) (completion : Completion) :
    (RunTrace.mk s.requests (s.outcome completion)).Accounts setting := by
  have hlatest := h.candidate
  rw [hw] at hlatest
  rw [outcome_of_none hw]
  have hno : ∀ o : Outcome, (.error (.noWorld s.contract.errors) : Except RunError Outcome) ≠ .ok o := by simp
  refine ⟨?_, fun w => ?_, ?_, ?_, ?_, h.errors⟩
  · exact ⟨fun _ => latest?_eq_none_iff.mp hlatest.symm, fun _ => ⟨_, rfl⟩⟩
  · simp [← hlatest]
  · exact fun o ho => (hno o ho).elim
  · exact fun o ho => (hno o ho).elim
  · exact fun o ho => (hno o ho).elim

lemma Tells.accounts_of_some {setting : RunSetting} {s : RunState} (h : s.Tells setting) {w : World}
    (hw : s.contract.candidate = some w) (completion : Completion) :
    (RunTrace.mk s.requests (s.outcome completion)).Accounts setting := by
  have hlatest := h.candidate
  rw [hw] at hlatest
  rw [outcome_of_some hw]
  have hok : ∀ o : Outcome, (.ok ⟨w, completion, s.contract.finish⟩ : Except RunError Outcome) = .ok o →
      o.contract = s.contract.finish := by
    intro o ho
    rw [← Except.ok.inj ho]
  refine ⟨?_, fun x => ?_, ?_, ?_, ?_, h.errors⟩
  · rw [← latest?_eq_none_iff, ← hlatest]
    simp
  · simp [← hlatest]
  · exact fun o ho => (congrArg (·.vision) (hok o ho)).trans h.vision
  · exact fun o ho => (congrArg (·.systems) (hok o ho)).trans h.systems
  · exact fun o ho => (congrArg (·.technical) (hok o ho)).trans h.technical

end RunState

theorem run_accounts (c : Config) (g : Generator) (v : Validator) (fresh : Nat → Nat → String)
    (prompt : String) (h : c.problem? = none) : (c.run g v fresh prompt).Accounts (c.setting g v fresh) := by
  obtain ⟨last, hlast⟩ := Config.exists_endsWith h g v fresh prompt
  have hstart : (c.start prompt).Tells (c.setting g v fresh) := ⟨rfl, rfl, rfl, rfl, rfl⟩
  have htells := hstart.passes hlast
  rw [Config.run_eq h]
  cases hw : ((c.start prompt).passes (c.setting g v fresh)).1.contract.candidate with
  | none => exact htells.accounts_of_none hw _
  | some w => exact htells.accounts_of_some hw _

theorem run_accounts_apprentice : apprenticeship.problem? = none ∧
    (apprenticeship.run apprentice .standard (FreshId.fromStart 0) "a room").reported =
      ["systems stage failed: generator unavailable: offline",
        "technical stage failed: schema violation: expected a JSON object, got \"none\"",
        "systems stage failed: generator unavailable: offline",
        "technical stage failed: schema violation: expected a JSON object, got \"none\"",
        "synthesis stage failed: request refused: nothing to add"] ∧
    (apprenticeship.run apprentice .standard (FreshId.fromStart 0) "a room").Accounts
      (apprenticeship.setting apprentice .standard (FreshId.fromStart 0)) :=
  ⟨by decide, by decide +kernel,
    run_accounts apprenticeship apprentice .standard (FreshId.fromStart 0) "a room" (by decide)⟩

end Diorama
