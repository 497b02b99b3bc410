import Diorama.Pipeline.Run
import Mathlib.Tactic.Lemma

namespace Diorama

def StageRequest.label (r : StageRequest) : Stage × UInt32 := (r.stage, r.iteration)

namespace Delta

def candidate? : Delta → Option World
  | .synthesis w => some w
  | _ => none

end Delta

namespace Contract

@[simp] lemma merge_candidate (c : Contract) (d : Delta) :
    (c.merge d).candidate = d.candidate?.or c.candidate := by
  cases d <;> rfl

end Contract

namespace RunState

variable (setting : RunSetting) (s : RunState)

def asked (stage : Stage) (structural : Option String) : RunState :=
  { s with requests := s.requests ++ [s.request stage structural] }

def drafted : Except String World :=
  (decoded (setting.generator (s.asked .synthesis none).requests)).bind fun (draft : WorldDraft) =>
    (draft.assemble (setting.fresh s.contract.iteration.toNat) s.contract.prompt
      (some (s.contract.vision.getD {}).mood)).mapError (·.message)

def presented (w : World) : RunState := s.asked .review (some (StructuralReview.of w setting.validator).text)

def judged (w : World) : Except String Verdict := decoded (setting.generator (s.presented setting w).requests)

def decides (w : World) : Bool :=
  isApproved (some (.of w setting.validator)) (s.judged setting w).toOption setting.leastScore

def heard (w : World) : RunState :=
  match s.judged setting w with
  | .ok _ => s.presented setting w
  | .error reason => (s.presented setting w).merge (.failed ⟨.review, reason⟩)

lemma stage_eq {α : Type} [JsonForm α] (g : Generator) (stage : Stage) (toDelta : α → Except String Delta) :
    s.stage g stage toDelta = (s.asked stage none).merge
      (result stage id ((decoded (g (s.asked stage none).requests)).bind toDelta)) := rfl

lemma synthesize_eq : s.synthesize setting =
    (s.asked .synthesis none).merge (result .synthesis .synthesis (s.drafted setting)) := by
  rw [synthesize, stage_eq, drafted]
  congr 1
  cases (decoded (setting.generator (s.asked .synthesis none).requests) : Except String WorldDraft) with
  | error reason => rfl
  | ok draft =>
    simp only [Except.bind]
    cases draft.assemble (setting.fresh s.contract.iteration.toNat) s.contract.prompt
      (some (s.contract.vision.getD {}).mood) <;> rfl

lemma review_of_none (h : s.contract.candidate = none) :
    s.review setting = (s.merge (.review (.of none none false)), false) := by
  rw [review, h]

lemma review_of_some {w : World} (h : s.contract.candidate = some w) : s.review setting =
    ((s.heard setting w).merge (.review (.of (some (.of w setting.validator)) (s.judged setting w).toOption
      (s.decides setting w))), s.decides setting w) := by
  simp only [review, h, ask, heard, decides, judged, presented, asked]
  cases (decoded (setting.generator (s.requests ++
    [s.request .review (some (StructuralReview.of w setting.validator).text)])) : Except String Verdict) <;> rfl

@[simp] lemma requests_merge (d : Delta) : (s.merge d).requests = s.requests := rfl

@[simp] lemma requests_stage {α : Type} [JsonForm α] (g : Generator) (stage : Stage)
    (toDelta : α → Except String Delta) :
    (s.stage g stage toDelta).requests = s.requests ++ [s.request stage none] := rfl

@[simp] lemma iteration_stage {α : Type} [JsonForm α] (g : Generator) (stage : Stage)
    (toDelta : α → Except String Delta) : (s.stage g stage toDelta).contract.iteration = s.contract.iteration :=
  (counts_stage g stage toDelta s).1

def prepared : RunState := (s.design setting.generator).synthesize setting

lemma pass_eq : s.pass setting = (s.prepared setting).review setting := rfl

def schedule (iteration : UInt32) (reviewed : Bool) : List (Stage × UInt32) :=
  [(.vision, iteration), (.systems, iteration), (.technical, iteration), (.synthesis, iteration)] ++
    if reviewed then [(.review, iteration)] else []

lemma iteration_prepared : (s.prepared setting).contract.iteration = s.contract.iteration := by
  simp [prepared, synthesize, design]

lemma requests_heard (w : World) : (s.heard setting w).requests = (s.presented setting w).requests := by
  unfold heard
  split <;> rfl

lemma label_request (stage : Stage) (structural : Option String) :
    (s.request stage structural).label = (stage, s.contract.iteration) := rfl

lemma labels_prepared : (s.prepared setting).requests.map (·.label) =
    s.requests.map (·.label) ++ schedule s.contract.iteration false := by
  simp [prepared, synthesize, design, schedule, label_request]

lemma labels_pass : (s.pass setting).1.requests.map (·.label) =
    s.requests.map (·.label) ++ schedule s.contract.iteration (s.prepared setting).contract.candidate.isSome := by
  rw [pass_eq]
  cases h : (s.prepared setting).contract.candidate with
  | none =>
    rw [review_of_none _ _ h]
    exact labels_prepared setting s
  | some w =>
    rw [review_of_some _ _ h, requests_merge, requests_heard]
    simp only [presented, asked, List.map_append, List.map_cons, List.map_nil, label_request,
      labels_prepared, iteration_prepared]
    simp [schedule]

def prepares : List StageRequest :=
  let g := setting.generator
  let envisioned := s.stage g .vision fun d => .ok (.vision d)
  let designed := envisioned.stage g .systems fun d => .ok (.systems d)
  [s.request .vision none, envisioned.request .systems none, designed.request .technical none,
    (s.design g).request .synthesis none]

def made : List StageRequest :=
  let prepared := s.prepared setting
  s.prepares setting ++ prepared.contract.candidate.toList.map fun w =>
    prepared.request .review (some (StructuralReview.of w setting.validator).text)

lemma requests_prepared : (s.prepared setting).requests = s.requests ++ s.prepares setting := by
  simp [prepares, prepared, synthesize, design]

lemma requests_pass : (s.pass setting).1.requests = s.requests ++ s.made setting := by
  rw [pass_eq]
  cases h : (s.prepared setting).contract.candidate with
  | none =>
    rw [review_of_none _ _ h]
    simp [made, h, requests_prepared]
  | some w =>
    rw [review_of_some _ _ h, requests_merge, requests_heard]
    simp [made, h, presented, asked, requests_prepared]

lemma candidate?_result_bind {α : Type} (stage : Stage) (f : α → Delta) (hf : ∀ a, (f a).candidate? = none)
    (x : Except String α) : (result stage id (x.bind fun a => .ok (f a))).candidate? = none := by
  cases x with
  | error reason => rfl
  | ok a => exact hf a

lemma candidate_design (g : Generator) : (s.design g).contract.candidate = s.contract.candidate := by
  simp only [design, stage_eq, merge, asked, Contract.merge_candidate,
    candidate?_result_bind _ Delta.vision fun _ => rfl, candidate?_result_bind _ Delta.systems fun _ => rfl,
    candidate?_result_bind _ Delta.technical fun _ => rfl, Option.none_or]

lemma candidate_prepared : (s.prepared setting).contract.candidate =
    ((s.design setting.generator).drafted setting).toOption.or s.contract.candidate := by
  rw [prepared, synthesize_eq]
  simp only [merge, asked, Contract.merge_candidate, candidate_design]
  cases (s.design setting.generator).drafted setting <;> rfl

lemma candidate_review : (s.review setting).1.contract.candidate = s.contract.candidate := by
  cases h : s.contract.candidate with
  | none =>
    rw [review_of_none _ _ h]
    simpa [merge, Delta.candidate?] using h
  | some w =>
    rw [review_of_some _ _ h]
    simp only [merge, Contract.merge_candidate, Delta.candidate?, Option.none_or, heard]
    split <;> simpa [presented, asked, Delta.candidate?] using h

end RunState

end Diorama
