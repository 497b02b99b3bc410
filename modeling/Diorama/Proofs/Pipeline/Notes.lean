import Diorama.Proofs.Pipeline.Calls

/-! What a pass is told of the pass before it. The review of a pass makes notes, and the context of every request of
the next pass has all of them after the wish of the user and before its briefing, which has none. -/

namespace Diorama

namespace Contract

def feedbackSection (pass : Nat) (notes : List String) : String :=
  if notes = [] then ""
  else s!"\nRevision {pass} feedback:\n" ++ String.join (notes.map fun note => s!"- {note}\n")

def opener : Stage → String
  | .vision => "\nCreate a visual concept for this world.\n"
  | _ => "\nVisual concept"

lemma visionSummary_opener (v : Vision) : "\nVisual concept".toList <+: (visionSummary v).toList := by
  have h : "\nVisual concept: ".toList = "\nVisual concept".toList ++ ": ".toList := by decide
  unfold visionSummary
  simp only [toString, String.toList_append, List.append_assoc, h]
  exact List.prefix_append _ _

lemma designText_opener {α : Type} [JsonForm α] (design : α) :
    "\nVisual concept".toList <+: (designText "Visual concept" design).toList := by
  have h : "\nVisual concept".toList = "\n".toList ++ "Visual concept".toList := by decide
  simp only [designText, toString, String.toList_append, List.append_assoc, h]
  exact (List.prefix_append_right_inj _).mpr (List.prefix_append _ _)

lemma briefing_opener (c : Contract) (structural : Option String) (stage : Stage) :
    (opener stage).toList <+: (c.briefing structural stage).toList := by
  have hsummary := visionSummary_opener (c.vision.getD {})
  cases stage with
  | vision => exact List.prefix_rfl
  | systems => exact hsummary
  | technical =>
    simp only [briefing, String.toList_append]
    exact hsummary.trans (List.prefix_append _ _)
  | synthesis =>
    simp only [briefing, String.toList_append, List.append_assoc]
    exact (designText_opener _).trans (List.prefix_append _ _)
  | review =>
    simp only [briefing, String.toList_append, List.append_assoc]
    exact hsummary.trans (List.prefix_append _ _)

lemma briefing_congr {c d : Contract} (hv : c.vision = d.vision) (hs : c.systems = d.systems)
    (ht : c.technical = d.technical) (hc : c.candidate = d.candidate) (structural : Option String) (stage : Stage) :
    c.briefing structural stage = d.briefing structural stage := by
  cases stage <;> simp only [briefing, hv, hs, ht, hc]

lemma revisionNotes_first {c : Contract} (h : c.iteration = 0) : c.revisionNotes = "" := by
  simp [revisionNotes, h]

lemma revisionNotes_next {c : Contract} {pass : Nat} (h : c.iteration.toNat = pass + 1) {record : ReviewRecord}
    (hr : c.review = some record) : c.revisionNotes = feedbackSection (pass + 1) record.feedback := by
  have hne : c.iteration ≠ 0 := by
    intro h0
    rw [h0] at h
    cases h
  have hshown : toString c.iteration = toString (pass + 1) := congrArg toString h
  cases hf : record.feedback with
  | nil => simp [revisionNotes, feedbackSection, hr, hf]
  | cons note rest => simp [revisionNotes, feedbackSection, hr, hf, hne, hshown]

end Contract

namespace RunState

variable {setting : RunSetting} {s : RunState}

lemma prompt_merge (d : Delta) : (s.merge d).contract.prompt = s.contract.prompt := by
  cases d <;> rfl

lemma revisionNotes_merge {d : Delta} (hd : ∀ record, d ≠ .review record) :
    (s.merge d).contract.revisionNotes = s.contract.revisionNotes := by
  cases d with
  | review record => exact (hd record rfl).elim
  | _ => rfl

lemma revisionNotes_stage {α : Type} [JsonForm α] {g : Generator} {stage : Stage}
    {toDelta : α → Except String Delta} (hd : ∀ a record, toDelta a ≠ .ok (.review record)) :
    (s.stage g stage toDelta).contract.revisionNotes = s.contract.revisionNotes := by
  rw [stage_eq, revisionNotes_merge (s := s.asked stage none)]
  · rfl
  · intro record
    cases (decoded (g (s.asked stage none).requests) : Except String α) with
    | error reason => simp [result, Except.bind]
    | ok a =>
      change result stage id (toDelta a) ≠ _
      cases ha : toDelta a with
      | error reason => simp [result]
      | ok d =>
        rintro rfl
        exact hd a record ha

lemma iteration_of_made {r : StageRequest} (hr : r ∈ s.made setting) : r.iteration = s.contract.iteration := by
  simp only [made, prepares, List.mem_append, List.mem_cons, List.mem_map, List.not_mem_nil, or_false] at hr
  rcases hr with (rfl | rfl | rfl | rfl) | ⟨w, _, rfl⟩
  · rfl
  · exact iteration_stage ..
  · simp [request]
  · simp [request, design]
  · exact iteration_prepared setting s

def rendered : Json → String
  | .string s => s
  | other => other.compact

lemma remark_eq_rendered (issue : Value) : ReviewRecord.remark issue = rendered issue.json := by
  unfold ReviewRecord.remark rendered
  cases issue.json <;> rfl

def remarked : Except String Verdict → List String
  | .ok v => v.feedback.toList ++ v.improvements ++ v.issues.map fun issue => rendered issue.json
  | .error _ => []

lemma remarks_eq_remarked (v : Verdict) : ReviewRecord.remarks v = remarked (.ok v) := by
  have hremark : ReviewRecord.remark = fun issue => rendered issue.json := funext remark_eq_rendered
  rw [ReviewRecord.remarks, hremark, remarked]

lemma feedback_of_some (w : World) (v : Validator) (judged : Except String Verdict) (approved : Bool) :
    (ReviewRecord.of (some (.of w v)) judged.toOption approved).feedback =
      remarked judged ++ ((v.validate w).issues.filter (·.isError)).map (·.text) := by
  cases judged with
  | ok v =>
    rw [← remarks_eq_remarked]
    rfl
  | error reason => rfl

variable (setting) (start : RunState)

def notes (i : Nat) : List String :=
  match start.candidate setting i with
  | none => ["no candidate world was synthesized"]
  | some w => remarked (((start.opening setting i).prepared setting).judged setting w) ++
    ((setting.validator.validate w).issues.filter (·.isError)).map (·.text)

lemma notes_closing (i : Nat) : ∃ record,
    (start.closing setting i).contract.review = some record ∧ record.feedback = start.notes setting i := by
  rw [notes, closing, pass_eq]
  cases hw : start.candidate setting i with
  | none =>
    rw [review_of_none _ _ hw]
    exact ⟨_, rfl, rfl⟩
  | some w =>
    rw [review_of_some _ _ hw]
    exact ⟨_, rfl, feedback_of_some w setting.validator _ _⟩

def revision : Nat → String
  | 0 => ""
  | i + 1 => Contract.feedbackSection (i + 1) (start.notes setting i)

variable {setting start}

lemma prompt_review (s : RunState) : (s.review setting).1.contract.prompt = s.contract.prompt := by
  cases hw : s.contract.candidate with
  | none =>
    rw [review_of_none _ _ hw]
    rfl
  | some w =>
    rw [review_of_some _ _ hw, heard]
    cases s.judged setting w <;> rfl

lemma revisionNotes_opening (hcount : start.contract.iteration = 0) {i : Nat}
    (hi : i ≤ start.contract.maxIterations.toNat) : (start.opening setting i).contract.revisionNotes =
      start.revision setting (start.opening setting i).contract.iteration.toNat := by
  have hpass := iteration_opening setting hcount hi
  rw [hpass]
  cases i with
  | zero => exact Contract.revisionNotes_first hcount
  | succ i =>
    obtain ⟨record, hrecord, hfeedback⟩ := notes_closing setting start i
    rw [Contract.revisionNotes_next hpass hrecord, hfeedback, revision]

end RunState

namespace Call

def known (setting : RunSetting) (c : Call) : Contract where
  prompt := c.request.prompt
  vision := latest? (Call.vision? setting.generator) c.earlier
  systems := latest? (Call.systems? setting.generator) c.earlier
  technical := latest? (Call.technical? setting.generator) c.earlier
  candidate := latest? (Call.world? setting) c.earlier
  maxIterations := 0

def structural (setting : RunSetting) (c : Call) : Option String :=
  if c.request.stage = .review then
    (c.known setting).candidate.map fun w => (StructuralReview.of w setting.validator).text
  else none

def briefing (setting : RunSetting) (c : Call) : String :=
  (c.known setting).briefing (c.structural setting) c.request.stage

/-- That the context of a call is the wish of the user, all the notes on the pass before, and its briefing. -/
def Heeds (setting : RunSetting) (start : RunState) (c : Call) : Prop :=
  c.request.context = s!"User request: {start.contract.prompt}\n" ++
    start.revision setting c.request.iteration.toNat ++ c.briefing setting

end Call

namespace RunState

structure Heeding (start : RunState) (setting : RunSetting) (s : RunState) : Prop where
  tells : s.Tells setting
  prompt : s.contract.prompt = start.contract.prompt
  notes : s.contract.revisionNotes = start.revision setting s.contract.iteration.toNat
  calls : ∀ c ∈ calls s.requests, c.Heeds setting start

variable {setting : RunSetting} {start s : RunState}

lemma Heeding.heeds (h : start.Heeding setting s) {stage : Stage} {structural : Option String}
    (hs : (s.call stage structural).structural setting = structural) :
    (s.call stage structural).Heeds setting start := by
  have hbriefing : s.contract.briefing structural stage = (s.call stage structural).briefing setting := by
    rw [Call.briefing, hs]
    exact Contract.briefing_congr h.tells.vision h.tells.systems h.tells.technical h.tells.candidate _ _
  change s.contract.context stage structural = _
  unfold Contract.context
  rw [h.prompt, h.notes, hbriefing]
  rfl

lemma Heeding.calls_asked (h : start.Heeding setting s) {stage : Stage} {structural : Option String}
    (hs : (s.call stage structural).structural setting = structural) :
    ∀ c ∈ Diorama.calls (s.asked stage structural).requests, c.Heeds setting start := by
  intro c hc
  have hcalls : Diorama.calls (s.asked stage structural).requests =
      Diorama.calls s.requests ++ [s.call stage structural] := calls_append s.requests _
  rw [hcalls, List.mem_append, List.mem_singleton] at hc
  rcases hc with hc | rfl
  · exact h.calls c hc
  · exact h.heeds hs

lemma Heeding.stage (h : start.Heeding setting s) {α : Type} [JsonForm α] {stage : Stage}
    {toDelta : α → Except String Delta} (hstage : stage ≠ .review) (hd : ∀ a record, toDelta a ≠ .ok (.review record))
    (htells : (s.stage setting.generator stage toDelta).Tells setting) :
    start.Heeding setting (s.stage setting.generator stage toDelta) := by
  refine ⟨htells, (prompt_merge _).trans h.prompt, ?_, h.calls_asked (if_neg hstage)⟩
  rw [revisionNotes_stage hd, iteration_stage]
  exact h.notes

lemma Heeding.prepared (h : start.Heeding setting s) : start.Heeding setting (s.prepared setting) := by
  have hvision := h.stage (by decide) (by simp) h.tells.envision
  have hsystems := hvision.stage (by decide) (by simp) hvision.tells.systemize
  have hdesign : start.Heeding setting (s.design setting.generator) :=
    hsystems.stage (by decide) (by simp) h.tells.design
  -- What a draft comes to is a world or an error, and never a record of a review.
  refine hdesign.stage (by decide) (fun draft record => ?_) hdesign.tells.synthesize
  cases draft.assemble (setting.fresh (s.design setting.generator).contract.iteration.toNat)
    (s.design setting.generator).contract.prompt
    (some ((s.design setting.generator).contract.vision.getD {}).mood) <;> simp [Except.map, Except.mapError]

lemma Heeding.calls_review (h : start.Heeding setting s) :
    ∀ c ∈ Diorama.calls (s.review setting).1.requests, c.Heeds setting start := by
  cases hw : s.contract.candidate with
  | none =>
    rw [review_of_none _ _ hw]
    exact h.calls
  | some w =>
    rw [review_of_some _ _ hw, requests_merge, requests_heard]
    refine h.calls_asked ?_
    have hcandidate := h.tells.candidate
    rw [hw] at hcandidate
    have hreview : (s.call .review (some (StructuralReview.of w setting.validator).text)).request.stage = .review := rfl
    rw [Call.structural, if_pos hreview]
    change Option.map _ (latest? (Call.world? setting) s.requests) = _
    rw [← hcandidate]
    rfl

lemma Heeding.opening (h : start.Tells setting) (hrequests : start.requests = [])
    (hcount : start.contract.iteration = 0) {i : Nat} (hi : i ≤ start.contract.maxIterations.toNat) :
    start.Heeding setting (start.opening setting i) := by
  induction i with
  | zero =>
    refine ⟨h, rfl, revisionNotes_opening hcount hi, ?_⟩
    rw [RunState.opening, hrequests]
    simp [Diorama.calls, callsAfter]
  | succ i ih =>
    -- The review overwrites the notes after the last call of a pass, so that all of its calls heed the same ones.
    have hprepared := (ih (Nat.le_of_succ_le hi)).prepared
    exact ⟨h.opening (i + 1), (prompt_review _).trans hprepared.prompt, revisionNotes_opening hcount hi,
      hprepared.calls_review⟩

end RunState

structure RunTrace.Heeds (t : RunTrace) (setting : RunSetting) (start : RunState) (last : Nat) : Prop where
  requests : t.requests = (List.range (last + 1)).flatMap fun i => (start.opening setting i).made setting
  counted : ∀ i ≤ last, ∀ r ∈ (start.opening setting i).made setting, r.iteration.toNat = i
  noted : ∀ i ≤ last, ∃ record, (start.closing setting i).contract.review = some record ∧
    record.feedback = start.notes setting i
  told : ∀ c ∈ calls t.requests, c.Heeds setting start ∧
    (Contract.opener c.request.stage).toList <+: (c.briefing setting).toList

theorem run_heeds (c : Config) (g : Generator) (v : Validator) (fresh : Nat → Nat → String)
    (prompt : String) (h : c.problem? = none) : ∃ last, (c.start prompt).EndsWith (c.setting g v fresh) last ∧
      (c.run g v fresh prompt).Heeds (c.setting g v fresh) (c.start prompt) last := by
  obtain ⟨last, hlast⟩ := Config.exists_endsWith h g v fresh prompt
  have hbound : last < (c.start prompt).contract.maxIterations.toNat := Nat.zero_add last ▸ hlast.bounded
  have htells : (c.start prompt).Tells (c.setting g v fresh) := ⟨rfl, rfl, rfl, rfl, rfl⟩
  have hheeding := RunState.Heeding.opening htells rfl rfl (Nat.succ_le_of_lt hbound)
  refine ⟨last, hlast, ?_⟩
  rw [Config.run_eq h]
  refine ⟨hlast.requests_passes.trans (RunState.requests_opening (last + 1)), fun i hi r hr => ?_,
    fun i _ => RunState.notes_closing _ _ i, fun d hd => ?_⟩
  · rw [RunState.iteration_of_made hr]
    exact RunState.iteration_opening _ rfl (by omega)
  · rw [hlast.requests_passes] at hd
    exact ⟨hheeding.calls d hd, Contract.briefing_opener _ _ _⟩

theorem run_heeds_apprentice : apprenticeship.problem? = none ∧
    (apprenticeship.start "a room").notes (apprenticeship.setting apprentice .standard (FreshId.fromStart 0)) 0 =
      ["too dark", "no door", "\x7b\"at\":1\x7d"] ∧
    (apprenticeship.run apprentice .standard (FreshId.fromStart 0) "a room").requests[5]?.map (·.context) =
      some ("User request: a room\n\nRevision 1 feedback:\n- too dark\n- no door\n- \x7b\"at\":1\x7d\n" ++
        "\nCreate a visual concept for this world.\n") ∧
    ∃ last, (apprenticeship.start "a room").EndsWith
        (apprenticeship.setting apprentice .standard (FreshId.fromStart 0)) last ∧
      (apprenticeship.run apprentice .standard (FreshId.fromStart 0) "a room").Heeds
        (apprenticeship.setting apprentice .standard (FreshId.fromStart 0)) (apprenticeship.start "a room") last :=
  ⟨by decide, by decide +kernel, by decide +kernel,
    run_heeds apprenticeship apprentice .standard (FreshId.fromStart 0) "a room" (by decide)⟩

end Diorama
