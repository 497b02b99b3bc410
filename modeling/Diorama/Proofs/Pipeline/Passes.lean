import Diorama.Pipeline.FreshId
import Diorama.Proofs.Pipeline.Stages
import Diorama.Validation.Default
import Mathlib.Data.List.Basic

namespace Diorama

namespace RunState

variable (setting : RunSetting) (start : RunState)

/-- The state in which a pass begins if no pass before it is approved. -/
def opening : Nat → RunState
  | 0 => start
  | i + 1 => ((opening i).pass setting).1.revise

def closing (i : Nat) : RunState := ((start.opening setting i).pass setting).1

def approves (i : Nat) : Bool := ((start.opening setting i).pass setting).2

def synthesis (i : Nat) : Except String World :=
  ((start.opening setting i).design setting.generator).drafted setting

def candidate (i : Nat) : Option World := ((start.opening setting i).prepared setting).contract.candidate

structure EndsWith (last : Nat) : Prop where
  rejected : ∀ i < last, start.approves setting i = false
  ending : start.passes setting =
    if start.approves setting last then (start.closing setting last, .approved)
    else (start.opening setting (last + 1), .exhausted)
  bounded : start.contract.iteration.toNat + last < start.contract.maxIterations.toNat
  spent : start.approves setting last = false →
    start.contract.iteration.toNat + last + 1 = start.contract.maxIterations.toNat

variable {setting start}

lemma opening_of_next (i : Nat) :
    (start.pass setting).1.revise.opening setting i = start.opening setting (i + 1) := by
  induction i with
  | zero => rfl
  | succ i ih =>
    rw [opening, ih]
    rfl

lemma toNat_iteration_revise_pass {s : RunState} (h : s.contract.iteration < s.contract.maxIterations) :
    (s.pass setting).1.revise.contract.iteration.toNat = s.contract.iteration.toNat + 1 := by
  obtain ⟨hi, hm⟩ := counts_pass setting s
  rw [revise, Contract.toNat_iteration_revise_of_lt (by rw [hi, hm]; exact h), hi]

lemma maxIterations_revise_pass (s : RunState) :
    (s.pass setting).1.revise.contract.maxIterations = s.contract.maxIterations :=
  (counts_pass setting s).2

lemma endsWith_of_approved (h : start.contract.iteration < start.contract.maxIterations)
    (happroved : (start.pass setting).2 = true) : start.EndsWith setting 0 := by
  have ha : start.approves setting 0 = true := happroved
  refine ⟨fun i hi => (Nat.not_lt_zero i hi).elim, ?_, ?_, fun hr => ?_⟩
  · rw [passes, if_pos happroved, if_pos ha]
    rfl
  · exact UInt32.lt_iff_toNat_lt.mp h
  · rw [ha] at hr
    cases hr

lemma endsWith_of_spent (h : start.contract.iteration < start.contract.maxIterations)
    (hrejected : (start.pass setting).2 = false) (hspent : (start.pass setting).1.revise.contract.maxIterations ≤
      (start.pass setting).1.revise.contract.iteration) : start.EndsWith setting 0 := by
  have hr : ¬(start.pass setting).2 = true := by simpa using hrejected
  have ha : ¬start.approves setting 0 = true := hr
  have hlt := UInt32.lt_iff_toNat_lt.mp h
  refine ⟨fun i hi => (Nat.not_lt_zero i hi).elim, ?_, hlt, fun _ => ?_⟩
  · rw [passes, if_neg hr, if_neg ha]
    exact if_pos hspent
  · rw [UInt32.le_iff_toNat_le, toNat_iteration_revise_pass h, maxIterations_revise_pass] at hspent
    omega

lemma EndsWith.of_next {last : Nat} (h : start.contract.iteration < start.contract.maxIterations)
    (hrejected : (start.pass setting).2 = false) (hleft : ¬(start.pass setting).1.revise.contract.maxIterations ≤
      (start.pass setting).1.revise.contract.iteration)
    (hn : (start.pass setting).1.revise.EndsWith setting last) : start.EndsWith setting (last + 1) := by
  obtain ⟨hrej, hend, hbound, hspent⟩ := hn
  have hr : ¬(start.pass setting).2 = true := by simpa using hrejected
  have happroves : ∀ i, (start.pass setting).1.revise.approves setting i = start.approves setting (i + 1) := by
    intro i
    rw [approves, opening_of_next, approves]
  rw [toNat_iteration_revise_pass h, maxIterations_revise_pass] at hbound hspent
  simp only [happroves] at hrej hend hspent
  refine ⟨fun i hi => ?_, ?_, by omega, fun ha => ?_⟩
  · cases i with
    | zero => exact hrejected
    | succ i => exact hrej i (Nat.lt_of_succ_lt_succ hi)
  · rw [passes, if_neg hr]
    refine (if_neg hleft).trans (hend.trans ?_)
    rw [closing, closing, opening_of_next, opening_of_next]
  · have := hspent ha
    omega

theorem exists_endsWith (h : start.contract.iteration < start.contract.maxIterations) :
    ∃ last, start.EndsWith setting last := by
  induction start using passes.induct setting with
  | case1 s reviewed happroved => exact ⟨0, endsWith_of_approved h happroved⟩
  | case2 s reviewed hrejected revised hspent => exact ⟨0, endsWith_of_spent h (by simpa using hrejected) hspent⟩
  | case3 s reviewed hrejected revised hleft ih =>
    obtain ⟨last, hlast⟩ := ih (UInt32.not_le.mp hleft)
    exact ⟨last + 1, .of_next h (by simpa using hrejected) hleft hlast⟩

lemma maxIterations_opening (i : Nat) :
    (start.opening setting i).contract.maxIterations = start.contract.maxIterations := by
  induction i with
  | zero => rfl
  | succ i ih => rw [opening, maxIterations_revise_pass, ih]

lemma toNat_iteration_opening {i : Nat}
    (h : start.contract.iteration.toNat + i ≤ start.contract.maxIterations.toNat) :
    (start.opening setting i).contract.iteration.toNat = start.contract.iteration.toNat + i := by
  induction i with
  | zero => rfl
  | succ i ih =>
    have hbefore := ih (by omega)
    have hlt : (start.opening setting i).contract.iteration < (start.opening setting i).contract.maxIterations := by
      rw [UInt32.lt_iff_toNat_lt, hbefore, maxIterations_opening]
      omega
    rw [opening, toNat_iteration_revise_pass hlt, hbefore, Nat.add_assoc]

lemma candidate_eq (i : Nat) : start.candidate setting i =
    (start.synthesis setting i).toOption.or (start.opening setting i).contract.candidate :=
  candidate_prepared setting _

lemma candidate_opening (i : Nat) :
    (start.opening setting (i + 1)).contract.candidate = start.candidate setting i :=
  candidate_review setting _

lemma isSome_candidate_iff (h : start.contract.candidate = none) (i : Nat) :
    (start.candidate setting i).isSome = (List.range (i + 1)).any fun j => (start.synthesis setting j).isOk := by
  have hstep : ∀ (x : Except String World) (y : Option World), (x.toOption.or y).isSome = (y.isSome || x.isOk) := by
    intro x y
    cases x <;> simp [Except.toOption, Except.isOk, Except.toBool]
  induction i with
  | zero =>
    rw [candidate_eq, hstep, opening, h]
    simp
  | succ i ih =>
    rw [candidate_eq, hstep, candidate_opening, ih, List.range_succ (n := i + 1), List.any_append]
    simp

lemma labels_opening (i : Nat) : (start.opening setting i).requests.map (·.label) =
    start.requests.map (·.label) ++ (List.range i).flatMap fun j =>
      schedule (start.opening setting j).contract.iteration (start.candidate setting j).isSome := by
  induction i with
  | zero => simp [opening]
  | succ i ih =>
    have hpass := labels_pass setting (start.opening setting i)
    rw [ih] at hpass
    rw [List.range_succ, List.flatMap_append, ← List.append_assoc]
    simp only [List.flatMap_cons, List.flatMap_nil, List.append_nil]
    exact hpass

lemma requests_opening (i : Nat) : (start.opening setting i).requests =
    start.requests ++ (List.range i).flatMap fun j => (start.opening setting j).made setting := by
  induction i with
  | zero => simp [opening]
  | succ i ih =>
    rw [List.range_succ, List.flatMap_append, ← List.append_assoc, ← ih, List.flatMap_cons, List.flatMap_nil,
      List.append_nil]
    exact requests_pass setting (start.opening setting i)

variable (setting) in
lemma iteration_opening (h : start.contract.iteration = 0) {i : Nat} (hi : i ≤ start.contract.maxIterations.toNat) :
    (start.opening setting i).contract.iteration.toNat = i := by
  rw [toNat_iteration_opening, h, UInt32.toNat_zero, Nat.zero_add]
  rw [h, UInt32.toNat_zero, Nat.zero_add]
  exact hi

lemma candidate_closing (i : Nat) :
    (start.closing setting i).contract.candidate = start.candidate setting i :=
  candidate_review setting _

lemma iteration_closing (i : Nat) :
    (start.closing setting i).contract.iteration = (start.opening setting i).contract.iteration :=
  (counts_pass setting _).1

lemma candidate_of_approves {i : Nat} (h : start.approves setting i = true) :
    ∃ w, start.candidate setting i = some w := by
  cases hc : start.candidate setting i with
  | some w => exact ⟨w, rfl⟩
  | none =>
    rw [approves, pass_eq, review_of_none _ _ hc] at h
    cases h

def outcome (s : RunState) (completion : Completion) : Except RunError Outcome :=
  match s.contract.candidate with
  | some w => .ok ⟨w, completion, s.contract.finish⟩
  | none => .error (.noWorld s.contract.errors)

lemma outcome_of_some {s : RunState} {w : World} (h : s.contract.candidate = some w) (completion : Completion) :
    s.outcome completion = .ok ⟨w, completion, s.contract.finish⟩ := by
  rw [outcome, h]

lemma outcome_of_none {s : RunState} (h : s.contract.candidate = none) (completion : Completion) :
    s.outcome completion = .error (.noWorld s.contract.errors) := by
  rw [outcome, h]

lemma outcome_eq_ok_iff {s : RunState} {completion : Completion} {o : Outcome} : s.outcome completion = .ok o ↔
    s.contract.candidate = some o.world ∧ o.completion = completion ∧ o.contract = s.contract.finish := by
  obtain ⟨world, completed, contract⟩ := o
  cases h : s.contract.candidate with
  | none => simp [outcome_of_none h]
  | some w => simp [outcome_of_some h, eq_comm]

namespace EndsWith

variable {last : Nat} (h : start.EndsWith setting last)

include h

lemma of_approved (ha : start.approves setting last = true) :
    start.passes setting = (start.closing setting last, .approved) :=
  h.ending.trans (if_pos ha)

lemma of_rejected (ha : start.approves setting last = false) :
    start.passes setting = (start.opening setting (last + 1), .exhausted) :=
  h.ending.trans (if_neg (by simpa using ha))

lemma eq_of_approves {i : Nat} (hi : i ≤ last) (ha : start.approves setting i = true) : i = last := by
  by_contra hne
  have hrejected := h.rejected i (Nat.lt_of_le_of_ne hi hne)
  rw [ha] at hrejected
  cases hrejected

lemma requests_passes : (start.passes setting).1.requests = (start.opening setting (last + 1)).requests := by
  cases ha : start.approves setting last with
  | true =>
    rw [h.of_approved ha]
    rfl
  | false => rw [h.of_rejected ha]

lemma completion_passes : (start.passes setting).2 = .approved ↔ start.approves setting last = true := by
  cases ha : start.approves setting last with
  | true => simp [h.of_approved ha]
  | false => simp [h.of_rejected ha]

lemma labels_passes (hrequests : start.requests = []) (hcount : start.contract.iteration = 0)
    (hcandidate : start.contract.candidate = none) :
    (start.passes setting).1.requests.map (·.label) = (List.range (last + 1)).flatMap fun i =>
      schedule (.ofNat i) ((List.range (i + 1)).any fun j => (start.synthesis setting j).isOk) := by
  rw [h.requests_passes, labels_opening, hrequests, List.map_nil, List.nil_append]
  refine List.flatMap_congr fun i hi => ?_
  have hle : i ≤ start.contract.maxIterations.toNat := by
    have := h.bounded
    have := List.mem_range.mp hi
    omega
  have hi := congrArg UInt32.ofNat (iteration_opening setting hcount hle)
  rw [UInt32.ofNat_toNat] at hi
  rw [isSome_candidate_iff hcandidate, hi]

lemma iteration_of_approved (hcount : start.contract.iteration = 0) (ha : start.approves setting last = true) :
    (start.passes setting).1.contract.iteration.toNat = last := by
  have hbound := h.bounded
  rw [h.of_approved ha, iteration_closing, iteration_opening setting hcount (by omega)]

lemma iteration_of_rejected (hcount : start.contract.iteration = 0) (ha : start.approves setting last = false) :
    last + 1 = start.contract.maxIterations.toNat ∧
      (start.passes setting).1.contract.iteration = start.contract.maxIterations := by
  have hspent := h.spent ha
  rw [hcount, UInt32.toNat_zero, Nat.zero_add] at hspent
  refine ⟨hspent, UInt32.toNat_inj.mp ?_⟩
  rw [h.of_rejected ha, iteration_opening setting hcount (Nat.le_of_eq hspent), hspent]

lemma passCount_of_outcome (hcount : start.contract.iteration = 0) {o : Outcome}
    (ho : (start.passes setting).1.outcome (start.passes setting).2 = .ok o) : o.passCount.toNat = last + 1 := by
  obtain ⟨_, hcompletion, hcontract⟩ := outcome_eq_ok_iff.mp ho
  have hi : o.contract.iteration = (start.passes setting).1.contract.iteration := congrArg (·.iteration) hcontract
  have hmax := start.contract.maxIterations.toNat_lt
  have hbound := h.bounded
  cases ha : start.approves setting last with
  | true =>
    rw [h.completion_passes.mpr ha] at hcompletion
    rw [Outcome.passCount, hcompletion, hi]
    simp only [UInt32.toNat_add, UInt32.toNat_one, h.iteration_of_approved hcount ha]
    omega
  | false =>
    obtain ⟨hspent, hlast⟩ := h.iteration_of_rejected hcount ha
    rw [h.of_rejected ha] at hcompletion
    rw [Outcome.passCount, hcompletion, hspent, hi]
    exact congrArg UInt32.toNat hlast

end EndsWith

end RunState

open RunState

namespace Config

variable {c : Config}

lemma positive_of_problem? (h : c.problem? = none) : 0 < c.maxIterations := by
  unfold problem? at h
  split at h
  · cases h
  · rename_i hne
    exact UInt32.pos_iff_ne_zero.mpr hne

lemma run_eq (h : c.problem? = none) (g : Generator) (v : Validator) (fresh : Nat → Nat → String)
    (prompt : String) : c.run g v fresh prompt = ⟨((c.start prompt).passes (c.setting g v fresh)).1.requests,
      ((c.start prompt).passes (c.setting g v fresh)).1.outcome
        ((c.start prompt).passes (c.setting g v fresh)).2⟩ := by
  simp only [run, h, Contract.finish, outcome]
  cases ((c.start prompt).passes (c.setting g v fresh)).1.contract.candidate <;> rfl

lemma exists_endsWith (h : c.problem? = none) (g : Generator) (v : Validator) (fresh : Nat → Nat → String)
    (prompt : String) : ∃ last, (c.start prompt).EndsWith (c.setting g v fresh) last :=
  RunState.exists_endsWith (positive_of_problem? h)

end Config

structure RunTrace.Records (t : RunTrace) (setting : RunSetting) (start : RunState) (last : Nat) : Prop where
  bounded : last < start.contract.maxIterations.toNat
  requests : t.requests.map (·.label) = (List.range (last + 1)).flatMap fun i =>
    schedule (.ofNat i) ((List.range (i + 1)).any fun j => (start.synthesis setting j).isOk)
  rejected : ∀ i < last, start.approves setting i = false
  approved : start.approves setting last = true → ∃ o, t.result = .ok o ∧ o.completion = .approved ∧
    o.contract.iteration.toNat = last
  exhausted : start.approves setting last = false → last + 1 = start.contract.maxIterations.toNat ∧
    (start.passes setting).1.contract.iteration = start.contract.maxIterations ∧
    ((∃ o, t.result = .ok o ∧ o.completion = .exhausted ∧
        o.contract.iteration = start.contract.maxIterations) ∨
      ∃ errors, t.result = .error (.noWorld errors))
  counted : ∀ o, t.result = .ok o → o.passCount.toNat = last + 1

lemma RunTrace.Records.last_eq {t : RunTrace} {setting : RunSetting} {start : RunState} {last n : Nat}
    (h : t.Records setting start last) (hn : t.result.toOption.map (·.passCount.toNat) = some (n + 1)) : last = n := by
  cases hr : t.result with
  | error e =>
    rw [hr] at hn
    cases hn
  | ok o =>
    rw [hr] at hn
    exact Nat.succ.inj ((h.counted o hr).symm.trans (Option.some.inj hn))

theorem run_records (c : Config) (g : Generator) (v : Validator) (fresh : Nat → Nat → String)
    (prompt : String) (h : c.problem? = none) :
    ∃ last, (c.run g v fresh prompt).Records (c.setting g v fresh) (c.start prompt) last := by
  obtain ⟨last, hlast⟩ := Config.exists_endsWith h g v fresh prompt
  rw [Config.run_eq h]
  refine ⟨last, Nat.zero_add last ▸ hlast.bounded, hlast.labels_passes rfl rfl rfl, hlast.rejected, fun ha => ?_,
    fun ha => ?_, fun o ho => hlast.passCount_of_outcome rfl ho⟩
  · have hcount := hlast.iteration_of_approved rfl ha
    obtain ⟨w, hw⟩ := candidate_of_approves ha
    rw [← candidate_closing] at hw
    rw [hlast.of_approved ha] at hcount ⊢
    exact ⟨_, outcome_of_some hw _, rfl, hcount⟩
  · obtain ⟨hspent, hcount⟩ := hlast.iteration_of_rejected rfl ha
    refine ⟨hspent, hcount, ?_⟩
    rw [hlast.of_rejected ha] at hcount ⊢
    cases hc : ((c.start prompt).opening (c.setting g v fresh) (last + 1)).contract.candidate with
    | some w => exact Or.inl ⟨_, outcome_of_some hc _, rfl, hcount⟩
    | none => exact Or.inr ⟨_, outcome_of_none hc _⟩

/-- A generator that has no idea of systems and techniques. Its first room is found wanting, and it stands by it. -/
def apprentice : Generator := fun requests =>
  match requests.getLast? with
  | none => .error (.unavailable "no request")
  | some request =>
    let again := request.iteration = 1
    match request.stage with
    | .vision => .ok (Json.object [("mood", .string (if again then "serene" else "ominous"))]).value
    | .systems => .error (.unavailable "offline")
    | .technical => .ok (Json.string "none").value
    | .synthesis =>
      if again then .error (.refused "nothing to add")
      else .ok (Json.object [("lights", .array [.object [("id", .string "lamp")]])]).value
    | .review =>
      if again then .ok (Json.object [("approved", .bool true), ("score", .integer 85)]).value
      else .ok (Json.object [("score", .integer 40), ("feedback", .string "too dark"),
        ("issues", .array [.string "no door", .object [("at", .integer 1)]])]).value

def apprenticeship : Config := { maxIterations := 3, minApprovalScore := some 80 }

theorem run_records_apprentice : apprenticeship.problem? = none ∧
    (apprenticeship.run apprentice .standard (FreshId.fromStart 0) "a room").requests.map (·.label) =
      schedule 0 true ++ schedule 1 true ∧
    (apprenticeship.run apprentice .standard (FreshId.fromStart 0) "a room").Records
      (apprenticeship.setting apprentice .standard (FreshId.fromStart 0)) (apprenticeship.start "a room") 1 := by
  obtain ⟨last, h⟩ := run_records apprenticeship apprentice .standard (FreshId.fromStart 0) "a room" (by decide)
  obtain rfl : last = 1 := h.last_eq (by decide +kernel)
  exact ⟨by decide, by decide +kernel, h⟩

end Diorama
