import Diorama.Proofs.Pipeline.Calls

/-! A contract told from its history. Whatever is merged into a new contract, and however often it is revised in
between, each slot holds what was last merged of its kind, the trace has an entry for every merge, and the errors are
the texts of the failures in it. -/

namespace Diorama

inductive ContractStep where
  | merge (d : Delta)
  | revise
  | finish

namespace ContractStep

def apply (c : Contract) : ContractStep → Contract
  | .merge d => c.merge d
  | .revise => c.revise
  | .finish => c.finish

def delta? : ContractStep → Option Delta
  | .merge d => some d
  | _ => none

def isRevision : ContractStep → Bool
  | .revise => true
  | _ => false

def deltas (steps : List ContractStep) : List Delta := steps.filterMap delta?

def dated : Nat → List ContractStep → List (Delta × Nat)
  | _, [] => []
  | revisions, .merge d :: rest => (d, revisions) :: dated revisions rest
  | revisions, .revise :: rest => dated (revisions + 1) rest
  | revisions, .finish :: rest => dated revisions rest

lemma le_of_mem_dated {revisions : Nat} {steps : List ContractStep} {m : Delta × Nat}
    (h : m ∈ dated revisions steps) : revisions ≤ m.2 := by
  induction steps generalizing revisions with
  | nil => cases h
  | cons step steps ih =>
    cases step with
    | merge d =>
      rcases List.mem_cons.mp h with rfl | h
      · exact Nat.le_refl _
      · exact ih h
    | revise => exact Nat.le_of_succ_le (ih h)
    | finish => exact ih h

lemma le_add_countP_of_mem_dated {revisions : Nat} {steps : List ContractStep} {m : Delta × Nat}
    (h : m ∈ dated revisions steps) : m.2 ≤ revisions + steps.countP isRevision := by
  induction steps generalizing revisions with
  | nil => cases h
  | cons step steps ih =>
    cases step with
    | merge d =>
      rcases List.mem_cons.mp h with rfl | h
      · exact Nat.le_add_right _ _
      · exact ih h
    | revise =>
      rw [List.countP_cons_of_pos rfl, ← Nat.add_assoc, Nat.add_right_comm]
      exact ih h
    | finish => exact ih h

lemma pairwise_dated (revisions : Nat) (steps : List ContractStep) :
    (dated revisions steps).Pairwise fun a b => a.2 ≤ b.2 := by
  induction steps generalizing revisions with
  | nil => exact .nil
  | cons step steps ih =>
    cases step with
    | merge d => exact .cons (fun _ hm => le_of_mem_dated hm) (ih revisions)
    | revise => exact ih (revisions + 1)
    | finish => exact ih revisions

end ContractStep

namespace Delta

def review? : Delta → Option ReviewRecord
  | .review record => some record
  | _ => none

def isFailed : Delta → Bool
  | .failed _ => true
  | _ => false

end Delta

namespace Contract

/-- What a counter tells after some revisions. Only under the greatest limit there is does it overflow. -/
def counted (limit : UInt32) (revisions : Nat) : Nat :=
  if limit.toNat + 1 < UInt32.size then min limit.toNat revisions else revisions % UInt32.size

def CounterHolds (limit : UInt32) (revisions : Nat) : Prop :=
  limit.toNat + 1 < UInt32.size ∨ revisions < UInt32.size

lemma CounterHolds.counted_eq {limit : UInt32} {n : Nat} (h : CounterHolds limit n) :
    counted limit n = min limit.toNat n := by
  rw [counted]
  split_ifs with hless
  · rfl
  · have hn : n < UInt32.size := h.resolve_left hless
    rw [Nat.mod_eq_of_lt hn]
    exact (Nat.min_eq_right (by omega)).symm

lemma CounterHolds.mono {limit : UInt32} {m n : Nat} (h : CounterHolds limit n) (hmn : m ≤ n) : CounterHolds limit m :=
  h.imp id (Nat.lt_of_le_of_lt hmn)

end Contract

def Delta.entry (limit : UInt32) (m : Delta × Nat) : TraceEntry :=
  ⟨m.1.stage, .ofNat (Contract.counted limit m.2), m.1.text⟩

namespace Contract

open ContractStep

variable {c : Contract} {limit : UInt32} {n : Nat}

lemma toNat_ofNat_counted (limit : UInt32) (n : Nat) : (UInt32.ofNat (counted limit n)).toNat = counted limit n := by
  have hlimit : limit.toNat < UInt32.size := limit.toNat_lt
  refine UInt32.toNat_ofNat_of_lt' ?_
  rw [counted]
  split_ifs
  · exact Nat.lt_of_le_of_lt (Nat.min_le_left _ _) hlimit
  · exact Nat.mod_lt _ (by decide)

structure Recounts (c : Contract) (prompt : String) (limit : UInt32) (steps : List ContractStep) : Prop where
  prompted : c.prompt = prompt
  limited : c.maxIterations = limit
  vision : c.vision = ((deltas steps).filterMap Delta.vision?).getLast?
  systems : c.systems = ((deltas steps).filterMap Delta.systems?).getLast?
  technical : c.technical = ((deltas steps).filterMap Delta.technical?).getLast?
  candidate : c.candidate = ((deltas steps).filterMap Delta.candidate?).getLast?
  review : c.review = ((deltas steps).filterMap Delta.review?).getLast?
  stage : c.stage = (deltas steps).getLast?.map Delta.stage
  iteration : c.iteration.toNat = counted limit (steps.countP isRevision)
  messages : c.messages = (dated 0 steps).map (Delta.entry limit)
  errors : c.errors = (((deltas steps).zip c.messages).filter (·.1.isFailed)).map (·.2.text)

/-- That the counter of a contract tells how many revisions there were, up to the limit, and its trace how many there
were before each merge. -/
structure Counts (c : Contract) (limit : UInt32) (steps : List ContractStep) : Prop where
  iteration : c.iteration.toNat = min limit.toNat (steps.countP isRevision)
  moments : c.messages.map (·.iteration.toNat) = (dated 0 steps).map fun m => min limit.toNat m.2
  ordered : c.messages.Pairwise fun a b => a.iteration ≤ b.iteration

lemma Recounts.counts {prompt : String} {steps : List ContractStep} (h : c.Recounts prompt limit steps)
    (hholds : CounterHolds limit (steps.countP isRevision)) : c.Counts limit steps := by
  have hmoment : ∀ m ∈ dated 0 steps, (Delta.entry limit m).iteration.toNat = min limit.toNat m.2 := by
    intro m hm
    have hle := le_add_countP_of_mem_dated hm
    rw [Nat.zero_add] at hle
    exact (toNat_ofNat_counted _ _).trans (hholds.mono hle).counted_eq
  refine ⟨h.iteration.trans hholds.counted_eq, ?_, ?_⟩
  · rw [h.messages, List.map_map]
    exact List.map_congr_left hmoment
  · rw [h.messages, List.pairwise_map]
    refine (pairwise_dated 0 steps).imp_of_mem fun {a b} ha hb hab => ?_
    rw [UInt32.le_iff_toNat_le, hmoment a ha, hmoment b hb]
    omega

end Contract

end Diorama
