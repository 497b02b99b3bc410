import Diorama.Proofs.Json.Rereading

namespace Diorama.Json

lemma itemsDepth_le_iff {items : List Json} {n : Nat} : itemsDepth items ≤ n ↔ ∀ item ∈ items, item.depth ≤ n := by
  induction items with
  | nil => simp [itemsDepth]
  | cons item rest ih => rw [itemsDepth, max_le_iff, ih, List.forall_mem_cons]

lemma membersDepth_eq (members : List (String × Json)) : membersDepth members = itemsDepth (members.map (·.2)) := by
  induction members with
  | nil => rfl
  | cons m rest ih => rw [membersDepth, ih, List.map_cons, itemsDepth]

def Fits (k : Nat) (v : Json) : Prop := v.depth = 0 ∨ k + v.depth ≤ 127

def Frame.parts : Frame → List Json
  | .array items => items
  | .object members _ => members.map (·.2)

def AllFit : List Frame → Prop
  | [] => True
  | frame :: frames => (∀ v ∈ frame.parts, Fits (frames.length + 1) v) ∧ AllFit frames

namespace Cursor

def Fit : Cursor → Prop
  | .atValue frames => AllFit frames
  | .firstItem frames => AllFit frames
  | .firstName frames => AllFit frames
  | .nextName members frames => AllFit (.object members none :: frames)
  | .colon members name frames => AllFit (.object members name :: frames)
  | .after value frames => Fits frames.length value ∧ AllFit frames

end Cursor

variable {frames : List Frame} {container : Json} {c c' : Cursor} {token : Token}

lemma fits_nested (items : List Json) (h : ∀ v ∈ items, Fits (frames.length + 1) v)
    (hdepth : container.depth ≤ itemsDepth items + 1) : Fits frames.length (nested .json frames container) := by
  have hitems : itemsDepth items ≤ 127 - (frames.length + 1) := by
    refine itemsDepth_le_iff.mpr fun v hv => ?_
    have := h v hv
    rw [Fits] at this
    omega
  rw [nested]
  split
  · rename_i hroom
    change frames.length < 127 at hroom
    exact .inr (by omega)
  · exact .inl rfl

lemma depth_ofMembers (members : List (Option String × Json)) :
    (ofMembers members).depth ≤ itemsDepth (members.map (·.2)) + 1 := by
  rw [ofMembers]
  split
  · rename_i named hnamed
    rw [mapM_eq_some_iff] at hnamed
    have hvalues : named.map (·.2) = members.map (·.2) := by
      induction hnamed with
      | nil => rfl
      | cons h _ ih =>
        obtain ⟨name, -, rfl⟩ := Option.map_eq_some_iff.mp h
        exact congrArg (_ :: ·) ih
    rw [depth, membersDepth_eq, hvalues]
  · exact Nat.zero_le _

lemma depth_number (t : NumberText) : t.json.depth = 0 := by
  rw [NumberText.json]
  cases t.float? with
  | none =>
    dsimp only
    repeat' split
    all_goals rfl
  | some x =>
    dsimp only
    repeat' split
    all_goals rfl

lemma fit_start (frames : List Frame) (h : AllFit frames) (hs : Cursor.start .json frames token = some c) : c.Fit := by
  cases token with
  | number text =>
    obtain rfl := Option.some.inj hs
    exact ⟨.inl (depth_number text), h⟩
  | string pieces =>
    obtain rfl := Option.some.inj hs
    refine ⟨.inl ?_, h⟩
    cases Dialect.json.string pieces <;> rfl
  | null =>
    obtain rfl := Option.some.inj hs
    exact ⟨.inl rfl, h⟩
  | bool b =>
    obtain rfl := Option.some.inj hs
    exact ⟨.inl rfl, h⟩
  | openArray =>
    obtain rfl := Option.some.inj hs
    exact h
  | openObject =>
    obtain rfl := Option.some.inj hs
    exact h
  | _ => cases hs

lemma fit_step (h : c.Fit) (hs : c.step .json token = some c') : c'.Fit := by
  -- Only a step that closes a container makes a deeper value, of parts that fit one level further inside.
  rw [Cursor.step.eq_def] at hs
  split at hs
  · exact fit_start _ h hs
  · obtain rfl := Option.some.inj hs
    exact ⟨fits_nested [] (fun _ hv => nomatch hv) le_rfl, h⟩
  · exact fit_start (.array [] :: _) ⟨fun _ hv => (nomatch hv), h⟩ hs
  · obtain rfl := Option.some.inj hs
    exact ⟨fits_nested [] (fun _ hv => nomatch hv) le_rfl, h⟩
  · obtain rfl := Option.some.inj hs
    exact ⟨fun _ hv => (nomatch hv), h⟩
  · obtain rfl := Option.some.inj hs
    exact h
  · obtain rfl := Option.some.inj hs
    exact h
  · obtain rfl := Option.some.inj hs
    exact ⟨List.forall_mem_cons.mpr ⟨h.1, h.2.1⟩, h.2.2⟩
  · rename_i value items frames
    obtain rfl := Option.some.inj hs
    refine ⟨fits_nested (value :: items).reverse (fun v hv => ?_) le_rfl, h.2.2⟩
    rw [List.mem_reverse] at hv
    exact List.forall_mem_cons.mpr ⟨h.1, h.2.1⟩ v hv
  · obtain rfl := Option.some.inj hs
    exact ⟨List.forall_mem_cons.mpr ⟨h.1, h.2.1⟩, h.2.2⟩
  · rename_i value members name frames
    obtain rfl := Option.some.inj hs
    refine ⟨fits_nested _ (fun v hv => ?_) (depth_ofMembers _), h.2.2⟩
    rw [List.map_reverse, List.mem_reverse, List.map_cons] at hv
    exact List.forall_mem_cons.mpr ⟨h.1, h.2.1⟩ v hv
  · cases hs

lemma fit_run {tokens : List Token} (h : c.Fit) (hs : tokens.foldlM (Cursor.step .json) c = some c') : c'.Fit := by
  induction tokens generalizing c with
  | nil => exact Option.some.inj hs ▸ h
  | cons token tokens ih =>
    obtain ⟨next, hnext, hs⟩ := Option.bind_eq_some_iff.mp hs
    exact ih (fit_step h hnext) hs

theorem depth_of_ofText? {text : String} {j : Json} (h : ofText? text = some j) : j.depth ≤ 127 := by
  obtain ⟨tokens, -, hread⟩ := Option.bind_eq_some_iff.mp h
  obtain ⟨c, hrun, hend⟩ := Option.bind_eq_some_iff.mp hread
  have hfit : c.Fit := fit_run (c := .atValue []) trivial hrun
  split at hend
  · obtain rfl := Option.some.inj hend
    have hvalue := hfit.1
    rw [Fits, List.length_nil] at hvalue
    omega
  · cases hend

end Diorama.Json
