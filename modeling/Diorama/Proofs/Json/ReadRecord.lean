import Diorama.Proofs.Json.LawfulRecord

/-! What a record that was read holds. A field holds what was read of its member, or what the blank record holds
where there is no such member, as long as reading one field leaves the others as they were. Kept members are those
that name no field. -/

namespace Diorama

open Json

def Json.parts : Json → List Json
  | .array items => items
  | .object members => members.map (·.2)
  | _ => []

lemma json_of_ofJson? {j : Json} {v : Value} (hdata : j.isData = true) (h : ofJson? j = some v) : v.json = j := by
  have hread : ofJson? j = some (⟨j, hdata⟩ : Value) :=
    ofJson?_of_renderedAs (renderedAs_self j (wellFormed_of_isData j hdata))
  exact congrArg Value.json (Option.some.inj (h.symm.trans hread))

lemma member?_written {d : Dictionary Value} {name : String} :
    (Json.object (written d.entries)).member? name = (d.find? name).map (·.json) := by
  rw [member?, written, List.find?_map, Dictionary.find?, Option.map_map, Option.map_map]
  rfl

lemma written_of_mapM {members : List (String × Json)} {entries : List (String × Value)}
    (hdata : ∀ m ∈ members, m.2.isData = true)
    (h : members.mapM (fun m => (ofJson? m.2).map (m.1, ·)) = some entries) : written entries = members := by
  rw [mapM_eq_some_iff] at h
  induction h with
  | nil => rfl
  | cons hentry _ ih =>
    rw [List.forall_mem_cons] at hdata
    obtain ⟨value, hvalue, rfl⟩ := Option.map_eq_some_iff.mp hentry
    exact congrArg₂ List.cons (Prod.ext rfl (json_of_ofJson? hdata.1 hvalue)) (ih hdata.2)

lemma toJson_of_ofJson?_data {members : List (String × Json)} {d : Dictionary Value}
    (hdata : (Json.object members).isData = true)
    (h : ofJson? (.object members) = some d) : toJson d = .object members := by
  rw [isData, Bool.and_eq_true, decide_eq_true_eq, membersAreData_iff] at hdata
  obtain ⟨entries, hread, rfl⟩ := Option.map_eq_some_iff.mp h
  have hwritten := written_of_mapM hdata.2 hread
  have hsorted : (written entries).Pairwise fun a b => a.1 < b.1 := hwritten ▸ hdata.1
  rw [written, List.pairwise_map] at hsorted
  have hlist : Dictionary.ofList entries = ⟨entries, hsorted⟩ := Dictionary.ofList_eq_of_perm (.refl _)
  rw [hlist]
  exact congrArg Json.object hwritten

variable {ρ : Type}

namespace Field

variable {f g : Field ρ} {r s : ρ} {members : List (String × Json)}

lemma readMember?_cases (h : f.readMember? members r = some s) :
    members.filter (f.isNamed ·.1) = [] ∧ f.mandatory = false ∧ s = r ∨
      ∃ m, members.filter (f.isNamed ·.1) = [m] ∧ f.read? m.2 r = some s := by
  rw [readMember?] at h
  split at h
  · rename_i hnone
    split at h
    · cases h
    · rename_i hmandatory
      exact .inl ⟨hnone, eq_false_of_ne_true hmandatory, (Option.some.inj h).symm⟩
  · rename_i hone
    exact .inr ⟨_, hone, h⟩
  · cases h

def Spares (f g : Field ρ) : Prop := ∀ j r s, f.read? j r = some s → g.write s = g.write r

lemma Spares.readMember? (hs : f.Spares g) (h : f.readMember? members r = some s) : g.write s = g.write r := by
  obtain ⟨-, -, rfl⟩ | ⟨m, -, hread⟩ := readMember?_cases h
  · rfl
  · exact hs _ _ _ hread

section Lenses

variable {α β : Type} [JsonForm α] [JsonForm β] {name other : String} {get : ρ → α} {set : α → ρ → ρ} {get' : ρ → β}
  {set' : β → ρ → ρ}

lemma read?_required {j : Json} (h : (Field.required name get set).read? j r = some s) :
    ∃ a, ofJson? j = some a ∧ s = set a r := by
  obtain ⟨a, ha, rfl⟩ := Option.map_eq_some_iff.mp h
  exact ⟨a, ha, rfl⟩

lemma read?_optional {j : Json} (h : (Field.optional name get set).read? j r = some s) :
    ∃ a, ofJson? j = some a ∧ s = set a r := by
  obtain ⟨a, ha, rfl⟩ := Option.map_eq_some_iff.mp h
  exact ⟨a, ha, rfl⟩

lemma spares_required (h : ∀ a r, get' (set a r) = get' r) :
    (Field.required name get set).Spares (Field.required other get' set') := by
  intro j r s hread
  obtain ⟨a, -, rfl⟩ := read?_required hread
  exact congrArg toJson (h a r)

@[simp] lemma optional_spares_iff : (Field.optional name get set).Spares g ↔ (Field.required name get set).Spares g :=
  .rfl

@[simp] lemma spares_optional_iff : g.Spares (Field.optional name get set) ↔ g.Spares (Field.required name get set) :=
  .rfl

end Lenses

def Taken (f : Field ρ) (members : List (String × Json)) (r s : ρ) : Prop :=
  members.filter (f.isNamed ·.1) = [] ∧ f.mandatory = false ∧ f.write s = f.write r ∨
    ∃ m, members.filter (f.isNamed ·.1) = [m] ∧ ∃ t t', f.read? m.2 t = some t' ∧ f.write s = f.write t'

lemma Taken.congr {r' s' : ρ} (h : f.Taken members r s) (hr : f.write r = f.write r') (hs : f.write s' = f.write s) :
    f.Taken members r' s' := by
  obtain ⟨hnone, hmandatory, he⟩ | ⟨m, hm, t, t', hread, he⟩ := h
  · exact .inl ⟨hnone, hmandatory, hs.trans (he.trans hr)⟩
  · exact .inr ⟨m, hm, t, t', hread, hs.trans he⟩

lemma taken_of_readMember? (h : f.readMember? members r = some s) : f.Taken members r s := by
  obtain ⟨hnone, hmandatory, rfl⟩ | ⟨m, hm, hread⟩ := readMember?_cases h
  · exact .inl ⟨hnone, hmandatory, rfl⟩
  · exact .inr ⟨m, hm, r, s, hread, rfl⟩

lemma write_of_foldlM {fields : List (Field ρ)} (hs : ∀ f ∈ fields, f.Spares g)
    (h : fields.foldlM (fun r f => f.readMember? members r) r = some s) : g.write s = g.write r := by
  induction fields generalizing r with
  | nil =>
    obtain rfl := Option.some.inj h
    rfl
  | cons f fields ih =>
    rw [List.forall_mem_cons] at hs
    obtain ⟨t, ht, h⟩ := Option.bind_eq_some_iff.mp h
    exact (ih hs.2 h).trans (hs.1.readMember? ht)

lemma taken_of_foldlM {fields : List (Field ρ)} (hs : fields.Pairwise fun f g => f.Spares g ∧ g.Spares f)
    (h : fields.foldlM (fun r f => f.readMember? members r) r = some s) (hg : g ∈ fields) : g.Taken members r s := by
  induction fields generalizing r with
  | nil => cases hg
  | cons f fields ih =>
    obtain ⟨hfirst, hs⟩ := List.pairwise_cons.mp hs
    obtain ⟨t, ht, hrest⟩ := Option.bind_eq_some_iff.mp h
    rcases List.mem_cons.mp hg with rfl | hg
    · exact (taken_of_readMember? ht).congr rfl (write_of_foldlM (fun f hf => (hfirst f hf).2) hrest)
    · exact (ih hs hrest hg).congr ((hfirst g hg).1.readMember? ht) rfl

def Drawn (f : Field ρ) (sources : List Json) (r s : ρ) : Prop :=
  f.write s = f.write r ∨ ∃ j ∈ sources, ∃ t t', f.read? j t = some t' ∧ f.write s = f.write t'

lemma Taken.drawn (h : f.Taken members r s) : f.Drawn (members.map (·.2)) r s := by
  obtain ⟨-, -, he⟩ | ⟨m, hm, t, t', hread, he⟩ := h
  · exact .inl he
  · have hmem : m ∈ members.filter (f.isNamed ·.1) := hm ▸ List.mem_singleton_self m
    exact .inr ⟨m.2, List.mem_map_of_mem (List.mem_filter.mp hmem).1, t, t', hread, he⟩

lemma Drawn.congr {items : List Json} {r' s' : ρ} (h : f.Drawn items r s) (hr : f.write r = f.write r')
    (hs : f.write s' = f.write s) : f.Drawn items r' s' := by
  obtain he | ⟨j, hj, t, t', hread, he⟩ := h
  · exact .inl (hs.trans (he.trans hr))
  · exact .inr ⟨j, hj, t, t', hread, hs.trans he⟩

lemma Drawn.cons {items : List Json} (item : Json) (h : f.Drawn items r s) : f.Drawn (item :: items) r s := by
  obtain he | ⟨j, hj, h⟩ := h
  · exact .inl he
  · exact .inr ⟨j, List.mem_cons_of_mem _ hj, h⟩

lemma readItems?_cases {fields : List (Field ρ)} {items : List Json}
    (h : RecordForm.readItems? (g :: fields) items r = some s) :
    items = [] ∧ RecordForm.readItems? fields [] r = some s ∨ ∃ item rest t, items = item :: rest ∧
      g.read? item r = some t ∧ RecordForm.readItems? fields rest t = some s := by
  cases items with
  | nil =>
    rw [RecordForm.readItems?] at h
    split at h
    · cases h
    · exact .inl ⟨rfl, h⟩
  | cons item rest =>
    obtain ⟨t, ht, h⟩ := Option.bind_eq_some_iff.mp h
    exact .inr ⟨item, rest, t, rfl, ht, h⟩

lemma write_of_readItems? {fields : List (Field ρ)} {items : List Json} (hs : ∀ f ∈ fields, f.Spares g)
    (h : RecordForm.readItems? fields items r = some s) : g.write s = g.write r := by
  induction fields generalizing items r with
  | nil =>
    cases items with
    | nil =>
      obtain rfl := Option.some.inj h
      rfl
    | cons item items => cases h
  | cons f fields ih =>
    rw [List.forall_mem_cons] at hs
    obtain ⟨-, h⟩ | ⟨item, rest, t, -, ht, h⟩ := readItems?_cases h
    · exact ih hs.2 h
    · exact (ih hs.2 h).trans (hs.1 _ _ _ ht)

lemma drawn_of_readItems? {fields : List (Field ρ)} {items : List Json}
    (hs : fields.Pairwise fun f g => f.Spares g ∧ g.Spares f) (h : RecordForm.readItems? fields items r = some s)
    (hg : g ∈ fields) : g.Drawn items r s := by
  induction fields generalizing items r with
  | nil => cases hg
  | cons f fields ih =>
    obtain ⟨hfirst, hs⟩ := List.pairwise_cons.mp hs
    obtain ⟨rfl, hrest⟩ | ⟨item, rest, t, rfl, ht, hrest⟩ := readItems?_cases h
    · rcases List.mem_cons.mp hg with rfl | hg
      · exact .inl (write_of_readItems? (fun f hf => (hfirst f hf).2) hrest)
      · exact ih hs hrest hg
    · rcases List.mem_cons.mp hg with rfl | hg
      · exact .inr ⟨item, List.mem_cons_self, r, t, ht, write_of_readItems? (fun f hf => (hfirst f hf).2) hrest⟩
      · exact ((ih hs hrest hg).congr ((hfirst g hg).1 _ _ _ ht) rfl).cons item

end Field

namespace RecordForm

variable {f : RecordForm ρ} {r : ρ} {members : List (String × Json)}

/-- Whether no two fields of a record share what they hold, and kept members share nothing with the fields. -/
structure Separate (f : RecordForm ρ) : Prop where
  spares : f.fields.Pairwise fun g g' => g.Spares g' ∧ g'.Spares g
  kept (get : ρ → Dictionary Value) (set : Dictionary Value → ρ → ρ) : f.others = .kept get set →
    ∀ extra r, ∀ g ∈ f.fields, g.write (set extra r) = g.write r

lemma readMembers?_cases (h : f.readMembers? members = some r) :
    ∃ s, f.fields.foldlM (fun r g => g.readMember? members r) f.blank = some s ∧ f.readOthers? members s = some r :=
  Option.bind_eq_some_iff.mp h

lemma readOthers?_cases {s : ρ} (h : f.readOthers? members s = some r) :
    r = s ∨ ∃ get set extra, f.others = .kept get set ∧ ofJson? (.object (f.unnamed members)) = some extra ∧
      r = set extra s := by
  rw [readOthers?] at h
  split at h
  · exact .inl (Option.some.inj h).symm
  · split at h
    · exact .inl (Option.some.inj h).symm
    · cases h
  · rename_i hothers
    obtain ⟨extra, hread, rfl⟩ := Option.map_eq_some_iff.mp h
    exact .inr ⟨_, _, extra, hothers, hread, rfl⟩

lemma readMembers?_eq_some_iff (hothers : f.others = .refused) : f.readMembers? members = some r ↔
    f.unnamed members = [] ∧ f.fields.foldlM (fun r g => g.readMember? members r) f.blank = some r := by
  have hread : ∀ s, f.readOthers? members s = some r ↔ f.unnamed members = [] ∧ s = r := by
    intro s
    rw [readOthers?, hothers, ← List.isEmpty_iff]
    exact Option.ite_none_right_eq_some.trans (and_congr_right fun _ => Option.some_inj)
  constructor
  · intro h
    obtain ⟨s, hfields, hrest⟩ := readMembers?_cases h
    obtain ⟨hempty, rfl⟩ := (hread s).mp hrest
    exact ⟨hempty, hfields⟩
  · rintro ⟨hempty, hfields⟩
    exact Option.bind_eq_some_iff.mpr ⟨r, hfields, (hread r).mpr ⟨hempty, rfl⟩⟩

theorem taken_of_readMembers? (hs : f.Separate) (h : f.readMembers? members = some r) {g : Field ρ}
    (hg : g ∈ f.fields) : g.Taken members f.blank r := by
  obtain ⟨s, hfields, hothers⟩ := readMembers?_cases h
  have htaken : g.Taken members f.blank s := Field.taken_of_foldlM hs.spares hfields hg
  obtain rfl | ⟨get, set, extra, hkept, -, rfl⟩ := readOthers?_cases hothers
  · exact htaken
  · exact htaken.congr rfl (hs.kept get set hkept extra s g hg)

theorem drawn_of_read? (hs : f.Separate) {j : Json} (h : f.read? j = some r) {g : Field ρ} (hg : g ∈ f.fields) :
    g.Drawn j.parts f.blank r := by
  cases j with
  | object members => exact (taken_of_readMembers? hs h hg).drawn
  | array items =>
    rw [read?] at h
    split at h
    · cases h
    · exact Field.drawn_of_readItems? hs.spares h hg
  | _ => cases h

lemma readMembers?_induction {P : ρ → Prop} (h : f.readMembers? members = some r) (hblank : P f.blank)
    (hfields : ∀ g ∈ f.fields, ∀ j s t, P s → g.read? j s = some t → P t)
    (hkept : ∀ get set, f.others = .kept get set → ∀ extra s, P s → P (set extra s)) : P r := by
  obtain ⟨s, hread, hothers⟩ := readMembers?_cases h
  have hs : P s := by
    -- By induction on the fields that are left to read, into whatever was read before.
    clear hothers h
    revert hfields hread hblank
    generalize f.blank = b
    induction f.fields generalizing b with
    | nil =>
      intro hb _ hread
      obtain rfl := Option.some.inj hread
      exact hb
    | cons g fields ih =>
      intro hb hfields hread
      rw [List.forall_mem_cons] at hfields
      obtain ⟨t, ht, hread⟩ := Option.bind_eq_some_iff.mp hread
      refine ih t ?_ hfields.2 hread
      obtain ⟨-, -, rfl⟩ | ⟨m, -, hm⟩ := Field.readMember?_cases ht
      · exact hb
      · exact hfields.1 _ _ _ hb hm
  obtain rfl | ⟨get, set, extra, he, -, rfl⟩ := readOthers?_cases hothers
  · exact hs
  · exact hkept get set he extra s hs

lemma exists_members_of_read? {get : ρ → Dictionary Value} {set : Dictionary Value → ρ → ρ} {j : Json}
    (hothers : f.others = .kept get set) (h : f.read? j = some r) :
    ∃ members, j = .object members ∧ f.readMembers? members = some r := by
  cases j with
  | object members => exact ⟨members, rfl, h⟩
  | array items =>
    rw [read?, hothers] at h
    cases h
  | _ => cases h

section Kept

variable {get : ρ → Dictionary Value} {set : Dictionary Value → ρ → ρ}

lemma ofJson?_unnamed (hothers : f.others = .kept get set) (hget : ∀ extra r, get (set extra r) = extra)
    (h : f.readMembers? members = some r) : ofJson? (.object (f.unnamed members)) = some (get r) := by
  obtain ⟨s, -, hread⟩ := readMembers?_cases h
  rw [readOthers?, hothers] at hread
  obtain ⟨extra, hextra, rfl⟩ := Option.map_eq_some_iff.mp hread
  rw [hextra, hget]

theorem clears_of_readMembers? (hothers : f.others = .kept get set) (hget : ∀ extra r, get (set extra r) = extra)
    (h : f.readMembers? members = some r) : f.Clears (get r) := by
  intro entry hentry
  obtain ⟨entries, hread, he⟩ := Option.map_eq_some_iff.mp (ofJson?_unnamed hothers hget h)
  rw [← he] at hentry
  obtain ⟨m, hm, hmap⟩ := exists_of_mem_mapM hread (Dictionary.mem_of_mem_ofList hentry)
  have hname : m.1 = entry.1 := by
    obtain ⟨value, -, hvalue⟩ := Option.map_eq_some_iff.mp hmap
    exact congrArg Prod.fst hvalue
  rw [← hname, ← Bool.not_eq_true']
  exact (List.mem_filter.mp hm).2

lemma isData_unnamed (h : (Json.object members).isData = true) : (Json.object (f.unnamed members)).isData = true := by
  rw [isData, Bool.and_eq_true, decide_eq_true_eq, membersAreData_iff] at h ⊢
  exact ⟨h.1.filter _, fun m hm => h.2 m (List.mem_filter.mp hm).1⟩

lemma find?_unnamed (f : RecordForm ρ) (members : List (String × Json)) (key : String) :
    (f.unnamed members).find? (·.1 == key) =
      if key ∈ f.fields.flatMap Field.names then none else members.find? (·.1 == key) := by
  have hnamed : f.fields.any (·.isNamed key) = true ↔ key ∈ f.fields.flatMap Field.names := by
    simp only [List.any_eq_true, Field.isNamed_iff, List.mem_flatMap]
  have hfilter : (f.unnamed members).find? (·.1 == key) =
      members.find? fun m => !f.fields.any (·.isNamed key) && m.1 == key := by
    rw [unnamed, List.find?_filter]
    refine congrArg (List.find? · members) (funext fun m => ?_)
    by_cases he : m.1 = key
    · subst he
      simp only [beq_self_eq_true, Bool.and_true, Bool.decide_eq_true, and_true]
    · simp [he]
  rw [hfilter]
  by_cases h : key ∈ f.fields.flatMap Field.names
  · rw [if_pos h, hnamed.mpr h]
    exact List.find?_eq_none.mpr fun _ _ => Bool.false_ne_true
  · rw [if_neg h, Bool.eq_false_iff.mpr (mt hnamed.mp h)]
    rfl

theorem find?_kept (hothers : f.others = .kept get set) (hget : ∀ extra r, get (set extra r) = extra)
    (hdata : (Json.object members).isData = true) (h : f.readMembers? members = some r) (key : String) :
    ((get r).find? key).map (·.json) =
      if key ∈ f.fields.flatMap Field.names then none else (Json.object members).member? key := by
  have hwritten : written (get r).entries = f.unnamed members :=
    Json.object.inj (toJson_of_ofJson?_data (isData_unnamed hdata) (ofJson?_unnamed hothers hget h))
  rw [← member?_written, hwritten, member?, find?_unnamed, apply_ite (Option.map Prod.snd)]
  rfl

end Kept

end RecordForm

end Diorama
