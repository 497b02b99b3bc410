import Diorama.Proofs.Json.Survival

/-! Documents and their data are read alike. Where a document has distinct names and data can hold its numbers, its
data lists the members in another order and has its scalars as wider numbers, and no reader tells the two apart. -/

namespace Diorama

namespace Json

structure Definite (j : Json) : Prop where
  wellFormed : j.WellFormed
  finite : ∀ x ∈ j.scalars, x.isFinite = true

@[simp] lemma definite_bool (b : Bool) : (Json.bool b).Definite := ⟨trivial, List.forall_mem_nil _⟩

@[simp] lemma definite_string (s : String) : (Json.string s).Definite := ⟨trivial, List.forall_mem_nil _⟩

@[simp] lemma definite_integer_iff {n : Int} : (Json.integer n).Definite ↔ inRange n = true :=
  ⟨fun h => h.wellFormed, fun h => ⟨h, List.forall_mem_nil _⟩⟩

@[simp] lemma definite_real_iff {x : Float} : (Json.real x).Definite ↔ x.isFinite = true :=
  ⟨fun h => h.wellFormed, fun h => ⟨h, List.forall_mem_nil _⟩⟩

@[simp] lemma definite_single_iff {x : Scalar} : (Json.single x).Definite ↔ x.isFinite = true :=
  ⟨fun h => h.finite x List.mem_cons_self, fun h => ⟨trivial, fun _ hy => List.mem_singleton.mp hy ▸ h⟩⟩

@[simp] lemma definite_array_iff {items : List Json} : (Json.array items).Definite ↔ ∀ item ∈ items, item.Definite := by
  induction items with
  | nil => exact ⟨fun _ => List.forall_mem_nil _, fun _ => ⟨trivial, List.forall_mem_nil _⟩⟩
  | cons item rest ih =>
    rw [List.forall_mem_cons, ← ih]
    constructor
    · rintro ⟨⟨hw, hw'⟩, hs⟩
      obtain ⟨hs, hs'⟩ := List.forall_mem_append.mp hs
      exact ⟨⟨hw, hs⟩, hw', hs'⟩
    · rintro ⟨⟨hw, hs⟩, hw', hs'⟩
      exact ⟨⟨hw, hw'⟩, List.forall_mem_append.mpr ⟨hs, hs'⟩⟩

lemma membersWellFormed_eq (members : List (String × Json)) :
    MembersWellFormed members = AllWellFormed (members.map (·.2)) := by
  induction members with
  | nil => rfl
  | cons m rest ih => rw [MembersWellFormed, ih, List.map_cons, AllWellFormed]

@[simp] lemma definite_object_iff {members : List (String × Json)} :
    (Json.object members).Definite ↔ (members.map (·.1)).Nodup ∧ ∀ m ∈ members, m.2.Definite := by
  have hparts : (Json.array (members.map (·.2))).Definite ↔ ∀ m ∈ members, m.2.Definite := by
    rw [definite_array_iff, List.forall_mem_map]
  have hwell : MembersWellFormed members = (Json.array (members.map (·.2))).WellFormed := membersWellFormed_eq members
  have hscalars : (Json.object members).scalars = (Json.array (members.map (·.2))).scalars := membersScalars_eq members
  rw [← hparts]
  constructor
  · rintro ⟨⟨hn, hw⟩, hs⟩
    exact ⟨hn, hwell ▸ hw, hscalars ▸ hs⟩
  · rintro ⟨hn, hw, hs⟩
    exact ⟨⟨hn, hwell ▸ hw⟩, hscalars ▸ hs⟩

def memberData (m : String × Json) : String × Json := (m.1, m.2.toData)

variable {j : Json} {members data : List (String × Json)}

lemma perm_memberData (hn : (members.map (·.1)).Nodup) :
    (Dictionary.ofList (membersData members)).entries.Perm (members.map memberData) := by
  rw [membersData_eq_map]
  refine Dictionary.entries_ofList_perm ?_
  rw [List.map_map]
  exact hn

lemma Definite.toData_cases (h : j.Definite) : j.toData = j ∨ (∃ x, j = .single x ∧ j.toData = .real (Scalar.widen x)) ∨
    (∃ items, j = .array items ∧ (∀ item ∈ items, item.Definite) ∧ j.toData = .array (items.map toData)) ∨
    ∃ members data, j = .object members ∧ (members.map (·.1)).Nodup ∧ (∀ m ∈ members, m.2.Definite) ∧
      j.toData = .object data ∧ data.Perm (members.map memberData) := by
  cases j with
  | integer n => exact .inl (if_pos h.wellFormed)
  | real x => exact .inl (ofFloat_of_isFinite h.wellFormed)
  | single x =>
    have hx : x.isFinite = true := h.finite x List.mem_cons_self
    exact .inr (.inl ⟨x, rfl, ofFloat_of_isFinite (Scalar.isFinite_widen hx)⟩)
  | array items =>
    refine .inr (.inr (.inl ⟨items, rfl, definite_array_iff.mp h, ?_⟩))
    rw [toData, itemsData_eq_map]
  | object members =>
    obtain ⟨hn, hm⟩ := definite_object_iff.mp h
    exact .inr (.inr (.inr ⟨members, _, rfl, hn, hm, rfl, perm_memberData hn⟩))
  | unreadable => exact h.wellFormed.elim
  | _ => exact .inl rfl

lemma Definite.toData_eq_null_iff (h : j.Definite) : j.toData = .null ↔ j = .null := by
  obtain he | ⟨x, rfl, he⟩ | ⟨items, rfl, -, he⟩ | ⟨members, data, rfl, -, -, he, -⟩ := h.toData_cases
  · rw [he]
  all_goals simp [he]

lemma Definite.isReadable (h : j.Definite) : j.isReadable = true :=
  isReadable_of_renderedAs j j (renderedAs_self j h.wellFormed)

lemma Definite.isReadable_toData (h : j.Definite) : j.toData.isReadable = true :=
  isReadable_of_renderedAs j j.toData (renderedAs_toData j h.wellFormed h.finite)

lemma value_toData (j : Json) : j.toData.value = j.value :=
  Value.ext (toData_of_renderedAs _ _ j.isData_toData (renderedAs_self _ (wellFormed_of_isData _ j.isData_toData))).1

end Json

open Json

/-- Types that a document and its data are read alike at. -/
class SteadyForm (α : Type) [JsonForm α] : Prop where
  ofJson?_toData {j : Json} : j.Definite → (ofJson? j.toData : Option α) = ofJson? j

export SteadyForm (ofJson?_toData)

/-! Basic types. -/

section Basic

variable {α : Type} [JsonForm α]

lemma SteadyForm.of_plain (hsingle : ∀ x y, (ofJson? (.single x) : Option α) = ofJson? (.real y))
    (harray : ∀ items items', (ofJson? (.array items) : Option α) = ofJson? (.array items'))
    (hobject : ∀ members members', (ofJson? (.object members) : Option α) = ofJson? (.object members')) :
    SteadyForm α where
  ofJson?_toData h := by
    obtain he | ⟨x, rfl, he⟩ | ⟨items, rfl, -, he⟩ | ⟨members, data, rfl, -, -, he, -⟩ := h.toData_cases
    · rw [he]
    · rw [he, hsingle x]
    · rw [he, harray items]
    · rw [he, hobject members]

instance : SteadyForm Bool := .of_plain (fun _ _ => rfl) (fun _ _ => rfl) fun _ _ => rfl

instance : SteadyForm String := .of_plain (fun _ _ => rfl) (fun _ _ => rfl) fun _ _ => rfl

instance : SteadyForm UInt8 := .of_plain (fun _ _ => rfl) (fun _ _ => rfl) fun _ _ => rfl

instance : SteadyForm UInt32 := .of_plain (fun _ _ => rfl) (fun _ _ => rfl) fun _ _ => rfl

instance : SteadyForm UInt64 := .of_plain (fun _ _ => rfl) (fun _ _ => rfl) fun _ _ => rfl

instance : SteadyForm Int32 := .of_plain (fun _ _ => rfl) (fun _ _ => rfl) fun _ _ => rfl

instance : SteadyForm Scalar where
  ofJson?_toData {j} h := by
    obtain he | ⟨x, rfl, he⟩ | ⟨items, rfl, -, he⟩ | ⟨members, data, rfl, -, -, he, -⟩ := h.toData_cases
    · rw [he]
    · exact ofJson?_toData_single (h.finite x List.mem_cons_self)
    · rw [he]
      rfl
    · rw [he]
      rfl

instance : SteadyForm Value where
  ofJson?_toData {j} h := by
    change (if j.toData.isReadable then some j.toData.value else none) = if j.isReadable then some j.value else none
    rw [if_pos h.isReadable_toData, if_pos h.isReadable, value_toData]

lemma choice?_of_perm {members data : List (String × Json)} (hm : ∀ m ∈ members, m.2.Definite)
    (hp : data.Perm (members.map memberData)) : (Json.object data).choice? = (Json.object members).choice? := by
  match members with
  | [] =>
    obtain rfl := hp.eq_nil
    rfl
  | [m] =>
    obtain rfl := List.perm_singleton.mp hp
    have hnull := (hm m List.mem_cons_self).toData_eq_null_iff
    obtain ⟨name, item⟩ := m
    by_cases hitem : item = .null
    · subst hitem
      rfl
    · have hdata : item.toData ≠ .null := mt hnull.mp hitem
      have hnone : ∀ {part : Json}, part ≠ .null → (Json.object [(name, part)]).choice? = none := by
        intro part hpart
        cases part with
        | null => exact (hpart rfl).elim
        | _ => rfl
      exact (hnone hdata).trans (hnone hitem).symm
  | m :: m' :: rest =>
    have hnone : ∀ (m m' : String × Json) rest, (Json.object (m :: m' :: rest)).choice? = none := by
      rintro ⟨name, item⟩ m' rest
      cases item <;> rfl
    match data, hp.length_eq with
    | d :: d' :: data, _ => exact (hnone d d' data).trans (hnone m m' rest).symm

instance {α : Type} [Named α] : SteadyForm α where
  ofJson?_toData {j} h := by
    change j.toData.choice?.bind _ = j.choice?.bind _
    congr 1
    obtain he | ⟨x, rfl, he⟩ | ⟨items, rfl, -, he⟩ | ⟨members, data, rfl, -, hm, he, hp⟩ := h.toData_cases
    · rw [he]
    · rw [he]
      rfl
    · rw [he]
      rfl
    · rw [he, choice?_of_perm hm hp]

end Basic

/-! Types made of others. -/

section Composite

variable {α : Type} [JsonForm α]

lemma ofJson?_of_ne_null {j : Json} (h : j ≠ .null) :
    (ofJson? j : Option (Option α)) = (ofJson? j : Option α).map some := by
  cases j with
  | null => exact (h rfl).elim
  | _ => rfl

variable {members data : List (String × Json)}

lemma ofJson?_dictionary_of_mapM {entries : List (String × α)} (hn : (members.map (·.1)).Nodup)
    (hp : data.Perm (members.map memberData))
    (h : (members.map memberData).mapM (fun m => (ofJson? m.2 : Option α).map (m.1, ·)) = some entries) :
    ofJson? (.object data) = some (Dictionary.ofList entries) := by
  have hnames : (entries.map (·.1)).Nodup := by
    rw [map_fst_of_mapM h, List.map_map]
    exact hn
  obtain ⟨entries', hread, hp'⟩ := exists_mapM_of_perm hp.symm h
  refine (congrArg (Option.map Dictionary.ofList) hread).trans (congrArg some ?_)
  exact Dictionary.ofList_eq_of_perm (hp'.symm.trans (Dictionary.entries_ofList_perm hnames).symm)

variable [SteadyForm α]

instance : SteadyForm (Option α) where
  ofJson?_toData {j} h := by
    by_cases hj : j = .null
    · subst hj
      rfl
    · rw [ofJson?_of_ne_null hj, ofJson?_of_ne_null (mt h.toData_eq_null_iff.mp hj), ofJson?_toData h]

lemma mapM_toData {items : List Json} (h : ∀ item ∈ items, item.Definite) :
    (items.map toData).mapM (fun item => (ofJson? item : Option α)) = items.mapM ofJson? := by
  induction items with
  | nil => rfl
  | cons item rest ih =>
    rw [List.forall_mem_cons] at h
    rw [List.map_cons, List.mapM_cons, List.mapM_cons, ih h.2, ofJson?_toData h.1]

instance : SteadyForm (List α) where
  ofJson?_toData {j} h := by
    obtain he | ⟨x, rfl, he⟩ | ⟨items, rfl, hi, he⟩ | ⟨members, data, rfl, -, -, he, -⟩ := h.toData_cases
    · rw [he]
    · rw [he]
      rfl
    · rw [he]
      exact mapM_toData hi
    · rw [he]
      rfl

lemma mapM_memberData {members : List (String × Json)} (h : ∀ m ∈ members, m.2.Definite) :
    (members.map memberData).mapM (fun m => (ofJson? m.2 : Option α).map (m.1, ·)) =
      members.mapM fun m => (ofJson? m.2).map (m.1, ·) := by
  induction members with
  | nil => rfl
  | cons m rest ih =>
    rw [List.forall_mem_cons] at h
    rw [List.map_cons, List.mapM_cons, List.mapM_cons, ih h.2, memberData, ofJson?_toData h.1]

lemma ofJson?_dictionary_of_perm (hn : (members.map (·.1)).Nodup) (hm : ∀ m ∈ members, m.2.Definite)
    (hp : data.Perm (members.map memberData)) :
    (ofJson? (.object data) : Option (Dictionary α)) = ofJson? (.object members) := by
  have hread : _ = members.mapM (fun m => (ofJson? m.2 : Option α).map (m.1, ·)) := mapM_memberData hm
  cases h : members.mapM (fun m => (ofJson? m.2 : Option α).map (m.1, ·)) with
  | some entries =>
    rw [ofJson?_dictionary_of_mapM hn hp (hread.trans h)]
    exact (congrArg (Option.map Dictionary.ofList) h).symm
  | none =>
    have hnone : data.mapM (fun m => (ofJson? m.2 : Option α).map (m.1, ·)) = none := by
      refine Option.eq_none_iff_forall_ne_some.mpr fun entries hsome => ?_
      obtain ⟨entries', hsome', -⟩ := exists_mapM_of_perm hp hsome
      rw [hread, h] at hsome'
      cases hsome'
    exact (congrArg (Option.map Dictionary.ofList) hnone).trans (congrArg (Option.map Dictionary.ofList) h).symm

instance : SteadyForm (Dictionary α) where
  ofJson?_toData {j} h := by
    obtain he | ⟨x, rfl, he⟩ | ⟨items, rfl, -, he⟩ | ⟨members, data, rfl, hn, hm, he, hp⟩ := h.toData_cases
    · rw [he]
    · rw [he]
      rfl
    · rw [he]
      rfl
    · rw [he, ofJson?_dictionary_of_perm hn hm hp]

end Composite

/-! Records. -/

section Fields

variable {ρ : Type}

def Field.Steady (f : Field ρ) : Prop := ∀ (j : Json) (r : ρ), j.Definite → f.read? j.toData r = f.read? j r

section Lenses

variable {α : Type} [JsonForm α] [SteadyForm α] {name : String} {get : ρ → α} {set : α → ρ → ρ}

@[simp] lemma Field.steady_required : (Field.required name get set).Steady :=
  fun _ r h => congrArg (Option.map (set · r)) (ofJson?_toData h)

@[simp] lemma Field.steady_optional : (Field.optional name get set).Steady :=
  fun _ r h => congrArg (Option.map (set · r)) (ofJson?_toData h)

end Lenses

@[simp] lemma Field.steady_orNamed {f : Field ρ} {name : String} : (f.orNamed name).Steady ↔ f.Steady := .rfl

variable {f : Field ρ} {r : ρ} {members data : List (String × Json)}

lemma Field.readMember?_perm (h : data.Perm members) : f.readMember? data r = f.readMember? members r := by
  have hp : (data.filter (f.isNamed ·.1)).Perm (members.filter (f.isNamed ·.1)) := h.filter _
  rw [readMember?, readMember?]
  generalize data.filter (f.isNamed ·.1) = found, members.filter (f.isNamed ·.1) = given at hp ⊢
  obtain _ | ⟨m, _ | ⟨m', rest⟩⟩ := given
  · rw [hp.eq_nil]
  · rw [List.perm_singleton.mp hp]
  · have hlength := hp.length_eq
    obtain _ | ⟨d, _ | ⟨d', found⟩⟩ := found
    · cases hlength
    · cases hlength
    · rfl

lemma Field.readMember?_memberData (hf : f.Steady) (hm : ∀ m ∈ members, m.2.Definite) :
    f.readMember? (members.map memberData) r = f.readMember? members r := by
  have hfilter : (members.map memberData).filter (f.isNamed ·.1) = (members.filter (f.isNamed ·.1)).map memberData :=
    List.filter_map
  rw [readMember?, readMember?, hfilter]
  have hgiven : ∀ m ∈ members.filter (f.isNamed ·.1), m.2.Definite := fun m h => hm m (List.mem_filter.mp h).1
  generalize members.filter (f.isNamed ·.1) = given at hgiven ⊢
  obtain _ | ⟨m, _ | ⟨m', rest⟩⟩ := given
  · rfl
  · exact hf m.2 r (hgiven m List.mem_cons_self)
  · rfl

lemma foldlM_readMember?_data {fields : List (Field ρ)} (hf : ∀ f ∈ fields, f.Steady)
    (hm : ∀ m ∈ members, m.2.Definite) (hp : data.Perm (members.map memberData)) (r : ρ) :
    fields.foldlM (fun r f => f.readMember? data r) r = fields.foldlM (fun r f => f.readMember? members r) r := by
  induction fields generalizing r with
  | nil => rfl
  | cons f fields ih =>
    rw [List.forall_mem_cons] at hf
    rw [List.foldlM_cons, List.foldlM_cons, Field.readMember?_perm hp, Field.readMember?_memberData hf.1 hm]
    exact bind_congr fun s => ih hf.2 s

lemma readItems?_toData {fields : List (Field ρ)} (hf : ∀ f ∈ fields, f.Steady) {items : List Json}
    (hi : ∀ item ∈ items, item.Definite) (r : ρ) :
    RecordForm.readItems? fields (items.map toData) r = RecordForm.readItems? fields items r := by
  induction fields generalizing items r with
  | nil => cases items <;> rfl
  | cons f fields ih =>
    rw [List.forall_mem_cons] at hf
    cases items with
    | nil => rfl
    | cons item items =>
      rw [List.forall_mem_cons] at hi
      rw [List.map_cons, RecordForm.readItems?, RecordForm.readItems?, hf.1 item r hi.1]
      exact bind_congr fun s => ih hf.2 hi.2 s

end Fields

namespace RecordForm

variable {ρ : Type} {f : RecordForm ρ} {members data : List (String × Json)}

lemma unnamed_memberData (f : RecordForm ρ) (hp : data.Perm (members.map memberData)) :
    (f.unnamed data).Perm ((f.unnamed members).map memberData) := by
  have hfilter : f.unnamed (members.map memberData) = (f.unnamed members).map memberData := List.filter_map
  exact hfilter ▸ hp.filter _

lemma readOthers?_data (hn : (members.map (·.1)).Nodup) (hm : ∀ m ∈ members, m.2.Definite)
    (hp : data.Perm (members.map memberData)) (r : ρ) : f.readOthers? data r = f.readOthers? members r := by
  have hothers := unnamed_memberData f hp
  rw [readOthers?, readOthers?]
  cases f.others with
  | ignored => rfl
  | refused =>
    have hempty : (f.unnamed data).isEmpty = (f.unnamed members).isEmpty := by
      rw [hothers.isEmpty_eq, List.isEmpty_map]
    simp only [hempty]
  | kept get set =>
    have hread : (ofJson? (.object (f.unnamed data)) : Option (Dictionary Value)) =
        ofJson? (.object (f.unnamed members)) :=
      ofJson?_dictionary_of_perm (hn.sublist (List.filter_sublist.map _))
        (fun m h => hm m (List.mem_filter.mp h).1) hothers
    simp only [hread]

theorem read?_toData (hf : ∀ g ∈ f.fields, g.Steady) {j : Json} (h : j.Definite) : f.read? j.toData = f.read? j := by
  obtain he | ⟨x, rfl, he⟩ | ⟨items, rfl, hi, he⟩ | ⟨members, data, rfl, hn, hm, he, hp⟩ := h.toData_cases
  · rw [he]
  · rw [he]
    rfl
  · rw [he, read?, read?]
    cases f.others with
    | kept get set => rfl
    | _ => exact readItems?_toData hf hi f.blank
  · rw [he, read?, read?, readMembers?, readMembers?, foldlM_readMember?_data hf hm hp]
    exact bind_congr fun s => readOthers?_data hn hm hp s

lemma steadyForm (hf : ∀ g ∈ f.fields, g.Steady) : @SteadyForm ρ f.jsonForm :=
  @SteadyForm.mk ρ f.jsonForm fun h => read?_toData hf h

end RecordForm

end Diorama
