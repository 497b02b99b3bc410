import Diorama.Proofs.Json.Path
import Diorama.Proofs.Json.ReadRecord

namespace Diorama

open Json

/-- Whether a path leads from a document to a part of it that is read by itself, and whatever is read in the place of
the part is put into what is read of the document. -/
structure Json.Exposes {α β : Type} [JsonForm α] [JsonForm β] (j : Json) (path : Path) (item : Json) (b : β)
    (put : β → α) : Prop where
  read : ofJson? item = some b
  exchange {f : Json → Json} {b' : β} : ofJson? (f item) = some b' → ofJson? (changeAt f path j) = some (put b')

lemma Json.Exposes.trans {α β γ : Type} [JsonForm α] [JsonForm β] [JsonForm γ] {j item part : Json} {path rest : Path}
    {b : β} {c : γ} {put : β → α} {put' : γ → β} (h : j.Exposes path item b put) (h' : item.Exposes rest part c put') :
    j.Exposes (path ++ rest) part c (put ∘ put') where
  read := h'.read
  exchange {f c'} hc := by
    rw [changeAt_append]
    exact h.exchange (h'.exchange hc)

/-! Lists. -/

section Lists

variable {α : Type} [JsonForm α]

lemma mapM_modify {β γ : Type} {f : β → Option γ} {change : β → β} {l : List β} {r : List γ} (h : l.mapM f = some r)
    {i : Nat} {b : β} (hb : l[i]? = some b) {c : γ} (hc : f (change b) = some c) :
    (l.modify i change).mapM f = some (r.set i c) := by
  rw [mapM_eq_some_iff] at h ⊢
  induction h generalizing i with
  | nil => cases hb
  | @cons b' c' _ _ hb' hrest ih =>
    cases i with
    | zero =>
      obtain rfl := Option.some.inj hb
      exact .cons hc hrest
    | succ i => exact .cons hb' (ih hb)

lemma exposes_item {j item : Json} {as : List α} {i : Nat} (h : ofJson? j = some as)
    (hitem : j.at? [.item i] = some item) : ∃ a, as[i]? = some a ∧ j.Exposes [.item i] item a (as.set i) := by
  rw [at?_singleton] at hitem
  cases j with
  | array items =>
    obtain ⟨a, ha, hread⟩ := getElem?_of_forall₂ (mapM_eq_some_iff.mp h) hitem
    exact ⟨a, ha, hread, mapM_modify (f := ofJson?) h hitem⟩
  | _ => cases h

end Lists

/-! Dictionaries. -/

lemma written_insertEntry {α : Type} [JsonForm α] (name : String) (a : α) (entries : List (String × α)) :
    written (Dictionary.insertEntry name a entries) = Dictionary.insertEntry name (toJson a) (written entries) := by
  induction entries with
  | nil => rfl
  | cons entry entries ih =>
    change _ = Dictionary.insertEntry name (toJson a) ((entry.1, toJson entry.2) :: written entries)
    rw [Dictionary.insertEntry, Dictionary.insertEntry]
    split
    · rfl
    · split
      · rfl
      · exact congrArg _ ih

lemma ofJson?_withMember {j : Json} {d : Dictionary Value} (hdata : j.isData = true) (h : ofJson? j = some d)
    (name : String) (item : Value) : ofJson? (withMember name item.json j) = some (d.insert name item) := by
  cases j with
  | object members =>
    have hmembers : written d.entries = members := Json.object.inj (toJson_of_ofJson?_data hdata h)
    have hwritten : toJson (d.insert name item) = withMember name item.json (.object members) := by
      rw [withMember, ← hmembers]
      exact congrArg Json.object (written_insertEntry name item d.entries)
    rw [← hwritten]
    exact ofJson?_of_renderedAs (renderedAs_self _ (wellFormed _))
  | _ => cases h

/-! Records. -/

variable {ρ : Type}

def Field.Passes (put : ρ → ρ) (g : Field ρ) : Prop := ∀ j r, g.read? j (put r) = (g.read? j r).map put

section Fields

variable {α : Type} [JsonForm α] {name : String} {get : ρ → α} {set : α → ρ → ρ} {put : ρ → ρ} {g : Field ρ}
  {fields : List (Field ρ)} {members : List (String × Json)} {r : ρ}

lemma Field.passes_required (h : ∀ a r, set a (put r) = put (set a r)) :
    (Field.required name get set).Passes put := by
  intro j r
  change (ofJson? j).map (set · (put r)) = ((ofJson? j).map (set · r)).map put
  rw [Option.map_map]
  exact congrArg (Option.map · _) (funext fun a => h a r)

@[simp] lemma Field.passes_optional_iff :
    (Field.optional name get set).Passes put ↔ (Field.required name get set).Passes put :=
  .rfl

lemma Field.Passes.readMember? (h : g.Passes put) :
    g.readMember? members (put r) = (g.readMember? members r).map put := by
  rw [Field.readMember?, Field.readMember?]
  split
  · split <;> rfl
  · exact h _ r
  · rfl

lemma foldlM_passes (h : ∀ g ∈ fields, g.Passes put) :
    fields.foldlM (fun r (g : Field ρ) => g.readMember? members r) (put r) =
      (fields.foldlM (fun r (g : Field ρ) => g.readMember? members r) r).map put := by
  induction fields generalizing r with
  | nil => rfl
  | cons g fields ih =>
    rw [List.forall_mem_cons] at h
    rw [List.foldlM_cons, List.foldlM_cons, h.1.readMember?]
    cases g.readMember? members r with
    | none => rfl
    | some s => exact ih h.2

lemma readItems?_passes (h : ∀ g ∈ fields, g.Passes put) (items : List Json) :
    RecordForm.readItems? fields items (put r) = (RecordForm.readItems? fields items r).map put := by
  induction fields generalizing items r with
  | nil => cases items <;> rfl
  | cons g fields ih =>
    rw [List.forall_mem_cons] at h
    cases items with
    | nil =>
      rw [RecordForm.readItems?, RecordForm.readItems?]
      split
      · rfl
      · exact ih h.2 []
    | cons item items =>
      rw [RecordForm.readItems?, RecordForm.readItems?, h.1]
      cases g.read? item r with
      | none => rfl
      | some s => exact ih h.2 items

/-! Members with another item under one name. -/

variable {f : Json → Json}

def changed (f : Json → Json) (name : String) (members : List (String × Json)) : List (String × Json) :=
  members.map fun m => if m.1 = name then (m.1, f m.2) else m

lemma filter_changed (p : String → Bool) (members : List (String × Json)) :
    (changed f name members).filter (p ·.1) = changed f name (members.filter (p ·.1)) := by
  rw [changed, changed, List.filter_map]
  refine congrArg (List.map _) (List.filter_congr fun m _ => ?_)
  rw [Function.comp_apply, apply_ite Prod.fst, ite_self]

lemma changed_of_free (h : ∀ m ∈ members, m.1 ≠ name) : changed f name members = members := by
  refine (List.map_congr_left fun m hm => ?_).trans (List.map_id members)
  rw [if_neg (h m hm)]
  rfl

lemma readMember?_changed (h : name ∉ g.names) :
    g.readMember? (changed f name members) r = g.readMember? members r := by
  have hfilter : (changed f name members).filter (g.isNamed ·.1) = members.filter (g.isNamed ·.1) := by
    rw [filter_changed]
    refine changed_of_free fun m hm he => h ?_
    exact he ▸ Field.isNamed_iff.mp (List.mem_filter.mp hm).2
  rw [Field.readMember?, Field.readMember?, hfilter]

lemma foldlM_changed (h : ∀ g ∈ fields, name ∉ g.names) :
    fields.foldlM (fun r (g : Field ρ) => g.readMember? (changed f name members) r) r =
      fields.foldlM (fun r (g : Field ρ) => g.readMember? members r) r := by
  induction fields generalizing r with
  | nil => rfl
  | cons g fields ih =>
    rw [List.forall_mem_cons] at h
    rw [List.foldlM_cons, List.foldlM_cons, readMember?_changed h.1]
    exact congrArg _ (funext fun s => ih h.2)

lemma readMember?_exchange {item : Json} {s : ρ} (h : (Field.optional name get set).readMember? members r = some s)
    (hitem : (Json.object members).member? name = some item) : ∃ a, ofJson? item = some a ∧ s = set a r ∧
      ∀ {f : Json → Json} {b : α}, ofJson? (f item) = some b →
        (Field.optional name get set).readMember? (changed f name members) r = some (set b r) := by
  have hmem : (name, item) ∈ members.filter ((Field.optional name get set).isNamed ·.1) :=
    List.mem_filter.mpr ⟨mem_of_member? hitem, Field.isNamed_iff.mpr List.mem_cons_self⟩
  obtain ⟨hnone, -, -⟩ | ⟨m, hone, hm⟩ := Field.readMember?_cases h
  · rw [hnone] at hmem
    cases hmem
  · obtain rfl : (name, item) = m := List.mem_singleton.mp (hone ▸ hmem)
    obtain ⟨a, ha, rfl⟩ := Field.read?_optional hm
    refine ⟨a, ha, rfl, fun {f b} hb => ?_⟩
    rw [Field.readMember?, filter_changed, hone, changed, List.map_singleton, if_pos rfl]
    exact congrArg (Option.map (set · r)) hb

end Fields

namespace RecordForm

structure Slot {α : Type} [JsonForm α] (form : RecordForm ρ) (name : String) (get : ρ → α) (set : α → ρ → ρ)
    (before after : List (Field ρ)) : Prop where
  others : form.others = .refused
  fields_eq : form.fields = before ++ .optional name get set :: after
  before_free : ∀ g ∈ before, name ∉ g.names
  after_free : ∀ g ∈ after, name ∉ g.names
  passes (a : α) : ∀ g ∈ after, g.Passes (set a)
  get_set (a : α) (r : ρ) : get (set a r) = a
  set_set (a b : α) (r : ρ) : set b (set a r) = set b r

variable {α : Type} [JsonForm α] {form : RecordForm ρ} {name : String} {get : ρ → α} {set : α → ρ → ρ}
  {before after : List (Field ρ)} {members : List (String × Json)} {items : List Json} {item : Json} {r t : ρ}

namespace Slot

lemma readMembers? (hs : form.Slot name get set before after) (h : form.readMembers? members = some r)
    (hitem : (Json.object members).member? name = some item) : ∃ a s, ofJson? item = some a ∧ r = set a s ∧
      ∀ {f : Json → Json} {b : α}, ofJson? (f item) = some b →
        form.readMembers? (changed f name members) = some (set b s) := by
  obtain ⟨hunnamed, hread⟩ := (readMembers?_eq_some_iff hs.others).mp h
  rw [hs.fields_eq, List.foldlM_append] at hread
  obtain ⟨t, hbefore, hread⟩ := Option.bind_eq_some_iff.mp hread
  obtain ⟨u, hu, hafter⟩ := Option.bind_eq_some_iff.mp hread
  obtain ⟨a, ha, rfl, hexchange⟩ := readMember?_exchange hu hitem
  -- The fields after this one make the same of the record before and after the value is put in.
  rw [foldlM_passes (hs.passes a)] at hafter
  obtain ⟨s, hrest, rfl⟩ := Option.map_eq_some_iff.mp hafter
  refine ⟨a, s, ha, rfl, fun {f b} hb => (readMembers?_eq_some_iff hs.others).mpr ⟨?_, ?_⟩⟩
  · have hfilter : form.unnamed (changed f name members) = changed f name (form.unnamed members) :=
      filter_changed (fun other => !form.fields.any (·.isNamed other)) members
    rw [hfilter, hunnamed]
    rfl
  · rw [hs.fields_eq, List.foldlM_append, foldlM_changed hs.before_free, hbefore]
    refine Option.bind_eq_some_iff.mpr ⟨t, rfl, Option.bind_eq_some_iff.mpr ⟨set b t, hexchange hb, ?_⟩⟩
    rw [foldlM_changed hs.after_free, foldlM_passes (hs.passes b), hrest]
    rfl

lemma readItems? (hpasses : ∀ a, ∀ g ∈ after, g.Passes (set a))
    (h : RecordForm.readItems? (before ++ .optional name get set :: after) items t = some r)
    (hitem : items[before.length]? = some item) : ∃ a s, ofJson? item = some a ∧ r = set a s ∧
      ∀ {f : Json → Json} {b : α}, ofJson? (f item) = some b →
        RecordForm.readItems? (before ++ .optional name get set :: after) (items.modify before.length f) t =
          some (set b s) := by
  -- By induction on the fields in front, each of which takes one item.
  induction before generalizing items t with
  | nil =>
    cases items with
    | nil => cases hitem
    | cons first rest =>
      obtain rfl : first = item := Option.some.inj hitem
      obtain ⟨u, hu, hafter⟩ := Option.bind_eq_some_iff.mp h
      obtain ⟨a, ha, rfl⟩ := Field.read?_optional hu
      rw [readItems?_passes (hpasses a)] at hafter
      obtain ⟨s, hs, rfl⟩ := Option.map_eq_some_iff.mp hafter
      refine ⟨a, s, ha, rfl, fun {f b} hb => ?_⟩
      have hfield : (Field.optional name get set).read? (f first) t = some (set b t) :=
        congrArg (Option.map (set · t)) hb
      change ((Field.optional name get set).read? (f first) t).bind _ = _
      rw [hfield, Option.bind_some, readItems?_passes (hpasses b), hs]
      rfl
  | cons g before ih =>
    cases items with
    | nil => cases hitem
    | cons first rest =>
      obtain ⟨u, hu, hrest⟩ := Option.bind_eq_some_iff.mp h
      obtain ⟨a, s, ha, he, hexchange⟩ := ih hrest hitem
      refine ⟨a, s, ha, he, fun {f b} hb => ?_⟩
      change (g.read? first t).bind _ = _
      rw [hu, Option.bind_some]
      exact hexchange hb

theorem exposes (hs : form.Slot name get set before after) {j : Json} {step : Step} (h : form.read? j = some r)
    (hstep : step ∈ [Step.member name, .item before.length]) (hitem : j.at? [step] = some item) :
    @Exposes ρ α form.jsonForm _ j [step] item (get r) (set · r) := by
  rw [at?_singleton] at hitem
  cases j with
  | object members =>
    obtain rfl : step = .member name := by
      rcases List.mem_cons.mp hstep with rfl | hplace
      · rfl
      · obtain rfl := List.mem_singleton.mp hplace
        cases hitem
    obtain ⟨a, s, ha, rfl, hexchange⟩ := hs.readMembers? h hitem
    refine @Exposes.mk ρ α form.jsonForm _ _ _ _ _ _ (by rw [hs.get_set, ha]) fun hb => ?_
    rw [hs.set_set]
    exact hexchange hb
  | array items =>
    obtain rfl : step = .item before.length := by
      rcases List.mem_cons.mp hstep with rfl | hplace
      · cases hitem
      · exact List.mem_singleton.mp hplace
    rw [RecordForm.read?, hs.others, hs.fields_eq] at h
    obtain ⟨a, s, ha, rfl, hexchange⟩ := Slot.readItems? hs.passes h hitem
    refine @Exposes.mk ρ α form.jsonForm _ _ _ _ _ _ (by rw [hs.get_set, ha]) fun {f b} hb => ?_
    change form.read? (.array (items.modify before.length f)) = _
    rw [RecordForm.read?, hs.others, hs.fields_eq, hs.set_set]
    exact hexchange hb
  | _ => cases h

end Slot

lemma Slot.exposes_item {get : ρ → List α} {set : List α → ρ → ρ} (hs : form.Slot name get set before after) {j : Json}
    {step : Step} {i : Nat} (h : form.read? j = some r) (hstep : step ∈ [Step.member name, .item before.length])
    (hitem : j.at? [step, .item i] = some item) :
    ∃ a, (get r)[i]? = some a ∧
      @Exposes ρ α form.jsonForm _ j [step, .item i] item a fun a' => set ((get r).set i a') r := by
  let := form.jsonForm
  obtain ⟨part, hpart, hitem⟩ := at?_append [step] [.item i] hitem
  have hlist : j.Exposes [step] part (get r) (set · r) := hs.exposes h hstep hpart
  obtain ⟨a, ha, hexposes⟩ := Diorama.exposes_item hlist.read hitem
  exact ⟨a, ha, hlist.trans hexposes⟩

end RecordForm

end Diorama
