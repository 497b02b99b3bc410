import Diorama.Json.Record
import Diorama.Proofs.Json.LawfulForm

namespace Diorama

open Json

structure Field.CopiesFrom {ρ : Type} (r : ρ) (f : Field ρ) (copy : ρ → ρ) : Prop where
  wellFormed : (f.write r).WellFormed
  read? {j : Json} (s : ρ) : (f.write r).RenderedAs j → f.read? j s = some (copy s)

def Field.Copies {ρ : Type} (f : Field ρ) (copy : ρ → ρ → ρ) : Prop := ∀ r, f.CopiesFrom r (copy r)

def Field.names {ρ : Type} (f : Field ρ) : List String := f.name :: f.otherNames

section Fields

variable {α ρ : Type} [JsonForm α] {name : String} {get : ρ → α} {set : α → ρ → ρ}

@[simp] lemma Field.name_required : (Field.required name get set).name = name := rfl

@[simp] lemma Field.name_optional : (Field.optional name get set).name = name := rfl

@[simp] lemma Field.write_required (r : ρ) : (Field.required name get set).write r = toJson (get r) := rfl

@[simp] lemma Field.write_optional (r : ρ) : (Field.optional name get set).write r = toJson (get r) := rfl

lemma Faithful.copies_required {r : ρ} (h : Faithful (get r)) :
    (Field.required name get set).CopiesFrom r (set (get r)) where
  wellFormed := h.wellFormed
  read? s hr := congrArg (Option.map (set · s)) (h.read hr)

lemma Faithful.copies_optional {r : ρ} (h : Faithful (get r)) :
    (Field.optional name get set).CopiesFrom r (set (get r)) where
  wellFormed := h.wellFormed
  read? s hr := congrArg (Option.map (set · s)) (h.read hr)

lemma copies_required [LawfulForm α] : (Field.required name get set).Copies fun r => set (get r) :=
  fun r => (LawfulForm.faithful (get r)).copies_required

lemma copies_optional [LawfulForm α] : (Field.optional name get set).Copies fun r => set (get r) :=
  fun r => (LawfulForm.faithful (get r)).copies_optional

variable {f : Field ρ} {copy : ρ → ρ} {fields : List (Field ρ)} {copies : List (ρ → ρ)} {r : ρ}
  {members : List (String × Json)}

lemma Field.Copies.orNamed {copy : ρ → ρ → ρ} (h : f.Copies copy) (name : String) : (f.orNamed name).Copies copy :=
  fun r => ⟨(h r).wellFormed, (h r).read?⟩

lemma Field.isNamed_iff {name : String} : f.isNamed name = true ↔ name ∈ f.names := by
  rw [Field.isNamed, Field.names, Bool.or_eq_true, beq_iff_eq, List.contains_iff_mem, List.mem_cons, eq_comm]

lemma map_name_sublist (fields : List (Field ρ)) : (fields.map Field.name).Sublist (fields.flatMap Field.names) := by
  induction fields with
  | nil => exact .slnil
  | cons f fields ih => exact (ih.trans (List.sublist_append_right _ _)).cons_cons f.name

lemma filter_eq_singleton {β : Type} {l : List β} {p : β → Bool} (hn : l.Nodup) {b : β} (hb : b ∈ l) (hp : p b = true)
    (hother : ∀ c ∈ l, p c = true → c = b) : l.filter p = [b] := by
  have hmem : ∀ c, c ∈ l.filter p ↔ c ∈ [b] := by
    intro c
    rw [List.mem_filter, List.mem_singleton]
    exact ⟨fun h => hother c h.1 h.2, fun h => h ▸ ⟨hb, hp⟩⟩
  exact List.perm_singleton.mp ((List.perm_ext_iff_of_nodup (hn.filter p) (List.nodup_singleton b)).mpr hmem)

def Hold (members : List (String × Json)) (fields : List (Field ρ)) (r : ρ) : Prop :=
  ∀ f ∈ fields, ∃ item, members.filter (f.isNamed ·.1) = [(f.name, item)] ∧ (f.write r).RenderedAs item

lemma foldlM_readMember?_of_hold (hf : List.Forall₂ (Field.CopiesFrom r) fields copies) (hm : Hold members fields r)
    (s : ρ) : fields.foldlM (fun s f => f.readMember? members s) s = some (copies.foldl (fun s copy => copy s) s) := by
  induction hf generalizing s with
  | nil => rfl
  | @cons f copy _ _ hf _ ih =>
    obtain ⟨item, hitem, hr⟩ := hm _ List.mem_cons_self
    have hread : f.readMember? members s = some (copy s) := by
      rw [Field.readMember?, hitem]
      exact hf.read? s hr
    rw [List.foldlM_cons, hread]
    exact ih (fun f hf => hm f (List.mem_cons_of_mem _ hf)) _

def writtenFields (fields : List (Field ρ)) (r : ρ) : List (String × Json) := fields.map fun f => (f.name, f.write r)

lemma membersWellFormed_writtenFields (hf : List.Forall₂ (Field.CopiesFrom r) fields copies) :
    MembersWellFormed (writtenFields fields r) := by
  induction hf with
  | nil => trivial
  | cons hf _ ih => exact ⟨hf.wellFormed, ih⟩

lemma membersWellFormed_append {members other : List (String × Json)} (h : MembersWellFormed members)
    (h' : MembersWellFormed other) : MembersWellFormed (members ++ other) := by
  induction members with
  | nil => exact h'
  | cons m members ih => exact ⟨h.1, ih h.2⟩

lemma map_fst_of_renderedAs {members other : List (String × Json)} (h : MembersRenderedAs members other) :
    other.map (·.1) = members.map (·.1) := by
  induction members generalizing other with
  | nil =>
    obtain rfl := h
    rfl
  | cons m members ih =>
    obtain ⟨item, rest, rfl, -, h⟩ := h
    exact congrArg (m.1 :: ·) (ih h)

lemma membersRenderedAs_append {members other aligned : List (String × Json)}
    (h : MembersRenderedAs (members ++ other) aligned) : ∃ first second, aligned = first ++ second ∧
      MembersRenderedAs members first ∧ MembersRenderedAs other second := by
  induction members generalizing aligned with
  | nil => exact ⟨[], aligned, rfl, rfl, h⟩
  | cons m members ih =>
    obtain ⟨item, rest, rfl, hitem, h⟩ := h
    obtain ⟨first, second, rfl, hf, hs⟩ := ih h
    exact ⟨(m.1, item) :: first, second, rfl, ⟨item, first, rfl, hitem, hf⟩, hs⟩

lemma exists_mem_of_renderedAs (h : MembersRenderedAs (writtenFields fields r) members) (hf : f ∈ fields) :
    ∃ item, (f.name, item) ∈ members ∧ (f.write r).RenderedAs item := by
  induction fields generalizing members with
  | nil => cases hf
  | cons g fields ih =>
    obtain ⟨item, rest, rfl, hitem, h⟩ := h
    rcases List.mem_cons.mp hf with rfl | hf
    · exact ⟨item, List.mem_cons_self, hitem⟩
    · obtain ⟨item', hm, hr⟩ := ih h hf
      exact ⟨item', List.mem_cons_of_mem _ hm, hr⟩

end Fields

namespace RecordForm

variable {ρ : Type} {f : RecordForm ρ} {r s : ρ} {members : List (String × Json)}

def Clears (f : RecordForm ρ) (extra : Dictionary Value) : Prop :=
  ∀ entry ∈ extra.entries, f.fields.any (·.isNamed entry.1) = false

def Restores (f : RecordForm ρ) (r s : ρ) : Prop :=
  match f.others with
  | .kept get set => f.Clears (get r) ∧ set (get r) s = r
  | _ => s = r

def keptMembers (f : RecordForm ρ) (r : ρ) : List (String × Json) :=
  match f.others with
  | .kept get _ => written (get r).entries
  | _ => []

lemma write_eq (f : RecordForm ρ) (r : ρ) : f.write r = .object (writtenFields f.fields r ++ f.keptMembers r) := by
  rw [write, keptMembers]
  cases f.others with
  | kept get set => rfl
  | refused => exact congrArg Json.object (List.append_nil _).symm
  | ignored => exact congrArg Json.object (List.append_nil _).symm

lemma membersWellFormed_keptMembers (f : RecordForm ρ) (r : ρ) : MembersWellFormed (f.keptMembers r) := by
  rw [keptMembers]
  split
  · exact membersWellFormed_written _
  · trivial

lemma Restores.not_named (h : f.Restores r s) : ∀ m ∈ f.keptMembers r, f.fields.any (·.isNamed m.1) = false := by
  rw [Restores] at h
  rw [keptMembers]
  cases hothers : f.others with
  | kept get set =>
    simp only [hothers] at h
    intro m hm
    obtain ⟨entry, he, rfl⟩ := List.mem_map.mp hm
    exact h.1 entry he
  | refused => exact fun m hm => nomatch hm
  | ignored => exact fun m hm => nomatch hm

lemma nodup_keptMembers (f : RecordForm ρ) (r : ρ) : ((f.keptMembers r).map (·.1)).Nodup := by
  rw [keptMembers]
  split
  · rw [written, List.map_map]
    exact Dictionary.keys_nodup _
  · exact List.nodup_nil

lemma readOthers?_of_restores (h : f.Restores r s) {kept : List (String × Json)}
    (hkept : MembersRenderedAs (f.keptMembers r) kept) (hperm : kept.Perm (f.unnamed members)) :
    f.readOthers? members s = some r := by
  rw [Restores] at h
  rw [keptMembers] at hkept
  rw [readOthers?]
  cases hothers : f.others with
  | kept get set =>
    simp only [hothers] at h hkept
    have hread : ofJson? (.object (f.unnamed members)) = some (get r) :=
      ofJson?_of_renderedAs (α := Dictionary Value) ⟨_, kept, rfl, hperm, hkept⟩
    dsimp only
    rw [hread, Option.map_some, h.2]
  | refused =>
    simp only [hothers] at h hkept
    obtain rfl : kept = [] := hkept
    simp only [hperm.nil_eq.symm, List.isEmpty_nil, if_true, h]
  | ignored =>
    simp only [hothers] at h
    exact congrArg some h

lemma nodup_written (hnames : (f.fields.flatMap Field.names).Nodup) (hothers : f.Restores r s) :
    ((writtenFields f.fields r ++ f.keptMembers r).map (·.1)).Nodup := by
  rw [List.map_append, writtenFields, List.map_map]
  refine List.nodup_append.mpr ⟨hnames.sublist (map_name_sublist f.fields), f.nodup_keptMembers r, ?_⟩
  rintro _ hfield _ hkept rfl
  obtain ⟨g, hg, rfl⟩ := List.mem_map.mp hfield
  obtain ⟨m, hm, he⟩ := List.mem_map.mp hkept
  have hno := List.any_eq_false.mp (hothers.not_named m hm) g hg
  exact hno (Field.isNamed_iff.mpr (he ▸ List.mem_cons_self))

lemma eq_of_isNamed (hnames : (f.fields.flatMap Field.names).Nodup) {g g' : Field ρ} (hg : g ∈ f.fields)
    (hg' : g' ∈ f.fields) {name : String} (hn : g.isNamed name = true) (hn' : g'.isNamed name = true) : g = g' := by
  by_contra hne
  have hdisjoint := (List.nodup_flatMap.mp hnames).2
  have hsymm : Std.Symm (Function.onFun List.Disjoint (Field.names (ρ := ρ))) := ⟨fun _ _ h => h.symm⟩
  exact hdisjoint.forall hg hg' hne (Field.isNamed_iff.mp hn) (Field.isNamed_iff.mp hn')

section Aligned

variable {first kept : List (String × Json)}

lemma exists_field_of_renderedAs (h : MembersRenderedAs (writtenFields f.fields r) first) :
    ∀ m ∈ first, ∃ g ∈ f.fields, g.name = m.1 := by
  intro m hm
  have hnames := map_fst_of_renderedAs h
  rw [writtenFields, List.map_map] at hnames
  exact List.mem_map.mp (hnames ▸ List.mem_map_of_mem hm)

lemma not_named_of_renderedAs (hothers : f.Restores r s) (h : MembersRenderedAs (f.keptMembers r) kept) :
    ∀ m ∈ kept, f.fields.any (·.isNamed m.1) = false := by
  intro m hm
  have hmem : m.1 ∈ (f.keptMembers r).map (·.1) := map_fst_of_renderedAs h ▸ List.mem_map_of_mem hm
  obtain ⟨m', hm', he⟩ := List.mem_map.mp hmem
  exact he ▸ hothers.not_named m' hm'

lemma hold_of_perm (hnames : (f.fields.flatMap Field.names).Nodup) (hn : ((first ++ kept).map (·.1)).Nodup)
    (hp : (first ++ kept).Perm members) (hfirst : MembersRenderedAs (writtenFields f.fields r) first)
    (hkept : ∀ m ∈ kept, f.fields.any (·.isNamed m.1) = false) : Hold members f.fields r := by
  intro g hg
  obtain ⟨item, hm, hr⟩ := exists_mem_of_renderedAs hfirst hg
  have hnodup : members.Nodup := ((hp.map (·.1)).nodup_iff.mp hn).of_map
  refine ⟨item, filter_eq_singleton hnodup ?_ (Field.isNamed_iff.mpr List.mem_cons_self) ?_, hr⟩
  · exact hp.mem_iff.mp (List.mem_append_left _ hm)
  · -- Any other member of a name of the field would be another field's, or a kept one.
    intro m hmem hnamed
    refine List.inj_on_of_nodup_map hn (hp.mem_iff.mpr hmem) (List.mem_append_left _ hm) ?_
    rcases List.mem_append.mp (hp.mem_iff.mpr hmem) with hm' | hm'
    · obtain ⟨g', hg', he⟩ := exists_field_of_renderedAs hfirst m hm'
      have hnamed' : g'.isNamed m.1 = true := Field.isNamed_iff.mpr (he ▸ List.mem_cons_self)
      exact he ▸ eq_of_isNamed hnames hg hg' hnamed hnamed' ▸ rfl
    · exact (List.any_eq_false.mp (hkept m hm') g hg hnamed).elim

lemma perm_unnamed (hp : (first ++ kept).Perm members)
    (hfirst : MembersRenderedAs (writtenFields f.fields r) first)
    (hkept : ∀ m ∈ kept, f.fields.any (·.isNamed m.1) = false) : kept.Perm (f.unnamed members) := by
  have hfilter : (first ++ kept).filter (fun m => !f.fields.any (·.isNamed m.1)) = kept := by
    rw [List.filter_append, List.filter_eq_nil_iff.mpr, List.nil_append, List.filter_eq_self.mpr]
    · intro m hm
      rw [hkept m hm]
      rfl
    · intro m hm
      obtain ⟨g, hg, he⟩ := exists_field_of_renderedAs hfirst m hm
      have hany : f.fields.any (·.isNamed m.1) = true :=
        List.any_eq_true.mpr ⟨g, hg, Field.isNamed_iff.mpr (he ▸ List.mem_cons_self)⟩
      simp [hany]
  exact hfilter ▸ hp.filter _

end Aligned

theorem faithful (copies : List (ρ → ρ)) (hnames : (f.fields.flatMap Field.names).Nodup)
    (hfields : List.Forall₂ (Field.CopiesFrom r) f.fields copies)
    (hothers : f.Restores r (copies.foldl (fun s copy => copy s) f.blank)) : @Faithful ρ f.jsonForm r := by
  have hdistinct := nodup_written hnames hothers
  refine @Faithful.mk ρ f.jsonForm r ?_ fun {j} h => ?_
  · change (f.write r).WellFormed
    rw [write_eq]
    exact ⟨hdistinct,
      membersWellFormed_append (membersWellFormed_writtenFields hfields) (f.membersWellFormed_keptMembers r)⟩
  · change (f.write r).RenderedAs j at h
    rw [write_eq] at h
    obtain ⟨members, aligned, rfl, hp, h⟩ := h
    have hn : (aligned.map (·.1)).Nodup := map_fst_of_renderedAs h ▸ hdistinct
    obtain ⟨first, kept, rfl, hfirst, hkept⟩ := membersRenderedAs_append h
    have hfree := not_named_of_renderedAs hothers hkept
    change f.readMembers? members = some r
    rw [readMembers?, foldlM_readMember?_of_hold hfields (hold_of_perm hnames hn hp hfirst hfree)]
    exact readOthers?_of_restores hothers hkept (perm_unnamed hp hfirst hfree)

theorem lawfulForm {copies : List (ρ → ρ → ρ)} (hnames : (f.fields.flatMap Field.names).Nodup)
    (hfields : List.Forall₂ Field.Copies f.fields copies)
    (hrestore : ∀ r, f.Restores r (copies.foldl (fun s copy => copy r s) f.blank)) : @LawfulForm ρ f.jsonForm := by
  let := f.jsonForm
  have hfaithful : ∀ r : ρ, Faithful r := by
    intro r
    refine faithful (copies.map fun copy => copy r) hnames ?_ ?_
    · rw [List.forall₂_map_right_iff]
      exact hfields.imp fun _ _ h => h r
    · rw [List.foldl_map]
      exact hrestore r
  exact ⟨fun r => (hfaithful r).wellFormed, fun {r _} h => (hfaithful r).read h⟩

lemma presentForm {f : RecordForm ρ} : @PresentForm ρ f.jsonForm :=
  @PresentForm.mk ρ f.jsonForm fun r h => by
    change f.write r = .null at h
    rw [write_eq] at h
    cases h

end RecordForm

end Diorama
