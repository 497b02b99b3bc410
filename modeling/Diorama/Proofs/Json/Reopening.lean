import Diorama.Proofs.Json.Survival

namespace Diorama

open Json

class ReopeningForm (α : Type) [JsonForm α] where
  needed : α → List Scalar
  reopens_iff (a : α) : (∃ b : α, ofJson? (toJson a).reread = some b) ↔ ∀ x ∈ needed a, x.isFinite = true

export ReopeningForm (needed reopens_iff)

class PresentText (α : Type) [JsonForm α] : Prop where
  reread_ne_null (a : α) : (toJson a).reread ≠ .null

export PresentText (reread_ne_null)

@[reducible] def ReopeningForm.ofSurvives {α : Type} [JsonForm α] [LawfulForm α] (h : ∀ a : α, (toJson a).Survives) :
    ReopeningForm α where
  needed _ := []
  reopens_iff a := iff_of_true ⟨a, ofJson?_of_renderedAs (renderedAs_reread (toJson a) (wellFormed a) (h a))⟩
    fun _ hx => nomatch hx

instance : ReopeningForm Bool := .ofSurvives fun _ => survives_of_numberless rfl rfl

instance : ReopeningForm String := .ofSurvives fun _ => survives_of_numberless rfl rfl

instance : PresentText String := ⟨fun _ h => nomatch h⟩

instance : ReopeningForm UInt8 := .ofSurvives fun _ => survives_of_numberless rfl rfl

instance : ReopeningForm Int32 := .ofSurvives fun _ => survives_of_numberless rfl rfl

instance {α : Type} [Named α] [LawfulNamed α] : ReopeningForm α := .ofSurvives fun _ => survives_of_numberless rfl rfl

instance : ReopeningForm Scalar where
  needed x := [x]
  reopens_iff x := by
    rw [List.forall_mem_singleton]
    cases hx : Float32.isFinite x with
    | true =>
      obtain ⟨y, hy⟩ := exists_readBack_single hx
      have hread : ofJson? (toJson x).reread = some (Scalar.narrow y) :=
        congrArg (ofJson? : Json → Option Scalar) hy
      exact iff_of_true ⟨_, hread⟩ rfl
    | false =>
      have hread : (ofJson? (toJson x).reread : Option Scalar) = none :=
        congrArg (ofJson? : Json → Option Scalar) (readBack_single_of_not_finite hx)
      refine iff_of_false ?_ Bool.false_ne_true
      rintro ⟨y, hy⟩
      rw [hread] at hy
      cases hy

mutual

lemma isReadable_reread : ∀ j : Json, j.isData = true → j.reread.isReadable = true
  | .null, _ => rfl
  | .bool _, _ => rfl
  | .integer _, _ => rfl
  | .real x, hd => by
    obtain ⟨y, hy⟩ := exists_readBack_real hd
    rw [reread, hy]
    rfl
  | .single _, hd => by cases hd
  | .string _, _ => rfl
  | .array items, hd => areReadable_itemsReread items hd
  | .object members, hd => by
    rw [isData, Bool.and_eq_true] at hd
    exact membersAreReadable_membersReread members hd.2
  | .unreadable, hd => by cases hd

lemma areReadable_itemsReread : ∀ items : List Json, areData items = true → areReadable (itemsReread items) = true
  | [], _ => rfl
  | item :: rest, hd => by
    rw [areData, Bool.and_eq_true] at hd
    rw [itemsReread, areReadable, isReadable_reread item hd.1, areReadable_itemsReread rest hd.2]
    rfl

lemma membersAreReadable_membersReread : ∀ members : List (String × Json), membersAreData members = true →
    membersAreReadable (membersReread members) = true
  | [], _ => rfl
  | (_, item) :: rest, hd => by
    rw [membersAreData, Bool.and_eq_true] at hd
    rw [membersReread, membersAreReadable, isReadable_reread item hd.1, membersAreReadable_membersReread rest hd.2]
    rfl

end

instance : ReopeningForm Value where
  needed _ := []
  reopens_iff v := iff_of_true ⟨_, if_pos (isReadable_reread v.json v.isData)⟩ fun _ hx => nomatch hx

lemma exists_mapM_iff {β γ : Type} {f : β → Option γ} {l : List β} :
    (∃ r, l.mapM f = some r) ↔ ∀ b ∈ l, ∃ c, f b = some c := by
  simp only [mapM_eq_some_iff]
  induction l with
  | nil => exact iff_of_true ⟨[], .nil⟩ fun _ hb => nomatch hb
  | cons b l ih =>
    rw [List.forall_mem_cons, ← ih]
    constructor
    · rintro ⟨r, hr⟩
      cases hr with
      | cons hb hrest => exact ⟨⟨_, hb⟩, _, hrest⟩
    · rintro ⟨⟨c, hb⟩, r, hr⟩
      exact ⟨c :: r, .cons hb hr⟩

variable {α : Type} [JsonForm α]

lemma forall_mem_flatMap_iff {β γ : Type} {items : List β} {f : β → List γ} {P : γ → Prop} :
    (∀ x ∈ items.flatMap f, P x) ↔ ∀ a ∈ items, ∀ x ∈ f a, P x := by
  simp only [List.mem_flatMap, forall_exists_index, and_imp]
  exact ⟨fun h a ha x hx => h x a ha hx, fun h x a ha hx => h a ha x hx⟩

instance [ReopeningForm α] : ReopeningForm (List α) where
  needed items := items.flatMap needed
  reopens_iff items := by
    rw [forall_mem_flatMap_iff]
    change (∃ b : List α, (itemsReread (items.map toJson)).mapM ofJson? = some b) ↔ _
    rw [exists_mapM_iff, itemsReread_eq_map, List.forall_mem_map, List.forall_mem_map]
    exact forall₂_congr fun a _ => reopens_iff a

instance [ReopeningForm α] [PresentText α] : ReopeningForm (Option α) where
  needed o := o.toList.flatMap needed
  reopens_iff o := by
    cases o with
    | none => exact iff_of_true ⟨none, rfl⟩ fun _ hx => nomatch hx
    | some a =>
      have hread : (ofJson? (toJson a).reread : Option (Option α)) = (ofJson? (toJson a).reread).map some := by
        have hpresent := reread_ne_null a
        cases hj : (toJson a).reread with
        | null => exact (hpresent hj).elim
        | _ => rfl
      rw [Option.toList_some, List.flatMap_singleton, ← reopens_iff a]
      change (∃ b : Option α, ofJson? (toJson a).reread = some b) ↔ _
      rw [hread]
      simp only [Option.map_eq_some_iff]
      exact ⟨fun ⟨_, b, hb, _⟩ => ⟨b, hb⟩, fun ⟨b, hb⟩ => ⟨some b, b, hb, rfl⟩⟩

instance : ReopeningForm (Option Scalar) where
  needed _ := []
  reopens_iff o := by
    refine iff_of_true ?_ fun _ hx => nomatch hx
    cases o with
    | none => exact ⟨none, rfl⟩
    | some x =>
      change ∃ b : Option Scalar, ofJson? (Json.single x).readBack = some b
      cases hx : Float32.isFinite x with
      | true =>
        obtain ⟨y, hy⟩ := exists_readBack_single hx
        exact ⟨some (Scalar.narrow y), congrArg (ofJson? : Json → Option (Option Scalar)) hy⟩
      | false =>
        exact ⟨none, congrArg (ofJson? : Json → Option (Option Scalar)) (readBack_single_of_not_finite hx)⟩

instance : ReopeningForm NameSet := .ofSurvives survives_nameSet

instance : ReopeningForm (Dictionary Value) where
  needed _ := []
  reopens_iff d := by
    refine iff_of_true ?_ fun _ hx => nomatch hx
    have hmembers : ∀ m ∈ membersReread (written d.entries), ∃ entry,
        (ofJson? m.2 : Option Value).map (m.1, ·) = some entry := by
      rw [written_reread, List.forall_mem_map]
      intro entry _
      obtain ⟨v, hv⟩ := (reopens_iff entry.2).mpr fun _ hx => nomatch hx
      exact ⟨(entry.1, v), by rw [hv, Option.map_some]⟩
    obtain ⟨entries, hread⟩ := exists_mapM_iff.mpr hmembers
    exact ⟨Dictionary.ofList entries, congrArg (Option.map Dictionary.ofList) hread⟩

variable {ρ : Type}

def Field.Needs (f : Field ρ) (need : ρ → List Scalar) : Prop :=
  ∀ r s, (∃ t, f.read? (f.write r).reread s = some t) ↔ ∀ x ∈ need r, x.isFinite = true

section Fields

variable [ReopeningForm α] {name : String} {get : ρ → α} {set : α → ρ → ρ}

lemma Field.needs_required : (Field.required name get set).Needs fun r => needed (get r) := by
  intro r s
  rw [← reopens_iff (get r)]
  constructor
  · rintro ⟨t, ht⟩
    obtain ⟨a, ha, -⟩ := Field.read?_required ht
    exact ⟨a, ha⟩
  · rintro ⟨a, ha⟩
    exact ⟨set a s, congrArg (Option.map (set · s)) ha⟩

lemma Field.needs_optional : (Field.optional name get set).Needs fun r => needed (get r) := by
  change (Field.required name get set).Needs fun r => needed (get r)
  exact Field.needs_required

end Fields

lemma exists_foldlM_iff {fields : List (Field ρ)} {needs : List (ρ → List Scalar)}
    {members : List (String × Json)} {r : ρ}
    (hfields : List.Forall₂ Field.Needs fields needs)
    (hread : ∀ g ∈ fields, ∀ s, g.readMember? members s = g.read? (g.write r).reread s) (s : ρ) :
    (∃ t, fields.foldlM (fun s g => g.readMember? members s) s = some t) ↔
      ∀ x ∈ needs.flatMap (· r), x.isFinite = true := by
  induction hfields generalizing s with
  | nil => exact iff_of_true ⟨s, rfl⟩ fun _ hx => nomatch hx
  | @cons g need fields needs hg _ ih =>
    rw [List.forall_mem_cons] at hread
    rw [List.flatMap_cons, List.forall_mem_append, ← hg r s, ← hread.1 s, List.foldlM_cons]
    constructor
    · rintro ⟨t, ht⟩
      obtain ⟨t', ht', hrest⟩ := Option.bind_eq_some_iff.mp ht
      exact ⟨⟨t', ht'⟩, (ih hread.2 t').mp ⟨t, hrest⟩⟩
    · rintro ⟨⟨t', ht'⟩, hrest⟩
      obtain ⟨t, ht⟩ := (ih hread.2 t').mpr hrest
      exact ⟨t, Option.bind_eq_some_iff.mpr ⟨t', ht', ht⟩⟩

namespace RecordForm

variable {f : RecordForm ρ}

lemma filter_reread (hnames : (f.fields.flatMap Field.names).Nodup) {g : Field ρ} (hg : g ∈ f.fields) (r : ρ) :
    (membersReread (writtenFields f.fields r)).filter (g.isNamed ·.1) = [(g.name, (g.write r).reread)] := by
  have hmap : membersReread (writtenFields f.fields r) = f.fields.map fun g => (g.name, (g.write r).reread) := by
    rw [membersReread_eq_map, writtenFields, List.map_map]
    rfl
  rw [hmap]
  refine filter_eq_singleton ?_ (List.mem_map_of_mem hg) (Field.isNamed_iff.mpr List.mem_cons_self) ?_
  · have hdistinct : ((f.fields.map fun g => (g.name, (g.write r).reread)).map (·.1)).Nodup := by
      rw [List.map_map]
      exact hnames.sublist (map_name_sublist f.fields)
    exact hdistinct.of_map
  · intro m hm hnamed
    obtain ⟨g', hg', rfl⟩ := List.mem_map.mp hm
    rw [eq_of_isNamed hnames hg hg' hnamed (Field.isNamed_iff.mpr List.mem_cons_self)]

lemma readOthers?_reread (hothers : f.others = .refused) (r s : ρ) :
    f.readOthers? (membersReread (writtenFields f.fields r)) s = some s := by
  have hnone : f.unnamed (membersReread (writtenFields f.fields r)) = [] := by
    refine List.filter_eq_nil_iff.mpr fun m hm => ?_
    rw [membersReread_eq_map] at hm
    obtain ⟨m', hm', rfl⟩ := List.mem_map.mp hm
    obtain ⟨g, hg, rfl⟩ := List.mem_map.mp hm'
    have hany : f.fields.any (·.isNamed g.name) = true :=
      List.any_eq_true.mpr ⟨g, hg, Field.isNamed_iff.mpr List.mem_cons_self⟩
    simp [hany]
  rw [readOthers?, hothers, hnone]
  rfl

theorem reopens_iff {needs : List (ρ → List Scalar)} (hnames : (f.fields.flatMap Field.names).Nodup)
    (hothers : f.others = .refused) (hfields : List.Forall₂ Field.Needs f.fields needs) (r : ρ) :
    (∃ s, f.read? (f.write r).reread = some s) ↔ ∀ x ∈ needs.flatMap (· r), x.isFinite = true := by
  have hread : ∀ g ∈ f.fields, ∀ s,
      g.readMember? (membersReread (writtenFields f.fields r)) s = g.read? (g.write r).reread s := by
    intro g hg s
    rw [Field.readMember?, filter_reread hnames hg]
  have hrecord : f.read? (f.write r).reread =
      f.fields.foldlM (fun s g => g.readMember? (membersReread (writtenFields f.fields r)) s) f.blank := by
    rw [write_of_refused hothers]
    change f.readMembers? (membersReread (writtenFields f.fields r)) = _
    rw [readMembers?]
    simp only [readOthers?_reread hothers, Option.bind_eq_bind]
    exact Option.bind_fun_some _
  rw [hrecord, exists_foldlM_iff hfields hread]

@[reducible] def reopeningForm {needs : List (ρ → List Scalar)} (hnames : (f.fields.flatMap Field.names).Nodup)
    (hothers : f.others = .refused) (hfields : List.Forall₂ Field.Needs f.fields needs) (needed : ρ → List Scalar)
    (hneeded : ∀ r, needed r = needs.flatMap (· r)) : @ReopeningForm ρ f.jsonForm :=
  @ReopeningForm.mk ρ f.jsonForm needed fun r => by
    rw [hneeded r]
    exact reopens_iff hnames hothers hfields r

lemma presentText (hothers : f.others = .refused) : @PresentText ρ f.jsonForm :=
  @PresentText.mk ρ f.jsonForm fun r h => by
    change (f.write r).reread = .null at h
    rw [write_of_refused hothers] at h
    cases h

end RecordForm

end Diorama
