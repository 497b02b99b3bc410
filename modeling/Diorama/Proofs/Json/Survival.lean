import Diorama.Proofs.Json.ReadRecord
import Diorama.Proofs.Json.Readable

/-! Documents whose numbers survive their text: each is read as itself from its own numeral. Such a document is
rendered by what its text is read as, and a value that is read from its own text has such a document. -/

namespace Diorama

namespace Json

mutual

def reals : Json → List Float
  | .real x => [x]
  | .array items => itemsReals items
  | .object members => membersReals members
  | .null => []
  | .bool _ => []
  | .integer _ => []
  | .single _ => []
  | .string _ => []
  | .unreadable => []

def itemsReals : List Json → List Float
  | [] => []
  | item :: rest => item.reals ++ itemsReals rest

def membersReals : List (String × Json) → List Float
  | [] => []
  | (_, item) :: rest => item.reals ++ membersReals rest

end

structure Survives (j : Json) : Prop where
  scalars : ∀ x ∈ j.scalars, ofJson? (Json.single x).readBack = some x
  reals : ∀ x ∈ j.reals, (Json.real x).readBack = .real x

lemma survives_array_iff {items : List Json} : (Json.array items).Survives ↔ ∀ item ∈ items, item.Survives := by
  induction items with
  | nil => exact ⟨fun _ _ h => (nomatch h), fun _ => ⟨fun _ h => (nomatch h), fun _ h => (nomatch h)⟩⟩
  | cons item rest ih =>
    rw [List.forall_mem_cons, ← ih]
    constructor
    · rintro ⟨hs, hr⟩
      obtain ⟨hs, hs'⟩ := List.forall_mem_append.mp hs
      obtain ⟨hr, hr'⟩ := List.forall_mem_append.mp hr
      exact ⟨⟨hs, hr⟩, hs', hr'⟩
    · rintro ⟨⟨hs, hr⟩, hs', hr'⟩
      exact ⟨List.forall_mem_append.mpr ⟨hs, hs'⟩, List.forall_mem_append.mpr ⟨hr, hr'⟩⟩

lemma membersScalars_eq (members : List (String × Json)) :
    membersScalars members = itemsScalars (members.map (·.2)) := by
  induction members with
  | nil => rfl
  | cons m rest ih => rw [membersScalars, ih, List.map_cons, itemsScalars]

lemma membersReals_eq (members : List (String × Json)) : membersReals members = itemsReals (members.map (·.2)) := by
  induction members with
  | nil => rfl
  | cons m rest ih => rw [membersReals, ih, List.map_cons, itemsReals]

lemma Survives.congr {j j' : Json} (h : j.Survives) (hscalars : j'.scalars = j.scalars) (hreals : j'.reals = j.reals) :
    j'.Survives :=
  ⟨hscalars ▸ h.scalars, hreals ▸ h.reals⟩

lemma survives_object_iff {members : List (String × Json)} :
    (Json.object members).Survives ↔ ∀ m ∈ members, m.2.Survives := by
  have hscalars : (Json.object members).scalars = (Json.array (members.map (·.2))).scalars := membersScalars_eq members
  have hreals : (Json.object members).reals = (Json.array (members.map (·.2))).reals := membersReals_eq members
  have hitems : (Json.array (members.map (·.2))).Survives ↔ ∀ m ∈ members, m.2.Survives := by
    rw [survives_array_iff, List.forall_mem_map]
  rw [← hitems]
  exact ⟨fun h => h.congr hscalars.symm hreals.symm, fun h => h.congr hscalars hreals⟩

mutual

theorem renderedAs_reread : ∀ j : Json, j.WellFormed → j.Survives → j.RenderedAs j.reread
  | .null, _, _ => rfl
  | .bool _, _, _ => rfl
  | .integer _, _, _ => rfl
  | .real x, _, hs => hs.reals x List.mem_cons_self
  | .single x, _, hs => hs.scalars x List.mem_cons_self
  | .string _, _, _ => rfl
  | .array items, hj, hs => ⟨_, rfl, itemsRenderedAs_reread items hj (survives_array_iff.mp hs)⟩
  | .object members, hj, hs =>
    ⟨_, _, rfl, .refl _, membersRenderedAs_reread members hj.2 (survives_object_iff.mp hs)⟩
  | .unreadable, hj, _ => hj.elim

theorem itemsRenderedAs_reread : ∀ items : List Json, AllWellFormed items → (∀ item ∈ items, item.Survives) →
    ItemsRenderedAs items (itemsReread items)
  | [], _, _ => rfl
  | item :: rest, hj, hs => ⟨_, _, rfl, renderedAs_reread item hj.1 (List.forall_mem_cons.mp hs).1,
    itemsRenderedAs_reread rest hj.2 (List.forall_mem_cons.mp hs).2⟩

theorem membersRenderedAs_reread : ∀ members : List (String × Json), MembersWellFormed members →
    (∀ m ∈ members, m.2.Survives) → MembersRenderedAs members (membersReread members)
  | [], _, _ => rfl
  | (_, item) :: rest, hj, hs => ⟨_, _, rfl, renderedAs_reread item hj.1 (List.forall_mem_cons.mp hs).1,
    membersRenderedAs_reread rest hj.2 (List.forall_mem_cons.mp hs).2⟩

end

/-! Data. -/

lemma membersData_reread {members : List (String × Json)} (hsorted : members.Pairwise fun a b => a.1 < b.1) :
    (Json.object members).reread.toData = .object (membersData (membersReread members)) := by
  have hkeys : (membersData (membersReread members)).map (·.1) = members.map (·.1) := by
    rw [map_fst_membersData, membersReread_eq_map, List.map_map]
    rfl
  have hsorted' : (membersData (membersReread members)).Pairwise fun a b => a.1 < b.1 := by
    rw [← List.pairwise_map, hkeys, List.pairwise_map]
    exact hsorted
  rw [reread, toData, Dictionary.ofList_eq_of_perm (d := ⟨_, hsorted'⟩) (.refl _)]

mutual

theorem survives_of_toData : ∀ j : Json, j.isData = true → j.reread.toData = j → j.Survives
  | .null, _, _ => ⟨fun _ h => (nomatch h), fun _ h => (nomatch h)⟩
  | .bool _, _, _ => ⟨fun _ h => (nomatch h), fun _ h => (nomatch h)⟩
  | .integer _, _, _ => ⟨fun _ h => (nomatch h), fun _ h => (nomatch h)⟩
  | .string _, _, _ => ⟨fun _ h => (nomatch h), fun _ h => (nomatch h)⟩
  | .real x, hd, h => by
    obtain ⟨y, hy⟩ := exists_readBack_real hd
    rw [reread, hy, toData, ofFloat] at h
    split at h
    · obtain rfl := Json.real.inj h
      exact ⟨fun _ h => (nomatch h), fun _ hmem => List.mem_singleton.mp hmem ▸ hy⟩
    · cases h
  | .single _, hd, _ => by cases hd
  | .array items, hd, h => survives_array_iff.mpr (allSurvive_of_itemsData items hd (Json.array.inj h))
  | .object members, hd, h => by
    rw [isData, Bool.and_eq_true, decide_eq_true_eq] at hd
    rw [membersData_reread hd.1] at h
    exact survives_object_iff.mpr (allSurvive_of_membersData members hd.2 (Json.object.inj h))
  | .unreadable, hd, _ => by cases hd

theorem allSurvive_of_itemsData : ∀ items : List Json, areData items = true → itemsData (itemsReread items) = items →
    ∀ item ∈ items, item.Survives
  | [], _, _ => fun _ h => nomatch h
  | item :: rest, hd, h => by
    rw [areData, Bool.and_eq_true] at hd
    obtain ⟨hitem, hrest⟩ := List.cons.inj h
    exact List.forall_mem_cons.mpr ⟨survives_of_toData item hd.1 hitem, allSurvive_of_itemsData rest hd.2 hrest⟩

theorem allSurvive_of_membersData : ∀ members : List (String × Json), membersAreData members = true →
    membersData (membersReread members) = members → ∀ m ∈ members, m.2.Survives
  | [], _, _ => fun _ h => nomatch h
  | (name, item) :: rest, hd, h => by
    rw [membersAreData, Bool.and_eq_true] at hd
    obtain ⟨hitem, hrest⟩ := List.cons.inj h
    exact List.forall_mem_cons.mpr
      ⟨survives_of_toData item hd.1 (congrArg Prod.snd hitem), allSurvive_of_membersData rest hd.2 hrest⟩

end

end Json

open Json

/-! Types whose values are read from their own text only if their numbers survive. -/

class ExactForm (α : Type) [JsonForm α] : Prop where
  survives_of_ofJson? {a : α} : ofJson? (toJson a).reread = some a → (toJson a).Survives

export ExactForm (survives_of_ofJson?)

lemma toJson_injective {α : Type} [JsonForm α] [LawfulForm α] {a b : α} (h : toJson a = toJson b) : a = b := by
  have hread : ofJson? (toJson a) = some a := ofJson?_of_renderedAs (renderedAs_self _ (wellFormed a))
  rw [h, ofJson?_of_renderedAs (renderedAs_self _ (wellFormed b))] at hread
  exact (Option.some.inj hread).symm

lemma survives_of_numberless {j : Json} (hs : j.scalars = []) (hr : j.reals = []) : j.Survives :=
  ⟨fun x hx => by simp [hs] at hx, fun x hx => by simp [hr] at hx⟩

instance : ExactForm Bool := ⟨fun _ => survives_of_numberless rfl rfl⟩

instance : ExactForm String := ⟨fun _ => survives_of_numberless rfl rfl⟩

instance : ExactForm UInt8 := ⟨fun _ => survives_of_numberless rfl rfl⟩

instance : ExactForm Int32 := ⟨fun _ => survives_of_numberless rfl rfl⟩

instance {α : Type} [Named α] : ExactForm α := ⟨fun _ => survives_of_numberless rfl rfl⟩

instance : ExactForm Scalar where
  survives_of_ofJson? h := ⟨fun _ hmem => List.mem_singleton.mp hmem ▸ h, fun _ hmem => nomatch hmem⟩

instance : ExactForm Value where
  survives_of_ofJson? {v} h := by
    change (if v.json.reread.isReadable then some v.json.reread.value else none) = some v at h
    split at h
    · exact survives_of_toData v.json v.isData (congrArg Value.json (Option.some.inj h))
    · cases h

variable {α : Type} [JsonForm α]

instance [ExactForm α] : ExactForm (Option α) where
  survives_of_ofJson? {o} h := by
    cases o with
    | none => exact survives_of_numberless rfl rfl
    | some a =>
      refine survives_of_ofJson? (a := a) ?_
      change ofJson? (toJson a).reread = some (some a) at h
      cases hj : (toJson a).reread with
      | null =>
        rw [hj] at h
        cases h
      | _ =>
        rw [hj] at h
        obtain ⟨a', hread, he⟩ := Option.map_eq_some_iff.mp h
        exact Option.some.inj he ▸ hread

lemma allSurvive_of_mapM [ExactForm α] {items : List α}
    (h : (itemsReread (items.map toJson)).mapM ofJson? = some items) : ∀ a ∈ items, (toJson a).Survives := by
  rw [itemsReread_eq_map, mapM_eq_some_iff, List.forall₂_map_left_iff, List.forall₂_map_left_iff,
    List.forall₂_same] at h
  exact fun a ha => survives_of_ofJson? (h a ha)

instance [ExactForm α] : ExactForm (List α) where
  survives_of_ofJson? {items} h := by
    refine survives_array_iff.mpr fun item hitem => ?_
    obtain ⟨a, ha, rfl⟩ := List.mem_map.mp hitem
    exact allSurvive_of_mapM h a ha

lemma survives_nameSet (s : NameSet) : (toJson s).Survives := by
  refine survives_array_iff.mpr fun item hitem => ?_
  obtain ⟨name, -, rfl⟩ := List.mem_map.mp hitem
  exact survives_of_numberless rfl rfl

instance : ExactForm NameSet := ⟨fun _ => survives_nameSet _⟩

lemma written_reread (entries : List (String × α)) :
    membersReread (written entries) = entries.map fun entry => (entry.1, (toJson entry.2).reread) := by
  rw [membersReread_eq_map, written, List.map_map]
  rfl

lemma map_fst_of_mapM {members : List (String × Json)} {entries : List (String × α)}
    (h : members.mapM (fun m => (ofJson? m.2).map (m.1, ·)) = some entries) :
    entries.map (·.1) = members.map (·.1) := by
  rw [mapM_eq_some_iff] at h
  induction h with
  | nil => rfl
  | cons hentry _ ih =>
    obtain ⟨value, -, rfl⟩ := Option.map_eq_some_iff.mp hentry
    exact congrArg (_ :: ·) ih

lemma allSurvive_of_entries [ExactForm α] {entries : List (String × α)}
    (h : (membersReread (written entries)).mapM (fun m => (ofJson? m.2).map (m.1, ·)) = some entries) :
    ∀ entry ∈ entries, (toJson entry.2).Survives := by
  rw [written_reread, mapM_eq_some_iff, List.forall₂_map_left_iff, List.forall₂_same] at h
  intro entry hentry
  obtain ⟨a, ha, he⟩ := Option.map_eq_some_iff.mp (h entry hentry)
  exact survives_of_ofJson? (ha.trans (congrArg some (congrArg Prod.snd he)))

instance [ExactForm α] : ExactForm (Dictionary α) where
  survives_of_ofJson? {d} h := by
    obtain ⟨entries, hread, he⟩ := Option.map_eq_some_iff.mp h
    -- The entries have the names of the dictionary in its order, so putting them together changes nothing.
    have hkeys : entries.map (·.1) = d.entries.map (·.1) := by
      rw [map_fst_of_mapM hread, membersReread_eq_map, List.map_map, List.map_map]
      rfl
    have hsorted : entries.Pairwise fun a b => a.1 < b.1 := by
      rw [← List.pairwise_map, hkeys, List.pairwise_map]
      exact d.sorted
    have hlist : Dictionary.ofList entries = ⟨entries, hsorted⟩ := Dictionary.ofList_eq_of_perm (.refl _)
    obtain rfl : entries = d.entries := congrArg Dictionary.entries (hlist.symm.trans he)
    refine survives_object_iff.mpr fun m hm => ?_
    obtain ⟨entry, hentry, rfl⟩ := List.mem_map.mp hm
    exact allSurvive_of_entries hread entry hentry

/-! Records. -/

variable {ρ : Type}

def Field.Exact (f : Field ρ) : Prop :=
  ∀ r t t', f.read? (f.write r).reread t = some t' → f.write r = f.write t' → (f.write r).Survives

section Fields

variable [LawfulForm α] [ExactForm α] {name : String} {get : ρ → α} {set : α → ρ → ρ}

lemma Field.exact_required (h : ∀ a r, get (set a r) = a) : (Field.required name get set).Exact := by
  intro r t t' hread he
  obtain ⟨a, ha, rfl⟩ := Field.read?_required hread
  rw [Field.write_required, Field.write_required, h] at he
  exact survives_of_ofJson? (ha.trans (congrArg some (toJson_injective he).symm))

lemma Field.exact_optional (h : ∀ a r, get (set a r) = a) : (Field.optional name get set).Exact := by
  change (Field.required name get set).Exact
  exact Field.exact_required h

end Fields

namespace RecordForm

variable {f : RecordForm ρ} {r : ρ}

lemma write_of_refused (hothers : f.others = .refused) (r : ρ) : f.write r = .object (writtenFields f.fields r) := by
  rw [write, hothers]
  rfl

lemma exactForm (hs : f.Separate) (hothers : f.others = .refused) (hfields : ∀ g ∈ f.fields, g.Exact) :
    @ExactForm ρ f.jsonForm := by
  refine @ExactForm.mk ρ f.jsonForm fun {r} h => ?_
  change f.read? (f.write r).reread = some r at h
  change (f.write r).Survives
  rw [write_of_refused hothers] at h ⊢
  refine survives_object_iff.mpr fun m hm => ?_
  obtain ⟨g, hg, rfl⟩ := List.mem_map.mp hm
  have hmem : (g.name, (g.write r).reread) ∈ membersReread (writtenFields f.fields r) := by
    rw [membersReread_eq_map]
    exact List.mem_map_of_mem hm
  have hfilter : (g.name, (g.write r).reread) ∈
      (membersReread (writtenFields f.fields r)).filter (g.isNamed ·.1) :=
    List.mem_filter.mpr ⟨hmem, Field.isNamed_iff.mpr List.mem_cons_self⟩
  obtain ⟨hnone, -, -⟩ | ⟨m, hone, t, t', hread, he⟩ := taken_of_readMembers? hs h hg
  · rw [hnone] at hfilter
    cases hfilter
  · rw [hone] at hfilter
    obtain rfl := List.mem_singleton.mp hfilter
    exact hfields g hg r t t' hread he

end RecordForm

end Diorama
