import Diorama.Json.Form
import Diorama.Proofs.Dictionary
import Diorama.Proofs.Scalar.Widening

/-! Documents that say the same. A rendering of a document may put other numbers in the place of scalars, as long as
they are read as them, and may list members in another order. The data of a document renders it, and a rendering of
data has that data. -/

namespace Diorama.Json

mutual

def RenderedAs : Json → Json → Prop
  | .null, j => j = .null
  | .bool b, j => j = .bool b
  | .integer n, j => j = .integer n
  | .real x, j => j = .real x
  | .single x, j => ofJson? j = some x
  | .string s, j => j = .string s
  | .array items, j => ∃ items', j = .array items' ∧ ItemsRenderedAs items items'
  | .object members, j =>
    ∃ members' aligned, j = .object members' ∧ aligned.Perm members' ∧ MembersRenderedAs members aligned
  | .unreadable, _ => False

def ItemsRenderedAs : List Json → List Json → Prop
  | [], items' => items' = []
  | item :: rest, items' => ∃ item' rest', items' = item' :: rest' ∧ RenderedAs item item' ∧ ItemsRenderedAs rest rest'

def MembersRenderedAs : List (String × Json) → List (String × Json) → Prop
  | [], members' => members' = []
  | (name, item) :: rest, members' =>
    ∃ item' rest', members' = (name, item') :: rest' ∧ RenderedAs item item' ∧ MembersRenderedAs rest rest'

end

mutual

def WellFormed : Json → Prop
  | .integer n => inRange n = true
  | .real x => x.isFinite = true
  | .array items => AllWellFormed items
  | .object members => (members.map (·.1)).Nodup ∧ MembersWellFormed members
  | .unreadable => False
  | .null => True
  | .bool _ => True
  | .single _ => True
  | .string _ => True

def AllWellFormed : List Json → Prop
  | [] => True
  | item :: rest => item.WellFormed ∧ AllWellFormed rest

def MembersWellFormed : List (String × Json) → Prop
  | [] => True
  | (_, item) :: rest => item.WellFormed ∧ MembersWellFormed rest

end

mutual

def scalars : Json → List Scalar
  | .single x => [x]
  | .array items => itemsScalars items
  | .object members => membersScalars members
  | .null => []
  | .bool _ => []
  | .integer _ => []
  | .real _ => []
  | .string _ => []
  | .unreadable => []

def itemsScalars : List Json → List Scalar
  | [] => []
  | item :: rest => item.scalars ++ itemsScalars rest

def membersScalars : List (String × Json) → List Scalar
  | [] => []
  | (_, item) :: rest => item.scalars ++ membersScalars rest

end

/-! Lists that are read item by item. -/

lemma mapM_eq_some_iff {β γ : Type} {f : β → Option γ} {l : List β} {r : List γ} :
    l.mapM f = some r ↔ List.Forall₂ (fun b c => f b = some c) l r := by
  induction l generalizing r with
  | nil => simp [eq_comm]
  | cons b l ih =>
    rw [List.forall₂_cons_left_iff]
    simp only [List.mapM_cons, Option.bind_eq_bind, Option.bind_eq_some_iff, ← ih]
    constructor
    · rintro ⟨c, hc, rest, hrest, h⟩
      exact ⟨c, rest, hc, hrest, (Option.some.inj h).symm⟩
    · rintro ⟨c, rest, hc, hrest, rfl⟩
      exact ⟨c, hc, rest, hrest, rfl⟩

section Members

variable {β γ : Type} {R : β → γ → Prop} {l : List β} {r : List γ} {b : β}

lemma getElem?_of_forall₂ (h : List.Forall₂ R l r) {i : Nat} (hb : l[i]? = some b) : ∃ c, r[i]? = some c ∧ R b c := by
  induction h generalizing i with
  | nil => cases hb
  | cons hc _ ih =>
    cases i with
    | zero => exact ⟨_, rfl, Option.some.inj hb ▸ hc⟩
    | succ i => exact ih hb

lemma exists_mem_of_forall₂ (h : List.Forall₂ R l r) (hb : b ∈ l) : ∃ c ∈ r, R b c := by
  obtain ⟨i, hi⟩ := List.mem_iff_getElem?.mp hb
  obtain ⟨c, hc, hrel⟩ := getElem?_of_forall₂ h hi
  exact ⟨c, List.mem_of_getElem? hc, hrel⟩

end Members

/-! The data of a document. -/

lemma membersData_eq_map (members : List (String × Json)) :
    membersData members = members.map fun m => (m.1, m.2.toData) := by
  induction members with
  | nil => rfl
  | cons m rest ih => simp [membersData, ih]

lemma itemsData_eq_map (items : List Json) : itemsData items = items.map toData := by
  induction items with
  | nil => rfl
  | cons item rest ih => simp [itemsData, ih]

lemma map_fst_membersData (members : List (String × Json)) : (membersData members).map (·.1) = members.map (·.1) := by
  rw [membersData_eq_map, List.map_map]
  rfl

lemma ofFloat_of_isFinite {x : Float} (h : x.isFinite = true) : ofFloat x = .real x := if_pos h

lemma ofJson?_toData_single {x : Scalar} (h : x.isFinite = true) :
    ofJson? (Json.single x).toData = some x := by
  rw [toData, ofFloat_of_isFinite (Scalar.isFinite_widen h)]
  exact congrArg some (Scalar.narrow_widen h)

mutual

theorem renderedAs_toData : ∀ j : Json, j.WellFormed → (∀ x ∈ j.scalars, x.isFinite = true) → j.RenderedAs j.toData
  | .null, _, _ => rfl
  | .bool _, _, _ => rfl
  | .integer n, hj, _ => if_pos hj
  | .real _, hj, _ => ofFloat_of_isFinite hj
  | .single x, _, hx => ofJson?_toData_single (hx x List.mem_cons_self)
  | .string _, _, _ => rfl
  | .array items, hj, hx => ⟨_, rfl, itemsRenderedAs_itemsData items hj hx⟩
  | .object members, hj, hx => by
    have hn : ((membersData members).map (·.1)).Nodup := (map_fst_membersData members).symm ▸ hj.1
    exact ⟨_, _, rfl, (Dictionary.entries_ofList_perm hn).symm, membersRenderedAs_membersData members hj.2 hx⟩

theorem itemsRenderedAs_itemsData : ∀ items : List Json, AllWellFormed items →
    (∀ x ∈ itemsScalars items, x.isFinite = true) → ItemsRenderedAs items (itemsData items)
  | [], _, _ => rfl
  | item :: rest, hj, hx => ⟨_, _, rfl,
    renderedAs_toData item hj.1 fun x h => hx x (List.mem_append_left _ h),
    itemsRenderedAs_itemsData rest hj.2 fun x h => hx x (List.mem_append_right _ h)⟩

theorem membersRenderedAs_membersData : ∀ members : List (String × Json), MembersWellFormed members →
    (∀ x ∈ membersScalars members, x.isFinite = true) → MembersRenderedAs members (membersData members)
  | [], _, _ => rfl
  | (_, item) :: rest, hj, hx => ⟨_, _, rfl,
    renderedAs_toData item hj.1 fun x h => hx x (List.mem_append_left _ h),
    membersRenderedAs_membersData rest hj.2 fun x h => hx x (List.mem_append_right _ h)⟩

end

/-! Renderings of data. -/

lemma membersAreReadable_iff {members : List (String × Json)} :
    membersAreReadable members = true ↔ ∀ m ∈ members, m.2.isReadable = true := by
  induction members with
  | nil => simp [membersAreReadable]
  | cons m rest ih => simp [membersAreReadable, ih]

mutual

theorem toData_of_renderedAs : ∀ j j' : Json, j.isData = true → j.RenderedAs j' →
    j'.toData = j ∧ j'.isReadable = true
  | .null, _, _, h => by cases h; exact ⟨rfl, rfl⟩
  | .bool _, _, _, h => by cases h; exact ⟨rfl, rfl⟩
  | .integer n, _, hd, h => by cases h; exact ⟨if_pos hd, rfl⟩
  | .real _, _, hd, h => by cases h; exact ⟨ofFloat_of_isFinite hd, rfl⟩
  | .single _, _, hd, _ => by cases hd
  | .string _, _, _, h => by cases h; exact ⟨rfl, rfl⟩
  | .array items, _, hd, h => by
    obtain ⟨items', rfl, h⟩ := h
    obtain ⟨hdata, hread⟩ := itemsData_of_renderedAs items items' hd h
    exact ⟨congrArg Json.array hdata, hread⟩
  | .object members, _, hd, h => by
    obtain ⟨members', aligned, rfl, hp, h⟩ := h
    rw [isData, Bool.and_eq_true, decide_eq_true_eq] at hd
    obtain ⟨hdata, hread⟩ := membersData_of_renderedAs members aligned hd.2 h
    have hp' : (membersData members').Perm members := by
      rw [← hdata, membersData_eq_map, membersData_eq_map]
      exact (hp.map _).symm
    constructor
    · have hd' := Dictionary.ofList_eq_of_perm (d := ⟨members, hd.1⟩) hp'
      rw [toData, hd']
    · rw [isReadable, membersAreReadable_iff]
      rw [membersAreReadable_iff] at hread
      exact fun m hm => hread m (hp.mem_iff.mpr hm)

theorem itemsData_of_renderedAs : ∀ items items' : List Json, areData items = true → ItemsRenderedAs items items' →
    itemsData items' = items ∧ areReadable items' = true
  | [], _, _, h => by cases h; exact ⟨rfl, rfl⟩
  | item :: rest, _, hd, h => by
    obtain ⟨item', rest', rfl, hi, hr⟩ := h
    rw [areData, Bool.and_eq_true] at hd
    obtain ⟨hdi, hri⟩ := toData_of_renderedAs item item' hd.1 hi
    obtain ⟨hdr, hrr⟩ := itemsData_of_renderedAs rest rest' hd.2 hr
    exact ⟨by rw [itemsData, hdi, hdr], by rw [areReadable, hri, hrr]; rfl⟩

theorem membersData_of_renderedAs : ∀ members members' : List (String × Json), membersAreData members = true →
    MembersRenderedAs members members' → membersData members' = members ∧ membersAreReadable members' = true
  | [], _, _, h => by cases h; exact ⟨rfl, rfl⟩
  | (name, item) :: rest, _, hd, h => by
    obtain ⟨item', rest', rfl, hi, hr⟩ := h
    rw [membersAreData, Bool.and_eq_true] at hd
    obtain ⟨hdi, hri⟩ := toData_of_renderedAs item item' hd.1 hi
    obtain ⟨hdr, hrr⟩ := membersData_of_renderedAs rest rest' hd.2 hr
    exact ⟨by rw [membersData, hdi, hdr], by rw [membersAreReadable, hri, hrr]; rfl⟩

end

mutual

lemma wellFormed_of_isData : ∀ j : Json, j.isData = true → j.WellFormed
  | .null, _ => trivial
  | .bool _, _ => trivial
  | .integer _, h => h
  | .real _, h => h
  | .single _, h => by cases h
  | .string _, _ => trivial
  | .array items, h => allWellFormed_of_areData items h
  | .object members, h => by
    rw [isData, Bool.and_eq_true, decide_eq_true_eq] at h
    exact ⟨Dictionary.keys_nodup ⟨members, h.1⟩, membersWellFormed_of_areData members h.2⟩
  | .unreadable, h => by cases h

lemma allWellFormed_of_areData : ∀ items : List Json, areData items = true → AllWellFormed items
  | [], _ => trivial
  | item :: rest, h => by
    rw [areData, Bool.and_eq_true] at h
    exact ⟨wellFormed_of_isData item h.1, allWellFormed_of_areData rest h.2⟩

lemma membersWellFormed_of_areData : ∀ members : List (String × Json), membersAreData members = true →
    MembersWellFormed members
  | [], _ => trivial
  | (_, item) :: rest, h => by
    rw [membersAreData, Bool.and_eq_true] at h
    exact ⟨wellFormed_of_isData item h.1, membersWellFormed_of_areData rest h.2⟩

end

mutual

lemma scalars_of_isData : ∀ j : Json, j.isData = true → j.scalars = []
  | .null, _ => rfl
  | .bool _, _ => rfl
  | .integer _, _ => rfl
  | .real _, _ => rfl
  | .single _, h => by cases h
  | .string _, _ => rfl
  | .array items, h => itemsScalars_of_areData items h
  | .object members, h => by
    rw [isData, Bool.and_eq_true] at h
    exact membersScalars_of_areData members h.2
  | .unreadable, _ => rfl

lemma itemsScalars_of_areData : ∀ items : List Json, areData items = true → itemsScalars items = []
  | [], _ => rfl
  | item :: rest, h => by
    rw [areData, Bool.and_eq_true] at h
    rw [itemsScalars, scalars_of_isData item h.1, itemsScalars_of_areData rest h.2, List.append_nil]

lemma membersScalars_of_areData : ∀ members : List (String × Json), membersAreData members = true →
    membersScalars members = []
  | [], _ => rfl
  | (_, item) :: rest, h => by
    rw [membersAreData, Bool.and_eq_true] at h
    rw [membersScalars, scalars_of_isData item h.1, membersScalars_of_areData rest h.2, List.append_nil]

end

mutual

lemma renderedAs_self : ∀ j : Json, j.WellFormed → j.RenderedAs j
  | .null, _ => rfl
  | .bool _, _ => rfl
  | .integer _, _ => rfl
  | .real _, _ => rfl
  | .single _, _ => rfl
  | .string _, _ => rfl
  | .array items, h => ⟨items, rfl, itemsRenderedAs_self items h⟩
  | .object members, h => ⟨members, members, rfl, .refl _, membersRenderedAs_self members h.2⟩
  | .unreadable, h => h.elim

lemma itemsRenderedAs_self : ∀ items : List Json, AllWellFormed items → ItemsRenderedAs items items
  | [], _ => rfl
  | item :: rest, h => ⟨item, rest, rfl, renderedAs_self item h.1, itemsRenderedAs_self rest h.2⟩

lemma membersRenderedAs_self : ∀ members : List (String × Json), MembersWellFormed members →
    MembersRenderedAs members members
  | [], _ => rfl
  | (_, item) :: rest, h => ⟨item, rest, rfl, renderedAs_self item h.1, membersRenderedAs_self rest h.2⟩

end

mutual

lemma isReadable_of_renderedAs : ∀ j j' : Json, j.RenderedAs j' → j'.isReadable = true
  | .null, _, h => by cases h; rfl
  | .bool _, _, h => by cases h; rfl
  | .integer _, _, h => by cases h; rfl
  | .real _, _, h => by cases h; rfl
  | .single _, j', h => by
    cases j' with
    | integer n => rfl
    | real x => rfl
    | single x => rfl
    | _ => cases h
  | .string _, _, h => by cases h; rfl
  | .array items, _, h => by
    obtain ⟨items', rfl, h⟩ := h
    exact areReadable_of_renderedAs items items' h
  | .object members, _, h => by
    obtain ⟨members', aligned, rfl, hp, h⟩ := h
    have hread := membersAreReadable_of_renderedAs members aligned h
    rw [membersAreReadable_iff] at hread
    rw [isReadable, membersAreReadable_iff]
    exact fun m hm => hread m (hp.mem_iff.mpr hm)
  | .unreadable, _, h => by cases h

lemma areReadable_of_renderedAs : ∀ items items' : List Json, ItemsRenderedAs items items' → areReadable items' = true
  | [], _, h => by cases h; rfl
  | item :: rest, _, h => by
    obtain ⟨item', rest', rfl, hi, hr⟩ := h
    rw [areReadable, isReadable_of_renderedAs item item' hi, areReadable_of_renderedAs rest rest' hr]
    rfl

lemma membersAreReadable_of_renderedAs : ∀ members members' : List (String × Json),
    MembersRenderedAs members members' → membersAreReadable members' = true
  | [], _, h => by cases h; rfl
  | (_, item) :: rest, _, h => by
    obtain ⟨item', rest', rfl, hi, hr⟩ := h
    rw [membersAreReadable, isReadable_of_renderedAs item item' hi, membersAreReadable_of_renderedAs rest rest' hr]
    rfl

end

end Diorama.Json
