import Diorama.Geometry.Vec3
import Diorama.Proofs.Json.ReadRecord

/-! What a value that was read retains of its document. A record says again what its own fields were given and, where
it has a place for them, the other members. Other members are dropped everywhere else, and so is a number beyond the
range of scalars. -/

namespace Diorama

namespace Json

def NumberIn (j out : Json) : Prop :=
  out = j ∨ ∃ x : Scalar, out = .single x ∧ x.isFinite = true ∧ ofJson? j = some x

mutual

/-- Whether what a document says is said in another one, at the same places. -/
def RetainedIn : Json → Json → Prop
  | .null, out => out = .null
  | .bool b, out => out = .bool b
  | .integer n, out => NumberIn (.integer n) out
  | .real x, out => NumberIn (.real x) out
  | .single x, out => NumberIn (.single x) out
  | .string s, out => out = .string s
  | .array items, out => ∃ items', out = .array items' ∧ ItemsRetainedIn items items'
  | .object members, out => ∃ members', out = .object members' ∧ MembersRetainedIn members members'
  | .unreadable, out => out = .unreadable

def ItemsRetainedIn : List Json → List Json → Prop
  | [], items' => items' = []
  | item :: rest, items' => ∃ item' rest', items' = item' :: rest' ∧ RetainedIn item item' ∧ ItemsRetainedIn rest rest'

def MembersRetainedIn : List (String × Json) → List (String × Json) → Prop
  | [], _ => True
  | (name, item) :: rest, members' =>
    (∃ item', (Json.object members').member? name = some item' ∧ RetainedIn item item') ∧
      MembersRetainedIn rest members'

end

lemma membersRetainedIn_iff {members members' : List (String × Json)} : MembersRetainedIn members members' ↔
    ∀ m ∈ members, ∃ item', (Json.object members').member? m.1 = some item' ∧ m.2.RetainedIn item' := by
  induction members with
  | nil => simp [MembersRetainedIn]
  | cons m rest ih => simp [MembersRetainedIn, ih]

lemma member?_of_mem {members : List (String × Json)} (h : members.Pairwise fun a b => a.1 < b.1)
    {m : String × Json} (hm : m ∈ members) : (Json.object members).member? m.1 = some m.2 :=
  Dictionary.find?_eq_some_iff (d := ⟨members, h⟩).mpr hm

mutual

lemma retainedIn_self : ∀ j : Json, j.isData = true → j.RetainedIn j
  | .null, _ => rfl
  | .bool _, _ => rfl
  | .integer _, _ => .inl rfl
  | .real _, _ => .inl rfl
  | .single _, h => by cases h
  | .string _, _ => rfl
  | .array items, h => ⟨items, rfl, itemsRetainedIn_self items h⟩
  | .object members, h => by
    rw [isData, Bool.and_eq_true, decide_eq_true_eq] at h
    refine ⟨members, rfl, membersRetainedIn_iff.mpr fun m hm => ?_⟩
    exact ⟨m.2, member?_of_mem h.1 hm, membersRetainedIn_self members h.2 m hm⟩
  | .unreadable, h => by cases h

lemma itemsRetainedIn_self : ∀ items : List Json, areData items = true → ItemsRetainedIn items items
  | [], _ => rfl
  | item :: rest, h => by
    rw [areData, Bool.and_eq_true] at h
    exact ⟨item, rest, rfl, retainedIn_self item h.1, itemsRetainedIn_self rest h.2⟩

lemma membersRetainedIn_self : ∀ members : List (String × Json), membersAreData members = true →
    ∀ m ∈ members, m.2.RetainedIn m.2
  | [], _, _, hm => by cases hm
  | (_, item) :: rest, h, m, hm => by
    rw [membersAreData, Bool.and_eq_true] at h
    rcases List.mem_cons.mp hm with rfl | hm
    · exact retainedIn_self item h.1
    · exact membersRetainedIn_self rest h.2 m hm

end

/-! Kinds of documents. -/

def IsObjectWith (kind : String → Json → Prop) : Json → Prop
  | .object members => ∀ m ∈ members, kind m.1 m.2
  | _ => False

def HasOnly (names : List String) : Json → Prop := IsObjectWith fun name _ => name ∈ names

def IsFiniteNumber (j : Json) : Prop := ∃ x : Scalar, ofJson? j = some x ∧ x.isFinite = true

def AllItems (P : Json → Prop) : Json → Prop
  | .array items => ∀ item ∈ items, P item
  | _ => False

end Json

open Json

variable {α ρ : Type} [JsonForm α] {P Q : Json → Prop}

def Retains (α : Type) [JsonForm α] (P : Json → Prop) : Prop :=
  ∀ (j : Json) (a : α), j.isData = true → ofJson? j = some a → (j.RetainedIn (toJson a) ↔ P j)

class VerbatimForm (α : Type) [JsonForm α] : Prop where
  toJson_of_ofJson? {j : Json} {a : α} : j.isData = true → ofJson? j = some a → toJson a = j

export VerbatimForm (toJson_of_ofJson?)

lemma retains_verbatim [VerbatimForm α] (hP : ∀ j, P j) : Retains α P := by
  intro j a hdata h
  rw [toJson_of_ofJson? hdata h]
  exact iff_of_true (retainedIn_self j hdata) (hP j)

instance : VerbatimForm Bool where
  toJson_of_ofJson? {j b} _ h := by
    cases j with
    | bool b' => exact congrArg Json.bool (Option.some.inj h).symm
    | _ => cases h

instance : VerbatimForm String where
  toJson_of_ofJson? {j s} _ h := by
    cases j with
    | string s' => exact congrArg Json.string (Option.some.inj h).symm
    | _ => cases h

lemma integerIn?_eq_some {low high n : Int} {j : Json} (h : j.integerIn? low high = some n) :
    j = .integer n ∧ low ≤ n ∧ n ≤ high := by
  cases j with
  | integer m =>
    simp only [integerIn?, Option.ite_none_right_eq_some, Option.some.injEq] at h
    obtain ⟨hm, rfl⟩ := h
    exact ⟨rfl, hm⟩
  | _ => cases h

instance : VerbatimForm UInt32 where
  toJson_of_ofJson? {j n} _ h := by
    obtain ⟨m, hm, rfl⟩ := Option.map_eq_some_iff.mp h
    obtain ⟨rfl, hlow, hhigh⟩ := integerIn?_eq_some hm
    have hlt : m.toNat < UInt32.size := by simp only [UInt32.size] at hhigh ⊢; omega
    have hn : (UInt32.ofNat m.toNat).toNat = m.toNat := UInt32.toNat_ofNat_of_lt hlt
    exact congrArg Json.integer (by rw [hn, Int.toNat_of_nonneg hlow])

instance : VerbatimForm UInt64 where
  toJson_of_ofJson? {j n} _ h := by
    obtain ⟨m, hm, rfl⟩ := Option.map_eq_some_iff.mp h
    obtain ⟨rfl, hlow, hhigh⟩ := integerIn?_eq_some hm
    have hlt : m.toNat < UInt64.size := by simp only [UInt64.size] at hhigh ⊢; omega
    have hn : (UInt64.ofNat m.toNat).toNat = m.toNat := UInt64.toNat_ofNat_of_lt hlt
    exact congrArg Json.integer (by rw [hn, Int.toNat_of_nonneg hlow])

instance : VerbatimForm Value where
  toJson_of_ofJson? hdata h := json_of_ofJson? hdata h

instance : VerbatimForm (Dictionary Value) where
  toJson_of_ofJson? {j d} hdata h := by
    cases j with
    | object members => exact toJson_of_ofJson?_data hdata h
    | _ => cases h

lemma map_toJson_of_mapM [VerbatimForm α] {js : List Json} {items : List α} (hdata : areData js = true)
    (h : js.mapM ofJson? = some items) : items.map toJson = js := by
  rw [mapM_eq_some_iff] at h
  induction h with
  | nil => rfl
  | cons ha _ ih =>
    rw [areData, Bool.and_eq_true] at hdata
    exact congrArg₂ List.cons (toJson_of_ofJson? hdata.1 ha) (ih hdata.2)

instance [VerbatimForm α] : VerbatimForm (List α) where
  toJson_of_ofJson? {j items} hdata h := by
    cases j with
    | array js => exact congrArg Json.array (map_toJson_of_mapM hdata h)
    | _ => cases h

lemma Retains.congr (h : Retains α P) (hc : ∀ j (a : α), ofJson? j = some a → (P j ↔ Q j)) : Retains α Q :=
  fun _ _ hdata hread => (h _ _ hdata hread).trans (hc _ _ hread)

/-! Numbers. -/

lemma numberIn_single {j : Json} {x : Scalar} (hj : j ≠ .single x) (h : ofJson? j = some x) :
    j.NumberIn (.single x) ↔ j.IsFiniteNumber := by
  constructor
  · rintro (he | ⟨y, hy, hfinite, hread⟩)
    · exact (hj he.symm).elim
    · exact ⟨y, hread, hfinite⟩
  · rintro ⟨y, hread, hfinite⟩
    obtain rfl := Option.some.inj (h.symm.trans hread)
    exact .inr ⟨x, rfl, hfinite, h⟩

lemma retains_scalar : Retains Scalar IsFiniteNumber := by
  intro j x hdata h
  cases j with
  | integer n => exact numberIn_single (fun he => nomatch he) h
  | real y => exact numberIn_single (fun he => nomatch he) h
  | single y => cases hdata
  | _ => cases h

/-! Optional values and lists. -/

lemma Retains.option [PresentForm α] (h : Retains α P) : Retains (Option α) fun j => j = .null ∨ P j := by
  intro j o hdata hread
  cases j with
  | null =>
    obtain rfl := Option.some.inj hread
    exact iff_of_true rfl (.inl rfl)
  | _ =>
    obtain ⟨a, ha, rfl⟩ := Option.map_eq_some_iff.mp hread
    exact (h _ _ hdata ha).trans (or_iff_right (fun he => nomatch he)).symm

lemma itemsRetainedIn_map (h : Retains α P) {js : List Json} {items : List α} (hdata : areData js = true)
    (hread : js.mapM ofJson? = some items) : ItemsRetainedIn js (items.map toJson) ↔ ∀ j ∈ js, P j := by
  rw [mapM_eq_some_iff] at hread
  induction hread with
  | nil => exact iff_of_true rfl fun _ hj => nomatch hj
  | cons ha _ ih =>
    rw [areData, Bool.and_eq_true] at hdata
    rw [List.forall_mem_cons, ← h _ _ hdata.1 ha, ← ih hdata.2]
    constructor
    · rintro ⟨_, _, he, hitem, hitems⟩
      obtain ⟨rfl, rfl⟩ := List.cons.inj he
      exact ⟨hitem, hitems⟩
    · rintro ⟨hitem, hitems⟩
      exact ⟨_, _, rfl, hitem, hitems⟩

lemma Retains.list (h : Retains α P) : Retains (List α) (AllItems P) := by
  intro j items hdata hread
  cases j with
  | array js =>
    rw [AllItems, ← itemsRetainedIn_map h hdata hread]
    constructor
    · rintro ⟨_, he, hitems⟩
      exact Json.array.inj he ▸ hitems
    · exact fun hitems => ⟨_, rfl, hitems⟩
  | _ => cases hread

/-! Records. -/

def Field.Retains (f : Field ρ) (P : Json → Prop) : Prop :=
  ∀ j r s, j.isData = true → f.read? j r = some s → (j.RetainedIn (f.write s) ↔ P j)

lemma Retains.optional {name : String} {get : ρ → α} {set : α → ρ → ρ} (h : Retains α P)
    (hget : ∀ a r, get (set a r) = a) : (Field.optional name get set).Retains P := by
  intro j r s hdata hread
  obtain ⟨a, ha, rfl⟩ := Field.read?_optional hread
  rw [Field.write_optional, hget]
  exact h _ _ hdata ha

lemma Field.retains_verbatim [VerbatimForm α] {name : String} {get : ρ → α} {set : α → ρ → ρ}
    (hget : ∀ a r, get (set a r) = a) (hP : ∀ j, P j) : (Field.optional name get set).Retains P :=
  (Diorama.retains_verbatim hP).optional hget

lemma Field.Retains.congr {f : Field ρ} (h : f.Retains P) (hc : ∀ j, P j ↔ Q j) : f.Retains Q :=
  fun _ _ _ hdata hread => (h _ _ _ hdata hread).trans (hc _)

namespace RecordForm

variable {f : RecordForm ρ} {r : ρ} {members : List (String × Json)} {m : String × Json}
  {kind : String → Json → Prop}

lemma member?_write_of_mem (hn : (f.fields.flatMap Field.names).Nodup) {g : Field ρ} (hg : g ∈ f.fields) :
    (f.write r).member? g.name = some (g.write r) := by
  have hnames : ((writtenFields f.fields r).map (·.1)).Nodup := by
    rw [writtenFields, List.map_map]
    exact hn.sublist (map_name_sublist f.fields)
  have hmem : (g.name, g.write r) ∈ writtenFields f.fields r := List.mem_map_of_mem hg
  obtain ⟨m, hfind⟩ : ∃ m, (writtenFields f.fields r).find? (·.1 == g.name) = some m := by
    rw [← Option.isSome_iff_exists, List.find?_isSome]
    exact ⟨_, hmem, beq_self_eq_true _⟩
  have hname : m.1 = g.name := by simpa using List.find?_some hfind
  obtain rfl := List.inj_on_of_nodup_map hnames (List.mem_of_find?_eq_some hfind) hmem hname
  rw [write_eq, member?, List.find?_append, hfind]
  rfl

lemma member?_write_of_not_mem {name : String} (h : name ∉ f.fields.flatMap Field.names) :
    (f.write r).member? name = (Json.object (f.keptMembers r)).member? name := by
  have hnone : (writtenFields f.fields r).find? (·.1 == name) = none := by
    refine List.find?_eq_none.mpr fun m hm he => h ?_
    obtain ⟨g, hg, rfl⟩ := List.mem_map.mp hm
    exact List.mem_flatMap.mpr ⟨g, hg, beq_iff_eq.mp he ▸ List.mem_cons_self⟩
  rw [write_eq, member?, List.find?_append, hnone]
  rfl

def KeepsOthers (f : RecordForm ρ) (kind : String → Json → Prop) : Prop :=
  match f.others with
  | .kept get set => (∀ extra r, get (set extra r) = extra) ∧ ∀ name ∉ f.fields.flatMap Field.names, ∀ j, kind name j
  | _ => ∀ name ∉ f.fields.flatMap Field.names, ∀ j, ¬ kind name j

lemma retainedIn_field (hs : f.Separate) (hn : (f.fields.flatMap Field.names).Nodup)
    (hdata : (Json.object members).isData = true) (h : f.readMembers? members = some r) (hm : m ∈ members) {g : Field ρ}
    (hg : g ∈ f.fields) (hname : g.name = m.1) (hkind : g.Retains (kind g.name)) :
    (∃ item, (f.write r).member? m.1 = some item ∧ m.2.RetainedIn item) ↔ kind m.1 m.2 := by
  rw [isData, Bool.and_eq_true, membersAreData_iff] at hdata
  have hmem : m ∈ members.filter (g.isNamed ·.1) :=
    List.mem_filter.mpr ⟨hm, Field.isNamed_iff.mpr (hname ▸ List.mem_cons_self)⟩
  obtain ⟨hnone, -, -⟩ | ⟨m', hone, s, t, hread, hwrite⟩ := taken_of_readMembers? hs h hg
  · rw [hnone] at hmem
    cases hmem
  · rw [hone, List.mem_singleton] at hmem
    subst hmem
    rw [← hname, member?_write_of_mem hn hg, hwrite]
    simp only [Option.some.injEq, exists_eq_left']
    exact hkind _ _ _ (hdata.2 m hm) hread

lemma retainedIn_other (hothers : f.KeepsOthers kind) (hdata : (Json.object members).isData = true)
    (h : f.readMembers? members = some r) (hm : m ∈ members) (hname : m.1 ∉ f.fields.flatMap Field.names) :
    (∃ item, (f.write r).member? m.1 = some item ∧ m.2.RetainedIn item) ↔ kind m.1 m.2 := by
  rw [member?_write_of_not_mem hname, keptMembers]
  rw [KeepsOthers] at hothers
  cases hplace : f.others with
  | kept get set =>
    simp only [hplace] at hothers ⊢
    have hfind := find?_kept hplace hothers.1 hdata h m.1
    rw [isData, Bool.and_eq_true, decide_eq_true_eq, membersAreData_iff] at hdata
    have hmember : (Json.object (written (get r).entries)).member? m.1 = some m.2 := by
      rw [member?_written, hfind, if_neg hname, member?_of_mem hdata.1 hm]
    exact iff_of_true ⟨m.2, hmember, retainedIn_self m.2 (hdata.2 m hm)⟩ (hothers.2 m.1 hname m.2)
  | refused =>
    simp only [hplace] at hothers ⊢
    refine iff_of_false ?_ (hothers m.1 hname m.2)
    rintro ⟨_, hitem, -⟩
    cases hitem
  | ignored =>
    simp only [hplace] at hothers ⊢
    refine iff_of_false ?_ (hothers m.1 hname m.2)
    rintro ⟨_, hitem, -⟩
    cases hitem

theorem retains (hs : f.Separate) (hplain : ∀ g ∈ f.fields, g.otherNames = [])
    (hn : (f.fields.flatMap Field.names).Nodup)
    (hfields : List.Forall₂ Field.Retains f.fields (f.fields.map fun g => kind g.name))
    (hothers : f.KeepsOthers kind) : @Retains ρ f.jsonForm (IsObjectWith kind) := by
  intro j r hdata hread
  change j.RetainedIn (f.write r) ↔ j.IsObjectWith kind
  rw [List.forall₂_map_right_iff, List.forall₂_same] at hfields
  cases j with
  | object members =>
    have hmember : ∀ m ∈ members,
        ((∃ item, (f.write r).member? m.1 = some item ∧ m.2.RetainedIn item) ↔ kind m.1 m.2) := by
      intro m hm
      by_cases hname : m.1 ∈ f.fields.flatMap Field.names
      · obtain ⟨g, hg, hnamed⟩ := List.mem_flatMap.mp hname
        rw [Field.names, hplain g hg, List.mem_singleton] at hnamed
        exact retainedIn_field hs hn hdata hread hm hg hnamed.symm (hfields g hg)
      · exact retainedIn_other hothers hdata hread hm hname
    -- A member of no field's name is said again only where the record has a place for it.
    rw [IsObjectWith, ← forall₂_congr hmember, write_eq]
    constructor
    · rintro ⟨_, he, hitems⟩
      exact membersRetainedIn_iff.mp (Json.object.inj he ▸ hitems)
    · exact fun hitems => ⟨_, rfl, membersRetainedIn_iff.mpr hitems⟩
  | array items =>
    refine iff_of_false ?_ id
    rintro ⟨_, he, -⟩
    rw [write_eq] at he
    cases he
  | _ => cases hread

theorem retains_hasOnly (hs : f.Separate) (hplain : ∀ g ∈ f.fields, g.otherNames = [])
    (hn : (f.fields.flatMap Field.names).Nodup) (hfields : ∀ g ∈ f.fields, g.Retains fun _ => True)
    (hothers : f.others = .ignored) : @Retains ρ f.jsonForm (HasOnly (f.fields.flatMap Field.names)) := by
  refine retains hs hplain hn ?_ ?_
  · refine List.forall₂_map_right_iff.mpr (List.forall₂_same.mpr fun g hg => (hfields g hg).congr fun _ => ?_)
    exact iff_of_true trivial (List.mem_flatMap.mpr ⟨g, hg, List.mem_cons_self⟩)
  · rw [KeepsOthers, hothers]
    exact fun _ hname _ => hname

end RecordForm

end Diorama
