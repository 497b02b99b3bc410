import Diorama.Dictionary
import Diorama.Scalar

/-! JSON documents and JSON data. A document keeps the members of an object in written order and may repeat a
name; it also has what a writer needs (a scalar is written with its own digits) and what a reader needs
(well-formed text without a representable content). Data has neither: names are unique and in order, numbers are
finite, so equal data has one form. -/

namespace Diorama

inductive Json where
  | null
  | bool (value : Bool)
  | integer (value : Int)
  | real (value : Float)
  | single (value : Scalar)
  | string (value : String)
  | array (items : List Json)
  | object (members : List (String × Json))
  /-- Well-formed text whose content cannot be represented: a number beyond the range, half of a
  surrogate pair, or nesting that is too deep. It may stand only where nothing reads it. -/
  | unreadable
deriving BEq, Inhabited

namespace Json

def member? (name : String) : Json → Option Json
  | .object members => (members.find? (·.1 == name)).map (·.2)
  | _ => none

def inRange (n : Int) : Bool := decide (Int64.minValue.toInt ≤ n) && decide (n < UInt64.size)

def ofFloat (x : Float) : Json := if x.isFinite then .real x else .null

mutual

def isData : Json → Bool
  | .null => true
  | .bool _ => true
  | .integer n => inRange n
  | .real x => x.isFinite
  | .single _ => false
  | .string _ => true
  | .array items => areData items
  | .object members =>
    decide (members.Pairwise (fun a b => a.1 < b.1)) && membersAreData members
  | .unreadable => false

def areData : List Json → Bool
  | [] => true
  | item :: rest => item.isData && areData rest

def membersAreData : List (String × Json) → Bool
  | [] => true
  | (_, item) :: rest => item.isData && membersAreData rest

end

mutual

def isReadable : Json → Bool
  | .array items => areReadable items
  | .object members => membersAreReadable members
  | .unreadable => false
  | .null => true
  | .bool _ => true
  | .integer _ => true
  | .real _ => true
  | .single _ => true
  | .string _ => true

def areReadable : List Json → Bool
  | [] => true
  | item :: rest => item.isReadable && areReadable rest

def membersAreReadable : List (String × Json) → Bool
  | [] => true
  | (_, item) :: rest => item.isReadable && membersAreReadable rest

end

mutual

/-- The data of a document: the last of several members of one name counts, a scalar is widened, an
integer beyond 64 bits becomes a float, and a number that is not finite becomes `null`. -/
def toData : Json → Json
  | .null => .null
  | .bool b => .bool b
  | .integer n => if inRange n then .integer n else ofFloat (.ofModel (.ofInt n))
  | .real x => ofFloat x
  | .single x => ofFloat (Scalar.widen x)
  | .string s => .string s
  | .array items => .array (itemsData items)
  | .object members => .object (Dictionary.ofList (membersData members)).entries
  | .unreadable => .null

def itemsData : List Json → List Json
  | [] => []
  | item :: rest => item.toData :: itemsData rest

def membersData : List (String × Json) → List (String × Json)
  | [] => []
  | (name, item) :: rest => (name, item.toData) :: membersData rest

end

theorem isData_ofFloat (x : Float) : (ofFloat x).isData = true := by
  unfold ofFloat
  split <;> simp_all [isData]

theorem membersAreData_iff {members : List (String × Json)} :
    membersAreData members = true ↔ ∀ m ∈ members, m.2.isData = true := by
  induction members with
  | nil => simp [membersAreData]
  | cons head rest ih => simp [membersAreData, ih]

theorem entry_isData {members : List (String × Json)} (h : ∀ m ∈ members, m.2.isData = true) :
    ∀ m ∈ (Dictionary.ofList members).entries, m.2.isData = true := by
  suffices ∀ d : Dictionary Json, (∀ m ∈ d.entries, m.2.isData = true) →
      ∀ m ∈ (members.foldl (fun d m => d.insert m.1 m.2) d).entries, m.2.isData = true from
    this ∅ (by simp [EmptyCollection.emptyCollection, Dictionary.empty])
  induction members with
  | nil => exact fun d hd => hd
  | cons head rest ih =>
    intro d hd
    refine ih (fun m hm => h m (List.mem_cons_of_mem _ hm)) _ fun m hm => ?_
    rcases Dictionary.mem_insertEntry hm with rfl | hm
    · exact h head List.mem_cons_self
    · exact hd m hm

mutual

theorem isData_toData : ∀ j : Json, j.toData.isData = true
  | .null => by simp [toData, isData]
  | .bool _ => by simp [toData, isData]
  | .integer n => by
    simp only [toData]
    split
    · simpa [isData]
    · exact isData_ofFloat _
  | .real _ => by simpa [toData] using isData_ofFloat _
  | .single _ => by simpa [toData] using isData_ofFloat _
  | .string _ => by simp [toData, isData]
  | .array items => by simpa [toData, isData] using areData_itemsData items
  | .object members => by
    have sorted := (Dictionary.ofList (membersData members)).sorted
    have data := entry_isData (members_isData members)
    simp only [toData, isData, Bool.and_eq_true, decide_eq_true_eq]
    exact ⟨sorted, membersAreData_iff.2 data⟩
  | .unreadable => by simp [toData, isData]

theorem areData_itemsData : ∀ items : List Json, areData (itemsData items) = true
  | [] => by simp [itemsData, areData]
  | item :: rest => by simp [itemsData, areData, isData_toData item, areData_itemsData rest]

theorem members_isData : ∀ members : List (String × Json),
    ∀ m ∈ membersData members, m.2.isData = true
  | [] => by simp [membersData]
  | (name, item) :: rest => by
    simpa [membersData, isData_toData item] using members_isData rest

end

end Json

structure Value where
  json : Json
  isData : json.isData = true

namespace Value

instance : BEq Value := ⟨fun v w => v.json == w.json⟩

def null : Value := ⟨.null, rfl⟩

instance : Inhabited Value := ⟨null⟩

def bool (b : Bool) : Value := ⟨.bool b, rfl⟩

def string (s : String) : Value := ⟨.string s, rfl⟩

theorem ext {v w : Value} (h : v.json = w.json) : v = w := by
  cases v; cases w; cases h; rfl

end Value

def Json.value (j : Json) : Value := ⟨j.toData, j.isData_toData⟩

end Diorama
