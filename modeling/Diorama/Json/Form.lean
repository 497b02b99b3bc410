import Diorama.Json.Basic

namespace Diorama

class JsonForm (α : Type) where
  toJson : α → Json
  ofJson? : Json → Option α

export JsonForm (toJson ofJson?)

class Named (α : Type) where
  all : List α
  name : α → String

namespace Named

def ofName? {α : Type} [Named α] (name : String) : Option α := all.find? (Named.name · == name)

end Named

namespace Json

def choice? : Json → Option String
  | .string name => some name
  | .object [(name, .null)] => some name
  | _ => none

def integerIn? (low high : Int) : Json → Option Int
  | .integer n => if low ≤ n ∧ n ≤ high then some n else none
  | _ => none

end Json

instance : JsonForm Bool where
  toJson := .bool
  ofJson?
    | .bool b => some b
    | _ => none

instance : JsonForm String where
  toJson := .string
  ofJson?
    | .string s => some s
    | _ => none

instance : JsonForm Scalar where
  toJson := .single
  ofJson?
    | .integer n => some (Scalar.ofInt n)
    | .real x => some (Scalar.narrow x)
    | .single x => some x
    | _ => none

instance : JsonForm UInt8 where
  toJson n := .integer n.toNat
  ofJson? j := (j.integerIn? 0 (UInt8.size - 1)).map fun n => .ofNat n.toNat

instance : JsonForm UInt32 where
  toJson n := .integer n.toNat
  ofJson? j := (j.integerIn? 0 (UInt32.size - 1)).map fun n => .ofNat n.toNat

instance : JsonForm UInt64 where
  toJson n := .integer n.toNat
  ofJson? j := (j.integerIn? 0 (UInt64.size - 1)).map fun n => .ofNat n.toNat

instance : JsonForm Int32 where
  toJson n := .integer n.toInt
  ofJson? j := (j.integerIn? Int32.minValue.toInt Int32.maxValue.toInt).map Int32.ofInt

instance : JsonForm Value where
  toJson v := v.json
  ofJson? j := if j.isReadable then some j.value else none

instance {α : Type} [JsonForm α] : JsonForm (Option α) where
  toJson
    | none => .null
    | some a => toJson a
  ofJson?
    | .null => some none
    | j => (ofJson? j).map some

instance {α : Type} [JsonForm α] : JsonForm (List α) where
  toJson items := .array (items.map toJson)
  ofJson?
    | .array items => items.mapM ofJson?
    | _ => none

instance {α : Type} [JsonForm α] : JsonForm (Dictionary α) where
  toJson d := .object (d.entries.map fun (name, item) => (name, toJson item))
  ofJson?
    | .object members =>
      (members.mapM fun member => (ofJson? member.2).map (member.1, ·)).map Dictionary.ofList
    | _ => none

instance : JsonForm NameSet where
  toJson s := toJson s.names
  ofJson? j := (ofJson? j).map NameSet.ofList

instance (priority := low) {α : Type} [Named α] : JsonForm α where
  toJson a := .string (Named.name a)
  ofJson? j := j.choice?.bind Named.ofName?

end Diorama
