import Diorama.Json.Form

/-! JSON forms of records. A record is written as an object with its fields in order. It is read from an object,
where an absent field keeps its default, or from an array that lists the fields in order. -/

namespace Diorama

/-- One member of a record's JSON form: its name, other names that are accepted for it, whether it may
be absent, and how it is written from a record and read into one. -/
structure Field (ρ : Type) where
  name : String
  otherNames : List String
  mandatory : Bool
  write : ρ → Json
  read? : Json → ρ → Option ρ

namespace Field

variable {ρ α : Type} [JsonForm α]

def required (name : String) (get : ρ → α) (set : α → ρ → ρ) : Field ρ where
  name := name
  otherNames := []
  mandatory := true
  write r := toJson (get r)
  read? j r := (ofJson? j).map (set · r)

def optional (name : String) (get : ρ → α) (set : α → ρ → ρ) : Field ρ :=
  { Field.required name get set with mandatory := false }

def orNamed (f : Field ρ) (name : String) : Field ρ :=
  { f with otherNames := name :: f.otherNames }

def isNamed (f : Field ρ) (name : String) : Bool := f.name == name || f.otherNames.contains name

def readMember? (f : Field ρ) (members : List (String × Json)) (r : ρ) : Option ρ :=
  match members.filter (f.isNamed ·.1) with
  | [] => if f.mandatory then none else some r
  | [(_, item)] => f.read? item r
  | _ => none

end Field

inductive Others (ρ : Type) where
  | refused
  | ignored
  | kept (get : ρ → Dictionary Value) (set : Dictionary Value → ρ → ρ)

structure RecordForm (ρ : Type) where
  blank : ρ
  others : Others ρ
  fields : List (Field ρ)

namespace RecordForm

variable {ρ : Type}

def unnamed (f : RecordForm ρ) (members : List (String × Json)) : List (String × Json) :=
  members.filter fun (name, _) => !f.fields.any (·.isNamed name)

def write (f : RecordForm ρ) (r : ρ) : Json :=
  let named := f.fields.map fun field => (field.name, field.write r)
  match f.others with
  | .kept get _ => .object (named ++ (get r).entries.map fun (name, item) => (name, item.json))
  | _ => .object named

def readOthers? (f : RecordForm ρ) (members : List (String × Json)) (r : ρ) : Option ρ :=
  match f.others with
  | .ignored => some r
  | .refused => if (f.unnamed members).isEmpty then some r else none
  | .kept _ set => (ofJson? (.object (f.unnamed members))).map (set · r)

def readMembers? (f : RecordForm ρ) (members : List (String × Json)) : Option ρ := do
  let r ← f.fields.foldlM (fun r field => field.readMember? members r) f.blank
  f.readOthers? members r

def readItems? : List (Field ρ) → List Json → ρ → Option ρ
  | [], [], r => some r
  | [], _ :: _, _ => none
  | field :: rest, [], r => if field.mandatory then none else readItems? rest [] r
  | field :: rest, item :: items, r => (field.read? item r).bind (readItems? rest items)

def read? (f : RecordForm ρ) : Json → Option ρ
  | .object members => f.readMembers? members
  | .array items =>
    match f.others with
    | .kept _ _ => none
    | _ => readItems? f.fields items f.blank
  | _ => none

@[reducible] def jsonForm (f : RecordForm ρ) : JsonForm ρ := ⟨f.write, f.read?⟩

end RecordForm

end Diorama
