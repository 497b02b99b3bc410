import Diorama.Assets.Asset
import Diorama.Json.Printer
import Diorama.Json.Reader
import Diorama.Text.Blank
import Diorama.Text.Case
import Diorama.World.Entity

namespace Diorama

abbrev AssetIndex := Dictionary NameSet

namespace AssetIndex

def add (index : AssetIndex) (name id : String) : AssetIndex :=
  index.insert name (((index.find? name).getD ∅).insert id)

def drop (index : AssetIndex) (id name : String) : AssetIndex :=
  match index.find? name with
  | none => index
  | some ids =>
    let left := ids.erase id
    if left.isEmpty then index.erase name else index.insert name left

end AssetIndex

structure AssetQuery where
  text : Option String := none
  kind : Option AssetKind := none
  tags : List String := []
  platform : Option String := none

namespace AssetQuery

def accepts (q : AssetQuery) (a : Asset) : Bool :=
  let mentions (text : String) : Bool :=
    let part := (Text.lower text).toList
    Text.contains (Text.lower a.name).toList part
      || Text.contains (Text.lower a.description).toList part
  q.text.all mentions && q.kind.all (a.kind = ·) && q.tags.all a.tags.contains
    && q.platform.all a.supportsPlatform

end AssetQuery

structure AssetManifest where
  assets : List Asset
  totalCount : UInt64
  tags : List String
  kinds : List AssetKind
deriving BEq

namespace AssetManifest

def form : RecordForm AssetManifest where
  blank := { assets := [], totalCount := 0, tags := [], kinds := [] }
  others := .ignored
  fields := [
    .required "assets" (·.assets) fun v m => { m with assets := v },
    .required "total_count" (·.totalCount) fun v m => { m with totalCount := v },
    .required "tags" (·.tags) fun v m => { m with tags := v },
    .required "types" (·.kinds) fun v m => { m with kinds := v }]

instance : JsonForm AssetManifest := form.jsonForm

end AssetManifest

structure AssetRegistry where
  assets : Dictionary Asset := ∅
  byTag : AssetIndex := ∅
  byKind : AssetIndex := ∅

namespace AssetRegistry

def asset? (r : AssetRegistry) (id : String) : Option Asset := r.assets.find? id

def unregister (r : AssetRegistry) (id : String) : Option Asset × AssetRegistry :=
  match r.asset? id with
  | none => (none, r)
  | some a =>
    (some a, {
      assets := r.assets.erase id
      byTag := a.tags.foldl (AssetIndex.drop · id ·) r.byTag
      byKind := AssetIndex.drop r.byKind id (Named.name a.kind) })

def register (r : AssetRegistry) (a : Asset) : Option Asset × AssetRegistry :=
  let (previous, cleared) := r.unregister a.id
  (previous, {
    assets := cleared.assets.insert a.id a
    byTag := a.tags.foldl (AssetIndex.add · · a.id) cleared.byTag
    byKind := AssetIndex.add cleared.byKind (Named.name a.kind) a.id })

def ofList (assets : List Asset) : AssetRegistry :=
  assets.foldl (fun r a => (r.register a).2) {}

def indexed (r : AssetRegistry) (index : AssetIndex) (name : String) : List Asset :=
  ((index.find? name).getD ∅).names.filterMap r.asset?

def named (r : AssetRegistry) (name : String) : List Asset := r.assets.values.filter (·.name == name)

def tagged (r : AssetRegistry) (tag : String) : List Asset := r.indexed r.byTag tag

def ofKind (r : AssetRegistry) (kind : AssetKind) : List Asset :=
  r.indexed r.byKind (Named.name kind)

def search (r : AssetRegistry) (q : AssetQuery) : List Asset := r.assets.values.filter q.accepts

def size (r : AssetRegistry) : Nat := r.assets.size

def tags (r : AssetRegistry) : List String := r.byTag.keys

def kinds (r : AssetRegistry) : List AssetKind :=
  Named.all.filter fun kind => r.byKind.contains (Named.name kind)

def resolve (r : AssetRegistry) (e : Entity) : Option Asset × Option Asset :=
  (e.asset.bind r.asset?, e.prefab.bind r.asset?)

def manifest (r : AssetRegistry) : AssetManifest where
  assets := r.assets.values
  totalCount := .ofNat r.size
  tags := r.tags
  kinds := r.kinds

def entries (manifest : Value) : List Json :=
  match manifest.json.member? "assets" with
  | some (.array items) => items
  | _ => []

def importManifest (r : AssetRegistry) (manifest : Value) : Nat × AssetRegistry :=
  let found := (entries manifest).filterMap (ofJson? (α := Asset))
  (found.length, found.foldl (fun r a => (r.register a).2) r)

def toText (r : AssetRegistry) : String := (toJson r.manifest).pretty

def loadText? (r : AssetRegistry) (text : String) : Option (Nat × AssetRegistry) :=
  (Value.ofText? text).map r.importManifest

end AssetRegistry

end Diorama
