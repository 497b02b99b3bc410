import Diorama.Assets.Registry
import Diorama.Validation.Validator

namespace Diorama.Rule

def dangling (severity : Severity) (subject field message : String) : Issue :=
  { severity := severity, code := .danglingReference, message := message, subject := some subject,
    field := some field }

def mechanismReferences (w : World) (m : Mechanism) : List Issue :=
  m.interactions.zipIdx.filterMap fun (interaction, index) =>
    interaction.target.bind fun target =>
      if (w.entity? target).isSome then none
      else some (dangling .error m.id s!"interactions[{index}].target_entity_id"
        s!"system `{m.id}` targets missing entity `{target}`")

def systemReferences (w : World) : List Issue := w.mechanisms.flatMap (mechanismReferences w)

def entityAssets (r : AssetRegistry) (e : Entity) : List Issue :=
  let (asset, prefab) := r.resolve e
  (match e.asset, asset with
    | some id, none =>
      [dangling .error e.id "asset_reference" s!"entity `{e.id}` references unknown asset `{id}`"]
    | _, _ => [])
  ++ match e.prefab, prefab with
    | some id, none =>
      [dangling .error e.id "prefab_reference" s!"entity `{e.id}` references unknown prefab `{id}`"]
    | some id, some found =>
      if found.kind = .prefab then []
      else [dangling .warning e.id "prefab_reference"
        s!"prefab reference `{id}` of `{e.id}` is a {Named.name found.kind} asset"]
    | none, _ => []

def assetReferences (r : AssetRegistry) : Rule :=
  .total "asset_references" fun w => w.entities.flatMap (entityAssets r)

end Diorama.Rule
