import Diorama.Validation.Rules.Hierarchy
import Diorama.Validation.Rules.Identity
import Diorama.Validation.Rules.Layout
import Diorama.Validation.Rules.Ranges
import Diorama.Validation.Rules.References

namespace Diorama

def Rule.builtin : List Rule := [
  .total "unique_ids" Rule.uniqueIds,
  .total "parent_references" Rule.parentReferences,
  .total "required_fields" Rule.requiredFields,
  .total "numeric_ranges" Rule.numericRanges,
  .total "system_references" Rule.systemReferences,
  .total "physics_settings" Rule.physicsSettings,
  .total "bounds_consistency" Rule.boundsConsistency,
  .total "collisions" Rule.collisions]

def Validator.standard : Validator := ⟨Rule.builtin⟩

def Rule.builtin? (name : String) : Option Rule := Rule.builtin.find? (·.name == name)

end Diorama
