import Diorama.Json.Record

namespace Diorama

inductive Trigger where
  | click
  | hover
  | collision
  | proximity
  | grab
  | use
deriving DecidableEq, Inhabited

instance : Named Trigger where
  all := [.click, .hover, .collision, .proximity, .grab, .use]
  name
    | .click => "click"
    | .hover => "hover"
    | .collision => "collision"
    | .proximity => "proximity"
    | .grab => "grab"
    | .use => "use"

inductive Action where
  | spawn
  | destroy
  | move
  | rotate
  | animate
  | playSound
  | triggerEvent
  | setProperty
  | teleport
deriving DecidableEq, Inhabited

instance : Named Action where
  all := [.spawn, .destroy, .move, .rotate, .animate, .playSound, .triggerEvent, .setProperty,
    .teleport]
  name
    | .spawn => "spawn"
    | .destroy => "destroy"
    | .move => "move"
    | .rotate => "rotate"
    | .animate => "animate"
    | .playSound => "play_sound"
    | .triggerEvent => "trigger_event"
    | .setProperty => "set_property"
    | .teleport => "teleport"

structure Interaction where
  trigger : Trigger
  action : Action
  target : Option String := none
  parameters : Dictionary Value := ∅
deriving BEq

namespace Interaction

def form : RecordForm Interaction where
  blank := { trigger := .click, action := .spawn }
  others := .refused
  fields := [
    .required "trigger_type" (·.trigger) fun v i => { i with trigger := v },
    .required "action_type" (·.action) fun v i => { i with action := v },
    .optional "target_entity_id" (·.target) fun v i => { i with target := v },
    .optional "parameters" (·.parameters) fun v i => { i with parameters := v }]

instance : JsonForm Interaction := form.jsonForm

end Interaction

structure Mechanism where
  id : String
  name : String
  description : String := ""
  interactions : List Interaction := []
  enabled : Bool := true
  priority : Int32 := 0
  conditions : Dictionary Value := ∅
deriving BEq

namespace Mechanism

def form : RecordForm Mechanism where
  blank := { id := "", name := "" }
  others := .refused
  fields := [
    .required "id" (·.id) fun v m => { m with id := v },
    .required "name" (·.name) fun v m => { m with name := v },
    .optional "description" (·.description) fun v m => { m with description := v },
    .optional "interactions" (·.interactions) fun v m => { m with interactions := v },
    .optional "enabled" (·.enabled) fun v m => { m with enabled := v },
    .optional "priority" (·.priority) fun v m => { m with priority := v },
    .optional "conditions" (·.conditions) fun v m => { m with conditions := v }]

instance : JsonForm Mechanism := form.jsonForm

def targets (m : Mechanism) : List String := m.interactions.filterMap (·.target)

end Mechanism

end Diorama
