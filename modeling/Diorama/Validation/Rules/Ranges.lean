import Diorama.Validation.Numeral
import Diorama.Validation.Validator

namespace Diorama.Rule

def outOfRange (subject : Option String) (field message : String) : Issue :=
  { severity := .error, code := .outOfRange, message := message, subject := subject,
    field := some field }

def inUnitInterval (x : Scalar) : Bool := 0 ≤ x && x ≤ 1

def isNegative (x : Scalar) : Bool := x.isNaN || x < 0

def isNotPositive (x : Scalar) : Bool := x.isNaN || x ≤ 0

def brightIntensity : Scalar := 100

def flag (condition : Bool) (subject : Option String) (field about : String) (x : Scalar) :
    List Issue :=
  if condition then [outOfRange subject field (about ++ ", got " ++ Message.plain.scalar x)] else []

def colorRange (subject : Option String) (field : String) (c : Color) : List Issue :=
  if c.channels.all inUnitInterval then []
  else [outOfRange subject field
    (field ++ " channels must be in [0, 1], got " ++ Message.channels c)]

def lightRanges (l : Light) : List Issue :=
  let id := some l.id
  (if isNegative l.intensity then
      flag true id "intensity" "light intensity must be >= 0" l.intensity
    else if brightIntensity < l.intensity then
      [{ severity := .warning
         code := .outOfRange
         message := s!"light intensity {Message.plain.scalar l.intensity} is unusually high"
         subject := id
         field := some "intensity" }]
    else [])
  ++ (l.range.toList.flatMap fun range =>
        flag (isNotPositive range) id "range" "light range must be > 0" range)
  ++ (l.spotAngle.toList.flatMap fun angle =>
        flag (isNotPositive angle || 180 < angle) id "spot_angle"
          "spot angle must be in (0, 180]" angle)
  ++ colorRange id "color" l.color

def materialRanges (id : Option String) (m : Material) : List Issue :=
  flag (!inUnitInterval m.roughness) id "material.roughness" "roughness must be in [0, 1]" m.roughness
  ++ flag (!inUnitInterval m.metallic) id "material.metallic" "metallic must be in [0, 1]" m.metallic
  ++ flag (isNegative m.emissionStrength) id "material.emission_strength"
      "emission strength must be >= 0" m.emissionStrength
  ++ colorRange id "material.base_color" m.baseColor
  ++ m.emissionColor.toList.flatMap (colorRange id "material.emission_color")

def physicsRanges (id : Option String) (p : Physics) : List Issue :=
  [("physics.mass", p.mass), ("physics.drag", p.drag), ("physics.angular_drag", p.angularDrag)].flatMap
    fun (field, x) => flag (isNegative x) id field (field ++ " must be >= 0") x

def entityRanges (e : Entity) : List Issue :=
  e.material.toList.flatMap (materialRanges (some e.id))
    ++ e.physics.toList.flatMap (physicsRanges (some e.id))

def environmentRanges (v : Environment) : List Issue :=
  flag (!inUnitInterval v.fog.density) none "environment.fog.density"
    "fog density must be in [0, 1]" v.fog.density
  ++ (if 23 < v.timeOfDay.hour then
        [outOfRange none "environment.time_of_day.hour"
          s!"hour must be in 0..=23, got {v.timeOfDay.hour}"] else [])
  ++ (if 59 < v.timeOfDay.minute then
        [outOfRange none "environment.time_of_day.minute"
          s!"minute must be in 0..=59, got {v.timeOfDay.minute}"] else [])
  ++ colorRange none "environment.ambient_light" v.ambientLight
  ++ colorRange none "environment.fog.color" v.fog.color
  ++ colorRange none "environment.skybox.tint" v.skybox.tint

def numericRanges (w : World) : List Issue :=
  w.lights.flatMap lightRanges ++ w.entities.flatMap entityRanges ++ environmentRanges w.environment

end Diorama.Rule
