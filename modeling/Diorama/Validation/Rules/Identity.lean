import Diorama.Text.Blank
import Diorama.Validation.Validator

namespace Diorama.Rule

def namedParts (w : World) : List (String × String) :=
  w.entities.map (fun e => (e.id, "entity")) ++ w.lights.map (fun l => (l.id, "light"))
    ++ w.mechanisms.map (fun m => (m.id, "system"))

def repeated (seen : List (String × String)) : List (String × String) → List Issue
  | [] => []
  | (id, kind) :: rest =>
    match seen.lookup id with
    | some earlier =>
      { severity := .error
        code := .duplicateIdentifier
        message := s!"{kind} id `{id}` is already used by a {earlier}"
        subject := some id
        field := some "id" } :: repeated seen rest
    | none => repeated ((id, kind) :: seen) rest

def uniqueIds (w : World) : List Issue := repeated [] (namedParts w)

def missing (field message : String) : Issue :=
  { severity := .error, code := .missingField, message := message, field := some field }

def requiredFields (w : World) : List Issue :=
  (if Text.isBlankText w.metadata.title then [missing "metadata.title" "world title is blank"] else [])
  ++ (if Text.isBlankText w.metadata.version then
        [missing "metadata.version" "world version is blank"] else [])
  ++ (if w.metadata.targetPlatforms.isEmpty then
        [{ missing "metadata.target_platforms" "no target platforms listed" with
            severity := .warning }] else [])
  ++ ((namedParts w).filter fun (id, _) => Text.isBlankText id).map (fun (_, kind) =>
        missing "id" s!"{kind} has a blank id")
  ++ (w.entities.filter fun e => Text.isBlankText e.name).map fun e =>
        { missing "name" "entity name is blank" with subject := some e.id }

end Diorama.Rule
