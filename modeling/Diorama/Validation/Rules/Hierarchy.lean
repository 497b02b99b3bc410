import Diorama.Text.Quoted
import Diorama.Validation.Validator

namespace Diorama.Rule

def parentOf? (entities : List Entity) (id : String) : Option String :=
  (entities.find? fun e => e.id == id && e.parent.isSome).bind (·.parent)

def missingParents (entities : List Entity) : List Issue :=
  entities.filterMap fun e =>
    match e.parent with
    | none => none
    | some parent =>
      if entities.any (·.id == parent) then none
      else some {
        severity := .error
        code := .missingParent
        message := s!"parent `{parent}` of `{e.id}` does not exist"
        subject := some e.id
        field := some "parent_id" }

structure Ascent where
  path : List String
  cycle : List String := []

def ascend (parent : String → Option String) (finished : List String) :
    Nat → List String → String → Ascent
  | 0, path, _ => { path }
  | steps + 1, path, id =>
    if finished.contains id then { path }
    else if path.contains id then { path, cycle := path.dropWhile (· != id) }
    else match parent id with
      | none => { path := path ++ [id] }
      | some up => ascend parent finished steps (path ++ [id]) up

def cycles (parent : String → Option String) (steps : Nat) (finished : List String) :
    List String → List (List String)
  | [] => []
  | start :: rest =>
    let ascent := ascend parent finished steps [] start
    let found := if ascent.cycle.isEmpty then [] else [ascent.cycle]
    found ++ cycles parent steps (finished ++ ascent.path) rest

def least (first : String) (rest : List String) : String :=
  rest.foldl (fun best name => if name < best then name else best) first

def cycleIssue : List String → List Issue
  | [] => []
  | first :: rest => [{
      severity := .error
      code := .hierarchyCycle
      message := "parent cycle: " ++ " -> ".intercalate (first :: rest ++ [first])
      subject := some (least first rest)
      field := some "parent_id" }]

/-- The issues of parent cycles. A way up names each identifier at most once before it ends or repeats
one, so it has at most two steps more than there are entities. -/
def parentCycles (entities : List Entity) : List Issue :=
  (cycles (parentOf? entities) (entities.length + 2) [] (entities.map (·.id))).flatMap cycleIssue

def childrenMismatches (entities : List Entity) : List Issue :=
  entities.filterMap fun e =>
    let expected := NameSet.ofList ((entities.filter (·.parent = some e.id)).map (·.id))
    let actual := NameSet.ofList e.children
    if expected = actual ∧ actual.names.length = e.children.length then none
    else
      let list (names : List String) := Text.bracketed (names.map Text.quoted)
      let lacking := list (expected.names.filter (!actual.contains ·))
      let surplus := list (actual.names.filter (!expected.contains ·))
      some {
        severity := .error
        code := .childrenMismatch
        message := s!"children of `{e.id}` disagree with parent pointers (missing {lacking}, "
          ++ s!"unexpected {surplus})"
        subject := some e.id
        field := some "children_ids" }

def parentReferences (w : World) : List Issue :=
  missingParents w.entities ++ parentCycles w.entities ++ childrenMismatches w.entities

end Diorama.Rule
