namespace Diorama

/-- Texts by their path. Directories are there as far as a path goes through them. -/
structure Files where
  texts : List (String × String)

namespace Files

def parts (path : String) : List String :=
  (path.splitOn "/").filter fun part => part != "" && part != "."

def leadsToText (path : String) : Bool :=
  let steps := path.splitOn "/"
  steps.head? != some "" && steps.getLast?.all fun step => step != "" && step != "." && step != ".."

def read? (f : Files) (path : String) : Option String :=
  if leadsToText path then (f.texts.find? fun (name, _) => parts name = parts path).map (·.2)
  else none

def isDirectory (f : Files) (path : List String) : Bool :=
  path.isEmpty
    || f.texts.any fun (name, _) => path.isPrefixOf (parts name) && path != parts name

def write? (f : Files) (path text : String) : Option Files :=
  let target := parts path
  if !leadsToText path || f.isDirectory target || !f.isDirectory target.dropLast then none
  else some ⟨(path, text) :: f.texts.filter fun (name, _) => parts name != target⟩

def extension? (path : String) : Option String :=
  ((parts path).getLast?).bind fun name =>
    match name.splitOn "." with
    | [] => none
    | [_] => none
    | ["", _] => none
    | pieces => pieces.getLast?

end Files

end Diorama
