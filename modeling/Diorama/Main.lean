import Diorama.CommandLine.Command
import Diorama.Pipeline.FreshId

namespace Diorama

def readAll (paths : List String) : IO (List (String × String)) :=
  paths.filterMapM fun (path : String) => do
    try return some (path, ← IO.FS.readFile path)
    catch _ => return none

def settle (ending : Ending) : IO Ending := do
  match ending.written with
  | none => return ending
  | some (path, text) =>
    try
      IO.FS.writeFile path text
      return ending
    catch _ => return .failed (.unwritable path)

end Diorama

open Diorama

def main (arguments : List String) : IO UInt32 := do
  let inputs := match Command.ofArguments arguments with
    | .ok command => command.inputs
    | .error _ => []
  let texts ← readAll inputs
  let start ← IO.rand 0 (1 <<< 62)
  let ending ← settle (.ofArguments (List.lookup · texts) (FreshId.fromStart (start <<< 58)) arguments)
  IO.print ending.output
  IO.eprint ending.note
  return ending.code.toUInt32
