/-! The shape of a command line: options with a value, by long or short names, and arguments by position in
between. Nothing starts with a dash but an option, unless it stands after a double dash or behind the name of
its option. -/

namespace Diorama

structure OptionSpec where
  long : String
  short : Option Char := none

inductive UsageError where
  | noCommand
  | unknownCommand (name : String)
  | unknownOption (argument : String)
  | repeatedOption (name : String)
  | missingValue (name : String)
  | invalidValue (name value : String)
  | missingArgument (name : String)
  | unexpectedArgument (argument : String)

namespace UsageError

def message : UsageError → String
  | .noCommand => "a command is required"
  | .unknownCommand name => s!"unrecognized command '{name}'"
  | .unknownOption argument => s!"unexpected option '{argument}'"
  | .repeatedOption name => s!"the option '--{name}' cannot be used multiple times"
  | .missingValue name => s!"a value is required for '--{name}'"
  | .invalidValue name value => s!"invalid value '{value}' for '{name}'"
  | .missingArgument name => s!"the argument '{name}' is required"
  | .unexpectedArgument argument => s!"unexpected argument '{argument}'"

end UsageError

structure Arguments where
  options : List (String × String) := []
  positions : List String := []

namespace Arguments

inductive Shape where
  | doubleDash
  | option (spec : OptionSpec) (value : Option String)
  | unknown
  | position

def isDashed (argument : String) : Bool :=
  match argument.toList with
  | '-' :: _ :: _ => true
  | _ => false

def assigned : List Char → Option String
  | '=' :: value => some (.ofList value)
  | _ => none

def shape (specs : List OptionSpec) (argument : String) : Shape :=
  match argument.toList with
  | ['-', '-'] => .doubleDash
  | '-' :: '-' :: text =>
    let name := text.takeWhile (· != '=')
    match specs.find? (·.long.toList = name) with
    | some spec => .option spec (assigned (text.drop name.length))
    | none => .unknown
  | '-' :: c :: text =>
    match specs.find? (·.short = some c) with
    | some spec =>
      .option spec (if text.isEmpty then none else (assigned text).or (some (.ofList text)))
    | none => .unknown
  | _ => .position

def addOption (a : Arguments) (spec : OptionSpec) (value : String) : Except UsageError Arguments :=
  if (a.options.lookup spec.long).isSome then .error (.repeatedOption spec.long)
  else .ok { a with options := a.options ++ [(spec.long, value)] }

def sort (specs : List OptionSpec) (a : Arguments) : List String → Except UsageError Arguments
  | [] => .ok a
  | argument :: rest =>
    match shape specs argument with
    | .doubleDash => .ok { a with positions := a.positions ++ rest }
    | .position => sort specs { a with positions := a.positions ++ [argument] } rest
    | .unknown => .error (.unknownOption argument)
    | .option spec (some value) => (a.addOption spec value).bind (sort specs · rest)
    | .option spec none =>
      match rest with
      | [] => .error (.missingValue spec.long)
      | value :: rest =>
        if isDashed value then .error (.missingValue spec.long)
        else (a.addOption spec value).bind (sort specs · rest)

def single (a : Arguments) (name : String) : Except UsageError String :=
  match a.positions with
  | [] => .error (.missingArgument name)
  | [argument] => .ok argument
  | _ :: surplus :: _ => .error (.unexpectedArgument surplus)

def value? {α : Type} (a : Arguments) (name : String) (understand : String → Option α) :
    Except UsageError (Option α) :=
  match a.options.lookup name with
  | none => .ok none
  | some text =>
    match understand text with
    | some value => .ok (some value)
    | none => .error (.invalidValue ("--" ++ name) text)

end Arguments

end Diorama
