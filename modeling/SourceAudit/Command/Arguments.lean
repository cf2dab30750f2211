/-!
  Arguments of a command line. Options start with a dash. A long name may be
  followed by its value behind an equals sign; short names may stand in a row,
  the last of them with its value behind it. A value that is not attached is the
  next argument, whatever it is. Two dashes end the options.
-/
namespace SourceAudit
namespace Command

/-- An option: its key, its names, and whether it takes a value. -/
structure OptionForm where
  key : String
  names : List String
  takesValue : Bool := false
  deriving Repr

/-- Why arguments cannot be understood. -/
inductive UsageFault where
  | unknownOption (name : String)
  | valueMissing (name : String)
  | valueNotAllowed (name : String)
  | badChoice (value : String)
  | badPath (path : String)
  | noPath (path : String)
  | argumentMissing
  | argumentLeft (value : String)
  | commandMissing
  | unknownCommand (name : String)
  deriving DecidableEq, Repr

namespace UsageFault

/-- How a fault is reported. -/
def message : UsageFault → String
  | unknownOption name => "No such option: " ++ name
  | valueMissing name => "Option '" ++ name ++ "' requires an argument."
  | valueNotAllowed name => "Option '" ++ name ++ "' does not take a value."
  | badChoice value => "Invalid value: '" ++ value ++ "' is not one of the choices."
  | badPath path => "Invalid value: '" ++ path ++ "' is not an existing file."
  | noPath _ => "embedded null byte"
  | argumentMissing => "Missing argument 'FILE'."
  | argumentLeft value => "Got unexpected extra argument (" ++ value ++ ")"
  | commandMissing => "Missing command."
  | unknownCommand name => "No such command '" ++ name ++ "'."

/-- The exit code of a fault. An argument that cannot be a path at all counts as a failure of the
program, not of its use. -/
def exitCode : UsageFault → Nat
  | noPath _ => 1
  | _ => 2

end UsageFault

/-- The options and the other arguments of a command line; an option that takes no value has an
empty one. -/
structure Arguments where
  options : List (String × String) := []
  others : List String := []
  deriving DecidableEq, Repr

namespace Arguments

/-- The value of an option, the last one given. -/
def value? (a : Arguments) (key : String) : Option String := a.options.reverse.lookup key

/-- Whether an option is given. -/
def has (a : Arguments) (key : String) : Bool := (a.value? key).isSome

/-- The first option of some that is given. -/
def firstOf? (a : Arguments) (keys : List String) : Option String :=
  (a.options.find? fun o => keys.contains o.1).map (·.1)

end Arguments

/-- What one argument gives: options with their values, and perhaps a last one that still lacks its
value. -/
structure Given where
  options : List (String × String) := []
  waiting : Option OptionForm := none

/-- The options of short names in a row. -/
def readShort (forms : List OptionForm) : List Char → Except UsageFault Given
  | [] => .ok {}
  | c :: rest =>
    let name := String.ofList ['-', c]
    match forms.find? fun f => f.names.contains name with
    | none => .error (.unknownOption name)
    | some f =>
      if f.takesValue then
        if rest.isEmpty then .ok { waiting := some f }
        else .ok { options := [(f.key, String.ofList rest)] }
      else
        match readShort forms rest with
        | .error e => .error e
        | .ok g => .ok { g with options := (f.key, "") :: g.options }

/-- The options of an argument that starts with a dash. -/
def readOption (forms : List OptionForm) (arg : List Char) : Except UsageFault Given :=
  let name := arg.takeWhile (· != '=')
  let attached := arg.drop name.length
  let long := if name.length == 2 then none
    else forms.find? fun f => f.names.contains (String.ofList name)
  match long with
  | some f =>
    if f.takesValue then
      if attached.isEmpty then .ok { waiting := some f }
      else .ok { options := [(f.key, String.ofList attached.tail)] }
    else if attached.isEmpty then .ok { options := [(f.key, "")] }
    else .error (.valueNotAllowed (String.ofList name))
  | none =>
    if ['-', '-'].isPrefixOf arg then .error (.unknownOption (String.ofList name))
    else readShort forms arg.tail

/-- Whether an argument is an option. -/
def isOption (arg : String) : Bool := arg.startsWith "-" && arg != "-"

/-- Reads arguments. If options may not follow other arguments, the first one that is no option
ends them. -/
def readArguments (forms : List OptionForm) (mixed : Bool) :
    List String → Except UsageFault Arguments
  | [] => .ok {}
  | arg :: rest =>
    if arg == "--" then .ok { others := rest }
    else if isOption arg then
      match readOption forms arg.toList with
      | .error e => .error e
      | .ok ⟨options, none⟩ =>
        (readArguments forms mixed rest).map fun a => { a with options := options ++ a.options }
      | .ok ⟨options, some f⟩ =>
        match rest with
        | [] => .error (.valueMissing (f.names.headD f.key))
        | value :: rest =>
          (readArguments forms mixed rest).map fun a =>
            { a with options := options ++ (f.key, value) :: a.options }
    else if mixed then
      (readArguments forms mixed rest).map fun a => { a with others := arg :: a.others }
    else .ok { others := arg :: rest }

end Command
end SourceAudit
