import SourceAudit.Config.Sections
import SourceAudit.Number.Reading

/-!
  Settings from environment variables. A variable is named for its setting in
  capitals, after the name of the program and, in a nested section, of the
  section; its text is read in the form of the setting.
-/
namespace SourceAudit
namespace Environment

/-- What the names of all variables begin with. -/
def lead : String := "CODELENS_"

/-- Texts that stand for true, and those that stand for false. -/
def yes : List String := ["true", "1", "yes", "on"]

def no : List String := ["false", "0", "no", "off"]

/-- How the text of a number that cannot be read is shown: the first 200 characters in quotes. -/
def shortQuote (t : Text) : String := String.ofList ((Quoted.encode t).take 200)

/-- A whole number, or why the text is none. -/
def whole? (t : Text) : Except String Int :=
  match Number.whole t with
  | .ok n => .ok n
  | .error .malformed => .error ("invalid literal for int() with base 10: " ++ shortQuote t)
  | .error (.overlong o) => .error o.message

/-- The value of a text in some form, or why it has none. -/
def read (form : SettingForm) (s : String) : Except String Value :=
  let t := s.toList
  match form with
  | .text => .ok (.text s)
  | .whole => (whole? t).map Value.whole
  | .wholes =>
    (((Text.splitOn ',' t).filter fun part => !part.isBlank).mapM whole?).map fun ns =>
      .list (ns.map Value.whole)
  | .fraction =>
    match Number.fraction? t with
    | some q => .ok (.real q)
    | none => .error ("could not convert string to float: " ++ Quoted.ofString s)
  | .flag =>
    let low := String.ofList (Text.lower t)
    if low ∈ yes then .ok (.flag true)
    else if low ∈ no then .ok (.flag false)
    else .error ("expected true/false, got '" ++ s ++ "'")

/-- A name in capitals. -/
def capitals (name : String) : String := String.ofList (name.toList.map Char.toUpper)

/-- The settings of a section that variables with the given lead set, in the order of the section. -/
def ofFields (env : List (String × String)) (lead : String) :
    List Setting → Except ConfigFault Settings
  | [] => .ok []
  | f :: rest =>
    let name := lead ++ capitals f.name
    match env.lookup name with
    | none => ofFields env lead rest
    | some s =>
      match read f.form s with
      | .error reason => .error (.invalidVariable name s reason)
      | .ok v => (ofFields env lead rest).map ((f.name, v) :: ·)

/-- A nested section, if variables set any of it. -/
def ofSection (env : List (String × String)) (name : String) (s : Section) :
    Except ConfigFault Settings := do
  let found ← ofFields env (lead ++ capitals name ++ "_") s.fields
  return if found.isEmpty then [] else [(name, .table found)]

/-- The settings that variables set. -/
def settings (env : List (String × String)) : Except ConfigFault Settings := do
  let top ← ofFields env lead Section.general.fields
  let thresholds ← ofSection env "thresholds" Section.thresholds
  let gateway ← ofSection env "gateway" Section.gateway
  return top ++ thresholds ++ gateway

/-- The names of the variables of a section. -/
def namesWith (lead : String) (s : Section) : List String :=
  s.fields.map fun f => lead ++ capitals f.name

/-- The names of all variables. -/
def names : List String :=
  namesWith lead Section.general ++ namesWith (lead ++ "THRESHOLDS_") Section.thresholds ++
    namesWith (lead ++ "GATEWAY_") Section.gateway

end Environment
end SourceAudit
