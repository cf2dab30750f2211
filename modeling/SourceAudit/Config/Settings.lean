import SourceAudit.Config.Fault
import SourceAudit.Document.Display

/-!
  Settings: names with values. A section says which names it has, what they
  are unless set, and in which form an environment variable gives them. Settings
  of different origin are laid over one another; tables of the nested sections
  are laid over one another name by name.
-/
namespace SourceAudit

/-- Names with values, each name once. -/
abbrev Settings := List (String × Value)

/-- The form in which an environment variable gives a setting. -/
inductive SettingForm where
  | flag
  | whole
  | fraction
  | text
  | wholes
  deriving DecidableEq, Repr

/-- A setting of a section. -/
structure Setting where
  name : String
  usual : Value
  form : SettingForm
  deriving Repr

/-- A section of a configuration. -/
structure Section where
  title : String
  fields : List Setting

namespace Settings

/-- The value under a name; nothing is `null`. -/
def valueOf (s : Settings) (name : String) : Value := (Value.find? s name).getD .null

/-- The names of the nested sections. -/
def nested : List String := ["thresholds", "gateway"]

/-- The values of one table laid over those of another. -/
def enterAll (target source : Settings) : Settings :=
  source.foldl (fun t e => Value.enter t e.1 e.2) target

/-- One setting laid over others: a table of a nested section joins the table that is there, any
other value replaces what is there. -/
def lay (target : Settings) (name : String) (value : Value) : Settings :=
  match value, Value.find? target name with
  | .table above, some (.table under) =>
    if nested.contains name then Value.enter target name (.table (enterAll under above))
    else Value.enter target name value
  | _, _ => Value.enter target name value

/-- Settings laid over others. -/
def merge (target source : Settings) : Settings :=
  source.foldl (fun t e => lay t e.1 e.2) target

end Settings

namespace Section

/-- Whether the section has a setting of a name. -/
def has (s : Section) (name : String) : Bool := s.fields.any fun f => f.name == name

/-- The name that a section goes by itself. It is taken, so no setting can be given under it. -/
def ownName : String := "self"

/-- What is wrong with a name that no setting of a section has. -/
def nameFault (title name : String) : SettingFault :=
  if name == ownName then .takenName title name else .unknownName title name

/-- The settings of a section in order: those given, and the usual ones where none is. Of the names
that no setting has, the first one given is reported. -/
def fill (s : Section) (given : Settings) : Except SettingFault Settings :=
  match given.find? fun e => !s.has e.1 with
  | some (name, _) => .error (nameFault s.title name)
  | none => .ok (s.fields.map fun f => (f.name, (Value.find? given f.name).getD f.usual))

end Section

namespace Value

/-- Whether a value is below another, if both are numbers. -/
def isBelow (a b : Value) : Except SettingFault Bool :=
  match a.quantity?, b.quantity? with
  | some x, some y => .ok (x.lt y)
  | _, _ => .error (.notComparable "<" a.kindName b.kindName)

/-- Whether a value is at most another, if both are numbers. -/
def isAtMost (a b : Value) : Except SettingFault Bool :=
  match a.quantity?, b.quantity? with
  | some x, some y => .ok (x.le y)
  | _, _ => .error (.notComparable "<=" a.kindName b.kindName)

/-- A value as a number that counts are compared with. -/
def bound (v : Value) : Except SettingFault Quantity :=
  match v.quantity? with
  | some q => .ok q
  | none => .error (.notComparable "<=" "int" v.kindName)

/-- A value as a whole number; the fault says what is wrong if it is none. -/
def count (v : Value) (fault : SettingFault) : Except SettingFault Int :=
  match v.whole? with
  | some n => .ok n
  | none => .error fault

/-- A value as the place where a list is cut off, or nothing if it is left whole. -/
def cut (v : Value) : Except SettingFault (Option Int) :=
  match v with
  | .null => .ok none
  | v => (v.count .notEnd).map some

/-- The items of a value that has some: those of a list, the characters of a text, the names of a
table. -/
def items? : Value → Except SettingFault (List Value)
  | .list vs => .ok vs
  | .text s => .ok (s.toList.map fun c => .text c.toString)
  | .table es => .ok (es.map fun e => .text e.1)
  | v => .error (.notIterable v.kindName)

end Value

/-- Refuses what breaks a rule. -/
def require (holds : Bool) (rule : SettingRule) : Except SettingFault Unit :=
  if holds then .ok () else .error (.broken rule)

/-- Refuses a value below a whole number. -/
def requireAtLeast (s : Settings) (name : String) (least : Nat) : Except SettingFault Unit := do
  require (!(← (s.valueOf name).isBelow (.whole least))) (.atLeast name least)

end SourceAudit
