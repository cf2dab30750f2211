import SourceAudit.Number.Quantity

/-!
  Values of documents: what JSON texts and TOML files hold. Tables keep the
  order of their entries, and a name stands in a table once: entering it again
  replaces the value and keeps the place.
-/
namespace SourceAudit

/-- A value of a document. -/
inductive Value where
  | null
  | flag (b : Bool)
  | whole (n : Int)
  | real (q : Quantity)
  | text (s : String)
  | moment (kind text : String)
  | list (items : List Value)
  | table (entries : List (String × Value))
  deriving Repr, Inhabited

namespace Value

/-- Enters a value under a name. -/
def enter (entries : List (String × Value)) (name : String) (value : Value) :
    List (String × Value) :=
  match entries with
  | [] => [(name, value)]
  | (n, v) :: rest =>
    if n == name then (n, value) :: rest else (n, v) :: enter rest name value

/-- The value under a name. -/
def find? (entries : List (String × Value)) (name : String) : Option Value :=
  match entries with
  | [] => none
  | (n, v) :: rest => if n == name then some v else find? rest name

/-- The entries of a table; of any other value, none. -/
def entries : Value → List (String × Value)
  | table es => es
  | _ => []

/-- The value under a name of a table. -/
def get? (v : Value) (name : String) : Option Value := find? v.entries name

/-- Whether a value counts as set: nothing, zero and the empty ones do not. -/
def isSet : Value → Bool
  | null => false
  | flag b => b
  | whole n => n != 0
  | real q => !q.isZero
  | text s => !s.isEmpty
  | moment _ _ => true
  | list items => !items.isEmpty
  | table es => !es.isEmpty

/-- The value of a number or a flag as a quantity. -/
def quantity? : Value → Option Quantity
  | flag b => some (.ofInt (if b then 1 else 0))
  | whole n => some (.ofInt n)
  | real q => some q
  | _ => none

/-- The value of a whole number or a flag. -/
def whole? : Value → Option Int
  | flag b => some (if b then 1 else 0)
  | whole n => some n
  | _ => none

/-- The name of a value's kind, as messages show it. -/
def kindName : Value → String
  | null => "NoneType"
  | flag _ => "bool"
  | whole _ => "int"
  | real _ => "float"
  | text _ => "str"
  | moment kind _ => kind
  | list _ => "list"
  | table _ => "dict"

/-- A list of texts. -/
def texts (ss : List String) : Value := list (ss.map text)

/-- A whole number or nothing. -/
def wholeOrNull (n : Option Int) : Value :=
  match n with
  | some n => whole n
  | none => null

/-- A text or nothing. -/
def textOrNull (s : Option String) : Value :=
  match s with
  | some s => text s
  | none => null

/-- A finite binary fraction. -/
def fraction (q : Rat) : Value := real (.finite q)

end Value
end SourceAudit
