import SourceAudit.Document.Toml.Statement

/-!
  The table that a TOML text stands for (`Toml.read?`). Statements are carried
  out in order. What has been written as a value is closed: nothing is added to
  it later. A table is opened by its head once, and not at all if an entry of an
  earlier part opened it by a dotted key.
-/
namespace SourceAudit
namespace Toml

/-- The last of some things replaced by what a function makes of it. -/
def mapLast? (f : Value → Option Value) : List Value → Option (List Value)
  | [] => none
  | [v] => (f v).map fun w => [w]
  | v :: rest => (mapLast? f rest).map (v :: ·)

/-- The entries of a table, or of the last table of a list. -/
def inside? (f : List (String × Value) → Option (List (String × Value))) : Value → Option Value
  | .table es => (f es).map Value.table
  | .list vs =>
    (mapLast? (fun v => match v with
      | .table es => (f es).map Value.table
      | _ => none) vs).map Value.list
  | _ => none

/-- Changes the table at a path, opening the tables on the way that do not exist; of a list of
tables the last is meant. -/
def within? (f : List (String × Value) → Option (List (String × Value))) :
    List String → List (String × Value) → Option (List (String × Value))
  | [], es => f es
  | name :: path, es =>
    match Value.find? es name with
    | none => (within? f path []).map fun t => Value.enter es name (.table t)
    | some v => (inside? (within? f path) v).map fun w => Value.enter es name w

/-- Enters a value under a name that is not taken. -/
def enterNew? (name : String) (value : Value) (es : List (String × Value)) :
    Option (List (String × Value)) :=
  match Value.find? es name with
  | none => some (Value.enter es name value)
  | some _ => none

/-- Whether nothing can be added at a path, since it lies in one of the closed values. -/
def isClosed (closed : List (List String)) (path : List String) : Bool :=
  closed.any fun c => c.isPrefixOf path

/-- Whether a value is closed once it is written. -/
def closes : Value → Bool
  | .list _ | .table _ => true
  | _ => false

/-- Enters a value under a key with dots into a table between braces, in which nothing is a list
of tables. -/
def enterInline? (key : List String) (value : Value) (closed : List (List String))
    (es : List (String × Value)) : Option (List (String × Value)) :=
  match key.getLast? with
  | none => none
  | some stem => if isClosed closed key then none else within? (enterNew? stem value) key.dropLast es

mutual

/-- The value that is written. -/
def Expr.eval? : Expr → Option Value
  | .scalar v => some v
  | .list items => (evalItems? items).map Value.list
  | .table entries => (evalEntries? entries [] []).map Value.table

/-- The values of the items of a list. -/
def evalItems? : List Expr → Option (List Value)
  | [] => some []
  | e :: rest =>
    match e.eval?, evalItems? rest with
    | some v, some vs => some (v :: vs)
    | _, _ => none

/-- The entries of a table between braces, added to those before. -/
def evalEntries? : List (List String × Expr) → List (List String) → List (String × Value) →
    Option (List (String × Value))
  | [], _, es => some es
  | (key, e) :: rest, closed, es =>
    match e.eval? with
    | none => none
    | some v =>
      match enterInline? key v closed es with
      | none => none
      | some es' => evalEntries? rest (if closes v then key :: closed else closed) es'

end

/-- What has been read so far: the table, the part that entries belong to, the closed values, the
tables that have been opened, and those that entries of this part have opened. -/
structure Draft where
  entries : List (String × Value) := []
  part : List String := []
  closed : List (List String) := []
  opened : List (List String) := []
  dotted : List (List String) := []

namespace Draft

/-- The paths to the tables that a key with dots goes through. -/
def waypoints (part key : List String) : List (List String) :=
  ((List.range key.length).drop 1).map fun n => part ++ key.take n

/-- The tables opened so far, when a new part starts. -/
def openedAtHead (d : Draft) : List (List String) := d.opened ++ d.dotted

/-- Carries out an entry. -/
def entry? (d : Draft) (key : List String) (e : Expr) : Option Draft :=
  match e.eval?, key.getLast? with
  | some v, some stem =>
    let ways := waypoints d.part key
    let parent := d.part ++ key.dropLast
    if ways.any (d.opened.contains ·) || isClosed d.closed parent then none
    else
      (within? (enterNew? stem v) parent d.entries).map fun es =>
        { d with
          entries := es
          dotted := d.dotted ++ ways
          closed := if closes v then (d.part ++ key) :: d.closed else d.closed }
  | _, _ => none

/-- Carries out the head of a table. -/
def table? (d : Draft) (key : List String) : Option Draft :=
  let opened := d.openedAtHead
  if opened.contains key || isClosed d.closed key then none
  else
    (within? some key d.entries).map fun es =>
      { d with entries := es, part := key, opened := key :: opened, dotted := [] }

/-- Adds an empty table to a list of tables, or starts one. -/
def addElement? (name : String) (es : List (String × Value)) : Option (List (String × Value)) :=
  match Value.find? es name with
  | none => some (Value.enter es name (.list [.table []]))
  | some (.list vs) => some (Value.enter es name (.list (vs ++ [.table []])))
  | some _ => none

/-- Carries out the head of an element of a list of tables; what was known of the paths below it
is forgotten. -/
def element? (d : Draft) (key : List String) : Option Draft :=
  match key.getLast? with
  | none => none
  | some name =>
    if isClosed d.closed key then none
    else
      let elsewhere := fun (path : List String) => !key.isPrefixOf path
      (within? (addElement? name) key.dropLast d.entries).map fun es =>
        { entries := es
          part := key
          closed := d.closed.filter elsewhere
          opened := key :: d.openedAtHead.filter elsewhere
          dotted := [] }

/-- Carries out a statement. -/
def step? (d : Draft) : Statement → Option Draft
  | .entry key e => d.entry? key e
  | .table key => d.table? key
  | .element key => d.element? key

/-- Carries out statements in order. -/
def run? (d : Draft) : List Statement → Option Draft
  | [] => some d
  | s :: rest => (d.step? s).bind fun d' => run? d' rest

end Draft

/-- The table that a text stands for. -/
def read? (t : Text) : Option (List (String × Value)) :=
  match statements? t with
  | none => none
  | some ss => (Draft.run? {} ss).map fun d => d.entries

end Toml
end SourceAudit
