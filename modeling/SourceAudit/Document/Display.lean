import SourceAudit.Document.Value
import SourceAudit.Text.Quoted

/-!
  Values as messages show them: texts as they are, but in quotes inside of lists
  and tables.
-/
namespace SourceAudit
namespace Value

mutual

/-- A value inside of another one. -/
def inner : Value → String
  | .null => "None"
  | .flag b => if b then "True" else "False"
  | .whole n => toString n
  | .real q => q.text
  | .text s => Quoted.ofString s
  | .moment _ s => s
  | .list items => "[" ++ ", ".intercalate (innerItems items) ++ "]"
  | .table entries => "\x7b" ++ ", ".intercalate (innerEntries entries) ++ "\x7d"

/-- The items of a list. -/
def innerItems : List Value → List String
  | [] => []
  | v :: rest => inner v :: innerItems rest

/-- The entries of a table. -/
def innerEntries : List (String × Value) → List String
  | [] => []
  | (name, v) :: rest => (Quoted.ofString name ++ ": " ++ inner v) :: innerEntries rest

end

/-- A value as messages show it. -/
def shown : Value → String
  | .text s => s
  | v => inner v

end Value
end SourceAudit
