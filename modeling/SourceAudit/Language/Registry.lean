import SourceAudit.File.Name
import SourceAudit.Language.C
import SourceAudit.Language.CPlusPlus
import SourceAudit.Language.Go
import SourceAudit.Language.Java
import SourceAudit.Language.JavaScript
import SourceAudit.Language.Python
import SourceAudit.Language.Rust
import SourceAudit.Language.TypeScript

/-!
  A registry of languages: look-up by name or alias, whatever the case, and by
  the suffixes of a file name. A suffix decides only if exactly one entry of
  all tables claims it.

  The tables that come with the library stand in the order in which ties
  between them are decided, with the other names they answer to.
-/
namespace SourceAudit

namespace Language

/-- The tables in order. -/
def builtin : List Language :=
  [javaScript, typeScript, python, java, c, cPlusPlus, go, rust]

/-- Other spellings, each with the name it stands for. -/
def builtinAliases : List (String × String) :=
  [("js", "javascript"), ("node", "javascript"), ("jsx", "javascript"), ("ts", "typescript"),
   ("tsx", "typescript"), ("py", "python"), ("python3", "python"), ("c++", "cpp"),
   ("cxx", "cpp"), ("golang", "go"), ("rs", "rust"), ("c-like", "c"), ("clike", "c")]

/-- The language reported where nothing else is known. -/
def usual : String := "javascript"

end Language

/-- A name that no table of a registry has, with the names it has. -/
structure UnknownLanguage where
  name : Option String
  known : List String
  deriving DecidableEq, Repr

/-- Language tables with aliases, and the language reported where nothing is recognised. -/
structure Registry where
  languages : List Language
  aliases : List (String × String)
  fallback : String

namespace Registry

/-- The names of the tables, in order. -/
def names (r : Registry) : List String := r.languages.map (·.name)

/-- A registry whose fallback is one of its tables. -/
def make? (languages : List Language) (aliases : List (String × String)) (fallback : String) :
    Except UnknownLanguage Registry :=
  let r : Registry := ⟨languages, aliases, fallback⟩
  if fallback ∈ r.names then .ok r else .error ⟨some fallback, r.names⟩

/-- The tables that come with the library. -/
def builtin : Registry := ⟨Language.builtin, Language.builtinAliases, Language.usual⟩

/-- A name without blanks around it, in small letters. -/
def key (name : String) : String := String.ofList (Text.lower (Text.trim name.toList))

/-- The table name that a name or an alias stands for. -/
def resolve (r : Registry) : Option String → Option String
  | none => none
  | some name =>
    if name.isEmpty then none
    else
      let k := key name
      if k ∈ r.names then some k
      else
        match r.aliases.lookup k with
        | none => none
        | some target => if target ∈ r.names then some target else none

/-- The table of a name or an alias. -/
def get (r : Registry) (name : Option String) : Except UnknownLanguage Language :=
  match r.resolve name with
  | none => .error ⟨name, r.names⟩
  | some id =>
    match r.languages.find? fun l => l.name == id with
    | some l => .ok l
    | none => .error ⟨name, r.names⟩

/-- Every suffix that a table claims, in small letters, with the name of the table. -/
def claims (r : Registry) : List (Text × String) :=
  r.languages.flatMap fun l => l.extensions.map fun e => (Text.lower e.toList, l.name)

/-- The table that a suffix decides for: the one that claims it, if it is claimed once. -/
def owner? (r : Registry) (suffix : Text) : Option String :=
  match r.claims.filter fun claim => claim.1 == suffix with
  | [claim] => some claim.2
  | _ => none

/-- The language that a file name decides for: by its last two suffixes together, else by the
last one. -/
def ofFileName (r : Registry) (path : String) : Option String :=
  let suffixes := FileName.suffixes path.toList
  match suffixes.getLast? with
  | none => none
  | some last =>
    let pair := (suffixes.drop (suffixes.length - 2)).flatten
    match (if 1 < suffixes.length then r.owner? (Text.lower pair) else none) with
    | some name => some name
    | none => r.owner? (Text.lower last)

end Registry
end SourceAudit
