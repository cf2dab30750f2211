import SourceAudit.Skeleton.Kind

/-!
  Sample values for the parameters of a function, as its language writes them,
  and what is expected of its result, for each case that is to be tested.
-/
namespace SourceAudit

/-- A case that is to be tested. -/
inductive SampleCase where
  | normal
  | empty
  | boundary
  | invalid
  | large
  deriving DecidableEq, Repr

namespace SampleCase

/-- The name of a case. -/
def name : SampleCase → String
  | normal => "normal"
  | empty => "empty"
  | boundary => "boundary"
  | invalid => "invalid"
  | large => "large"

/-- All cases in order. -/
def all : List SampleCase := [normal, empty, boundary, invalid, large]

/-- The case of a name. -/
def ofName? (s : String) : Option SampleCase := all.find? fun c => c.name == s

end SampleCase

namespace Sample

/-- The word for nothing. -/
def nothing (language : String) : String :=
  if language == "python" || language == "rust" then "None"
  else if language == "go" then "nil"
  else if language == "c" then "NULL"
  else if language == "cpp" then "nullptr"
  else "null"

/-- A truth value. -/
def truth (b : Bool) (language : String) : String :=
  if language == "python" then (if b then "True" else "False") else (if b then "true" else "false")

/-- An array of values. -/
def array (values language : String) : String :=
  if language == "java" || language == "c" || language == "cpp" then "\x7b" ++ values ++ "\x7d"
  else if language == "go" then "[]int\x7b" ++ values ++ "\x7d"
  else if language == "rust" then "vec![" ++ values ++ "]"
  else "[" ++ values ++ "]"

/-- An object with one entry. -/
def object (language : String) : String :=
  if language == "python" then "\x7b\"key\": \"value\"\x7d" else "\x7b key: 'value' \x7d"

/-- The value of a kind for a case. -/
def value (kind : ValueKind) (case : SampleCase) (language : String) : String :=
  match case, kind with
  | .normal, .number => "5"
  | .normal, .string => "\"hello\""
  | .normal, .boolean => truth true language
  | .normal, .array => array "1, 2, 3" language
  | .normal, .object => object language
  | .normal, _ => "\"value\""
  | .empty, .number => "0"
  | .empty, .string => "\"\""
  | .empty, .boolean => truth false language
  | .empty, .array => array "" language
  | .empty, _ => nothing language
  | .boundary, .number => "-1"
  | .boundary, .string => "\"a\""
  | .boundary, .boolean => truth false language
  | .boundary, .array => array "1" language
  | .boundary, _ => nothing language
  | .invalid, .number => "\"not_a_number\""
  | .invalid, .string => "123"
  | .invalid, .boolean => "\"yes\""
  | .invalid, .array => nothing language
  | .invalid, _ => "123"
  | .large, .number => "1000000"
  | .large, .string => "a string of 10,000 characters"
  | .large, .array => "an array of 10,000 elements"
  | .large, _ => "a large input"

/-- What is expected of a result of a kind in a case. -/
def expected (result : ValueKind) (case : SampleCase) : String :=
  match case, result with
  | .empty, .void => "No output expected"
  | .empty, .boolean => "false"
  | .empty, .number => "0"
  | .empty, .string => "\"\""
  | .empty, _ => "null or empty result"
  | .invalid, _ => "Should throw error or return error indicator"
  | .boundary, _ => "Should handle boundary conditions correctly"
  | .large, _ => "Should process large input efficiently"
  | .normal, .void => "Function executes without errors"
  | .normal, .boolean => "true"
  | .normal, .number => "positive number"
  | .normal, .string => "valid string output"
  | .normal, .array => "array with processed elements"
  | .normal, _ => "Expected valid output based on input"

/-- The value for a case given by name; a name without a case asks for a large value. -/
def valueFor (kind : ValueKind) (case language : String) : String :=
  value kind ((SampleCase.ofName? case).getD .large) language

/-- What is expected in a case given by name; a name without a case asks for the normal one. -/
def expectedFor (result : ValueKind) (case : String) : String :=
  expected result ((SampleCase.ofName? case).getD .normal)

end Sample
end SourceAudit
