import SourceAudit.Violation.Similarity

/-!
  Categories of problems, from the words of a message. The first rule that
  applies decides; a message that no rule covers is its own category, cut to its
  first three words.
-/
namespace SourceAudit
namespace Category

/-- The rules in order: the words to look for, and the category. -/
def rules : List (List String × String) := [
  (["nesting"], "Deep nesting"),
  (["long function", "function length"], "Long functions"),
  (["await", "promise"], "Unhandled promises"),
  (["error handling"], "Missing error handling"),
  (["comment", "documentation"], "Insufficient comments"),
  (["magic number", "constant"], "Magic numbers"),
  (["unused variable"], "Unused variables"),
  (["variable name", "naming"], "Non-descriptive variable names"),
  (["duplicate"], "Duplicate code"),
  (["unreachable"], "Dead code"),
  (["array", "bounds"], "Unsafe array access"),
  (["null"], "Null reference risk"),
  (["division", "arithmeticexception"], "Division by zero risk"),
  (["json"], "Unhandled parsing"),
  (["file"], "Unsafe file operations"),
  (["cast"], "Unsafe type casts"),
  (["throw", "raise"], "Uncaught exceptions"),
  (["redundant", "inefficient", "performance"], "Performance concerns"),
  (["debug", "console.log"], "Debug code in production"),
  (["todo", "fixme"], "Unresolved TODOs")]

/-- The category of a message. -/
def of (message : String) : String :=
  let low := Message.small message
  match rules.find? fun rule => rule.1.any fun word => Text.holds word.toList low with
  | some rule => rule.2
  | none => String.ofList (Text.joinWith [' '] ((Text.fields message.toList).take 3))

end Category
end SourceAudit
