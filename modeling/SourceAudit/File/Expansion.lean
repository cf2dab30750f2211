import SourceAudit.Text.Basic

/-!
  Parts of a path that stand for other text: a tilde at its start for the home
  directory, and a dollar sign with a name for the value of a variable. A name
  without a value stays as it is, and values are not looked into again.
-/
namespace SourceAudit
namespace FileName

/-- A path in which a tilde before the first slash stands for the home directory. -/
def withHome (home : Text) : Text → Text
  | '~' :: rest =>
    if rest.isEmpty || rest.head? == some '/' then
      let path := (home.reverse.dropWhile (· == '/')).reverse ++ rest
      if path.isEmpty then ['/'] else path
    else '~' :: rest
  | path => path

/-- Characters of the name of a variable. -/
def isVariablePart (c : Char) : Bool := c.isAlphanum || c == '_'

/-- The name of a variable at the start of a text, bare or in braces, and what follows it. -/
def variableAt? : Text → Option (Text × Text)
  | '{' :: rest =>
    match rest.dropWhile (· != '}') with
    | [] => none
    | _ :: after => some (rest.takeWhile (· != '}'), after)
  | t =>
    match t.takeWhile isVariablePart with
    | [] => none
    | name => some (name, t.dropWhile isVariablePart)

theorem length_of_variableAt? {t name after : Text} (h : variableAt? t = some (name, after)) :
    after.length ≤ t.length := by
  unfold variableAt? at h
  split at h
  · rename_i rest
    have shorter := (List.dropWhile_sublist (l := rest) (· != '}')).length_le
    split at h
    · exact absurd h (by simp)
    · rename_i c tail found
      rw [found] at shorter
      simp only [Option.some.injEq, Prod.mk.injEq] at h
      obtain ⟨-, rfl⟩ := h
      simp only [List.length_cons] at shorter ⊢
      omega
  · split at h
    · exact absurd h (by simp)
    · simp only [Option.some.injEq, Prod.mk.injEq] at h
      obtain ⟨-, rfl⟩ := h
      exact (List.dropWhile_sublist _).length_le

/-- A text in which variables stand for their values. -/
def withVariables (value? : Text → Option Text) : Text → Text
  | [] => []
  | c :: rest =>
    if c == '$' then
      match h : variableAt? rest with
      | some (name, after) =>
        have := length_of_variableAt? h
        ((value? name).getD (c :: rest.take (rest.length - after.length))) ++
          withVariables value? after
      | none => c :: withVariables value? rest
    else c :: withVariables value? rest
termination_by t => t.length

end FileName
end SourceAudit
