import Mathlib.Data.List.Infix
import SourceAudit.Text.Basic

/-!
  Lines of a text, joined again.

  Joined lines are cut where their list is cut, with a newline in between
  (`joinLines_append`), and cut at the newlines they are the lines they were joined
  from (`lines_joinLines`). A character of joined lines stands on one of them, with as
  many lines before it as newlines (`joinLines_cut`).
-/
namespace SourceAudit

namespace Text

theorem joinLines_cons {row : Text} {ls : List Text} (h : ls ≠ []) :
    joinLines (row :: ls) = row ++ '\n' :: joinLines ls := by
  cases ls with
  | nil => exact absurd rfl h
  | cons next ls => simp [joinLines, joinWith]

theorem joinLines_append {ls ms : List Text} (hls : ls ≠ []) (hms : ms ≠ []) :
    joinLines (ls ++ ms) = joinLines ls ++ '\n' :: joinLines ms := by
  induction ls with
  | nil => exact absurd rfl hls
  | cons row ls ih =>
    by_cases hnil : ls = []
    · rw [hnil, List.singleton_append, joinLines_cons hms]
      rfl
    · rw [List.cons_append, joinLines_cons (by simp [hnil]), joinLines_cons hnil, ih hnil]
      simp

theorem joinWith_eq_intercalate (sep : Text) (parts : List Text) :
    joinWith sep parts = sep.intercalate parts := by
  induction parts with
  | nil => rfl
  | cons part parts ih =>
    cases parts with
    | nil => simp [joinWith, List.intercalate]
    | cons next parts => rw [joinWith, ih, List.intercalate_cons_cons]; simp

/-- What stands before on the first line stands before the joined lines. -/
theorem joinLines_append_cons (t row : Text) (ls : List Text) :
    joinLines ((t ++ row) :: ls) = t ++ joinLines (row :: ls) := by
  by_cases h : ls = []
  · rw [h]
    rfl
  · rw [joinLines_cons h, joinLines_cons h, List.append_assoc]

/-- Joined lines end with the joined lines from any one on. -/
theorem exists_joinLines_append (ls ms : List Text) (hms : ms ≠ []) :
    ∃ t, joinLines (ls ++ ms) = t ++ joinLines ms := by
  by_cases h : ls = []
  · exact ⟨[], by rw [h]; rfl⟩
  · exact ⟨joinLines ls ++ ['\n'], by rw [joinLines_append h hms]; simp⟩

theorem joinLines_isPrefix {ls ms : List Text} (h : ls ≠ []) :
    joinLines ls <+: joinLines (ls ++ ms) := by
  by_cases hms : ms = []
  · exact ⟨[], by rw [hms, List.append_nil, List.append_nil]⟩
  · rw [joinLines_append h hms]
    exact List.prefix_append ..

/-- Lines that are cut within one of them are joined to a prefix. -/
theorem joinLines_isPrefix_append (ls ms : List Text) (u v : Text) :
    joinLines (ls ++ [u]) <+: joinLines (ls ++ (u ++ v) :: ms) := by
  have hrow : joinLines [u] <+: joinLines ((u ++ v) :: ms) := by
    rw [joinLines_append_cons]
    exact List.prefix_append ..
  by_cases hnil : ls = []
  · rw [hnil]
    exact hrow
  · rw [joinLines_append hnil (by simp), joinLines_append hnil (by simp),
      List.prefix_append_right_inj]
    exact List.cons_prefix_cons.mpr ⟨rfl, hrow⟩

/-- Joined lines go on behind a character with what stands behind it on its line, and the lines
below. -/
theorem exists_joinLines_eq {ls : List Text} {i : Nat} {left right : Text} {c : Char}
    (h : ls[i]? = some (left ++ c :: right)) :
    ∃ before, joinLines ls = before ++ c :: joinLines (right :: ls.drop (i + 1)) := by
  have hcut : ls = ls.take i ++ (left ++ [c] ++ right) :: ls.drop (i + 1) := by
    have hdrop := List.drop_eq_getElem?_toList_append (l := ls) (i := i)
    rw [h, Option.toList_some, List.singleton_append] at hdrop
    rw [List.append_assoc, List.singleton_append, ← hdrop, List.take_append_drop]
  obtain ⟨above, habove⟩ := exists_joinLines_append (ls.take i)
    ((left ++ [c] ++ right) :: ls.drop (i + 1)) (List.cons_ne_nil _ _)
  refine ⟨above ++ left, ?_⟩
  rw [← hcut, joinLines_append_cons] at habove
  rw [habove]
  simp only [List.append_assoc, List.singleton_append]

theorem splitOn_append {sep : Char} {row : Text} (h : sep ∉ row) (rest : Text) :
    splitOn sep (row ++ sep :: rest) = row :: splitOn sep rest := by
  induction row with
  | nil => simp [splitOn]
  | cons c row ih =>
    obtain ⟨hc, hrow⟩ : sep ≠ c ∧ sep ∉ row := by simpa using h
    rw [List.cons_append, splitOn, ih hrow]
    simp [Ne.symm hc]

theorem splitOn_of_notMem {sep : Char} {row : Text} (h : sep ∉ row) : splitOn sep row = [row] := by
  induction row with
  | nil => rfl
  | cons c row ih =>
    obtain ⟨hc, hrow⟩ : sep ≠ c ∧ sep ∉ row := by simpa using h
    rw [splitOn, ih hrow]
    simp [Ne.symm hc]

/-- There is one part more than separators. -/
theorem length_splitOn (sep : Char) (t : Text) : (splitOn sep t).length = t.count sep + 1 := by
  induction t with
  | nil => rfl
  | cons c rest ih =>
    rw [splitOn, List.count_cons]
    split
    · rw [List.length_cons, ih]
    · cases hparts : splitOn sep rest with
      | nil => exact absurd hparts (splitOn_ne_nil sep rest)
      | cons part parts =>
        rw [hparts] at ih
        exact ih

/-- Joined lines are found again, if none of them holds a newline. -/
theorem lines_joinLines {ls : List Text} (hne : ls ≠ []) (h : ∀ row ∈ ls, '\n' ∉ row) :
    (joinLines ls).lines = ls := by
  induction ls with
  | nil => exact absurd rfl hne
  | cons row ls ih =>
    obtain ⟨hrow, hls⟩ := List.forall_mem_cons.mp h
    by_cases hnil : ls = []
    · subst hnil
      exact splitOn_of_notMem hrow
    · calc (joinLines (row :: ls)).lines
          = splitOn '\n' (row ++ '\n' :: joinLines ls) := by rw [joinLines_cons hnil]; rfl
        _ = row :: (joinLines ls).lines := splitOn_append hrow _
        _ = row :: ls := by rw [ih hnil hls]

/-- No line holds a newline. -/
theorem newline_not_mem_of_mem_lines {t row : Text} (h : row ∈ t.lines) : '\n' ∉ row := by
  induction t generalizing row with
  | nil =>
    obtain rfl : row = [] := by simpa [lines, splitOn] using h
    simp
  | cons c t ih =>
    simp only [lines, splitOn] at h ih
    split at h
    · rcases List.mem_cons.mp h with rfl | h
      · simp
      · exact ih h
    · rename_i hc
      have hc' : '\n' ≠ c := fun heq => hc (beq_iff_eq.mpr heq.symm)
      generalize splitOn '\n' t = rows at h ih
      cases rows with
      | nil =>
        obtain rfl : row = [c] := by simpa using h
        simpa using hc'
      | cons part parts =>
        rcases List.mem_cons.mp h with rfl | h
        · have hpart : '\n' ∉ part := ih List.mem_cons_self
          simp [hc', hpart]
        · exact ih (List.mem_cons_of_mem _ h)

/-- The characters of a line are characters of the text. -/
theorem mem_of_mem_lines {t row : Text} {c : Char} (hrow : row ∈ t.lines) (hc : c ∈ row) : c ∈ t := by
  obtain ⟨i, hi⟩ := List.mem_iff_getElem?.mp hrow
  obtain ⟨left, right, rfl⟩ := List.append_of_mem hc
  obtain ⟨before, hbefore⟩ := exists_joinLines_eq hi
  rw [joinLines_lines] at hbefore
  rw [hbefore]
  exact List.mem_append_right _ List.mem_cons_self

/-- A character of joined parts is one of the separator or of a part. -/
theorem of_mem_joinWith {sep : Text} {parts : List Text} {c : Char} (h : c ∈ joinWith sep parts) :
    c ∈ sep ∨ ∃ part ∈ parts, c ∈ part := by
  induction parts with
  | nil => exact absurd h List.not_mem_nil
  | cons part parts ih =>
    cases parts with
    | nil => exact .inr ⟨part, List.mem_cons_self, h⟩
    | cons next parts =>
      simp only [joinWith, List.mem_append] at h
      rcases h with (h | h) | h
      · exact .inr ⟨part, List.mem_cons_self, h⟩
      · exact .inl h
      · rcases ih h with hsep | ⟨p, hp, hc⟩
        · exact .inl hsep
        · exact .inr ⟨p, List.mem_cons_of_mem _ hp, hc⟩

theorem fieldsFrom_nil (word : Text) :
    fieldsFrom word [] = if word.isEmpty then [] else [word.reverse] := by
  cases word <;> rfl

theorem fieldsFrom_cons (word : Text) (c : Char) (rest : Text) :
    fieldsFrom word (c :: rest) =
      if Unicode.isBlank c then
        if word.isEmpty then fieldsFrom [] rest else word.reverse :: fieldsFrom [] rest
      else fieldsFrom (c :: word) rest := by
  cases word <;> rfl

/-- No word holds a blank. -/
theorem isBlank_of_mem_fields {t word : Text} (hword : word ∈ fields t) {c : Char}
    (hc : c ∈ word) : Unicode.isBlank c = false := by
  -- the word that is being read holds none
  suffices ∀ begun : Text, (∀ c ∈ begun, Unicode.isBlank c = false) → word ∈ fieldsFrom begun t →
      ∀ c ∈ word, Unicode.isBlank c = false from
    this [] (fun _ h => absurd h List.not_mem_nil) hword c hc
  clear hc hword
  induction t with
  | nil =>
    intro begun hbegun hword
    rw [fieldsFrom_nil] at hword
    split at hword
    · exact absurd hword List.not_mem_nil
    · obtain rfl := List.mem_singleton.mp hword
      exact fun c hc => hbegun c (List.mem_reverse.mp hc)
  | cons b t ih =>
    intro begun hbegun hword
    have hnil := ih [] (fun _ h => absurd h List.not_mem_nil)
    rw [fieldsFrom_cons] at hword
    split at hword
    · split at hword
      · exact hnil hword
      · rcases List.mem_cons.mp hword with rfl | hword
        · exact fun c hc => hbegun c (List.mem_reverse.mp hc)
        · exact hnil hword
    · next hb =>
      exact ih (b :: begun) (List.forall_mem_cons.mpr ⟨by simpa using hb, hbegun⟩) hword

/-- A character of joined lines that is no newline stands on one of the lines, and there are as many
lines before it as newlines. -/
theorem joinLines_cut {ls : List Text} (hrows : ∀ row ∈ ls, '\n' ∉ row) {u v : Text} {c : Char}
    (hc : c ≠ '\n') (h : joinLines ls = u ++ c :: v) :
    ∃ inner left right more, ls = inner ++ (left ++ c :: right) :: more ∧
      u = joinLines (inner ++ [left]) ∧ inner.length = u.count '\n' := by
  induction ls generalizing u with
  | nil => simp [joinLines, joinWith] at h
  | cons row ls ih =>
    obtain ⟨hrow, hls⟩ := List.forall_mem_cons.mp hrows
    -- the character is on the first line
    have hfirst : ∀ right, row = u ++ c :: right → ∃ inner left right more,
        row :: ls = inner ++ (left ++ c :: right) :: more ∧
          u = joinLines (inner ++ [left]) ∧ inner.length = u.count '\n' := by
      intro right heq
      have hnone : u.count '\n' = 0 := List.count_eq_zero.mpr fun hu => hrow (by simp [heq, hu])
      exact ⟨[], u, right, ls, by rw [heq]; rfl, rfl, by rw [hnone]; rfl⟩
    by_cases hnil : ls = []
    · exact hfirst v (by rw [← h, hnil]; rfl)
    · rw [joinLines_cons hnil] at h
      rcases List.append_eq_append_iff.mp h with ⟨w, hu, hw⟩ | ⟨w, hrow', hw⟩
      · -- or behind the newline that follows it
        cases w with
        | nil => exact absurd (List.cons.inj hw).1.symm hc
        | cons d w =>
          obtain ⟨rfl, hrest⟩ := List.cons.inj hw
          obtain ⟨inner, left, right, more, hcut, hbefore, hcount⟩ := ih hls hrest
          have hzero : row.count '\n' = 0 := List.count_eq_zero.mpr hrow
          refine ⟨row :: inner, left, right, more, by rw [hcut]; rfl, ?_, ?_⟩
          · rw [hu, List.cons_append, joinLines_cons (by simp), hbefore]
          · rw [hu, List.count_append, hzero, List.count_cons_self, List.length_cons, hcount]
            omega
      · cases w with
        | nil => exact absurd (List.cons.inj hw).1 hc
        | cons d w =>
          obtain ⟨rfl, _⟩ := List.cons.inj hw
          exact hfirst w hrow'

end Text

end SourceAudit
