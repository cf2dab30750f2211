import Mathlib.Data.List.Forall2
import SourceAudit.Source.Prepared

/-!
  The views of a text, and the lines of a prepared source.

  `Shows c d` says how a character `c` of a text may show: as itself, or as a
  space if it is no newline. `viewFrom_shows` proves it of every character of
  every view, for any rules: the two texts go side by side. From it
  `mem_mask` — a masked text holds no character but those of the text and spaces,
  so that a blank one stays blank (`mask_isBlank`). `viewFrom_hides` puts the two
  views of a text side by side: the one without the contents of literals shows what
  the other one shows, or a space. `viewFrom_stretch` and `viewFrom_code` say how a
  view goes on behind a stretch that a rule takes, and behind a character that no
  rule takes.

  A text and its two views are as long as each other, with newlines at the same
  offsets. Texts that agree on their newlines are cut into lines of the same lengths
  (`splitOn_forall₂`), so a line and a column of one of them are a line and a column
  of the others. `views_aligned` puts this together for any rules of comments and
  literals, whatever they take and wherever they look.

  So a list with one entry for each line of a text numbers lines of the text
  (`isLine_of_mem_zipIdx`), the lists of a prepared source are such lists
  (`length_maskedLines`, `length_codeLines`, `length_depths`), and a place on a masked
  line is one of the text (`isPlace_of_maskedLines`).
-/
namespace SourceAudit

/-! ## Views -/

/-- A character shows as itself, or as a space unless it is a newline. -/
def Shows (c d : Char) : Prop := d = c ∨ (d = ' ' ∧ c ≠ '\n')

theorem Shows.same (c : Char) : Shows c c := .inl rfl

theorem shows_same (t : Text) : List.Forall₂ Shows t t :=
  List.forall₂_same.mpr fun c _ => .same c

theorem blank_shows (t : Text) : List.Forall₂ Shows t t.blank := by
  unfold Text.blank
  rw [List.forall₂_map_right_iff, List.forall₂_same]
  intro c _
  by_cases h : c = '\n'
  · simp [Shows, h]
  · simp [Shows, h]

theorem maskLiteral_shows (t : Text) : List.Forall₂ Shows t (maskLiteral t) := by
  match t with
  | [] => exact .nil
  | [c] => exact shows_same [c]
  | c :: d :: rest =>
    have hsplit : d :: rest = (d :: rest).dropLast ++ [(d :: rest).getLast (by simp)] :=
      (List.dropLast_concat_getLast (by simp)).symm
    refine .cons (.same c) ?_
    -- the last character stays, the ones before it are blank
    conv_lhs => rw [hsplit]
    exact List.rel_append (blank_shows _) (shows_same _)

theorem render_shows (view : View) (kind : LexemeKind) (t : Text) :
    List.Forall₂ Shows t (view.render kind t) := by
  cases kind with
  | comment => cases view <;> exact blank_shows t
  | literal =>
    cases view with
    | uncommented => exact shows_same t
    | codeOnly => exact maskLiteral_shows t

/-- A view and its text go side by side, behind the stretch that is already shown. -/
theorem viewFrom_shows (rules : List Lexeme) (view : View) (before : Text) (skip : Nat)
    (t : Text) : List.Forall₂ Shows (t.drop skip) (viewFrom rules view before skip t) := by
  induction t generalizing before skip with
  | nil => simp [viewFrom]
  | cons c rest ih =>
    cases skip with
    | succ skip => simpa [viewFrom] using ih (c :: before) skip
    | zero =>
      simp only [viewFrom, List.drop_zero]
      split
      · rename_i kind n _
        have hsplit : c :: rest = (c :: rest).take (n + 1) ++ rest.drop n := by
          rw [← List.drop_succ_cons, List.take_append_drop]
        -- the stretch that a rule takes, and what stands behind it
        conv_lhs => rw [hsplit]
        exact List.rel_append (render_shows view kind _) (ih _ n)
      · exact .cons (.same c) (by simpa using ih (c :: before) 0)

/-- A character of the view without comments shows as itself or as a space in the masked view. -/
def Hides (u m : Char) : Prop := m = u ∨ m = ' '

theorem hides_same (t : Text) : List.Forall₂ Hides t t :=
  List.forall₂_same.mpr fun _ _ => .inl rfl

/-- A stretch hides nothing but the contents of a literal. -/
theorem render_hides (kind : LexemeKind) (t : Text) :
    List.Forall₂ Hides (View.uncommented.render kind t) (View.codeOnly.render kind t) := by
  cases kind with
  | comment => exact hides_same _
  | literal => exact (maskLiteral_shows t).imp fun _ _ h => h.imp_right And.left

/-- The two views of a text go side by side: both take the same stretches. -/
theorem viewFrom_hides (rules : List Lexeme) (before : Text) (skip : Nat) (t : Text) :
    List.Forall₂ Hides (viewFrom rules .uncommented before skip t)
      (viewFrom rules .codeOnly before skip t) := by
  induction t generalizing before skip with
  | nil => simp [viewFrom]
  | cons c rest ih =>
    cases skip with
    | succ skip => exact ih (c :: before) skip
    | zero =>
      simp only [viewFrom]
      split
      · rename_i kind n _
        exact List.rel_append (render_hides kind _) (ih _ n)
      · exact .cons (.inl rfl) (ih _ 0)

/-! ## How a view goes on -/

theorem viewFrom_drop (rules : List Lexeme) (view : View) (before : Text) (skip : Nat) (t : Text) :
    viewFrom rules view before skip t =
      viewFrom rules view ((t.take skip).reverse ++ before) 0 (t.drop skip) := by
  induction t generalizing before skip with
  | nil => simp [viewFrom]
  | cons c rest ih =>
    cases skip with
    | zero => rfl
    | succ skip =>
      rw [viewFrom, ih]
      simp

/-- Where a rule takes a stretch, the view shows it and goes on behind it. -/
theorem viewFrom_stretch {rules : List Lexeme} (view : View) {before stretch rest : Text}
    {kind : LexemeKind} (hne : stretch ≠ [])
    (h : Lexeme.firstAt rules before (stretch ++ rest) = some (kind, stretch.length)) :
    viewFrom rules view before 0 (stretch ++ rest) =
      view.render kind stretch ++ viewFrom rules view (stretch.reverse ++ before) 0 rest := by
  cases stretch with
  | nil => exact absurd rfl hne
  | cons c body =>
    simp only [List.cons_append, List.length_cons] at h
    have hbody : (body ++ rest).take body.length = body := by simp
    have hrest : (body ++ rest).drop body.length = rest := by simp
    simp only [List.cons_append, viewFrom, h, List.take_succ_cons, hbody]
    rw [viewFrom_drop, hbody, hrest]
    simp

/-- A character that no rule takes shows as it is. -/
theorem viewFrom_code {rules : List Lexeme} (view : View) {before rest : Text} {c : Char}
    (h : Lexeme.firstAt rules before (c :: rest) = none) :
    viewFrom rules view before 0 (c :: rest) = c :: viewFrom rules view (c :: before) 0 rest := by
  simp only [viewFrom, h]

/-! ## Masked texts -/

theorem mask_shows (rules : List Lexeme) (t : Text) : List.Forall₂ Shows t (mask rules t) :=
  viewFrom_shows rules .codeOnly [] 0 t

/-- A masked text holds no character but those of the text and spaces. -/
theorem mem_mask {rules : List Lexeme} {t : Text} {d : Char} (h : d ∈ mask rules t) :
    d ∈ t ∨ d = ' ' := by
  obtain ⟨i, hi, rfl⟩ := List.getElem_of_mem h
  have hlen := (mask_shows rules t).length_eq
  rcases (mask_shows rules t).get (hlen ▸ hi) hi with hc | ⟨hc, _⟩
  · left
    simp only [List.get_eq_getElem] at hc
    rw [hc]
    exact List.getElem_mem _
  · exact .inr (by simpa using hc)

/-- A blank text is masked as blanks. -/
theorem mask_isBlank {rules : List Lexeme} {t : Text} (h : t.isBlank = true) :
    (mask rules t).isBlank = true := by
  rw [Text.isBlank, List.all_eq_true] at h ⊢
  intro c hc
  rcases mem_mask hc with hc | rfl
  · exact h c hc
  · rfl

/-! ## Lines side by side -/

/-- Texts that go side by side and agree on a separator are cut into parts that go side by side. -/
theorem Text.splitOn_forall₂ {R : Char → Char → Prop} {sep : Char}
    (hsep : ∀ c d, R c d → (c = sep ↔ d = sep)) {t u : Text} (h : List.Forall₂ R t u) :
    List.Forall₂ (List.Forall₂ R) (splitOn sep t) (splitOn sep u) := by
  induction h with
  | nil => exact .cons .nil .nil
  | @cons c d t u hcd _ ih =>
    by_cases hc : c = sep
    · have hd : d = sep := (hsep c d hcd).mp hc
      simp only [splitOn, hc, hd, beq_self_eq_true, if_true]
      exact .cons .nil ih
    · have hd : d ≠ sep := fun hd => hc ((hsep c d hcd).mpr hd)
      simp only [splitOn, beq_iff_eq, hc, hd, if_false]
      -- the character goes to the front of the first part
      generalize splitOn sep t = parts, splitOn sep u = others at ih ⊢
      cases ih with
      | nil => exact .cons (.cons hcd .nil) .nil
      | cons hpart hparts => exact .cons (.cons hcd hpart) hparts

theorem map_length_of_forall₂ {α β : Type} {R : α → β → Prop} {ls : List (List α)}
    {ms : List (List β)} (h : List.Forall₂ (List.Forall₂ R) ls ms) :
    ms.map List.length = ls.map List.length := by
  induction h with
  | nil => rfl
  | cons hline _ ih => rw [List.map_cons, List.map_cons, hline.length_eq, ih]

/-- A character is a newline exactly if it shows as one. -/
theorem Shows.newline_iff {c d : Char} (h : Shows c d) : d = '\n' ↔ c = '\n' := by
  rcases h with rfl | ⟨rfl, hc⟩
  · rfl
  · exact ⟨fun hd => absurd hd (by decide), fun h => absurd h hc⟩

/-- A view has the lines of its text, each as long as it is there. -/
theorem map_length_lines_viewFrom (rules : List Lexeme) (view : View) (t : Text) :
    (viewFrom rules view [] 0 t).lines.map List.length = t.lines.map List.length := by
  have hshows : List.Forall₂ Shows t (viewFrom rules view [] 0 t) :=
    viewFrom_shows rules view [] 0 t
  exact map_length_of_forall₂
    (Text.splitOn_forall₂ (fun _ _ h => h.newline_iff.symm) hshows)

/-! ## Depths -/

namespace Depth

theorem length_bracesFrom (before : Nat) (ls : List Text) :
    (bracesFrom before ls).length = ls.length := by
  induction ls generalizing before with
  | nil => rfl
  | cons line rest ih => rw [bracesFrom, List.length_cons, List.length_cons, ih]

theorem length_indentedFrom (before : Nat) (blocks : List Nat) (ls : List Text) :
    (indentedFrom before blocks ls).length = ls.length := by
  induction ls generalizing before blocks with
  | nil => rfl
  | cons line rest ih =>
    rw [indentedFrom]
    split
    · rw [List.length_cons, List.length_cons, ih]
    · dsimp only
      split
      · rw [List.length_cons, List.length_cons, ih]
      · rw [List.length_cons, List.length_cons, ih]

end Depth

theorem length_depths_prepare (l : Language) (t : Text) :
    (prepare l t).depths.length = (prepare l t).maskedLines.length := by
  simp only [prepare]
  split
  · exact Depth.length_bracesFrom 0 _
  · exact Depth.length_indentedFrom 0 [] _

/-! ## The views of a source -/

/-- One place of a text: the character `c` there, `u` in its view without comments, and `m` in its
masked view. -/
structure Aligned (c u m : Char) : Prop where
  uncommented : u = c ∨ u = ' '
  masked : m = c ∨ m = ' '
  newline_uncommented : u = '\n' ↔ c = '\n'
  newline_masked : m = '\n' ↔ c = '\n'
  agree : m = u ∨ (m = ' ' ∧ u = c)

theorem Aligned.of_shows {c u m : Char} (hu : Shows c u) (hm : Shows c m) (hum : Hides u m) :
    Aligned c u m where
  uncommented := hu.imp_right And.left
  masked := hm.imp_right And.left
  newline_uncommented := hu.newline_iff
  newline_masked := hm.newline_iff
  agree := by
    rcases hum with h | h
    · exact .inl h
    · rcases hu with hu | ⟨hu, _⟩
      · exact .inr ⟨h, hu⟩
      · exact .inl (h.trans hu.symm)

/-- What stands at one offset of three texts that go side by side in pairs. -/
theorem aligned_of_getElem? {rules : List Lexeme} {t : Text} {i : Nat} {c u m : Char}
    (hc : t[i]? = some c) (hu : (stripComments rules t)[i]? = some u)
    (hm : (mask rules t)[i]? = some m) : Aligned c u m := by
  obtain ⟨hi, rfl⟩ := List.getElem?_eq_some_iff.mp hc
  obtain ⟨hiu, rfl⟩ := List.getElem?_eq_some_iff.mp hu
  obtain ⟨him, rfl⟩ := List.getElem?_eq_some_iff.mp hm
  exact .of_shows ((viewFrom_shows rules .uncommented [] 0 t).get hi hiu)
    ((viewFrom_shows rules .codeOnly [] 0 t).get hi him)
    ((viewFrom_hides rules [] 0 t).get hiu him)

/-- The views of any text in any language, with any rules of comments and literals. Both are as long
as the text; at each offset they show the character of the text or a space, and newlines where the
text has them; and they agree there, or the masked view shows a space for a character that the
other view keeps. So a prepared source has one line in each view and one depth for each line of its
text, and the lines of the views are as long as those of the text. -/
theorem views_aligned (l : Language) (t : Text) :
    (mask l.lexemes t).length = t.length ∧
      (stripComments l.lexemes t).length = t.length ∧
      (∀ i : Nat, ∀ c ∈ t[i]?, ∀ u ∈ (stripComments l.lexemes t)[i]?, ∀ m ∈ (mask l.lexemes t)[i]?,
        Aligned c u m) ∧
      (prepare l t).maskedLines.map List.length = (prepare l t).lines.map List.length ∧
      (prepare l t).codeLines.map List.length = (prepare l t).lines.map List.length ∧
      (prepare l t).maskedLines.length = (prepare l t).lines.length ∧
      (prepare l t).codeLines.length = (prepare l t).lines.length ∧
      (prepare l t).depths.length = (prepare l t).lines.length := by
  have hmasked : (prepare l t).maskedLines.map List.length = (prepare l t).lines.map List.length :=
    map_length_lines_viewFrom l.lexemes .codeOnly t
  have hcode : (prepare l t).codeLines.map List.length = (prepare l t).lines.map List.length :=
    map_length_lines_viewFrom l.lexemes .uncommented t
  have hmaskedCount : (prepare l t).maskedLines.length = (prepare l t).lines.length := by
    simpa only [List.length_map] using congrArg List.length hmasked
  have hcodeCount : (prepare l t).codeLines.length = (prepare l t).lines.length := by
    simpa only [List.length_map] using congrArg List.length hcode
  refine ⟨?_, ?_, ?_, hmasked, hcode, hmaskedCount, hcodeCount, ?_⟩
  · exact (viewFrom_shows l.lexemes .codeOnly [] 0 t).length_eq.symm
  · exact (viewFrom_shows l.lexemes .uncommented [] 0 t).length_eq.symm
  · intro i c hc u hu m hm
    exact aligned_of_getElem? hc hu hm
  · rw [length_depths_prepare, hmaskedCount]

/-! ## Lines and places that a text has -/

namespace Text

variable {t : Text}

/-- Whether a text has a line of a number, counted from one. -/
def IsLine (t : Text) (n : Int) : Prop := 1 ≤ n ∧ n ≤ t.lines.length

/-- Whether a text has a character at a line and a column, both counted from one. -/
def IsPlace (t : Text) (line column : Int) : Prop :=
  ∃ (i : Nat) (row : Text), t.lines[i]? = some row ∧ line = i + 1 ∧ 1 ≤ column ∧
    column ≤ row.length

theorem isLine_of_lt {i : Nat} (h : i < t.lines.length) : t.IsLine (i + 1) :=
  ⟨by omega, by omega⟩

/-- Every text has a first line. -/
theorem isLine_one (t : Text) : t.IsLine 1 :=
  isLine_of_lt (i := 0) (List.length_pos_iff.mpr (splitOn_ne_nil '\n' t))

theorem isLine_of_getElem? {α : Type} {rows : List α} {i : Nat} {x : α}
    (hrows : rows.length = t.lines.length) (h : rows[i]? = some x) : t.IsLine (i + 1) :=
  isLine_of_lt (hrows ▸ (List.getElem?_eq_some_iff.mp h).1)

/-- A list with one entry for each line numbers lines. -/
theorem isLine_of_mem_zipIdx {α : Type} {rows : List α} {i : Nat} {x : α}
    (hrows : rows.length = t.lines.length) (h : (x, i) ∈ rows.zipIdx) : t.IsLine (i + 1) :=
  isLine_of_getElem? hrows (List.mk_mem_zipIdx_iff_getElem?.mp h)

/-- Numbered lines come by their numbers. -/
theorem pairwise_zipIdx {α : Type} (rows : List α) : rows.zipIdx.Pairwise fun x y => x.2 < y.2 := by
  have hnumbers : (rows.zipIdx.map Prod.snd).Pairwise (· < ·) := by
    rw [List.zipIdx_map_snd]
    exact List.pairwise_lt_range'
  exact List.pairwise_map.mp hnumbers

end Text

section
variable (l : Language) (t : Text)

theorem length_maskedLines : (prepare l t).maskedLines.length = t.lines.length := by
  have hlengths := congrArg List.length (map_length_lines_viewFrom l.lexemes .codeOnly t)
  rwa [List.length_map, List.length_map] at hlengths

theorem length_codeLines : (prepare l t).codeLines.length = t.lines.length := by
  have hlengths := congrArg List.length (map_length_lines_viewFrom l.lexemes .uncommented t)
  rwa [List.length_map, List.length_map] at hlengths

theorem length_depths : (prepare l t).depths.length = t.lines.length := by
  rw [length_depths_prepare, length_maskedLines]

end

/-- A place on a masked line is one of the text. -/
theorem isPlace_of_maskedLines {l : Language} {t : Text} {i : Nat} {row : Text} {column : Int}
    (hrow : (prepare l t).maskedLines[i]? = some row) (hfirst : 1 ≤ column)
    (hlast : column ≤ row.length) : t.IsPlace (i + 1) column := by
  have hlengths := congrArg (·[i]?) (map_length_lines_viewFrom l.lexemes .codeOnly t)
  change ((prepare l t).maskedLines.map List.length)[i]? = (t.lines.map List.length)[i]? at hlengths
  rw [List.getElem?_map, List.getElem?_map, hrow] at hlengths
  obtain ⟨original, horiginal, hlength⟩ := Option.map_eq_some_iff.mp hlengths.symm
  exact ⟨i, original, horiginal, rfl, hfirst, by rw [hlength]; exact hlast⟩

end SourceAudit
