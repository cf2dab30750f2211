import SourceAudit.Language.Go
import SourceAudit.Proofs.Source.Segments

/-!
  Raw literals of Go.

  Between backticks a backslash is a character like any other. The rule for backticks is the
  one of languages with escapes: it takes a backslash and the character behind it together. What is
  proved:
    1. `exists_items` — a body in which every backslash has a partner is one that the rule
       reads to its end; `bodyExtent_unpaired` — any other stops the rule, or takes it past
       the closing backtick.
    2. `drop_view_ne` — a body that is read as code does not leave the closing backtick and
       what is behind it as they would be.
    3. `mask_raw_iff` — so a raw literal is masked as one, whatever follows it, exactly if its
       backslashes have partners. `mask_path` is one that is not.
-/
namespace SourceAudit
namespace RawLiteral

open Lexeme Segment

/-- Whether every backslash of a body, read from the left, has a character behind it that is no
newline and makes a pair with it. -/
def isPaired : Text → Bool
  | [] => true
  | [c] => c != '\\'
  | c :: d :: rest => if c == '\\' then d != '\n' && isPaired rest else isPaired (d :: rest)

variable {body : Text}

theorem lexemes_go : Language.go.lexemes = rules := rfl

/-! ## What stands before a place does not count -/

theorem viewFrom_before (view : View) (before before' : Text) (skip : Nat) (t : Text) :
    viewFrom rules view before skip t = viewFrom rules view before' skip t := by
  induction t generalizing before before' skip with
  | nil => cases skip <;> rfl
  | cons c t ih =>
    cases skip with
    | succ skip => exact ih (c :: before) (c :: before') skip
    | zero =>
      have hrules : firstAt rules before (c :: t) = firstAt rules before' (c :: t) := rfl
      rw [viewFrom, viewFrom, hrules]
      split
      · next kind n _ => rw [ih (c :: before) (c :: before') n]
      · rw [ih (c :: before) (c :: before') 0]

/-! ## Bodies in pairs -/

/-- A body in pairs is made of what may stand between backticks. -/
theorem exists_items (hpaired : isPaired body = true) (hbody : '`' ∉ body) :
    ∃ items, (∀ i ∈ items, LiteralItem.fits .back i = true) ∧ bodyText items = body := by
  have hplain : ∀ {c : Char}, c ≠ '`' → c ≠ '\\' → (LiteralItem.plain c).fits .back = true := by
    intro c hmark hslash
    simp [LiteralItem.fits, Quote.mark, Quote.severalLines, hmark, hslash]
  induction body using isPaired.induct with
  | case1 => exact ⟨[], List.forall_mem_nil _, rfl⟩
  | case2 c =>
    have hc : c ≠ '\\' := by simpa [isPaired] using hpaired
    refine ⟨[.plain c], ?_, rfl⟩
    simpa using hplain (fun heq => hbody (by simp [heq])) hc
  | case3 c d rest hslash ih =>
    obtain rfl : c = '\\' := beq_iff_eq.mp hslash
    rw [isPaired, if_pos hslash, Bool.and_eq_true, bne_iff_ne] at hpaired
    obtain ⟨items, hitems, rfl⟩ := ih hpaired.2 fun hmem => hbody (by simp [hmem])
    refine ⟨.escaped d :: items, List.forall_mem_cons.mpr ⟨?_, hitems⟩, rfl⟩
    exact bne_iff_ne.mpr hpaired.1
  | case4 c d rest hslash ih =>
    rw [isPaired, if_neg hslash] at hpaired
    obtain ⟨hc, hrest⟩ : c ≠ '`' ∧ '`' ∉ d :: rest :=
      ⟨fun heq => hbody (by simp [heq]), fun hmem => hbody (List.mem_cons_of_mem c hmem)⟩
    obtain ⟨items, hitems, htext⟩ := ih hpaired hrest
    refine ⟨.plain c :: items, List.forall_mem_cons.mpr ⟨?_, hitems⟩, ?_⟩
    · exact hplain hc (by simpa using hslash)
    · rw [← htext]
      rfl

/-- A literal with a body in pairs is masked by itself, and what follows it by itself. -/
theorem viewFrom_paired (hpaired : isPaired body = true) (hbody : '`' ∉ body) (before rest : Text) :
    viewFrom rules .codeOnly before 0 ('`' :: (body ++ '`' :: rest)) =
      '`' :: (body.blank ++ '`' :: mask rules rest) := by
  obtain ⟨items, hitems, rfl⟩ := exists_items hpaired hbody
  have hfirst := firstAt_literal before rest hitems
  have hview := viewFrom_stretch .codeOnly (text_ne_nil (s := .literal .back items hitems) rfl) hfirst
  rw [render_text .codeOnly rfl, viewFrom_before .codeOnly _ [] 0 rest] at hview
  simpa [text, masked, shown, Quote.mark, mask] using hview

/-! ## Bodies that are not in pairs -/

/-- Without pairs the rule stops at a newline, or goes past the closing backtick to the next one. -/
theorem bodyExtent_unpaired (hpaired : isPaired body = false) (hbody : '`' ∉ body) :
    bodyExtent '`' true (body ++ ['`', 'a', '`']) = none ∨
      bodyExtent '`' true (body ++ ['`', 'a', '`']) = some (body.length + 3) := by
  induction body using isPaired.induct with
  | case1 => cases hpaired
  | case2 c =>
    obtain rfl : c = '\\' := by simpa [isPaired] using hpaired
    exact .inr (by decide)
  | case3 c d rest hslash ih =>
    rw [isPaired, if_pos hslash] at hpaired
    rw [List.cons_append, List.cons_append, bodyExtent, if_pos hslash]
    by_cases hd : d = '\n'
    · exact .inl (if_pos (beq_iff_eq.mpr hd))
    · have hrest : isPaired rest = false := by simpa [hd] using hpaired
      rw [if_neg (by simpa using hd)]
      rcases ih hrest fun hmem => hbody (by simp [hmem]) with h | h
      · exact .inl (by rw [h]; rfl)
      · exact .inr (by rw [h]; rfl)
  | case4 c d rest hslash ih =>
    rw [isPaired, if_neg hslash] at hpaired
    have hc : (c == '`') = false := beq_eq_false_iff_ne.mpr fun heq => hbody (by simp [heq])
    rw [List.cons_append, List.cons_append, bodyExtent, if_neg hslash, hc,
      if_neg Bool.false_ne_true, Bool.not_true, Bool.and_false, if_neg Bool.false_ne_true]
    rcases ih hpaired fun hmem => hbody (List.mem_cons_of_mem c hmem) with h | h
    · exact .inl (by rw [← List.cons_append, h]; rfl)
    · exact .inr (by rw [← List.cons_append, h]; rfl)

/-- A literal ends with its quote. -/
theorem getElem?_bodyExtent {quote : Char} {severalLines : Bool} {t : Text} {n : Nat}
    (h : bodyExtent quote severalLines t = some n) : ∃ m, n = m + 1 ∧ t[m]? = some quote := by
  induction t using bodyExtent.induct quote severalLines generalizing n with
  | case1 => cases h
  | case2 c hc =>
    rw [bodyExtent, if_pos hc] at h
    obtain rfl := Option.some.inj h
    exact ⟨0, rfl, by rw [beq_iff_eq.mp hc]; rfl⟩
  | case3 c hc =>
    rw [bodyExtent, if_neg hc] at h
    cases h
  | case4 c d rest hslash hd =>
    rw [bodyExtent, if_pos hslash, if_pos hd] at h
    cases h
  | case5 c d rest hslash hd ih =>
    rw [bodyExtent, if_pos hslash, if_neg hd] at h
    obtain ⟨k, hk, rfl⟩ := Option.map_eq_some_iff.mp h
    obtain ⟨m, rfl, hm⟩ := ih hk
    exact ⟨m + 2, rfl, hm⟩
  | case6 c d rest hslash hc =>
    rw [bodyExtent, if_neg hslash, if_pos hc] at h
    obtain rfl := Option.some.inj h
    exact ⟨0, rfl, by rw [beq_iff_eq.mp hc]; rfl⟩
  | case7 c d rest hslash hc hline =>
    rw [bodyExtent, if_neg hslash, if_neg hc, if_pos hline] at h
    cases h
  | case8 c d rest hslash hc hline ih =>
    rw [bodyExtent, if_neg hslash, if_neg hc, if_neg hline] at h
    obtain ⟨k, hk, rfl⟩ := Option.map_eq_some_iff.mp h
    obtain ⟨m, rfl, hm⟩ := ih hk
    exact ⟨m + 1, rfl, hm⟩

/-- A literal ends with the character it starts with. -/
theorem getElem?_of_literal {before t : Text} {c : Char} {n : Nat}
    (h : firstAt rules before (c :: t) = some (.literal, n + 1)) : (c :: t)[n]? = some c := by
  obtain ⟨rule, hrule, hextent⟩ := List.exists_of_findSome?_eq_some h
  obtain ⟨k, hk, hpair⟩ := Option.map_eq_some_iff.mp hextent
  obtain ⟨hkind, rfl⟩ := Prod.mk.inj hpair
  have hquoted : ∀ {quote : Char} {severalLines : Bool},
      quotedExtent quote severalLines (c :: t) = some (n + 1) → (c :: t)[n]? = some c := by
    intro quote severalLines hquoted
    rw [quotedExtent] at hquoted
    split at hquoted
    · next hc =>
      obtain ⟨k, hk, hlength⟩ := Option.map_eq_some_iff.mp hquoted
      obtain ⟨m, rfl, hm⟩ := getElem?_bodyExtent hk
      obtain rfl : m + 1 = n := by omega
      rw [List.getElem?_cons_succ, hm, beq_iff_eq.mp hc]
    · cases hquoted
  simp only [rules, List.mem_cons, List.not_mem_nil, or_false] at hrule
  rcases hrule with rfl | rfl | rfl | rfl | rfl
  · cases hkind
  · cases hkind
  · exact hquoted hk
  · exact hquoted hk
  · exact hquoted hk

theorem getElem?_blank {t : Text} {i : Nat} {d : Char} (h : t.blank[i]? = some d) :
    d = ' ' ∨ d = '\n' := by
  rw [Text.blank, List.getElem?_map] at h
  obtain ⟨c, -, rfl⟩ := Option.map_eq_some_iff.mp h
  split
  · next hc => exact .inr (beq_iff_eq.mp hc)
  · exact .inl rfl

/-- Inside of a stretch a masked text is blank or a newline, but for the last character of a
literal. -/
theorem getElem?_render {kind : LexemeKind} {stretch : Text} {i : Nat} {d : Char} (hi : 0 < i)
    (h : (View.render .codeOnly kind stretch)[i]? = some d) :
    d = ' ' ∨ d = '\n' ∨ (kind = .literal ∧ i + 1 = stretch.length ∧ stretch[i]? = some d) := by
  cases kind with
  | comment =>
    rcases getElem?_blank h with hd | hd
    · exact .inl hd
    · exact .inr (.inl hd)
  | literal =>
    cases stretch with
    | nil => cases h
    | cons c stretch =>
      cases stretch with
      | nil =>
        obtain ⟨j, rfl⟩ := Nat.exists_eq_succ_of_ne_zero (Nat.ne_of_gt hi)
        cases h
      | cons e stretch =>
        obtain ⟨j, rfl⟩ := Nat.exists_eq_succ_of_ne_zero (Nat.ne_of_gt hi)
        have hinner : (Text.blank (e :: stretch).dropLast ++
            [(e :: stretch).getLast (by simp)])[j]? = some d := h
        have hlength : (Text.blank (e :: stretch).dropLast).length = stretch.length := by
          simp [Text.blank]
        by_cases hj : j < stretch.length
        · rw [List.getElem?_append_left (by omega)] at hinner
          rcases getElem?_blank hinner with hd | hd
          · exact .inl hd
          · exact .inr (.inl hd)
        · rw [List.getElem?_append_right (by omega), hlength] at hinner
          obtain ⟨hzero, rfl⟩ : j - stretch.length = 0 ∧
              (e :: stretch).getLast (by simp) = d := by
            cases hk : j - stretch.length with
            | zero => simpa [hk] using hinner
            | succ k => simp [hk] at hinner
          obtain rfl : j = stretch.length := by omega
          refine .inr (.inr ⟨rfl, rfl, ?_⟩)
          rw [List.getElem?_cons_succ, List.getLast_eq_getElem]
          simp

/-- A stretch that starts with another character does not show the backtick behind the text it is
read in: it would end a literal, and no literal of backticks starts there. -/
theorem getElem?_render_ne {kind : LexemeKind} {before x : Text} {c : Char} {k : Nat} (hc : c ≠ '`')
    (hfirst : firstAt rules before (c :: (x ++ ['`', 'a', '`'])) = some (kind, k + 1)) :
    (View.render .codeOnly kind ((c :: (x ++ ['`', 'a', '`'])).take (k + 1)))[(c :: x).length]? ≠
      some '`' := by
  intro hshown
  rcases getElem?_render (by simp) hshown with h | h | ⟨rfl, hend, hsame⟩
  · exact absurd h (by decide)
  · exact absurd h (by decide)
  · have hlast := getElem?_of_literal hfirst
    have hk : k = (c :: x).length := by
      simp only [List.length_take, List.length_cons, List.length_append, List.length_nil] at hend ⊢
      omega
    rw [List.getElem?_take_of_lt (by omega), ← hk, hlast] at hsame
    exact hc (Option.some.inj hsame)

/-- Read as code, a text without backticks does not leave what is behind it as it would be by
itself. -/
theorem drop_view_ne {x : Text} (before : Text) (hx : '`' ∉ x) :
    (viewFrom rules .codeOnly before 0 (x ++ ['`', 'a', '`'])).drop x.length ≠ ['`', 'a', '`'] := by
  induction hn : x.length using Nat.strongRecOn generalizing x before with
  | ind n ih =>
    subst hn
    cases x with
    | nil =>
      rw [viewFrom_before .codeOnly before [] 0]
      decide
    | cons c x =>
      obtain ⟨hc, hrest⟩ : c ≠ '`' ∧ '`' ∉ x := by simpa [eq_comm] using hx
      rw [List.cons_append, viewFrom]
      split
      · next kind k hfirst =>
        have hshown := getElem?_render_ne hc hfirst
        obtain ⟨stretch, hstretch⟩ : ∃ s, s = (c :: (x ++ ['`', 'a', '`'])).take (k + 1) := ⟨_, rfl⟩
        have hlength : stretch.length = min (k + 1) (x.length + 4) := by simp [hstretch]
        have hrender : (View.render .codeOnly kind stretch).length = stretch.length :=
          (render_shows .codeOnly kind stretch).length_eq.symm
        rw [← hstretch] at hshown ⊢
        by_cases hk : k ≤ x.length
        · -- the stretch ends in the text, and the rest of it is read as code again
          have hcut : (x ++ ['`', 'a', '`']).drop k = x.drop k ++ ['`', 'a', '`'] :=
            List.drop_append_of_le_length hk
          have hleft : x.length - k = (x.drop k).length := List.length_drop.symm
          rw [viewFrom_drop, hcut, List.length_cons, List.drop_append,
            List.drop_of_length_le (by omega), List.nil_append, hrender,
            show stretch.length = k + 1 by omega, Nat.add_sub_add_right, hleft]
          refine ih (x.drop k).length ?_ _ (fun hmem => hrest (List.mem_of_mem_drop hmem)) rfl
          simp only [List.length_drop, List.length_cons]
          omega
        · -- the stretch holds the backtick behind the text
          intro heq
          have hzero := congrArg (fun t : Text => t[0]?) heq
          simp only [List.getElem?_drop, Nat.add_zero] at hzero
          rw [List.getElem?_append_left (by rw [List.length_cons]; omega)] at hzero
          exact hshown hzero
      · exact ih x.length (Nat.lt_succ_self _) (c :: before) hrest rfl

/-- At a backtick only its own rule can apply. -/
theorem firstAt_backtick (before t : Text) : firstAt rules before ('`' :: t) =
    (bodyExtent '`' true t).map fun n => (.literal, n + 1) := by
  have hextent : (Lexeme.quoted '`' true).extent before ('`' :: t) =
      (bodyExtent '`' true t).map (· + 1) := rfl
  rw [firstAt_rules before t (by decide)]
  cases h : bodyExtent '`' true t with
  | some n =>
    rw [h] at hextent
    exact firstAt_cons_some hextent
  | none =>
    rw [h] at hextent
    rw [firstAt_cons_none hextent,
      firstAt_cons_none (quotedExtent_eq_none false t (by decide : '`' ≠ '"')),
      firstAt_cons_none (quotedExtent_eq_none false t (by decide : '`' ≠ '\''))]
    rfl

/-- Without pairs there is something that is misread if it follows the literal. -/
theorem view_unpaired_ne (hpaired : isPaired body = false) (hbody : '`' ∉ body) :
    mask rules ('`' :: (body ++ ['`', 'a', '`'])) ≠ '`' :: (body.blank ++ ['`', 'a', '`']) := by
  intro heq
  have hblank : body.blank.length = body.length := List.length_map _
  have hfirst := firstAt_backtick [] (body ++ ['`', 'a', '`'])
  rcases bodyExtent_unpaired hpaired hbody with hextent | hextent
  · -- the backtick stands for itself, and the body is read as code
    rw [hextent, Option.map_none] at hfirst
    rw [mask, viewFrom_code .codeOnly hfirst, List.cons.injEq] at heq
    have hdrop := congrArg (List.drop body.length) heq.2
    rw [← hblank, List.drop_left, hblank] at hdrop
    exact drop_view_ne ['`'] hbody hdrop
  · -- the literal goes on to the last backtick
    have hall : firstAt rules [] ('`' :: (body ++ ['`', 'a', '`']) ++ []) =
        some (.literal, ('`' :: (body ++ ['`', 'a', '`'])).length) := by
      rw [List.append_nil, hfirst, hextent]
      simp
    have hview := viewFrom_stretch .codeOnly (List.cons_ne_nil _ _) hall
    have hquote : '`' :: (body ++ ['`', 'a', '`']) = '`' :: (body ++ ['`', 'a'] ++ ['`']) := by simp
    rw [List.append_nil] at hview
    rw [mask, hview, hquote] at heq
    have hshown := (congrArg (· ++ []) (maskLiteral_text .back (body ++ ['`', 'a']))).symm.trans heq
    have hmiddle : (body ++ ['`', 'a']).blank ++ ['`'] = body.blank ++ ['`', 'a', '`'] := by
      simpa [Quote.mark] using hshown
    simp [Text.blank] at hmiddle

/-! ## Raw literals -/

/-- A raw literal behind code is masked as one, and what follows it by itself, whatever that is,
exactly if the backslashes of its body have partners. -/
theorem mask_raw_iff {lead : Text} (hlead : ∀ c ∈ lead, c ∉ ['\'', '"', '`', '/'])
    (hbody : '`' ∉ body) :
    (∀ rest, mask Language.go.lexemes (lead ++ '`' :: (body ++ '`' :: rest)) =
      lead ++ '`' :: (body.blank ++ '`' :: mask Language.go.lexemes rest)) ↔
      isPaired body = true := by
  have hcut : ∀ t, mask rules (lead ++ t) = lead ++ mask rules t := by
    intro t
    rw [mask, viewFrom_bare .codeOnly [] t hlead, viewFrom_before .codeOnly _ [] 0]
    rfl
  rw [lexemes_go]
  constructor
  · intro h
    by_contra hpaired
    have hone := h ['a', '`']
    have hafter : mask rules ['a', '`'] = ['a', '`'] := by decide
    rw [hcut, List.append_cancel_left_eq, hafter] at hone
    exact view_unpaired_ne (Bool.eq_false_iff.mpr hpaired) hbody hone
  · intro hpaired rest
    rw [hcut]
    exact congrArg (lead ++ ·) (viewFrom_paired hpaired hbody [] rest)

/-- A pattern with a backslash, a newline, and the marks of comments, of blocks and of other
literals. -/
theorem mask_raw_iff_pattern :
    let lead : Text := "re := ".toList
    let body : Text := "^\\d+/*\n\"\x7b".toList
    (∀ c ∈ lead, c ∉ ['\'', '"', '`', '/']) ∧ '`' ∉ body ∧
      lead ++ '`' :: (body ++ '`' :: "; if x // y".toList) =
        "re := `^\\d+/*\n\"\x7b`; if x // y".toList ∧
      mask Language.go.lexemes "re := `^\\d+/*\n\"\x7b`; if x // y".toList =
        "re := `      \n  `; if x     ".toList := by
  have hlead : ∀ c ∈ "re := ".toList, c ∉ ['\'', '"', '`', '/'] := by simp
  have hbody : '`' ∉ "^\\d+/*\n\"\x7b".toList := by decide
  have hraw := (mask_raw_iff hlead hbody).mpr (by decide) "; if x // y".toList
  exact ⟨hlead, hbody, by decide, hraw.trans (by decide +kernel)⟩

/-- A path that ends with a backslash. The literal goes on to the next backtick, the code between
the two is lost, and the body of the second literal shows. -/
theorem mask_path :
    let lead : Text := "p := ".toList
    let body : Text := "C:\\".toList
    let rest : Text := "; q := `D`".toList
    mask Language.go.lexemes (lead ++ '`' :: (body ++ '`' :: rest)) =
        "p := `           `D`".toList ∧
      lead ++ '`' :: (body.blank ++ '`' :: mask Language.go.lexemes rest) =
        "p := `   `; q := ` `".toList := by
  decide +kernel

end RawLiteral
end SourceAudit
