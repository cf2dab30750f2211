import SourceAudit.Language.JavaScript
import SourceAudit.Proofs.Source.PreparedLines

/-!
  Texts that are cut into segments: code, comments and literals.

  The rules of a language see characters. A writer sees segments, and each of them
  says how it shows in the two views (`Segment.masked`, `Segment.uncommented`).
  What is proved:
    1. `firstAt_text` — at the start of a comment or a literal the first rule that
       applies takes exactly that segment, whatever it holds; `firstAt_code` — at a
       character of code no rule applies.
    2. `viewFrom_segments` — so a view shows a text segment by segment: behind each
       of them the search is at the start of the next.
    3. `views_of_segments` — the two views of any text of segments, with the rules of
       JavaScript.

  A line comment reaches up to a newline or the end of the text. Where the segment
  behind it starts with anything else, the comment would go on (`linesEnd`).
-/
namespace SourceAudit

/-! ## Segments -/

/-- The quotes of literals. -/
inductive Quote where
  | single
  | double
  | back
  deriving DecidableEq, Repr

namespace Quote

/-- The character of a quote. -/
def mark : Quote → Char
  | single => '\''
  | double => '"'
  | back => '`'

/-- Whether a literal between such quotes may hold newlines. -/
def severalLines : Quote → Bool
  | single | double => false
  | back => true

theorem mark_ne_backslash (q : Quote) : q.mark ≠ '\\' := by cases q <;> decide

end Quote

/-- What the body of a literal is made of: characters that stand for themselves, and pairs of a
backslash and the character behind it. -/
inductive LiteralItem where
  | plain (c : Char)
  | escaped (c : Char)
  deriving DecidableEq, Repr

namespace LiteralItem

/-- An item as a text. -/
def text : LiteralItem → Text
  | plain c => [c]
  | escaped c => ['\\', c]

/-- Whether an item may stand between quotes: no quote or backslash by itself, no newline by itself
on a literal of one line, and no backslash before a newline. -/
def fits (q : Quote) : LiteralItem → Bool
  | plain c => c != q.mark && c != '\\' && (q.severalLines || c != '\n')
  | escaped c => c != '\n'

end LiteralItem

/-- A segment of a text. Code holds neither quotes nor slashes, a line comment no newline, and a
block comment no closing mark before its own. -/
inductive Segment where
  | code (t : Text) (bare : ∀ c ∈ t, c ∉ ['\'', '"', '`', '/'])
  | lineComment (body : Text) (oneLine : '\n' ∉ body)
  | blockComment (body : Text) (unclosed : ¬ ['*', '/'] <:+: body)
  | literal (q : Quote) (items : List LiteralItem) (fit : ∀ i ∈ items, i.fits q = true)

namespace Segment

/-- The body of a literal as a text. -/
def bodyText (items : List LiteralItem) : Text := items.flatMap LiteralItem.text

/-- A segment as a text. -/
def text : Segment → Text
  | code t _ => t
  | lineComment body _ => '/' :: '/' :: body
  | blockComment body _ => '/' :: '*' :: (body ++ ['*', '/'])
  | literal q items _ => q.mark :: (bodyText items ++ [q.mark])

/-- A segment with comments blank, and with literals reduced to their quotes. -/
def masked : Segment → Text
  | code t _ => t
  | lineComment body h => (lineComment body h).text.blank
  | blockComment body h => (blockComment body h).text.blank
  | literal q items _ => q.mark :: ((bodyText items).blank ++ [q.mark])

/-- A segment with comments blank. -/
def uncommented : Segment → Text
  | code t _ => t
  | lineComment body h => (lineComment body h).text.blank
  | blockComment body h => (blockComment body h).text.blank
  | literal q items h => (literal q items h).text

/-- Segments one behind the other as a text. -/
def textOf (segments : List Segment) : Text := segments.flatMap text

/-- Whether behind each line comment the text ends or a newline stands. -/
def linesEnd : List Segment → Bool
  | [] => true
  | lineComment _ _ :: rest => (textOf rest).head?.all (· == '\n') && linesEnd rest
  | _ :: rest => linesEnd rest

/-- How a segment shows in a view. -/
def shown : View → Segment → Text
  | .codeOnly => masked
  | .uncommented => uncommented

/-- The kind of a segment that is not code. -/
def kind? : Segment → Option LexemeKind
  | code _ _ => none
  | lineComment _ _ | blockComment _ _ => some .comment
  | literal _ _ _ => some .literal

/-! ## How far a rule reaches -/

open Lexeme

/-- A line comment reaches to the end of its line. -/
theorem lineExtent_comment {body rest : Text} (hbody : '\n' ∉ body)
    (hrest : rest.head?.all (· == '\n') = true) :
    lineExtent "//".toList ('/' :: '/' :: body ++ rest) = some (body.length + 2) := by
  have hstop : rest.takeWhile (· != '\n') = [] := by
    cases rest with
    | nil => rfl
    | cons c rest =>
      obtain rfl : c = '\n' := by simpa using hrest
      rfl
  have hgo : (body ++ rest).takeWhile (· != '\n') = body := by
    rw [List.takeWhile_append_of_pos, hstop, List.append_nil]
    intro c hc
    exact bne_iff_ne.mpr fun h => hbody (h ▸ hc)
  have hopen : "//".toList.isPrefixOf ('/' :: '/' :: body ++ rest) = true := rfl
  have hdrop : ('/' :: '/' :: body ++ rest).drop "//".toList.length = body ++ rest := rfl
  rw [lineExtent, if_pos hopen, hdrop, hgo, Nat.add_comm]
  rfl

/-- The first closing mark behind a body that holds none is the one that follows it. -/
theorem closeExtent_body {body : Text} (rest : Text) (h : ¬ ['*', '/'] <:+: body) :
    closeExtent "*/".toList (body ++ '*' :: '/' :: rest) = some (body.length + 2) := by
  induction body with
  | nil => rfl
  | cons c body ih =>
    have hbody : ¬ ['*', '/'] <:+: body := fun hin => h (hin.trans (List.suffix_cons c body).isInfix)
    -- a closing mark here would start in the body, and end in it or in the mark behind it
    have hhere : "*/".toList.isPrefixOf (c :: (body ++ '*' :: '/' :: rest)) = false := by
      rw [Bool.eq_false_iff]
      intro hstart
      obtain ⟨rfl, hnext⟩ : '*' = c ∧ ['/'].isPrefixOf (body ++ '*' :: '/' :: rest) = true := by
        simpa [List.isPrefixOf] using hstart
      cases body with
      | nil => simp [List.isPrefixOf] at hnext
      | cons d body =>
        obtain rfl : '/' = d := by simpa [List.isPrefixOf] using hnext
        exact h ⟨[], body, rfl⟩
    rw [List.cons_append, closeExtent, hhere, ih hbody]
    rfl

/-- A block comment reaches to its closing mark. -/
theorem blockExtent_comment {body : Text} (rest : Text) (h : ¬ ['*', '/'] <:+: body) :
    blockExtent "/*".toList "*/".toList ('/' :: '*' :: (body ++ ['*', '/']) ++ rest) =
      some (body.length + 4) := by
  have hopen : "/*".toList.isPrefixOf ('/' :: '*' :: (body ++ ['*', '/']) ++ rest) = true := rfl
  have hdrop : ('/' :: '*' :: (body ++ ['*', '/']) ++ rest).drop "/*".toList.length =
      body ++ '*' :: '/' :: rest := by
    simp
  rw [blockExtent, if_pos hopen, hdrop, closeExtent_body rest h, Option.map_some]
  congr 1
  exact Nat.add_comm 2 (body.length + 2)

/-- A character of a body is passed, unless it is a backslash, the quote, or a newline where none
may stand. -/
theorem bodyExtent_plain {q : Quote} {c d : Char} {rest : Text}
    (h : (LiteralItem.plain c).fits q = true) :
    bodyExtent q.mark q.severalLines (c :: d :: rest) =
      (bodyExtent q.mark q.severalLines (d :: rest)).map (· + 1) := by
  simp only [LiteralItem.fits, Bool.and_eq_true, Bool.or_eq_true, bne_iff_ne] at h
  obtain ⟨⟨hmark, hslash⟩, hline⟩ := h
  have hnewline : (c == '\n' && !q.severalLines) = false := by
    rcases hline with h | h
    · rw [h, Bool.not_true, Bool.and_false]
    · rw [beq_false_of_ne h, Bool.false_and]
  rw [bodyExtent, if_neg (by simpa using hslash), if_neg (by simpa using hmark), hnewline]
  rfl

/-- A backslash and the character behind it are passed together. -/
theorem bodyExtent_escaped {q : Quote} {c : Char} {rest : Text}
    (h : (LiteralItem.escaped c).fits q = true) :
    bodyExtent q.mark q.severalLines ('\\' :: c :: rest) =
      (bodyExtent q.mark q.severalLines rest).map (· + 2) := by
  have hc : c ≠ '\n' := bne_iff_ne.mp h
  rw [bodyExtent, if_pos (beq_self_eq_true '\\'), if_neg (by simpa using hc)]

/-- The body of a literal reaches to the quote behind its items. -/
theorem bodyExtent_items {q : Quote} {items : List LiteralItem} (rest : Text)
    (h : ∀ i ∈ items, i.fits q = true) :
    bodyExtent q.mark q.severalLines (bodyText items ++ q.mark :: rest) =
      some ((bodyText items).length + 1) := by
  induction items with
  | nil =>
    cases rest with
    | nil => simp [bodyText, bodyExtent]
    | cons d rest => simp [bodyText, bodyExtent, q.mark_ne_backslash]
  | cons item items ih =>
    obtain ⟨hitem, hitems⟩ := List.forall_mem_cons.mp h
    have hrest := ih hitems
    have hbody : bodyText (item :: items) = item.text ++ bodyText items := rfl
    rw [hbody, List.append_assoc]
    cases item with
    | plain c =>
      -- at least the closing quote follows
      obtain ⟨d, behind, hd⟩ : ∃ d behind, bodyText items ++ q.mark :: rest = d :: behind := by
        cases bodyText items with
        | nil => exact ⟨_, _, rfl⟩
        | cons d body => exact ⟨_, _, rfl⟩
      rw [hd] at hrest ⊢
      rw [LiteralItem.text, List.singleton_append, bodyExtent_plain hitem, hrest]
      simp
    | escaped c =>
      rw [LiteralItem.text, List.cons_append, List.singleton_append, bodyExtent_escaped hitem,
        hrest]
      simp

/-- A literal reaches to its closing quote. -/
theorem quotedExtent_literal {q : Quote} {items : List LiteralItem} (rest : Text)
    (h : ∀ i ∈ items, i.fits q = true) :
    quotedExtent q.mark q.severalLines (q.mark :: (bodyText items ++ [q.mark]) ++ rest) =
      some ((bodyText items).length + 2) := by
  have hsplit : q.mark :: (bodyText items ++ [q.mark]) ++ rest =
      q.mark :: (bodyText items ++ q.mark :: rest) := by
    simp
  rw [hsplit, quotedExtent, if_pos (beq_self_eq_true _), bodyExtent_items rest h]
  rfl

/-! ## Which rule applies -/

theorem lineExtent_eq_none {c : Char} (t : Text) (h : c ≠ '/') :
    lineExtent "//".toList (c :: t) = none := by
  have hopen : ¬ ['/', '/'].isPrefixOf (c :: t) = true := by simp [List.isPrefixOf, h.symm]
  exact if_neg hopen

theorem blockExtent_eq_none {c : Char} (t : Text) (h : c ≠ '/') :
    blockExtent "/*".toList "*/".toList (c :: t) = none := by
  have hopen : ¬ ['/', '*'].isPrefixOf (c :: t) = true := by simp [List.isPrefixOf, h.symm]
  exact if_neg hopen

theorem quotedExtent_eq_none {quote c : Char} (severalLines : Bool) (t : Text) (h : c ≠ quote) :
    quotedExtent quote severalLines (c :: t) = none := by
  rw [quotedExtent, if_neg (by simpa using h)]

theorem firstAt_cons_some {rule : Lexeme} {rules : List Lexeme} {before t : Text} {n : Nat}
    (h : rule.extent before t = some n) : firstAt (rule :: rules) before t = some (rule.kind, n) := by
  rw [firstAt, List.findSome?_cons, h, Option.map_some]

theorem firstAt_cons_none {rule : Lexeme} {rules : List Lexeme} {before t : Text}
    (h : rule.extent before t = none) :
    firstAt (rule :: rules) before t = firstAt rules before t := by
  rw [firstAt, List.findSome?_cons, h, Option.map_none, firstAt]

/-- The rules of JavaScript: comments come first. -/
def rules : List Lexeme :=
  [.lineComment "//", .blockComment "/*" "*/", .quoted '`' true, .quoted '"' false,
    .quoted '\'' false]

theorem lexemes_javaScript : Language.javaScript.lexemes = rules := rfl

/-- Without a slash at the head, only the rules of literals are left. -/
theorem firstAt_rules {c : Char} (before t : Text) (h : c ≠ '/') :
    firstAt rules before (c :: t) =
      firstAt [.quoted '`' true, .quoted '"' false, .quoted '\'' false] before (c :: t) := by
  rw [rules, firstAt_cons_none (lineExtent_eq_none t h), firstAt_cons_none (blockExtent_eq_none t h)]

theorem firstAt_code {c : Char} (before rest : Text) (h : c ∉ ['\'', '"', '`', '/']) :
    firstAt rules before (c :: rest) = none := by
  simp only [List.mem_cons, List.not_mem_nil, or_false, not_or] at h
  obtain ⟨hsingle, hdouble, hback, hslash⟩ := h
  rw [firstAt_rules before rest hslash, firstAt_cons_none (quotedExtent_eq_none true rest hback),
    firstAt_cons_none (quotedExtent_eq_none false rest hdouble),
    firstAt_cons_none (quotedExtent_eq_none false rest hsingle)]
  rfl

theorem firstAt_literal {q : Quote} {items : List LiteralItem} (before rest : Text)
    (h : ∀ i ∈ items, i.fits q = true) :
    firstAt rules before ((literal q items h).text ++ rest) =
      some (.literal, (literal q items h).text.length) := by
  have hextent := quotedExtent_literal rest h
  have hlength : (literal q items h).text.length = (bodyText items).length + 2 := by
    simp [text]
  have hslash : q.mark ≠ '/' := by cases q <;> decide
  rw [hlength, text, List.cons_append, firstAt_rules before _ hslash]
  cases q with
  | back =>
    rw [firstAt_cons_some hextent]
    rfl
  | double =>
    have hback := quotedExtent_eq_none true (bodyText items ++ ['"'] ++ rest)
      (show '"' ≠ '`' by decide)
    rw [Quote.mark, firstAt_cons_none hback, firstAt_cons_some hextent]
    rfl
  | single =>
    have hback := quotedExtent_eq_none true (bodyText items ++ ['\''] ++ rest)
      (show '\'' ≠ '`' by decide)
    have hdouble := quotedExtent_eq_none false (bodyText items ++ ['\''] ++ rest)
      (show '\'' ≠ '"' by decide)
    rw [Quote.mark, firstAt_cons_none hback, firstAt_cons_none hdouble, firstAt_cons_some hextent]
    rfl

theorem firstAt_lineComment {body rest : Text} (before : Text) (h : '\n' ∉ body)
    (hrest : rest.head?.all (· == '\n') = true) :
    firstAt rules before ((lineComment body h).text ++ rest) =
      some (.comment, (lineComment body h).text.length) := by
  rw [rules, text, firstAt_cons_some (lineExtent_comment h hrest)]
  rfl

theorem firstAt_blockComment {body : Text} (before rest : Text) (h : ¬ ['*', '/'] <:+: body) :
    firstAt rules before ((blockComment body h).text ++ rest) =
      some (.comment, (blockComment body h).text.length) := by
  have hline : lineExtent "//".toList ((blockComment body h).text ++ rest) = none := rfl
  have hlength : (blockComment body h).text.length = body.length + 4 := by simp [text]
  rw [hlength, rules, firstAt_cons_none hline, text, firstAt_cons_some (blockExtent_comment rest h)]
  rfl

/-! ## The views of segments -/

theorem text_ne_nil {s : Segment} {kind : LexemeKind} (h : s.kind? = some kind) : s.text ≠ [] := by
  cases s with
  | code t bare => simp [kind?] at h
  | lineComment body _ | blockComment body _ | literal q items _ => simp [text]

/-- A literal shows its quotes around a blank body. -/
theorem maskLiteral_text (q : Quote) (body : Text) :
    maskLiteral (q.mark :: (body ++ [q.mark])) = q.mark :: (body.blank ++ [q.mark]) := by
  cases body with
  | nil => rfl
  | cons c body =>
    have hinit : (c :: (body ++ [q.mark])).dropLast = c :: body := by
      rw [← List.cons_append, List.dropLast_concat]
    simp only [List.cons_append, maskLiteral, hinit]
    simp

/-- A comment or a literal shows as the view has it. -/
theorem render_text {s : Segment} {kind : LexemeKind} (view : View) (h : s.kind? = some kind) :
    view.render kind s.text = s.shown view := by
  cases s with
  | code t bare => simp [kind?] at h
  | lineComment body _ | blockComment body _ =>
    obtain rfl : LexemeKind.comment = kind := by simpa [kind?] using h
    cases view <;> rfl
  | literal q items _ =>
    obtain rfl : LexemeKind.literal = kind := by simpa [kind?] using h
    cases view with
    | uncommented => rfl
    | codeOnly => exact maskLiteral_text q (bodyText items)

/-- Code shows as it is, character by character. -/
theorem viewFrom_bare {t : Text} (view : View) (before rest : Text)
    (h : ∀ c ∈ t, c ∉ ['\'', '"', '`', '/']) :
    viewFrom rules view before 0 (t ++ rest) =
      t ++ viewFrom rules view (t.reverse ++ before) 0 rest := by
  induction t generalizing before with
  | nil => rfl
  | cons c t ih =>
    obtain ⟨hc, ht⟩ := List.forall_mem_cons.mp h
    rw [List.cons_append, viewFrom_code view (firstAt_code before (t ++ rest) hc), ih _ ht]
    simp

/-- A view shows a segment as the view has it, and goes on behind it. -/
theorem viewFrom_segment (view : View) (before : Text) {s : Segment} {rest : List Segment}
    (h : linesEnd (s :: rest) = true) :
    viewFrom rules view before 0 (s.text ++ textOf rest) =
      s.shown view ++ viewFrom rules view (s.text.reverse ++ before) 0 (textOf rest) := by
  cases s with
  | code t bare =>
    rw [text, viewFrom_bare view before _ bare]
    cases view <;> rfl
  | lineComment body oneLine =>
    have hrest : (textOf rest).head?.all (· == '\n') = true := (Bool.and_eq_true_iff.mp h).1
    have hfirst := firstAt_lineComment before oneLine hrest
    rw [viewFrom_stretch view (text_ne_nil rfl) hfirst, render_text view rfl]
  | blockComment body unclosed =>
    have hfirst := firstAt_blockComment before (textOf rest) unclosed
    rw [viewFrom_stretch view (text_ne_nil rfl) hfirst, render_text view rfl]
  | literal q items fit =>
    have hfirst := firstAt_literal before (textOf rest) fit
    rw [viewFrom_stretch view (text_ne_nil rfl) hfirst, render_text view rfl]

theorem linesEnd_tail {s : Segment} {rest : List Segment} (h : linesEnd (s :: rest) = true) :
    linesEnd rest = true := by
  cases s with
  | lineComment body _ => exact (Bool.and_eq_true_iff.mp h).2
  | code t _ | blockComment body _ | literal q items _ => exact h

/-- A view shows a text segment by segment. -/
theorem viewFrom_segments (view : View) (before : Text) {segments : List Segment}
    (h : linesEnd segments = true) :
    viewFrom rules view before 0 (textOf segments) = segments.flatMap (shown view) := by
  induction segments generalizing before with
  | nil => rfl
  | cons s rest ih =>
    have hcut : textOf (s :: rest) = s.text ++ textOf rest := rfl
    rw [hcut, viewFrom_segment view before h, ih _ (linesEnd_tail h), List.flatMap_cons]

/-- A text of any number of segments in JavaScript. Its masked view is the segments one behind
the other with comments blank and literals reduced to their quotes, and its view without comments
the same with literals as they are: nothing within a comment or a literal starts another one. -/
theorem views_of_segments (segments : List Segment) (h : linesEnd segments = true) :
    mask Language.javaScript.lexemes (textOf segments) = segments.flatMap masked ∧
      stripComments Language.javaScript.lexemes (textOf segments) =
        segments.flatMap uncommented := by
  rw [mask, stripComments, lexemes_javaScript]
  exact ⟨viewFrom_segments .codeOnly [] h, viewFrom_segments .uncommented [] h⟩

/-- Comments and literals of all kinds, each with the marks of others in it. -/
def crossed : List Segment :=
  [.code "u = ".toList (by simp),
    .literal .double ("http://x".toList.map .plain ++ [.escaped '"']) (by decide +kernel),
    .code "; ".toList (by simp),
    .blockComment " it's **".toList (by decide +kernel),
    .code " + ".toList (by simp),
    .literal .back ("/*\n\"".toList.map .plain) (by decide +kernel),
    .code " ".toList (by simp),
    .lineComment " don't".toList (by decide +kernel),
    .code "\nf(".toList (by simp),
    .literal .single [.escaped '\'', .escaped '\\'] (by decide +kernel),
    .code ")".toList (by simp),
    .lineComment [] (by decide +kernel)]

/-- None of these marks starts anything. -/
theorem views_of_crossed :
    linesEnd crossed = true ∧
      let t := "u = \"http://x\\\"\"; /* it's ***/ + `/*\n\"` // don't\nf('\\'\\\\')//".toList
      textOf crossed = t ∧
      mask Language.javaScript.lexemes t =
        "u = \"          \";              + `  \n `         \nf('    ')  ".toList ∧
      stripComments Language.javaScript.lexemes t =
        "u = \"http://x\\\"\";              + `/*\n\"`         \nf('\\'\\\\')  ".toList := by
  have hend : linesEnd crossed = true := by decide
  have htext : textOf crossed =
      "u = \"http://x\\\"\"; /* it's ***/ + `/*\n\"` // don't\nf('\\'\\\\')//".toList := by
    decide +kernel
  obtain ⟨hmask, hstrip⟩ := views_of_segments crossed hend
  rw [htext] at hmask hstrip
  exact ⟨hend, htext, hmask.trans (by decide +kernel), hstrip.trans (by decide +kernel)⟩

end Segment
end SourceAudit
