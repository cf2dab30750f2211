import SourceAudit.Language.Registry
import SourceAudit.Proofs.Complexity.LoopGrowth

/-!
  The depth of loops in programs that put the heads of loops in parentheses.

  A program (`Code`) is a list of statements, blocks and loops, with the blanks
  between its words. `Code.text` writes it down, and `Code.depth` is how deep its
  loops are nested. What is proved:
    1. `all_text_append` — the tokens of a program that is written down, whatever
       stands behind it.
    2. `foldl_tokens` — the steps over a part of a program, from any settled place,
       note its depth and nothing else.
    3. `depth_of_braced` — the depth of the loops of a source whose masked text is a
       program is that of the program, and decides the growth of its time if
       nothing else bears on it.
-/
namespace SourceAudit.Braced

/-- The languages with such loops. -/
def languages : List Language :=
  [Language.c, Language.cPlusPlus, Language.java, Language.javaScript, Language.typeScript]

/-- Their loop words. -/
def loopWords : List Text := ["for", "while", "do"].map String.toList

/-- The words of loops with a head before the body. -/
inductive LoopWord where
  | for_
  | while_

/-- How a word is written. -/
def LoopWord.text : LoopWord → Text
  | for_ => "for".toList
  | while_ => "while".toList

theorem LoopWord.isLoop_text (w : LoopWord) :
    w.text.all Unicode.isWord = true ∧ w.text ≠ [] ∧ loopWords.contains w.text = true := by
  cases w <;> decide

/-- A word's head in parentheses, with the blanks around the word. -/
structure Head where
  before : Gap
  between : Gap
  inside : Text
  quiet : LoopToken.Quiet loopWords inside
  noBraces : '\x7b' ∉ inside ∧ '\x7d' ∉ inside
  balanced : LoopDepth.State.Balanced inside

/-- A word with its head. -/
def Head.text (h : Head) (word : Text) : Text :=
  h.before.text ++ (word ++ (h.between.text ++ '(' :: (h.inside ++ [')'])))

/-- The parts of a program. -/
inductive Part where
  | list
  | statement
  | body
  | block

/-- The programs, part by part. A statement is the body of a loop, unless it has an alternative. -/
inductive Code : Part → Type where
  | done (g : Gap) : Code .list
  | cons (first : Code .statement) (rest : Code .list) : Code .list
  | ofBody (b : Code .body) : Code .statement
  | choice (h : Head) (yes : Code .block) (g : Gap) (no : Code .block) : Code .statement
  | plain (p : Plain loopWords) : Code .body
  | ofBlock (b : Code .block) : Code .body
  | branch (h : Head) (yes : Code .block) : Code .body
  | loop (w : LoopWord) (h : Head) (b : Code .body) : Code .body
  | doLoop (g : Gap) (b : Code .block) (h : Head) (g' : Gap) : Code .body
  | braces (g : Gap) (inner : Code .list) : Code .block

namespace Code
variable {part : Part}

/-- A part of a program as it is written. -/
def text : {part : Part} → Code part → Text
  | _, done g => g.text
  | _, cons first rest => first.text ++ rest.text
  | _, ofBody b => b.text
  | _, choice h yes g no =>
    h.text "if".toList ++ (yes.text ++ (g.text ++ ("else".toList ++ no.text)))
  | _, plain p => p.text ++ [';']
  | _, ofBlock b => b.text
  | _, branch h yes => h.text "if".toList ++ yes.text
  | _, loop w h b => h.text w.text ++ b.text
  | _, doLoop g b h g' =>
    g.text ++ ("do".toList ++ (b.text ++ (h.text "while".toList ++ (g'.text ++ [';']))))
  | _, braces g inner => g.text ++ '\x7b' :: (inner.text ++ ['\x7d'])

/-- How deep the loops of a part are nested. -/
def depth : {part : Part} → Code part → Nat
  | _, done _ => 0
  | _, cons first rest => max first.depth rest.depth
  | _, ofBody b => b.depth
  | _, choice _ yes _ no => max yes.depth no.depth
  | _, plain _ => 0
  | _, ofBlock b => b.depth
  | _, branch _ yes => yes.depth
  | _, loop _ _ b => b.depth + 1
  | _, doLoop _ b _ _ => b.depth + 1
  | _, braces _ inner => inner.depth

end Code

/-! ## The tokens of a program -/

open LoopToken

/-- The tokens of a head, without its word. -/
def Head.tokens (h : Head) : List LoopToken :=
  .parenOpen :: (h.inside.filterMap ofMark? ++ [.parenClose])

/-- The tokens of a part. -/
def Code.tokens : {part : Part} → Code part → List LoopToken
  | _, done _ => []
  | _, cons first rest => first.tokens ++ rest.tokens
  | _, ofBody b => b.tokens
  | _, choice h yes _ no => h.tokens ++ (yes.tokens ++ no.tokens)
  | _, plain _ => [.semicolon]
  | _, ofBlock b => b.tokens
  | _, branch h yes => h.tokens ++ yes.tokens
  | _, loop _ h b => .loop :: (h.tokens ++ b.tokens)
  | _, doLoop _ b h _ => .loop :: (b.tokens ++ .loop :: (h.tokens ++ [.semicolon]))
  | _, braces _ inner => .braceOpen :: (inner.tokens ++ [.braceClose])

/-- A word with its head, and whatever stands behind them. -/
theorem Head.all_text_append (h : Head) {w : Text} (hw : w.all Unicode.isWord = true)
    (hne : w ≠ []) (rest : Text) :
    all loopWords (h.text w ++ rest) =
      (if loopWords.contains w then [LoopToken.loop] else []) ++
        (h.tokens ++ all loopWords rest) := by
  have hassoc : h.text w ++ rest =
      h.before.text ++ (w ++ (h.between.text ++ '(' :: (h.inside ++ ')' :: rest))) := by
    simp [Head.text]
  -- the word ends before the blanks or the parenthesis behind it
  have hapart : Apart (h.between.text ++ '(' :: (h.inside ++ ')' :: rest)) :=
    (apart_of_isBlank h.between.blank).append (apart_cons (by decide) _)
  rw [hassoc, all_blank_append h.before.blank, all_word_append hw hne hapart,
    all_blank_append h.between.blank, all_mark rfl, all_append_mark rfl (by decide),
    all_quiet h.quiet]
  simp [Head.tokens]

namespace Code

/-- A block does not go on with a word that stands before it. -/
theorem apart_text (b : Code .block) (rest : Text) : Apart (b.text ++ rest) := by
  cases b with
  | braces g inner =>
    rw [text, List.append_assoc]
    exact (apart_of_isBlank g.blank).append (apart_cons (by decide) _)

/-- The tokens of a part that is written down, and of whatever stands behind it. -/
theorem all_text_append (c : Code part) (rest : Text) :
    all loopWords (c.text ++ rest) = c.tokens ++ all loopWords rest := by
  induction c generalizing rest with
  | done g => exact all_blank_append g.blank rest
  | cons first last ihfirst ihlast =>
    rw [text, List.append_assoc, ihfirst, ihlast, tokens, List.append_assoc]
  | ofBody b ih => exact ih rest
  | choice h yes g no ihyes ihno =>
    simp only [text, List.append_assoc]
    rw [h.all_text_append (w := "if".toList) (by decide) (by decide), ihyes,
      all_blank_append g.blank,
      all_word_append (w := "else".toList) (by decide) (by decide) (no.apart_text rest), ihno]
    simp [tokens, loopWords]
  | plain p =>
    rw [text, List.append_assoc, List.singleton_append,
      all_append_mark rfl (by decide), p.all_text]
    rfl
  | ofBlock b ih => exact ih rest
  | branch h yes ih =>
    rw [text, List.append_assoc, h.all_text_append (w := "if".toList) (by decide) (by decide), ih]
    simp [tokens, loopWords]
  | loop w h b ih =>
    obtain ⟨hw, hne, hloop⟩ := w.isLoop_text
    rw [text, List.append_assoc, h.all_text_append hw hne, ih, if_pos hloop]
    simp [tokens]
  | doLoop g b h g' ih =>
    simp only [text, List.append_assoc]
    rw [all_blank_append g.blank,
      all_word_append (w := "do".toList) (by decide) (by decide) (b.apart_text _), ih,
      h.all_text_append (w := "while".toList) (by decide) (by decide), all_blank_append g'.blank,
      List.singleton_append, all_mark rfl]
    simp [tokens, loopWords]
  | braces g inner ih =>
    simp only [text, List.append_assoc, List.cons_append]
    rw [all_blank_append g.blank, all_mark rfl, ih, List.nil_append,
      all_mark rfl]
    simp [tokens]

end Code

/-! ## The steps over a program -/

open LoopDepth LoopDepth.State

theorem Head.foldl_tokens (h : Head) {s : State} (hs : s.Settled) :
    h.tokens.foldl step s = s := by
  have hplain : h.inside.contains '\x7b' = false := by simpa using h.noBraces.1
  rw [tokens, foldl_parens h.balanced (.of_not_mem h.noBraces.1 h.noBraces.2) hs, hplain,
    if_neg Bool.false_ne_true]

/-- Whether no loop waits where a part starts. -/
def Part.IsOutside : Part → Prop
  | list | statement => True
  | body | block => False

/-- The steps over a part note its depth and nothing else. -/
theorem Code.foldl_tokens (c : Code part) {s : State} (hs : s.Settled)
    (hw : part.IsOutside → s.waiting = []) : c.tokens.foldl step s = s.after c.depth := by
  induction c generalizing s with
  | done g => exact (after_zero hs (hw trivial)).symm
  | cons first rest ihfirst ihrest =>
    rw [tokens, List.foldl_append, ihfirst hs hw, ihrest (hs.after _) fun _ => rfl,
      after_after (hw trivial), depth]
  | ofBody b ih => exact ih hs False.elim
  | choice h yes g no ihyes ihno =>
    rw [tokens, List.foldl_append, List.foldl_append, h.foldl_tokens hs, ihyes hs False.elim,
      ihno (hs.after _) False.elim, after_after (hw trivial), depth]
  | plain p => exact step_semicolon hs
  | ofBlock b ih => exact ih hs hw
  | branch h yes ih =>
    -- what waits for this body waits for the block of the branch
    rw [tokens, List.foldl_append, h.foldl_tokens hs, ih hs hw, depth]
  | loop w h b ih =>
    have hloop := step_loop_settled hs
    rw [tokens, List.foldl_cons, List.foldl_append, h.foldl_tokens hloop,
      ih hloop False.elim, after_step_loop, depth]
  | doLoop g b h g' ih =>
    have hloop := step_loop_settled hs
    have htail := step_loop_settled (hs.after (b.depth + 1))
    -- the loop word behind the block has no body: it is no deeper than the loop that it ends
    rw [tokens, List.foldl_cons, List.foldl_append, ih hloop False.elim, after_step_loop,
      List.foldl_cons, List.foldl_append, h.foldl_tokens htail, List.foldl_cons, List.foldl_nil,
      step_semicolon htail, after_step_loop, after_after_of_le s (by omega), depth]
  | braces g inner ih =>
    exact foldl_block (fun s hs hw => ih hs fun _ => hw) s

/-! ## The depth of a source -/

theorem usesBraces_of_mem {l : Language} (hl : l ∈ languages) : l.usesBraces = true := by
  simp only [languages, List.mem_cons, List.not_mem_nil, or_false] at hl
  rcases hl with rfl | rfl | rfl | rfl | rfl <;> rfl

theorem loopWords_of_mem {l : Language} (hl : l ∈ languages) :
    l.loopWords.map String.toList = loopWords := by
  simp only [languages, List.mem_cons, List.not_mem_nil, or_false] at hl
  rcases hl with rfl | rfl | rfl | rfl | rfl <;> rfl

/-- The depth of the loops of a source is that of the program which its masked text is; if nothing
but its loops bears on its time, the growth of its time is that of its depth. -/
theorem depth_of_braced {l : Language} (hl : l ∈ languages) {t : Text} (c : Code .list)
    (h : (prepare l t).masked = c.text) :
    LoopDepth.ofSource (prepare l t) = c.depth ∧
      ((prepare l t).LoopsOnly →
        (Complexity.ofSource (prepare l t)).time.growth = Growth.ofLoopDepth c.depth) := by
  have hdepth : LoopDepth.ofSource (prepare l t) = c.depth := by
    have htokens : all loopWords c.text = c.tokens := by
      have happend := c.all_text_append []
      rwa [List.append_nil, show all loopWords [] = [] from rfl, List.append_nil] at happend
    have hlanguage : (prepare l t).language = l := rfl
    rw [LoopDepth.ofSource, hlanguage, if_pos (usesBraces_of_mem hl), loopWords_of_mem hl, h,
      htokens]
    exact ofTokens_of_foldl (c.foldl_tokens settled_start fun _ => rfl)
  refine ⟨hdepth, fun honly => ?_⟩
  rw [Complexity.time_growth_of_loopsOnly (usesBraces_of_mem hl) honly, hdepth]

/-- A loop with a loop for its body, and a loop in the block of that one. -/
def threeLoops : Code .list :=
  let head (t : Text) (hquiet : LoopToken.Quiet loopWords t)
      (hmarks : ('\x7b' ∉ t ∧ '\x7d' ∉ t) ∧ Balanced t) : Head :=
    ⟨.none, .none, t, hquiet, hmarks.1, hmarks.2⟩
  let name := head "i".toList (.of_not_occurs (by decide) (by decide)) (by decide)
  let clauses := head "j;f(k);".toList (.of_not_occurs (by decide) (by decide)) (by decide)
  let act : Plain loopWords :=
    ⟨"x".toList, .of_not_occurs (by decide) (by decide), by decide, by decide, by decide⟩
  let innermost : Code .statement := .ofBody (.loop .for_ clauses (.plain act))
  let middle : Code .body :=
    .doLoop .none (.braces .none (.cons innermost (.done .none))) name .none
  .cons (.ofBody (.loop .while_ name middle)) (.done .none)

theorem depth_of_threeLoops :
    let t := "while(i)do\x7bfor(j;f(k);)x;\x7dwhile(i);".toList
    LoopDepth.ofSource (prepare Language.c t) = 3 ∧
      (Complexity.ofSource (prepare Language.c t)).time.growth = .cubic := by
  intro t
  have h := depth_of_braced (l := Language.c) (t := t) (by simp [languages]) threeLoops
    (by decide +kernel)
  exact ⟨h.1, h.2 ⟨by decide +kernel, by decide +kernel⟩⟩

end SourceAudit.Braced
