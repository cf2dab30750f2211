import SourceAudit.Proofs.Complexity.BracedLoops

/-!
  The depth of loops in programs whose loops have any heads that are in balance.

  In a program (`Code`) a loop has its head in parentheses and a block for its body,
  and between the loops and the blocks stand passages without loops. It is a program
  over the heads: `Code.map` changes them, and `Code.shape` forgets them. A brace in a
  head takes what waits for the block, so such a loop counts alone, beside its body
  (`Code.found`). What is proved:
    1. `all_text`, `foldl_tokens` — the tokens of a program that is written down,
       and the steps over them, which note what is found and nothing else.
    2. `min_one_le_found`, `found_le_depth`, `found_eq_of_shape_iff` — what is found lies
       between one loop and the depth, and no change of heads changes it exactly if the
       loops are at most one deep.
    3. `depth_of_headed` — what this means for two sources that differ in heads.
-/
namespace SourceAudit.Headed
open Braced (loopWords LoopWord)

/-- The languages. -/
def languages : List Language := [Language.javaScript, Language.typeScript]

/-- Whether a brace opens in a head. -/
def hasBrace (head : Passage loopWords) : Bool := head.text.contains '\x7b'

/-- A name in a head. -/
def nameHead : Passage loopWords :=
  .ofQuiet "const a of x".toList (.of_not_occurs (by decide) (by decide)) (by decide)

/-- An object in a head. -/
def objectHead : Passage loopWords :=
  .ofQuiet "const a of f(\x7b\x7d)".toList (.of_not_occurs (by decide) (by decide)) (by decide)

/-- The programs over some heads of loops. A word stands apart from the passage before it. -/
inductive Code (Head : Type) where
  | done (last : Passage loopWords)
  | block (first : Passage loopWords) (inner rest : Code Head)
  | loop (first : Passage loopWords) (ends : LoopToken.Ends first.text) (w : LoopWord) (g : Gap)
      (head : Head) (g' : Gap) (body rest : Code Head)

/-- The programs with heads that are in balance. -/
abbrev Program := Code (Passage loopWords)

namespace Code
variable {H K : Type}

/-- The program with other heads. -/
def map (f : H → K) : Code H → Code K
  | done last => done last
  | block first inner rest => block first (inner.map f) (rest.map f)
  | loop first ends w g head g' body rest =>
    loop first ends w g (f head) g' (body.map f) (rest.map f)

/-- The program without its heads. -/
def shape (c : Code H) : Code Unit := c.map fun _ => ()

/-- How deep the loops are nested. -/
def depth : Code H → Nat
  | done _ => 0
  | block _ inner rest => max inner.depth rest.depth
  | loop _ _ _ _ _ _ body rest => max (body.depth + 1) rest.depth

/-- The depth that is found, given of each head whether it has a brace. -/
def found : Code Bool → Nat
  | done _ => 0
  | block _ inner rest => max inner.found rest.found
  | loop _ _ _ _ braced _ body rest =>
    max (if braced then max 1 body.found else body.found + 1) rest.found

/-- A program as it is written. -/
def text : Program → Text
  | done last => last.text
  | block first inner rest => first.text ++ '\x7b' :: (inner.text ++ '\x7d' :: rest.text)
  | loop first _ w g head g' body rest =>
    first.text ++ (w.text ++ (g.text ++ '(' :: (head.text ++ ')' :: (g'.text ++
      '\x7b' :: (body.text ++ '\x7d' :: rest.text)))))

/-! ## What is found -/

@[simp] theorem map_map {L : Type} (f : H → K) (g : K → L) (c : Code H) :
    (c.map f).map g = c.map (g ∘ f) := by
  induction c with
  | done last => rfl
  | block first inner rest ihinner ihrest => simp [map, ihinner, ihrest]
  | loop first ends w g head g' body rest ihbody ihrest => simp [map, ihbody, ihrest]

@[simp] theorem shape_map (f : H → K) (c : Code H) : (c.map f).shape = c.shape :=
  map_map f (fun _ => ()) c

@[simp] theorem depth_map (f : H → K) (c : Code H) : (c.map f).depth = c.depth := by
  induction c with
  | done last => rfl
  | block first inner rest ihinner ihrest => simp [map, depth, ihinner, ihrest]
  | loop first ends w g head g' body rest ihbody ihrest => simp [map, depth, ihbody, ihrest]

/-- The depth is one of the shape. -/
theorem depth_eq_of_shape {c : Code H} {d : Code K} (h : c.shape = d.shape) :
    c.depth = d.depth := by
  rw [← depth_map (fun _ => ()) c, ← depth_map (fun _ => ()) d]
  exact congrArg depth h

theorem found_le_depth (c : Code Bool) : c.found ≤ c.depth := by
  induction c with
  | done last => exact Nat.le_refl 0
  | block first inner rest ihinner ihrest =>
    rw [found, depth]
    omega
  | loop first ends w g braced g' body rest ihbody ihrest =>
    rw [found, depth]
    split <;> omega

/-- Where there are loops, one is found. -/
theorem min_one_le_found (c : Code Bool) : min 1 c.depth ≤ c.found := by
  induction c with
  | done last => exact Nat.min_le_right ..
  | block first inner rest ihinner ihrest =>
    rw [found, depth]
    omega
  | loop first ends w g braced g' body rest ihbody ihrest =>
    rw [found, depth]
    split <;> omega

/-- With no braces in the heads all loops are found. -/
theorem found_map_false (c : Code H) : (c.map fun _ => false).found = c.depth := by
  induction c with
  | done last => rfl
  | block first inner rest ihinner ihrest => rw [map, found, depth, ihinner, ihrest]
  | loop first ends w g head g' body rest ihbody ihrest =>
    rw [map, found, depth, ihbody, ihrest, if_neg Bool.false_ne_true]

/-- With braces in all heads only one is. -/
theorem found_map_true (c : Code H) : (c.map fun _ => true).found = min 1 c.depth := by
  induction c with
  | done last => rfl
  | block first inner rest ihinner ihrest =>
    rw [map, found, depth, ihinner, ihrest]
    omega
  | loop first ends w g head g' body rest ihbody ihrest =>
    rw [map, found, depth, ihbody, ihrest, if_pos rfl]
    omega

/-- What is found is the same for all heads exactly if the loops are at most one deep. -/
theorem found_eq_of_shape_iff (c : Program) :
    (∀ d : Program, d.shape = c.shape →
      (d.map hasBrace).found = (c.map hasBrace).found) ↔ c.depth ≤ 1 := by
  constructor
  · intro hsame
    have hplain := hsame (c.map fun _ => nameHead) (shape_map _ c)
    have hbraced := hsame (c.map fun _ => objectHead) (shape_map _ c)
    rw [map_map] at hplain hbraced
    -- all loops are found with the one kind of heads, and one of them with the other
    have hall : c.depth = min 1 c.depth :=
      calc c.depth = (c.map (hasBrace ∘ fun _ => nameHead)).found :=
            (found_map_false c).symm
        _ = (c.map (hasBrace ∘ fun _ => objectHead)).found := hplain.trans hbraced.symm
        _ = min 1 c.depth := found_map_true c
    omega
  · intro hdepth d hshape
    have hd := depth_eq_of_shape hshape
    have hfound : ∀ e : Program, e.depth = c.depth →
        (e.map hasBrace).found = c.depth := by
      intro e he
      have hle := found_le_depth (e.map hasBrace)
      have hge := min_one_le_found (e.map hasBrace)
      rw [depth_map] at hle hge
      omega
    rw [hfound d hd, hfound c rfl]

/-! ## The tokens of a program -/

open LoopToken

/-- The tokens of a program. -/
def tokens : Program → List LoopToken
  | done last => last.text.filterMap ofMark?
  | block first inner rest =>
    first.text.filterMap ofMark? ++
      (.braceOpen :: (inner.tokens ++ [.braceClose]) ++ rest.tokens)
  | loop first _ _ _ head _ body rest =>
    first.text.filterMap ofMark? ++ .loop ::
      (.parenOpen :: (head.text.filterMap ofMark? ++ [.parenClose]) ++
        (.braceOpen :: (body.tokens ++ [.braceClose]) ++ rest.tokens))

/-- The tokens of a program that is written down. -/
theorem all_text (c : Program) : all loopWords c.text = c.tokens := by
  induction c with
  | done last => exact all_quiet last.quiet
  | block first inner rest ihinner ihrest =>
    rw [text, all_append_mark rfl (by decide), all_quiet first.quiet,
      all_append_mark rfl (by decide), ihinner, ihrest, tokens]
    simp
  | loop first ends w g head g' body rest ihbody ihrest =>
    obtain ⟨hw, hne, hloop⟩ := w.isLoop_text
    -- the word ends before the blanks or the parenthesis behind it
    have hapart : ∀ t, Apart (g.text ++ '(' :: t) := fun t =>
      (apart_of_isBlank g.blank).append (apart_cons (by decide) t)
    rw [text, all_append_of_ends ends (opensCall_word_append hw hne _), all_quiet first.quiet,
      all_word_append hw hne (hapart _), if_pos hloop, all_blank_append g.blank, all_mark rfl,
      all_append_mark rfl (by decide), all_quiet head.quiet, all_blank_append g'.blank,
      all_mark rfl, all_append_mark rfl (by decide), ihbody, ihrest, tokens]
    simp

/-! ## The steps over a program -/

open LoopDepth LoopDepth.State

/-- The steps over a program note the depth that is found and nothing else. -/
theorem foldl_tokens (c : Program) {s : State} (hs : s.Settled) (hw : s.waiting = []) :
    c.tokens.foldl step s = s.after (c.map hasBrace).found := by
  induction c generalizing s with
  | done last => exact (last.foldl_tokens hs hw).trans (after_zero hs hw).symm
  | block first inner rest ihinner ihrest =>
    rw [tokens, List.foldl_append, first.foldl_tokens hs hw, List.foldl_append,
      foldl_block (fun s hs hw => ihinner hs hw), ihrest (hs.after _) rfl, after_after hw]
    rfl
  | loop first ends w g head g' body rest ihbody ihrest =>
    have hloop := step_loop_settled hs
    have hhead : (.parenOpen :: (head.text.filterMap ofMark? ++ [.parenClose])).foldl step
        (s.step .loop) = if hasBrace head then (s.step .loop).after 0 else s.step .loop :=
      foldl_parens head.parens head.braces hloop
    rw [tokens, List.foldl_append, first.foldl_tokens hs hw, List.foldl_cons, List.foldl_append,
      List.foldl_append, foldl_block (fun s hs hw => ihbody hs hw), hhead, map, found]
    -- a brace in the head takes the loop: the body starts where nothing waits
    cases hasBrace head with
    | true =>
      rw [if_pos rfl, if_pos rfl, after_step_loop, after_after hw, ihrest (hs.after _) rfl,
        after_after hw]
    | false =>
      rw [if_neg Bool.false_ne_true, if_neg Bool.false_ne_true, after_step_loop,
        ihrest (hs.after _) rfl, after_after hw]

end Code

/-! ## The depth of a source -/

open LoopDepth LoopDepth.State

theorem mem_languages {l : Language} (hl : l ∈ languages) : l ∈ Braced.languages := by
  simp only [languages, List.mem_cons, List.not_mem_nil, or_false] at hl
  rcases hl with rfl | rfl <;> simp [Braced.languages]

/-- The depth of the loops of a source whose masked text is a program is the depth that is found in
the program. -/
theorem ofSource_eq_found {l : Language} (hl : l ∈ languages) {t : Text} (c : Program)
    (h : (prepare l t).masked = c.text) :
    LoopDepth.ofSource (prepare l t) = (c.map hasBrace).found := by
  have hlanguage : (prepare l t).language = l := rfl
  rw [LoopDepth.ofSource, hlanguage, if_pos (Braced.usesBraces_of_mem (mem_languages hl)),
    Braced.loopWords_of_mem (mem_languages hl), h, c.all_text]
  exact ofTokens_of_foldl (c.foldl_tokens settled_start rfl)

/-- The depth of the loops of a source whose masked text is a program is the depth that is found in
the program, where a loop with a brace in its head counts alone, beside its body. When the heads
change it stays between one loop and how deep they are nested, and does not change if the heads with
braces are the same ones. What is found is the same for all heads exactly if the loops are at most
one deep. -/
theorem depth_of_headed {l : Language} (hl : l ∈ languages) {t : Text} (c : Program)
    (h : (prepare l t).masked = c.text) :
    LoopDepth.ofSource (prepare l t) = (c.map hasBrace).found ∧
      (∀ (t' : Text) (d : Program), (prepare l t').masked = d.text → d.shape = c.shape →
        min 1 c.depth ≤ LoopDepth.ofSource (prepare l t') ∧
        LoopDepth.ofSource (prepare l t') ≤ c.depth ∧
        (d.map hasBrace = c.map hasBrace →
          LoopDepth.ofSource (prepare l t') = LoopDepth.ofSource (prepare l t))) ∧
      ((∀ d : Program, d.shape = c.shape →
          (d.map hasBrace).found = (c.map hasBrace).found) ↔ c.depth ≤ 1) := by
  have hfound := ofSource_eq_found hl c h
  refine ⟨hfound, fun t' d hd hshape => ?_, c.found_eq_of_shape_iff⟩
  have hdepth : (d.map hasBrace).depth = c.depth :=
    (Code.depth_map _ d).trans (Code.depth_eq_of_shape hshape)
  rw [hfound, ofSource_eq_found hl d hd, ← hdepth]
  exact ⟨Code.min_one_le_found _, Code.found_le_depth _, congrArg Code.found⟩

/-- A loop over the parts of an item, in the block of a loop with the given head. -/
def loopWithin (head : Passage loopWords) : Program :=
  let space : Gap := ⟨" ".toList, by decide⟩
  let nothing : Passage loopWords :=
    .ofQuiet [] (.of_not_occurs (by decide) (by decide)) (by decide)
  let indent : Passage loopWords :=
    .ofQuiet "\n  ".toList (.of_not_occurs (by decide) (by decide)) (by decide)
  let act : Passage loopWords :=
    .ofQuiet "\n    y++;\n  ".toList (.of_not_occurs (by decide) (by decide)) (by decide)
  let parts : Passage loopWords :=
    .ofQuiet "const b of a".toList (.of_not_occurs (by decide) (by decide)) (by decide)
  let newline : Passage loopWords :=
    .ofQuiet "\n".toList (.of_not_occurs (by decide) (by decide)) (by decide)
  .loop nothing (by decide) .for_ space head space
    (.loop indent (by decide) .for_ space parts space (.done act) (.done newline)) (.done nothing)

/-- Two loops are found where the head of the outer one holds a name. -/
theorem depth_of_nameHead :
    let t := "for (const a of x) \x7b\n  for (const b of a) \x7b\n    y++;\n  \x7d\n\x7d".toList
    LoopDepth.ofSource (prepare Language.javaScript t) = 2 := by
  intro t
  have h := depth_of_headed (l := Language.javaScript) (t := t) (by simp [languages])
    (loopWithin nameHead) (by decide +kernel)
  exact h.1.trans (by decide)

/-- An object in its place changes what is found. -/
theorem depth_of_objectHead :
    let t := "for (const a of x) \x7b\n  for (const b of a) \x7b\n    y++;\n  \x7d\n\x7d".toList
    let t' :=
      "for (const a of f(\x7b\x7d)) \x7b\n  for (const b of a) \x7b\n    y++;\n  \x7d\n\x7d".toList
    (prepare Language.javaScript t).masked = (loopWithin nameHead).text ∧
      (prepare Language.javaScript t').masked = (loopWithin objectHead).text ∧
      (loopWithin objectHead).shape = (loopWithin nameHead).shape ∧
      LoopDepth.ofSource (prepare Language.javaScript t) = 2 ∧
      LoopDepth.ofSource (prepare Language.javaScript t') = 1 := by
  intro t t'
  exact ⟨by decide +kernel, by decide +kernel, rfl, by decide +kernel, by decide +kernel⟩

end SourceAudit.Headed
