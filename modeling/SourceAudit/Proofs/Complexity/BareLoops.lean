import SourceAudit.Language.Registry
import SourceAudit.Proofs.Complexity.LoopGrowth

/-!
  The depth of loops in programs whose loops have heads without parentheses.

  A head is empty, a condition, a range over a collection, or three clauses
  between semicolons (`Head`). A semicolon outside of parentheses ends what waits
  for a body, so a loop of three clauses is noted when its first clause ends, and
  takes no part in the depth of its own body. `Code.seen` is the depth that is
  found in this way, and `Code.depth` how deep the loops are nested. What is proved:
    1. `all_text_append`, `foldl_tokens` — the tokens of a program that is written down,
       and the steps over them, which note `Code.seen` and nothing else.
    2. `seen_eq_depth_iff` — no loop is missed exactly if in one of the longest chains of
       loops within loops only the innermost one has three clauses.
    3. `depth_of_bare` — what this means for a source.
-/
namespace SourceAudit.Bare

/-- The loop words. -/
def loopWords : List Text := ["for".toList]

/-- What follows the word of a loop, and does not go on with it. -/
structure Clause extends Plain loopWords where
  apart : Apart text

/-- The head of a loop. -/
inductive Head where
  | forever (g : Gap)
  | test (c : Clause)
  | range (names : Clause) (g : Gap) (items : Clause)
  | clauses (first : Clause) (next last : Plain loopWords)

namespace Head

/-- A head as it is written, behind its word. -/
def text : Head → Text
  | forever g => g.text
  | test c => c.text
  | range names g items => names.text ++ ':' :: '=' :: (g.text ++ ("range".toList ++ items.text))
  | clauses first next last => first.text ++ ';' :: (next.text ++ ';' :: last.text)

/-- Whether a head has three clauses. -/
def hasClauses : Head → Bool
  | clauses _ _ _ => true
  | _ => false

end Head

/-- The parts of a program. -/
inductive Part where
  | list
  | statement
  | block

/-- The programs, part by part. A list ends with blanks, or with a simple statement that has no
line break behind it. -/
inductive Code : Part → Type where
  | done (last : Plain loopWords) : Code .list
  | cons (first : Code .statement) (rest : Code .list) : Code .list
  | simple (p : Plain loopWords) : Code .statement
  | ofBlock (b : Code .block) : Code .statement
  | loop (g : Gap) (h : Head) (b : Code .block) : Code .statement
  | braces (g : Gap) (inner : Code .list) : Code .block

namespace Code
variable {part : Part}

/-- A part of a program as it is written. -/
def text : {part : Part} → Code part → Text
  | _, done last => last.text
  | _, cons first rest => first.text ++ rest.text
  | _, simple p => p.text ++ ['\n']
  | _, ofBlock b => b.text
  | _, loop g h b => g.text ++ ("for".toList ++ (h.text ++ b.text))
  | _, braces g inner => g.text ++ '\x7b' :: (inner.text ++ ['\x7d'])

/-- How deep the loops of a part are nested. -/
def depth : {part : Part} → Code part → Nat
  | _, done _ => 0
  | _, cons first rest => max first.depth rest.depth
  | _, simple _ => 0
  | _, ofBlock b => b.depth
  | _, loop _ _ b => b.depth + 1
  | _, braces _ inner => inner.depth

/-- The depth that is found: a loop of three clauses counts alone, beside its body. -/
def seen : {part : Part} → Code part → Nat
  | _, done _ => 0
  | _, cons first rest => max first.seen rest.seen
  | _, simple _ => 0
  | _, ofBlock b => b.seen
  | _, loop _ h b => if h.hasClauses then max 1 b.seen else b.seen + 1
  | _, braces _ inner => inner.seen

/-- The chains of loops, each in the body of the one before it, by their heads. -/
def chains : {part : Part} → Code part → List (List Head)
  | _, done _ => [[]]
  | _, cons first rest => first.chains ++ rest.chains
  | _, simple _ => [[]]
  | _, ofBlock b => b.chains
  | _, loop _ h b => b.chains.map (h :: ·)
  | _, braces _ inner => inner.chains

end Code

/-! ## The tokens of a program -/

open LoopToken

/-- The tokens of a head: those of the semicolons between its clauses. -/
def Head.tokens : Head → List LoopToken
  | clauses _ _ _ => [.semicolon, .semicolon]
  | _ => []

/-- The tokens of a part. -/
def Code.tokens : {part : Part} → Code part → List LoopToken
  | _, done _ => []
  | _, cons first rest => first.tokens ++ rest.tokens
  | _, simple _ => []
  | _, ofBlock b => b.tokens
  | _, loop _ h b => .loop :: (h.tokens ++ b.tokens)
  | _, braces _ inner => .braceOpen :: (inner.tokens ++ [.braceClose])

theorem not_mem_gap (g : Gap) : '(' ∉ g.text := by
  intro h
  have hblank := List.all_eq_true.mp g.blank '(' h
  exact absurd hblank (by decide)

theorem not_mem_plain (p : Plain loopWords) : '(' ∉ p.text := p.noParens.1

/-- There are no parentheses in a head. -/
theorem Head.not_mem_text (h : Head) : '(' ∉ h.text := by
  cases h with
  | forever g => exact not_mem_gap g
  | test c => exact not_mem_plain c.toPlain
  | range names g items => simp [text, not_mem_gap, not_mem_plain]
  | clauses first next last => simp [text, not_mem_plain]

/-- There are no parentheses in a program. -/
theorem Code.not_mem_text (c : Code part) : '(' ∉ c.text := by
  induction c with
  | done last => exact not_mem_plain last
  | cons first rest ihfirst ihrest => simp [text, ihfirst, ihrest]
  | simple p => simp [text, not_mem_plain]
  | ofBlock b ih => exact ih
  | loop g h b ih => simp [text, not_mem_gap, h.not_mem_text, ih]
  | braces g inner ih => simp [text, not_mem_gap, ih]

theorem Head.apart_text (h : Head) : Apart h.text := by
  cases h with
  | forever g => exact apart_of_isBlank g.blank
  | test c => exact c.apart
  | range names g items => exact names.apart.append (apart_cons (by decide) _)
  | clauses first next last => exact first.apart.append (apart_cons (by decide) _)

theorem Code.apart_text (b : Code .block) (rest : Text) : Apart (b.text ++ rest) := by
  cases b with
  | braces g inner =>
    rw [text, List.append_assoc]
    exact (apart_of_isBlank g.blank).append (apart_cons (by decide) _)

/-- A head, and whatever stands behind it without parentheses. -/
theorem Head.all_text_append (h : Head) {rest : Text} (hapart : Apart rest) (hparen : '(' ∉ rest) :
    all loopWords (h.text ++ rest) = h.tokens ++ all loopWords rest := by
  cases h with
  | forever g => exact all_blank_append g.blank rest
  | test c => exact c.all_text_append hapart hparen
  | range names g items =>
    have hitems : Apart (items.text ++ rest) := items.apart.append hapart
    -- the assignment gives no token, and the word behind it is no loop word
    simp only [text, List.append_assoc, List.cons_append]
    rw [names.all_text_append (apart_cons (by decide) _)
        (by simp [not_mem_gap, not_mem_plain, hparen]),
      all_inert (by decide) (by decide) (by decide),
      all_inert (by decide) (by decide) (by decide), all_blank_append g.blank,
      all_word_append (w := "range".toList) (by decide) (by decide) hitems,
      items.all_text_append hapart hparen]
    simp [tokens, loopWords]
  | clauses first next last =>
    simp only [text, List.append_assoc, List.cons_append]
    rw [all_append_mark rfl (by decide), first.all_text, all_append_mark rfl (by decide),
      next.all_text, last.all_text_append hapart hparen]
    rfl

namespace Code

/-- The tokens of a part that is written down, and of whatever stands behind it without
parentheses. -/
theorem all_text_append (c : Code part) {rest : Text} (hapart : part = .list → Apart rest)
    (hparen : '(' ∉ rest) : all loopWords (c.text ++ rest) = c.tokens ++ all loopWords rest := by
  induction c generalizing rest with
  | done last => exact last.all_text_append (hapart rfl) hparen
  | cons first others ihfirst ihothers =>
    have hothers : '(' ∉ others.text ++ rest := by simp [others.not_mem_text, hparen]
    rw [text, List.append_assoc, ihfirst (by simp) hothers, ihothers hapart hparen, tokens,
      List.append_assoc]
  | simple p =>
    have hbreak : '(' ∉ '\n' :: rest := by simp [hparen]
    rw [text, List.append_assoc, List.singleton_append,
      p.all_text_append (apart_cons (by decide) _) hbreak,
      all_inert (by decide) (by decide) (by decide)]
    rfl
  | ofBlock b ih => exact ih (by simp) hparen
  | loop g h b ih =>
    have hblock := b.apart_text rest
    have hbody : '(' ∉ b.text ++ rest := by simp [b.not_mem_text, hparen]
    simp only [text, List.append_assoc]
    rw [all_blank_append g.blank, all_word_append (by decide) (by decide)
        (h.apart_text.append hblock), h.all_text_append hblock hbody, ih (by simp) hparen]
    simp [tokens, loopWords]
  | braces g inner ih =>
    have hclose : '(' ∉ '\x7d' :: rest := by simp [hparen]
    simp only [text, List.append_assoc, List.cons_append, List.nil_append]
    rw [all_blank_append g.blank, all_mark rfl,
      ih (fun _ => apart_cons (by decide) _) hclose, all_mark rfl]
    simp [tokens]

/-! ## The steps over a program -/

open LoopDepth LoopDepth.State

/-- The steps over a part note the depth that is found and nothing else. -/
theorem foldl_tokens (c : Code part) {s : State} (hs : s.Settled)
    (hw : part ≠ .block → s.waiting = []) : c.tokens.foldl step s = s.after c.seen := by
  induction c generalizing s with
  | done last => exact (after_zero hs (hw (by simp))).symm
  | cons first rest ihfirst ihrest =>
    have hw := hw (by simp)
    rw [tokens, List.foldl_append, ihfirst hs fun _ => hw, ihrest (hs.after _) fun _ => rfl,
      after_after hw, seen]
  | simple p => exact (after_zero hs (hw (by simp))).symm
  | ofBlock b ih => exact ih hs (by simp)
  | loop g h b ih =>
    have hloop := step_loop_settled hs
    rw [tokens, List.foldl_cons, List.foldl_append, seen]
    cases h with
    | forever | test | range => exact (ih hloop (by simp)).trans (after_step_loop s _)
    | clauses first next last =>
      -- the first semicolon ends what waits: the body starts where no loop does
      have hfirst : (s.step .loop).step .semicolon = s.after 1 :=
        (step_semicolon hloop).trans (after_step_loop s 0)
      have hsecond : (s.after 1).step .semicolon = s.after 1 :=
        (step_semicolon (hs.after 1)).trans (after_after_of_le s (by omega))
      rw [Head.tokens, List.foldl_cons, List.foldl_cons, List.foldl_nil, hfirst, hsecond,
        ih (hs.after 1) (by simp), after_after (hw (by simp))]
      rfl
  | braces g inner ih => exact foldl_block (fun s hs hw => ih hs fun _ => hw) s

end Code

/-! ## Chains of loops -/

/-- How many loops of a chain are found: one of three clauses counts alone. -/
def counted : List Head → Nat
  | [] => 0
  | h :: chain => if h.hasClauses then max 1 (counted chain) else counted chain + 1

theorem counted_le_length (chain : List Head) : counted chain ≤ chain.length := by
  induction chain with
  | nil => simp [counted]
  | cons h chain ih =>
    rw [counted, List.length_cons]
    split <;> omega

/-- All loops of a chain are found exactly if none but the last has three clauses. -/
theorem counted_eq_length_iff (chain : List Head) :
    counted chain = chain.length ↔ ∀ h ∈ chain.dropLast, h.hasClauses = false := by
  induction chain with
  | nil => simp [counted]
  | cons h chain ih =>
    cases chain with
    | nil => cases hh : h.hasClauses <;> simp [counted, hh]
    | cons next rest =>
      have hle := counted_le_length (next :: rest)
      rw [counted, List.dropLast_cons_cons, List.forall_mem_cons, ← ih, List.length_cons]
      cases hh : h.hasClauses with
      | false => simp
      | true =>
        -- the first loop counts alone, beside a loop within it
        rw [List.length_cons] at hle
        simp only [if_true, List.length_cons, Bool.true_eq_false, false_and, iff_false]
        omega

/-- Of a chain of loops with three clauses, one is found. -/
theorem counted_le_one {chain : List Head} (h : ∀ head ∈ chain, head.hasClauses = true) :
    counted chain ≤ 1 := by
  induction chain with
  | nil => simp [counted]
  | cons head chain ih =>
    rw [counted, if_pos (h head List.mem_cons_self)]
    refine Nat.max_le.mpr ⟨Nat.le_refl 1, ih fun other hother => ?_⟩
    exact h other (List.mem_cons_of_mem _ hother)

namespace Code

theorem length_le_depth (c : Code part) : ∀ chain ∈ c.chains, chain.length ≤ c.depth := by
  induction c with
  | done | simple => simp [chains]
  | cons first rest ihfirst ihrest =>
    intro chain hchain
    rcases List.mem_append.mp hchain with hchain | hchain
    · exact Nat.le_trans (ihfirst chain hchain) (Nat.le_max_left ..)
    · exact Nat.le_trans (ihrest chain hchain) (Nat.le_max_right ..)
  | ofBlock b ih => exact ih
  | loop g h b ih =>
    intro chain hchain
    obtain ⟨inner, hinner, rfl⟩ := List.mem_map.mp hchain
    exact Nat.succ_le_succ (ih inner hinner)
  | braces g inner ih => exact ih

theorem counted_le_seen (c : Code part) : ∀ chain ∈ c.chains, counted chain ≤ c.seen := by
  induction c with
  | done | simple => simp [chains, counted]
  | cons first rest ihfirst ihrest =>
    intro chain hchain
    rcases List.mem_append.mp hchain with hchain | hchain
    · exact Nat.le_trans (ihfirst chain hchain) (Nat.le_max_left ..)
    · exact Nat.le_trans (ihrest chain hchain) (Nat.le_max_right ..)
  | ofBlock b ih => exact ih
  | loop g h b ih =>
    intro chain hchain
    obtain ⟨inner, hinner, rfl⟩ := List.mem_map.mp hchain
    have hbody := ih inner hinner
    rw [counted, seen]
    split <;> omega
  | braces g inner ih => exact ih

/-- Some chain is as deep as what is found. -/
theorem exists_counted_eq_seen (c : Code part) : ∃ chain ∈ c.chains, counted chain = c.seen := by
  induction c with
  | done | simple => exact ⟨[], by simp [chains], rfl⟩
  | cons first rest ihfirst ihrest =>
    rcases Nat.le_total first.seen rest.seen with hle | hle
    · obtain ⟨chain, hchain, hseen⟩ := ihrest
      exact ⟨chain, List.mem_append_right _ hchain, by rw [hseen, seen, Nat.max_eq_right hle]⟩
    · obtain ⟨chain, hchain, hseen⟩ := ihfirst
      exact ⟨chain, List.mem_append_left _ hchain, by rw [hseen, seen, Nat.max_eq_left hle]⟩
  | ofBlock b ih => exact ih
  | loop g h b ih =>
    obtain ⟨chain, hchain, hseen⟩ := ih
    exact ⟨h :: chain, List.mem_map_of_mem hchain, by rw [counted, hseen, seen]⟩
  | braces g inner ih => exact ih

theorem seen_le_depth (c : Code part) : c.seen ≤ c.depth := by
  obtain ⟨chain, hchain, hseen⟩ := c.exists_counted_eq_seen
  have hcounted := counted_le_length chain
  have hlength := c.length_le_depth chain hchain
  omega

/-- No loop is missed exactly if one of the longest chains has no three clauses before its last
loop. -/
theorem seen_eq_depth_iff (c : Code part) :
    c.seen = c.depth ↔
      ∃ chain ∈ c.chains, chain.length = c.depth ∧ ∀ h ∈ chain.dropLast, h.hasClauses = false := by
  constructor
  · intro heq
    obtain ⟨chain, hchain, hseen⟩ := c.exists_counted_eq_seen
    have hcounted := counted_le_length chain
    have hlength := c.length_le_depth chain hchain
    exact ⟨chain, hchain, by omega, (counted_eq_length_iff chain).mp (by omega)⟩
  · rintro ⟨chain, hchain, hlength, hclauses⟩
    have hcounted := (counted_eq_length_iff chain).mpr hclauses
    have hseen := c.counted_le_seen chain hchain
    have hdepth := c.seen_le_depth
    omega

end Code

/-! ## The depth of a source -/

open LoopDepth.State

/-- The depth of the loops of a source whose masked text is a program is the depth that is found in
the program. It is how deep the loops are nested exactly if one of the longest chains of loops has
no three clauses before its last loop; where all loops have three clauses, it is at most one. -/
theorem depth_of_bare {t : Text} (c : Code .list) (h : (prepare Language.go t).masked = c.text) :
    LoopDepth.ofSource (prepare Language.go t) = c.seen ∧
      (LoopDepth.ofSource (prepare Language.go t) = c.depth ↔
        ∃ chain ∈ c.chains, chain.length = c.depth ∧
          ∀ head ∈ chain.dropLast, head.hasClauses = false) ∧
      ((∀ chain ∈ c.chains, ∀ head ∈ chain, head.hasClauses = true) →
        LoopDepth.ofSource (prepare Language.go t) ≤ 1) ∧
      ((prepare Language.go t).LoopsOnly →
        (Complexity.ofSource (prepare Language.go t)).time.growth =
          Growth.ofLoopDepth c.seen) := by
  have hseen : LoopDepth.ofSource (prepare Language.go t) = c.seen := by
    have htokens : all loopWords c.text = c.tokens := by
      have happend : all loopWords (c.text ++ []) = _ :=
        c.all_text_append (by simp [Apart]) (by simp)
      rwa [List.append_nil, show all loopWords [] = [] from rfl, List.append_nil] at happend
    have hwords : (prepare Language.go t).language.loopWords.map String.toList = loopWords := rfl
    have hbraces : (prepare Language.go t).language.usesBraces = true := rfl
    rw [LoopDepth.ofSource, if_pos hbraces, hwords, h, htokens]
    exact ofTokens_of_foldl (c.foldl_tokens settled_start fun _ => rfl)
  refine ⟨hseen, ?_, fun hclauses => ?_, fun honly => ?_⟩
  · rw [hseen]
    exact c.seen_eq_depth_iff
  · obtain ⟨chain, hchain, hcounted⟩ := c.exists_counted_eq_seen
    rw [hseen, ← hcounted]
    exact counted_le_one (hclauses chain hchain)
  · rw [Complexity.time_growth_of_loopsOnly rfl honly, hseen]

/-- The clauses of a loop that counts. -/
def countingHead : Head :=
  let first : Plain loopWords :=
    ⟨" i:=0".toList, .of_not_occurs (by decide) (by decide), by decide, by decide, by decide⟩
  let next : Plain loopWords :=
    ⟨"i<n".toList, .of_not_occurs (by decide) (by decide), by decide, by decide, by decide⟩
  let last : Plain loopWords :=
    ⟨"i++".toList, .of_not_occurs (by decide) (by decide), by decide, by decide, by decide⟩
  .clauses ⟨first, by decide⟩ next last

/-- A loop that counts, in the block of a loop with the given head. -/
def countingWithin (outer : Head) : Code .list :=
  let nothing : Plain loopWords :=
    ⟨[], .of_not_occurs (by decide) (by decide), by decide, by decide, by decide⟩
  let act : Plain loopWords :=
    ⟨"x++".toList, .of_not_occurs (by decide) (by decide), by decide, by decide, by decide⟩
  let block : Code .block := .braces .none (.cons (.simple act) (.done nothing))
  let inner : Code .statement := .loop .none countingHead block
  .cons (.loop .none outer (.braces .none (.cons inner (.done nothing)))) (.done nothing)

/-- In a loop without clauses, the loop that counts is found. -/
theorem depth_of_counting_within_forever :
    let t := "for\x7bfor i:=0;i<n;i++\x7bx++\n\x7d\x7d".toList
    let c := countingWithin (.forever .none)
    LoopDepth.ofSource (prepare Language.go t) = 2 ∧ c.depth = 2 := by
  intro t c
  exact ⟨(depth_of_bare c (by decide +kernel)).1, by decide⟩

/-- Of two loops that count, one in the other, one is found. -/
theorem depth_of_counting_within_counting :
    let t := "for i:=0;i<n;i++\x7bfor i:=0;i<n;i++\x7bx++\n\x7d\x7d".toList
    let c := countingWithin countingHead
    (prepare Language.go t).masked = c.text ∧ c.depth = 2 ∧
      LoopDepth.ofSource (prepare Language.go t) = 1 := by
  decide +kernel

end SourceAudit.Bare
