import SourceAudit.Proofs.Complexity.LoopTokens

/-!
  Texts without loops, and the parts of a program that hold none.

  No loop word stands in a `Quiet` text, and no iterator is called in it. What is
  proved:
    1. `Quiet.loop_not_mem`, `Quiet.call_not_mem`, `loop_mem_of_wordIn` — a loop or a call
       among the tokens comes from a loop word or from a call that stands in the text, and
       each loop word gives a loop.
    2. `filterMap_all` — the brackets and semicolons among the tokens are those of the text.
    3. `all_quiet` — a quiet text has the tokens of its brackets and semicolons alone.
    4. `Plain.all_text_append` — a part without brackets and semicolons gives no token.
-/
namespace SourceAudit

/-- The token of a mark; other pieces have none of their own. -/
def Piece.token? : Piece → Option LoopToken
  | .mark c => LoopToken.ofMark? c
  | _ => none

namespace LoopToken
variable {words : List Text}

/-! ## Texts without loops and calls -/

/-- A word stands in a text, and is no part of a longer one. -/
def WordIn (w t : Text) : Prop :=
  ∃ a b, t = a ++ w ++ b ∧ (∀ c ∈ a.getLast?, Unicode.isWord c = false) ∧
    ∀ c ∈ b.head?, Unicode.isWord c = false

/-- A method that goes through a collection is called in a text. -/
def CallIn (t : Text) : Prop :=
  ∃ w ∈ iterators, ∃ a g b, t = a ++ '.' :: w ++ g ++ '(' :: b ∧ g.isBlank = true

/-- No loop word stands in a text, and no method is called that goes through a collection. -/
structure Quiet (words : List Text) (t : Text) : Prop where
  noWord : ∀ w ∈ words, ¬ WordIn w t
  noCall : ¬ CallIn t

/-- A text is quiet if the words do not even occur in it as parts of others. -/
theorem Quiet.of_not_occurs {t : Text} (hwords : ∀ w ∈ words, ¬ w <:+: t)
    (hcalls : ∀ w ∈ iterators, ¬ '.' :: w <:+: t) : Quiet words t where
  noWord := by
    rintro w hw ⟨a, b, rfl, -, -⟩
    exact hwords w hw ⟨a, b, rfl⟩
  noCall := by
    rintro ⟨w, hw, a, g, b, rfl, -⟩
    exact hcalls w hw ⟨a, g ++ '(' :: b, by simp⟩

theorem WordIn.append_left {w t : Text} (h : WordIn w t) (a : Text) {c : Char}
    (hc : Unicode.isWord c = false) : WordIn w (a ++ c :: t) := by
  obtain ⟨x, b, rfl, hx, hb⟩ := h
  refine ⟨a ++ c :: x, b, by simp, ?_, hb⟩
  intro d hd
  cases x with
  | nil => simp_all
  | cons y x => exact hx d (by simpa [List.getLast?_append] using hd)

theorem wordIn_of_mem_allFrom {w letters t : Text} (h : Piece.word w ∈ Piece.allFrom letters t) :
    WordIn w (letters.reverse ++ t) := by
  induction letters, t using Piece.allFrom.induct with
  | case1 letters =>
    obtain rfl := Piece.word.inj (Piece.eq_word_of_mem_close h)
    exact ⟨[], [], by simp, by simp, by simp⟩
  | case2 letters c rest hc ih =>
    rw [Piece.allFrom_word hc] at h
    simpa using ih h
  | case3 letters c rest hc ih =>
    have hc : Unicode.isWord c = false := by simpa using hc
    rw [Piece.allFrom_other hc, List.mem_append, List.mem_cons] at h
    rcases h with hw | hw | hw
    · obtain rfl := Piece.word.inj (Piece.eq_word_of_mem_close hw)
      exact ⟨[], c :: rest, by simp, by simp, by simpa using hc⟩
    · unfold Piece.ofChar at hw
      split at hw <;> cases hw
    · exact (ih hw).append_left letters.reverse hc

/-- The first piece of a text is a word: the text begins with it. -/
theorem eq_append_of_allFrom_eq_word {w letters t : Text} {q : List Piece}
    (h : Piece.allFrom letters t = .word w :: q) :
    ∃ r, letters.reverse ++ t = w ++ r ∧ q = Piece.all r := by
  induction letters, t using Piece.allFrom.induct with
  | case1 letters =>
    simp only [Piece.allFrom, Piece.close] at h
    split at h
    · cases h
    · cases h
      exact ⟨[], rfl, rfl⟩
  | case2 letters c rest hc ih =>
    rw [Piece.allFrom_word hc] at h
    simpa using ih h
  | case3 letters c rest hc ih =>
    have hc : Unicode.isWord c = false := by simpa using hc
    rw [Piece.allFrom_other hc] at h
    unfold Piece.close Piece.ofChar at h
    split at h
    · split at h <;> cases h
    · cases h
      exact ⟨c :: rest, rfl, (Piece.all_other hc rest).symm⟩

/-- A mark among the pieces of a text stands in the text. -/
theorem eq_append_of_suffix_allFrom {c : Char} {letters t : Text} {q : List Piece}
    (h : .mark c :: q <:+ Piece.allFrom letters t) : ∃ a b, t = a ++ c :: b ∧ q = Piece.all b := by
  induction letters, t using Piece.allFrom.induct with
  | case1 letters =>
    unfold Piece.allFrom Piece.close at h
    split at h <;> simp [List.suffix_cons_iff] at h
  | case2 letters d rest hd ih =>
    rw [Piece.allFrom_word hd] at h
    obtain ⟨a, b, rfl, hq⟩ := ih h
    exact ⟨d :: a, b, rfl, hq⟩
  | case3 letters d rest hd ih =>
    have hd : Unicode.isWord d = false := by simpa using hd
    have hrest : .mark c :: q <:+ Piece.ofChar d :: Piece.all rest := by
      rw [Piece.allFrom_other hd] at h
      unfold Piece.close at h
      split at h
      · exact h
      · simpa [List.suffix_cons_iff] using h
    rcases List.suffix_cons_iff.mp hrest with heq | hrest
    · unfold Piece.ofChar at heq
      split at heq
      · cases heq
      · cases heq
        exact ⟨[], rest, rfl, rfl⟩
    · obtain ⟨a, b, rfl, hq⟩ := ih hrest
      exact ⟨d :: a, b, rfl, hq⟩

theorem opensCall_allFrom_cons (d : Char) (letters t : Text) :
    Piece.opensCall (Piece.allFrom (d :: letters) t) = false := by
  induction t generalizing d letters with
  | nil => simp [Piece.allFrom, Piece.close, Piece.opensCall]
  | cons c rest ih =>
    cases hc : Unicode.isWord c with
    | true => rw [Piece.allFrom_word hc, ih]
    | false =>
      rw [Piece.allFrom_other hc]
      simp [Piece.close, Piece.opensCall]

theorem opensCall_word_append {w : Text} (hw : w.all Unicode.isWord = true) (hne : w ≠ [])
    (rest : Text) : Piece.opensCall (Piece.all (w ++ rest)) = false := by
  cases w with
  | nil => exact absurd rfl hne
  | cons c w =>
    rw [List.all_cons, Bool.and_eq_true] at hw
    rw [List.cons_append, Piece.all, Piece.allFrom_word hw.1, opensCall_allFrom_cons]

/-- A parenthesis follows: the text begins with it, behind blanks. -/
theorem eq_append_of_opensCall {t : Text} (h : Piece.opensCall (Piece.all t) = true) :
    ∃ g b, t = g ++ '(' :: b ∧ g.isBlank = true := by
  induction t with
  | nil => simp [Piece.all, Piece.allFrom, Piece.close, Piece.opensCall] at h
  | cons c rest ih =>
    cases hc : Unicode.isWord c with
    | true =>
      rw [Piece.all, Piece.allFrom_word hc, opensCall_allFrom_cons] at h
      cases h
    | false =>
      rw [Piece.all_other hc] at h
      unfold Piece.ofChar at h
      split at h
      · rename_i hblank
        obtain ⟨g, b, rfl, hg⟩ := ih h
        exact ⟨c :: g, b, rfl, by simpa [Text.isBlank, hblank] using hg⟩
      · obtain rfl : c = '(' := by simpa [Piece.opensCall] using h
        exact ⟨[], rest, rfl, rfl⟩

/-- No call opens where there is no parenthesis. -/
theorem opensCall_of_not_mem {t : Text} (h : '(' ∉ t) : Piece.opensCall (Piece.all t) = false := by
  rw [Bool.eq_false_iff]
  intro hcall
  obtain ⟨g, b, rfl, -⟩ := eq_append_of_opensCall hcall
  simp at h

theorem ofMark?_ne {c : Char} {token : LoopToken} (h : ofMark? c = some token) :
    token ≠ loop ∧ token ≠ call := by
  unfold ofMark? at h
  split_ifs at h <;> cases h <;> simp

/-- A loop among the tokens is a loop word among the pieces. -/
theorem mem_of_loop_mem {called : Bool} {p : List Piece} (h : loop ∈ ofPiecesFrom words called p) :
    ∃ w ∈ words, .word w ∈ p := by
  induction called, p using ofPiecesFrom.induct words with
  | case1 => simp [ofPiecesFrom] at h
  | case2 called rest ih =>
    rw [ofPiecesFrom_gap] at h
    obtain ⟨w, hw, hp⟩ := ih h
    exact ⟨w, hw, List.mem_cons_of_mem _ hp⟩
  | case3 _ w rest hw _ => exact ⟨w, by simpa using hw, List.mem_cons_self⟩
  | case4 _ w rest hw ih =>
    rw [ofPiecesFrom_word, if_neg hw] at h
    obtain ⟨w, hw, hp⟩ := ih h
    exact ⟨w, hw, List.mem_cons_of_mem _ hp⟩
  | case5 _ w rest hcall ih =>
    rw [ofPiecesFrom_dot_word, if_pos hcall] at h
    obtain ⟨w, hw, hp⟩ := ih (by simpa using h)
    exact ⟨w, hw, List.mem_cons_of_mem _ (List.mem_cons_of_mem _ hp)⟩
  | case6 _ w rest hcall ih =>
    rw [ofPiecesFrom_dot_word, if_neg hcall] at h
    obtain ⟨w, hw, hp⟩ := ih h
    exact ⟨w, hw, List.mem_cons_of_mem _ hp⟩
  | case7 c rest hdot ih | case9 _ c rest hdot _ _ ih | case8 _ c rest hdot _ _ _ ih =>
    rw [ofPiecesFrom_mark hdot, List.mem_append] at h
    rcases h with h | h
    · split at h
      · cases h
      · exact absurd rfl (ofMark?_ne (Option.mem_toList.mp h)).1
    · obtain ⟨w, hw, hp⟩ := ih h
      exact ⟨w, hw, List.mem_cons_of_mem _ hp⟩

/-- A call among the tokens is a dot and an iterator among the pieces, with a parenthesis behind
them. -/
theorem suffix_of_call_mem {called : Bool} {p : List Piece}
    (h : call ∈ ofPiecesFrom words called p) :
    ∃ w ∈ iterators, ∃ q, .mark '.' :: .word w :: q <:+ p ∧ Piece.opensCall q = true := by
  induction called, p using ofPiecesFrom.induct words with
  | case1 => simp [ofPiecesFrom] at h
  | case2 called rest ih =>
    rw [ofPiecesFrom_gap] at h
    obtain ⟨w, hw, q, hp, hq⟩ := ih h
    exact ⟨w, hw, q, hp.trans (List.suffix_cons _ _), hq⟩
  | case3 _ w rest _ ih | case4 _ w rest _ ih =>
    rw [ofPiecesFrom_word, List.mem_append] at h
    rcases h with h | h
    · split at h <;> simp at h
    · obtain ⟨w, hw, q, hp, hq⟩ := ih h
      exact ⟨w, hw, q, hp.trans (List.suffix_cons _ _), hq⟩
  | case5 _ w rest hcall _ =>
    rw [Bool.and_eq_true, List.contains_iff_mem] at hcall
    exact ⟨w, hcall.1, rest, List.suffix_refl _, hcall.2⟩
  | case6 _ w rest hcall ih =>
    rw [ofPiecesFrom_dot_word, if_neg hcall] at h
    obtain ⟨w, hw, q, hp, hq⟩ := ih h
    exact ⟨w, hw, q, hp.trans (List.suffix_cons _ _), hq⟩
  | case7 c rest hdot ih | case8 _ c rest hdot _ _ _ ih | case9 _ c rest hdot _ _ ih =>
    rw [ofPiecesFrom_mark hdot, List.mem_append] at h
    rcases h with h | h
    · split at h
      · cases h
      · exact absurd rfl (ofMark?_ne (Option.mem_toList.mp h)).2
    · obtain ⟨w, hw, q, hp, hq⟩ := ih h
      exact ⟨w, hw, q, hp.trans (List.suffix_cons _ _), hq⟩

/-- A loop word among the pieces is a loop among the tokens, if it is no iterator. -/
theorem loop_mem_of_mem {w : Text} (hw : w ∈ words) (hcall : w ∉ iterators) {called : Bool}
    {p : List Piece} (h : .word w ∈ p) : loop ∈ ofPiecesFrom words called p := by
  induction called, p using ofPiecesFrom.induct words with
  | case1 => cases h
  | case2 called rest ih =>
    rw [ofPiecesFrom_gap]
    exact ih (by simpa using h)
  | case3 called other rest hother _ =>
    rw [ofPiecesFrom_word, if_pos hother]
    exact List.mem_cons_self
  | case4 called other rest hother ih =>
    have hne : w ≠ other := fun heq => hother (List.contains_iff_mem.mpr (heq ▸ hw))
    rw [ofPiecesFrom_word, if_neg hother]
    exact ih (by simpa [hne] using h)
  | case5 called other rest hiterator ih =>
    have hne : w ≠ other := fun heq =>
      hcall (heq ▸ List.contains_iff_mem.mp (Bool.and_eq_true_iff.mp hiterator).1)
    rw [ofPiecesFrom_dot_word, if_pos hiterator]
    exact List.mem_cons_of_mem _ (ih (by simpa [hne] using h))
  | case6 called other rest hiterator ih =>
    rw [ofPiecesFrom_dot_word, if_neg hiterator]
    exact ih (by simpa using h)
  | case7 c rest hdot ih | case8 _ c rest hdot _ _ _ ih | case9 _ c rest hdot _ _ ih =>
    rw [ofPiecesFrom_mark hdot]
    exact List.mem_append_right _ (ih (by simpa using h))

/-- A loop word that stands in a text is a loop among its tokens. -/
theorem loop_mem_of_wordIn {w t : Text} (hmem : w ∈ words) (hcall : w ∉ iterators)
    (hw : w.all Unicode.isWord = true) (hne : w ≠ []) (h : WordIn w t) : loop ∈ all words t := by
  refine loop_mem_of_mem hmem hcall ?_
  obtain ⟨a, b, rfl, ha, hb⟩ := h
  have hbehind : Piece.all (w ++ b) = .word w :: Piece.all b := Piece.all_word_append hw hne hb
  rcases List.eq_nil_or_concat a with rfl | ⟨a, c, rfl⟩
  · rw [List.nil_append, hbehind]
    exact List.mem_cons_self
  · rw [List.concat_eq_append, List.append_assoc, List.append_assoc, List.singleton_append,
      Piece.all_append (ha c (by simp)), hbehind]
    simp

/-- A text in which no loop word stands has no loop among its tokens. -/
theorem Quiet.loop_not_mem {t : Text} (h : Quiet words t) : loop ∉ all words t := by
  intro hmem
  obtain ⟨w, hw, hp⟩ := mem_of_loop_mem hmem
  exact h.noWord w hw (wordIn_of_mem_allFrom hp)

/-- A text in which no iterator is called has no call among its tokens. -/
theorem Quiet.call_not_mem {t : Text} (h : Quiet words t) : call ∉ all words t := by
  intro hmem
  obtain ⟨w, hw, q, hp, hopen⟩ := suffix_of_call_mem hmem
  obtain ⟨a, b, rfl, hq⟩ := eq_append_of_suffix_allFrom hp
  obtain ⟨r, rfl, rfl⟩ := eq_append_of_allFrom_eq_word hq.symm
  obtain ⟨g, b, rfl, hg⟩ := eq_append_of_opensCall hopen
  exact h.noCall ⟨w, hw, a, g, b, by simp, hg⟩

/-! ## The marks of a text -/

/-- The token of the mark that a token comes with: a call has its parenthesis, a loop has none. -/
def mark? : LoopToken → Option LoopToken
  | loop => none
  | call => some parenOpen
  | token => some token

theorem mark?_of_ofMark? {c : Char} {token : LoopToken} (h : ofMark? c = some token) :
    token.mark? = some token := by
  unfold ofMark? at h
  split_ifs at h <;> cases h <;> rfl

/-- The marks of the tokens are those of the pieces. The parenthesis of a counted call comes with
the call. -/
theorem filterMap_ofPiecesFrom {called : Bool} {p : List Piece}
    (hcalled : called = true → Piece.opensCall p = true) :
    (if called then [parenOpen] else []) ++ (ofPiecesFrom words called p).filterMap mark? =
      p.filterMap Piece.token? := by
  induction called, p using ofPiecesFrom.induct words with
  | case1 called =>
    cases called with
    | true => simp [Piece.opensCall] at hcalled
    | false => rfl
  | case2 called rest ih =>
    rw [ofPiecesFrom_gap, ih hcalled]
    rfl
  | case3 called w rest _ ih | case4 called w rest _ ih =>
    obtain rfl : called = false := by simpa [Piece.opensCall] using hcalled
    rw [ofPiecesFrom_word, List.filterMap_append, ← List.append_assoc]
    refine Eq.trans ?_ (ih (by simp))
    split <;> rfl
  | case5 called w rest hcall ih =>
    obtain rfl : called = false := by simpa [Piece.opensCall] using hcalled
    have hopen : Piece.opensCall rest = true := (Bool.and_eq_true_iff.mp hcall).2
    rw [ofPiecesFrom_dot_word, if_pos hcall, List.filterMap_cons_some
      (show mark? call = some parenOpen from rfl)]
    exact ih fun _ => hopen
  | case6 called w rest hcall ih =>
    obtain rfl : called = false := by simpa [Piece.opensCall] using hcalled
    rw [ofPiecesFrom_dot_word, if_neg hcall]
    exact ih (by simp)
  | case7 c rest hdot ih =>
    -- this is the parenthesis that the call has taken
    obtain rfl : c = '(' := by simpa [Piece.opensCall] using hcalled
    rw [ofPiecesFrom_mark hdot]
    exact congrArg (parenOpen :: ·) (ih (by simp))
  | case8 called c rest hdot hcall token hm ih =>
    obtain rfl : called = false := by simpa using hcall
    have hrest := ih (by simp)
    rw [ofPiecesFrom_mark hdot]
    simpa [Piece.token?, hm, mark?_of_ofMark? hm] using hrest
  | case9 called c rest hdot hcall hm ih =>
    obtain rfl : called = false := by simpa using hcall
    have hrest := ih (by simp)
    rw [ofPiecesFrom_mark hdot]
    simpa [Piece.token?, hm] using hrest

/-- A mark is known by its token. -/
theorem ofMark?_eq_iff {c d : Char} {token : LoopToken} (h : ofMark? d = some token) :
    ofMark? c = some token ↔ c = d := by
  constructor
  · intro hc
    unfold ofMark? at h hc
    grind
  · rintro rfl
    exact h

theorem count_marks {d : Char} {token : LoopToken} (h : ofMark? d = some token) (t : Text) :
    (t.filterMap ofMark?).count token = t.count d := by
  rw [List.count_filterMap, List.count]
  refine List.countP_congr fun c _ => ?_
  rw [beq_iff_eq, beq_iff_eq]
  exact ofMark?_eq_iff h

theorem ofMark?_of_isWord {c : Char} (h : Unicode.isWord c = true) : ofMark? c = none := by
  cases hm : ofMark? c with
  | none => rfl
  | some token => exact absurd (of_ofMark? hm).1 (by simp [h])

theorem token?_ofChar (c : Char) : (Piece.ofChar c).token? = ofMark? c := by
  cases hm : ofMark? c with
  | none =>
    unfold Piece.ofChar
    split
    · rfl
    · exact hm
  | some token => rw [(of_ofMark? hm).2.1, ← hm, Piece.token?]

/-- The marks among the pieces of a text are those of the text. -/
theorem filterMap_allFrom (letters t : Text) :
    (Piece.allFrom letters t).filterMap Piece.token? = t.filterMap ofMark? := by
  have hclose : ∀ letters : Text, (Piece.close letters []).filterMap Piece.token? = [] := by
    intro letters
    rw [List.filterMap_eq_nil_iff]
    intro x hx
    rw [Piece.eq_word_of_mem_close hx]
    rfl
  induction letters, t using Piece.allFrom.induct with
  | case1 letters => exact hclose letters
  | case2 letters c rest hc ih =>
    rw [Piece.allFrom_word hc, ih, List.filterMap_cons_none (ofMark?_of_isWord hc)]
  | case3 letters c rest hc ih =>
    rw [Piece.allFrom_other (by simpa using hc), List.filterMap_append, hclose, List.nil_append,
      List.filterMap_cons, token?_ofChar, Piece.all, ih, List.filterMap_cons]

/-- The marks of the tokens of a text are those of the text. -/
theorem filterMap_all (t : Text) : (all words t).filterMap mark? = t.filterMap ofMark? :=
  (@filterMap_ofPiecesFrom words false _ (by simp)).trans (filterMap_allFrom [] t)

/-- A quiet text has the tokens of its brackets and semicolons alone. -/
theorem all_quiet {t : Text} (h : Quiet words t) : all words t = t.filterMap ofMark? := by
  have hmark : ∀ token ∈ all words t, token.mark? = some token := by
    intro token hmem
    cases token with
    | loop => exact absurd hmem h.loop_not_mem
    | call => exact absurd hmem h.call_not_mem
    | _ => rfl
  rw [← @filterMap_all words, List.filterMap_congr hmark, List.filterMap_some]

end LoopToken

/-! ## The parts of a program that hold no loop -/

/-- Blanks between two parts of a program, or nothing. -/
structure Gap where
  text : Text
  blank : text.isBlank = true

/-- Nothing between two parts. -/
def Gap.none : Gap := ⟨[], rfl⟩

/-- A part of a program without loops, calls, brackets and semicolons. -/
structure Plain (words : List Text) where
  text : Text
  quiet : LoopToken.Quiet words text
  noParens : '(' ∉ text ∧ ')' ∉ text
  noBraces : '\x7b' ∉ text ∧ '\x7d' ∉ text
  noSemicolon : ';' ∉ text

theorem Plain.all_text {words : List Text} (p : Plain words) : LoopToken.all words p.text = [] := by
  rw [LoopToken.all_quiet p.quiet, List.filterMap_eq_nil_iff]
  intro c hc
  cases hm : LoopToken.ofMark? c with
  | none => rfl
  | some token =>
    have hmark := LoopToken.mem_marks hm
    simp only [List.mem_cons, List.not_mem_nil, or_false] at hmark
    rcases hmark with rfl | rfl | rfl | rfl | rfl
    · exact absurd hc p.noParens.1
    · exact absurd hc p.noParens.2
    · exact absurd hc p.noBraces.1
    · exact absurd hc p.noBraces.2
    · exact absurd hc p.noSemicolon

/-- A plain part gives no token where what stands behind it has no parenthesis. -/
theorem Plain.all_text_append {words : List Text} (p : Plain words) {t : Text} (ht : Apart t)
    (hparen : '(' ∉ t) : LoopToken.all words (p.text ++ t) = LoopToken.all words t := by
  rw [LoopToken.all_append ht (LoopToken.opensCall_of_not_mem hparen), p.all_text, List.nil_append]

end SourceAudit
