import Mathlib.Data.List.Basic
import SourceAudit.Complexity.LoopToken

/-!
  The loop tokens of a text that is put together from parts.

  What is proved of `LoopToken.all`, for any loop words:
    1. `all_append` — a text may be cut in front of anything that neither goes on with a
       word nor opens a call. Everything about texts in a row comes from this.
    2. `all_mark`, `all_inert`, `all_blank_append`, `all_word_append` — what stands at the head
       of a text: a bracket or a semicolon, any other mark, blanks, or a word.
-/
namespace SourceAudit

/-! ## Blanks and words -/

/-- The code points of the blanks. -/
def Unicode.blankPoints : List Nat :=
  List.range' 9 5 ++ List.range' 28 4 ++ List.range' 0x2000 11 ++
    [0x20, 0x85, 0xa0, 0x1680, 0x2028, 0x2029, 0x202f, 0x205f, 0x3000]

theorem Unicode.mem_blankPoints {c : Char} (h : Unicode.isBlank c = true) :
    c.toNat ∈ Unicode.blankPoints := by
  have hspace : (c == ' ') = (c.toNat == 0x20) := by
    rw [Bool.eq_iff_iff, beq_iff_eq, beq_iff_eq, ← Char.toNat_inj]
    rfl
  simp only [Unicode.isBlank, hspace, Bool.or_eq_true, Bool.and_eq_true, decide_eq_true_eq,
    beq_iff_eq] at h
  simp only [Unicode.blankPoints, List.mem_append, List.mem_range'_1, List.mem_cons,
    List.not_mem_nil, or_false]
  grind

/-- No blank is a letter, a digit or an underscore. -/
theorem Unicode.isAlphanum_of_isBlank {c : Char} (h : Unicode.isBlank c = true) :
    c.isAlphanum = false ∧ (c == '_') = false := by
  have hletters : ∀ n ∈ Unicode.blankPoints,
      ¬ (48 ≤ n ∧ n ≤ 57) ∧ ¬ (65 ≤ n ∧ n ≤ 90) ∧ ¬ (97 ≤ n ∧ n ≤ 122) ∧ n ≠ 95 := by
    decide
  obtain ⟨hdigit, hupper, hlower, hline⟩ := hletters c.toNat (Unicode.mem_blankPoints h)
  constructor
  · delta Char.isAlphanum Char.isAlpha Char.isUpper Char.isLower Char.isDigit
    simp only [UInt32.le_iff_toNat_le, Bool.or_eq_false_iff, decide_eq_false_iff_not,
      ← Bool.decide_and]
    exact ⟨⟨hupper, hlower⟩, hdigit⟩
  · rw [beq_eq_false_iff_ne]
    rintro rfl
    exact hline rfl

/-- A blank is no part of a word. -/
theorem Unicode.isWord_of_isBlank {c : Char} (h : Unicode.isBlank c = true) :
    Unicode.isWord c = false := by
  have hcovers : ∀ n ∈ Unicode.blankPoints,
      (decide (128 ≤ n) && Unicode.covers Unicode.wordRanges n) = false := by
    decide +kernel
  obtain ⟨hascii, hne⟩ := Unicode.isAlphanum_of_isBlank h
  rw [Unicode.isWord, hascii, hne, hcovers c.toNat (Unicode.mem_blankPoints h)]
  rfl

/-- A text that does not go on with a word that stands before it. -/
def Apart (t : Text) : Prop := ∀ c ∈ t.head?, Unicode.isWord c = false

theorem apart_cons {c : Char} (hc : Unicode.isWord c = false) (t : Text) : Apart (c :: t) := by
  simpa [Apart] using hc

instance : (t : Text) → Decidable (Apart t)
  | [] => isTrue (by simp [Apart])
  | c :: t => decidable_of_iff (Unicode.isWord c = false) (by simp [Apart])

theorem Apart.append {a t : Text} (ha : Apart a) (ht : Apart t) : Apart (a ++ t) := by
  cases a with
  | nil => exact ht
  | cons c a => exact apart_cons (ha c rfl) _

theorem apart_of_isBlank {g : Text} (hg : g.isBlank = true) : Apart g := by
  cases g with
  | nil => simp [Apart]
  | cons c g =>
    simp only [Text.isBlank, List.all_cons, Bool.and_eq_true] at hg
    exact apart_cons (Unicode.isWord_of_isBlank hg.1) g

/-! ## Pieces -/

namespace Piece

/-- The piece of a character that is part of no word. -/
def ofChar (c : Char) : Piece := if Unicode.isBlank c then .gap else .mark c

theorem close_append (letters : Text) (rest : List Piece) :
    close letters rest = close letters [] ++ rest := by
  unfold close
  split <;> rfl

theorem eq_word_of_mem_close {x : Piece} {letters : Text} (h : x ∈ close letters []) :
    x = .word letters.reverse := by
  unfold close at h
  split at h
  · cases h
  · exact List.mem_singleton.mp h

theorem allFrom_word {c : Char} (hc : Unicode.isWord c = true) (letters rest : Text) :
    allFrom letters (c :: rest) = allFrom (c :: letters) rest := by
  simp [allFrom, hc]

theorem allFrom_other {c : Char} (hc : Unicode.isWord c = false) (letters rest : Text) :
    allFrom letters (c :: rest) = close letters [] ++ ofChar c :: all rest := by
  rw [allFrom, if_neg (by simp [hc]), close_append]
  rfl

theorem all_other {c : Char} (hc : Unicode.isWord c = false) (rest : Text) :
    all (c :: rest) = ofChar c :: all rest :=
  allFrom_other hc [] rest

/-- A character that is part of no word cuts a text. -/
theorem allFrom_append {c : Char} (hc : Unicode.isWord c = false) (letters a b : Text) :
    allFrom letters (a ++ c :: b) = allFrom letters a ++ ofChar c :: all b := by
  induction a generalizing letters with
  | nil => exact allFrom_other hc letters b
  | cons d rest ih =>
    rw [List.cons_append]
    cases hd : Unicode.isWord d with
    | true => rw [allFrom_word hd, allFrom_word hd, ih]
    | false =>
      rw [allFrom_other hd, allFrom_other hd, all, ih]
      simp [all]

theorem all_append {c : Char} (hc : Unicode.isWord c = false) (a b : Text) :
    all (a ++ c :: b) = all a ++ ofChar c :: all b :=
  allFrom_append hc [] a b

/-- Word characters in a row, with a word under way, are one word. -/
theorem allFrom_letters {w : Text} (hw : ∀ c ∈ w, Unicode.isWord c = true) (letters rest : Text) :
    allFrom letters (w ++ rest) = allFrom (w.reverse ++ letters) rest := by
  induction w generalizing letters with
  | nil => rfl
  | cons c w ih =>
    rw [List.cons_append, allFrom_word (hw c List.mem_cons_self),
      ih fun d hd => hw d (List.mem_cons_of_mem c hd)]
    simp

/-- A word and what does not go on with it. -/
theorem all_word_append {w : Text} (hw : w.all Unicode.isWord = true) (hne : w ≠ [])
    {rest : Text} (hrest : Apart rest) : all (w ++ rest) = .word w :: all rest := by
  have hclose : close w.reverse [] = [.word w] := by
    simp [close, hne]
  rw [all, allFrom_letters (List.all_eq_true.mp hw), List.append_nil]
  cases rest with
  | nil => exact hclose
  | cons c rest => rw [allFrom_other (hrest c rfl), hclose, all_other (hrest c rfl)]; rfl

/-- Looking for a parenthesis goes no further than to what is none. -/
theorem opensCall_append {q : List Piece} (hq : opensCall q = false) (p : List Piece) :
    opensCall (p ++ q) = opensCall p := by
  induction p with
  | nil => exact hq
  | cons x rest ih => cases x <;> simp [opensCall, ih]

end Piece

namespace LoopToken
variable {words : List Text}

/-! ## Cutting at a mark -/

/-- The marks that count are brackets and semicolons. -/
theorem mem_marks {m : Char} {token : LoopToken} (h : ofMark? m = some token) :
    m ∈ ['(', ')', '\x7b', '\x7d', ';'] := by
  unfold ofMark? at h
  by_contra hm
  simp only [List.mem_cons, List.not_mem_nil, or_false, not_or] at hm
  simp [hm] at h

/-- The marks that count are part of no word, no blanks, and no dots. -/
theorem of_ofMark? {m : Char} {token : LoopToken} (h : ofMark? m = some token) :
    Unicode.isWord m = false ∧ Piece.ofChar m = .mark m ∧ m ≠ '.' := by
  have hm := mem_marks h
  simp only [List.mem_cons, List.not_mem_nil, or_false] at hm
  rcases hm with rfl | rfl | rfl | rfl | rfl <;> decide

theorem ofPiecesFrom_gap (called : Bool) (rest : List Piece) :
    ofPiecesFrom words called (.gap :: rest) = ofPiecesFrom words called rest := by
  cases called <;> simp [ofPiecesFrom]

theorem ofPiecesFrom_word (called : Bool) (w : Text) (rest : List Piece) :
    ofPiecesFrom words called (.word w :: rest) =
      (if words.contains w then [loop] else []) ++ ofPiecesFrom words false rest := by
  simp only [ofPiecesFrom]
  split <;> rfl

/-- A dot before a word: a call, if the word is an iterator and a parenthesis follows. -/
theorem ofPiecesFrom_dot_word (called : Bool) (w : Text) (rest : List Piece) :
    ofPiecesFrom words called (.mark '.' :: .word w :: rest) =
      if iterators.contains w && Piece.opensCall rest then call :: ofPiecesFrom words true rest
      else ofPiecesFrom words false (.word w :: rest) := by
  simp [ofPiecesFrom]

/-- Any other mark, or a dot before anything else. -/
theorem ofPiecesFrom_mark {c : Char} {rest : List Piece}
    (h : ∀ w q, rest = .word w :: q → c = '.' → False) (called : Bool) :
    ofPiecesFrom words called (.mark c :: rest) =
      (if called then [] else (ofMark? c).toList) ++ ofPiecesFrom words false rest := by
  rw [ofPiecesFrom.eq_5 words called c rest h]
  cases called with
  | true => rfl
  | false => cases ofMark? c <;> rfl

/-- Pieces may be cut in front of what opens no call, unless a dot stands before the cut and a word
behind it; a parenthesis that belongs to a counted call stands before the cut. -/
theorem ofPiecesFrom_append {p q : List Piece}
    (hword : ∀ a, p = a ++ [.mark '.'] → ∀ w r, q ≠ .word w :: r)
    (hq : Piece.opensCall q = false) (called : Bool)
    (hcalled : called = true → Piece.opensCall p = true) :
    ofPiecesFrom words called (p ++ q) =
      ofPiecesFrom words called p ++ ofPiecesFrom words false q := by
  have hlater : ∀ {x : Piece} {rest : List Piece},
      (∀ a, x :: rest = a ++ [.mark '.'] → ∀ w r, q ≠ .word w :: r) →
        ∀ a, rest = a ++ [.mark '.'] → ∀ w r, q ≠ .word w :: r :=
    fun {x rest} h a ha => h (x :: a) (by rw [ha, List.cons_append])
  induction called, p using ofPiecesFrom.induct words with
  | case1 called =>
    cases called with
    | true => simp [Piece.opensCall] at hcalled
    | false => simp [ofPiecesFrom]
  | case2 called rest ih =>
    rw [List.cons_append, ofPiecesFrom_gap, ofPiecesFrom_gap, ih (hlater hword) hcalled]
  | case3 called w rest _ ih | case4 called w rest _ ih =>
    rw [List.cons_append, ofPiecesFrom_word, ofPiecesFrom_word, ih (hlater hword) (by simp),
      List.append_assoc]
  | case5 called w rest hcall ih =>
    have hopen : Piece.opensCall rest = true := (Bool.and_eq_true_iff.mp hcall).2
    rw [List.cons_append, List.cons_append, ofPiecesFrom_dot_word, ofPiecesFrom_dot_word,
      Piece.opensCall_append hq, if_pos hcall, if_pos hcall,
      ih (hlater (hlater hword)) fun _ => hopen, List.cons_append]
  | case6 called w rest hcall ih =>
    rw [List.cons_append, List.cons_append, ofPiecesFrom_dot_word, ofPiecesFrom_dot_word,
      Piece.opensCall_append hq, if_neg hcall, if_neg hcall]
    exact ih (hlater hword) (by simp)
  | case7 c rest hdot ih | case8 _ c rest hdot _ _ _ ih | case9 _ c rest hdot _ _ ih =>
    -- behind the mark there is a word only if there was one before the cut
    have hdot' : ∀ w r, rest ++ q = .word w :: r → c = '.' → False := by
      cases rest with
      | nil => exact fun w r h hc => hword [] (by rw [hc, List.nil_append]) w r h
      | cons x rest => simpa using hdot
    rw [List.cons_append, ofPiecesFrom_mark hdot', ofPiecesFrom_mark hdot,
      ih (hlater hword) (by simp), List.append_assoc]

/-- A text may be cut in front of what neither goes on with a word nor opens a call. -/
theorem all_append {t : Text} (ht : Apart t) (hcall : Piece.opensCall (Piece.all t) = false)
    (a : Text) : all words (a ++ t) = all words a ++ all words t := by
  cases t with
  | nil => simp [all, Piece.all, Piece.allFrom, Piece.close, ofPiecesFrom]
  | cons c t =>
    have hc := Piece.all_other (ht c rfl) t
    have hword : ∀ w r, Piece.all (c :: t) ≠ .word w :: r := by
      intro w r
      rw [hc, Piece.ofChar]
      split <;> simp
    rw [all, Piece.all_append (ht c rfl), ← hc,
      ofPiecesFrom_append (fun _ _ => hword) hcall _ (by simp)]
    rfl

/-- A text that a word may follow as one of its own: it ends with no word and no dot. -/
def Ends (t : Text) : Prop := ∀ c ∈ t.getLast?, Unicode.isWord c = false ∧ c ≠ '.'

instance (t : Text) : Decidable (Ends t) :=
  decidable_of_iff ((t.getLast?.all fun c => !Unicode.isWord c && c != '.') = true)
    (by simp [Ends, Option.all_eq_true])

/-- A text may be cut behind what ends so, in front of anything that opens no call. -/
theorem all_append_of_ends {a : Text} (ha : Ends a) {b : Text}
    (hcall : Piece.opensCall (Piece.all b) = false) :
    all words (a ++ b) = all words a ++ all words b := by
  rcases List.eq_nil_or_concat a with rfl | ⟨a, c, rfl⟩
  · rfl
  · obtain ⟨hc, hdot⟩ := ha c (by simp)
    have hpieces : ∀ b, Piece.all (a ++ [c] ++ b) =
        (Piece.all a ++ [Piece.ofChar c]) ++ Piece.all b := by
      intro b
      rw [List.append_assoc, List.singleton_append, Piece.all_append hc, List.append_assoc,
        List.singleton_append]
    have hword : ∀ p, Piece.all a ++ [Piece.ofChar c] = p ++ [.mark '.'] →
        ∀ w r, Piece.all b ≠ .word w :: r := by
      intro p hp
      have hlast := (List.append_inj' hp rfl).2
      unfold Piece.ofChar at hlast
      split at hlast <;> simp_all
    have hleft := hpieces []
    rw [List.append_nil, show Piece.all [] = [] from rfl, List.append_nil] at hleft
    rw [List.concat_eq_append, all, hpieces, ofPiecesFrom_append hword hcall _ (by simp), ← hleft]
    rfl

/-! ## The head of a text -/

/-- A mark that counts gives its token. -/
theorem all_mark {m : Char} {token : LoopToken} (h : ofMark? m = some token) (b : Text) :
    all words (m :: b) = token :: all words b := by
  obtain ⟨hword, hmark, hdot⟩ := of_ofMark? h
  rw [all, Piece.all_other hword, hmark, ofPiecesFrom_mark fun _ _ _ => hdot, h]
  rfl

/-- A mark that does not count gives none, unless it may belong to a call. -/
theorem all_inert {m : Char} (hword : Unicode.isWord m = false) (hdot : m ≠ '.')
    (h : ofMark? m = none) (b : Text) : all words (m :: b) = all words b := by
  rw [all, Piece.all_other hword, Piece.ofChar]
  split
  · rw [ofPiecesFrom_gap]
    rfl
  · rw [ofPiecesFrom_mark fun _ _ _ => hdot, h]
    rfl

/-- A mark that is no opening parenthesis cuts a text. -/
theorem all_append_mark {m : Char} {token : LoopToken} (h : ofMark? m = some token) (hm : m ≠ '(')
    (a b : Text) : all words (a ++ m :: b) = all words a ++ token :: all words b := by
  obtain ⟨hword, hmark, -⟩ := of_ofMark? h
  have hcall : Piece.opensCall (Piece.all (m :: b)) = false := by
    rw [Piece.all_other hword, hmark]
    simpa [Piece.opensCall] using hm
  rw [all_append (apart_cons hword b) hcall, all_mark h]

/-- Blanks at the head give no token. -/
theorem all_blank_append {g : Text} (hg : g.isBlank = true) (t : Text) :
    all words (g ++ t) = all words t := by
  induction g with
  | nil => rfl
  | cons c g ih =>
    simp only [Text.isBlank, List.all_cons, Bool.and_eq_true] at hg
    rw [← ih hg.2, List.cons_append, all, Piece.all_other (Unicode.isWord_of_isBlank hg.1),
      Piece.ofChar, if_pos hg.1, ofPiecesFrom_gap]
    rfl

/-- A word gives a token if it is a loop word. -/
theorem all_word_append {w : Text} (hw : w.all Unicode.isWord = true) (hne : w ≠ [])
    {rest : Text} (hrest : Apart rest) :
    all words (w ++ rest) = (if words.contains w then [loop] else []) ++ all words rest := by
  rw [all, Piece.all_word_append hw hne hrest, ofPiecesFrom_word]
  rfl

end LoopToken
end SourceAudit
