import Mathlib.Algebra.BigOperators.Group.List.Basic
import Mathlib.Algebra.Order.Ring.Int
import SourceAudit.Proofs.Text.TrimmedText
import SourceAudit.Skeleton.Parameters

/-!
  Parameter lists, joined by commas and cut again.

  A list is cut at its commas of depth zero, where a bracket of any kind changes the depth by
  one. The arrows of function types and channels hold a character that looks like a bracket,
  and change the depth too. What is proved:
    1. `splitFrom_joinWith` — joined texts are cut where they were joined, if each but the
       last leaves the depth as it was and no comma inside of one is at depth zero.
    2. `split_joinWith_iff` — and only then are the texts of the list given back: the pieces
       hold as many commas as the texts, one after the other.
    3. `split_parameters_iff` — so texts with balanced brackets are given back exactly if
       their arrows make up for each other where it counts; `split_channel` are two that are
       not.
-/
namespace SourceAudit

namespace Parameters

/-! ## Depths -/

/-- The characters that change the depth. -/
def marks : List Char := ['(', '[', '\x7b', '<', ')', ']', '\x7d', '>']

/-- The change of depth over a text. -/
def rise (t : Text) : Int := (t.map depthOf).sum

/-- The depths at the commas of a text that starts at some depth. -/
def commaDepths : Int → Text → List Int
  | _, [] => []
  | depth, c :: rest =>
    if c == ',' then depth :: commaDepths depth rest else commaDepths (depth + depthOf c) rest

/-- Texts that are cut where they are joined: each but the last leaves the depth as it was, and no
comma inside of one is at depth zero. -/
def CutApart (ts : List Text) : Prop :=
  (∀ t ∈ ts.dropLast, rise t = 0) ∧ ∀ t ∈ ts, 0 ∉ commaDepths 0 t

variable {depth : Int} {current t u pad : Text} {ts : List Text}

theorem depthOf_comma : depthOf ',' = 0 := rfl

theorem rise_cons (c : Char) (t : Text) : rise (c :: t) = depthOf c + rise t := List.sum_cons

theorem rise_append (t u : Text) : rise (t ++ u) = rise t + rise u := by
  rw [rise, List.map_append, List.sum_append]
  rfl

theorem commaDepths_cons (c : Char) (t : Text) (depth : Int) :
    commaDepths depth (c :: t) =
      (if c = ',' then [depth] else []) ++ commaDepths (depth + depthOf c) t := by
  by_cases h : c = ','
  · subst h
    simp [commaDepths, depthOf_comma]
  · simp [commaDepths, h]

theorem commaDepths_append (t u : Text) (depth : Int) :
    commaDepths depth (t ++ u) = commaDepths depth t ++ commaDepths (depth + rise t) u := by
  induction t generalizing depth with
  | nil => simp [commaDepths, rise]
  | cons c t ih =>
    rw [List.cons_append, commaDepths_cons, commaDepths_cons, ih, rise_cons, List.append_assoc,
      Int.add_assoc]

theorem depthOf_eq_zero {c : Char} (h : c ∉ marks) : depthOf c = 0 := by
  simp only [marks, List.mem_cons, List.not_mem_nil, or_false, not_or] at h
  simp [depthOf, h]

theorem depthOf_of_isBlank {c : Char} (h : Unicode.isBlank c = true) : depthOf c = 0 ∧ c ≠ ',' := by
  have hmarks : ((',' :: marks).all fun d => !Unicode.isBlank d) = true := by decide
  have hother : ∀ d ∈ ',' :: marks, c ≠ d := by
    rintro d hd rfl
    have hd := List.all_eq_true.mp hmarks c hd
    rw [h] at hd
    cases hd
  exact ⟨depthOf_eq_zero fun hmem => hother c (List.mem_cons_of_mem _ hmem) rfl,
    hother ',' List.mem_cons_self⟩

theorem rise_of_isBlank (h : pad.isBlank = true) : rise pad = 0 := by
  induction pad with
  | nil => rfl
  | cons c pad ih =>
    obtain ⟨hc, hrest⟩ := Bool.and_eq_true_iff.mp h
    rw [rise_cons, (depthOf_of_isBlank hc).1, ih hrest]
    rfl

theorem commaDepths_of_isBlank (h : pad.isBlank = true) (depth : Int) :
    commaDepths depth pad = [] := by
  induction pad generalizing depth with
  | nil => rfl
  | cons c pad ih =>
    obtain ⟨hc, hrest⟩ := Bool.and_eq_true_iff.mp h
    rw [commaDepths_cons, if_neg (depthOf_of_isBlank hc).2, ih hrest]
    rfl

theorem cutApart_cons_cons :
    CutApart (t :: u :: ts) ↔ (rise t = 0 ∧ 0 ∉ commaDepths 0 t) ∧ CutApart (u :: ts) := by
  simp only [CutApart, List.dropLast_cons_cons, List.forall_mem_cons]
  tauto

theorem cutApart_append_head (hpad : pad.isBlank = true) :
    CutApart ((pad ++ t) :: ts) ↔ CutApart (t :: ts) := by
  have hrise : rise (pad ++ t) = rise t := by rw [rise_append, rise_of_isBlank hpad, Int.zero_add]
  have hcommas : commaDepths 0 (pad ++ t) = commaDepths 0 t := by
    rw [commaDepths_append, commaDepths_of_isBlank hpad, rise_of_isBlank hpad]
    rfl
  cases ts with
  | nil => simp [CutApart, hcommas]
  | cons u us => rw [cutApart_cons_cons, cutApart_cons_cons, hrise, hcommas]

/-! ## Pieces -/

theorem splitFrom_cons (depth : Int) (current : Text) (c : Char) (rest : Text) :
    splitFrom depth current (c :: rest) =
      if c = ',' ∧ depth = 0 then current.reverse :: splitFrom depth [] rest
      else splitFrom (depth + depthOf c) (c :: current) rest := by
  by_cases hc : c = ','
  · subst hc
    simp [splitFrom, depthOf_comma]
  · simp [splitFrom, hc]

/-- Without a comma of depth zero a text goes into one piece. -/
theorem splitFrom_append (h : 0 ∉ commaDepths depth t) (current rest : Text) :
    splitFrom depth current (t ++ rest) =
      splitFrom (depth + rise t) (t.reverse ++ current) rest := by
  induction t generalizing depth current with
  | nil => simp [rise]
  | cons c t ih =>
    rw [commaDepths_cons, List.mem_append, not_or] at h
    have hstay : ¬ (c = ',' ∧ depth = 0) := by
      rintro ⟨hc, rfl⟩
      simp [hc] at h
    rw [List.cons_append, splitFrom_cons, if_neg hstay, ih h.2, rise_cons, Int.add_assoc,
      List.reverse_cons, List.append_assoc]
    rfl

/-- The first piece holds what was under way. -/
theorem splitFrom_eq_cons (depth : Int) (current t : Text) :
    ∃ piece pieces, splitFrom depth current t = piece :: pieces ∧
      current.count ',' ≤ piece.count ',' := by
  induction t generalizing depth current with
  | nil => exact ⟨current.reverse, [], rfl, Nat.le_of_eq List.count_reverse.symm⟩
  | cons c t ih =>
    rw [splitFrom_cons]
    split
    · exact ⟨current.reverse, splitFrom depth [] t, rfl, Nat.le_of_eq List.count_reverse.symm⟩
    · obtain ⟨piece, pieces, heq, hle⟩ := ih (depth + depthOf c) (c :: current)
      exact ⟨piece, pieces, heq, Nat.le_trans (List.count_le_count_cons) hle⟩

/-- A comma of depth zero in a text ends the first piece before all its commas are in it. -/
theorem count_piece_lt (h : 0 ∈ commaDepths depth t) (current rest : Text) :
    ∃ piece pieces, splitFrom depth current (t ++ rest) = piece :: pieces ∧
      piece.count ',' < current.count ',' + t.count ',' := by
  induction t generalizing depth current with
  | nil => cases h
  | cons c t ih =>
    rw [List.cons_append, splitFrom_cons]
    split
    · next hcut =>
      refine ⟨current.reverse, _, rfl, ?_⟩
      rw [List.count_reverse, hcut.1, List.count_cons_self]
      omega
    · next hstay =>
      have hlater : 0 ∈ commaDepths (depth + depthOf c) t := by
        rw [commaDepths_cons, List.mem_append] at h
        rcases h with h | h
        · split at h
          · next hc => exact absurd ⟨hc, (List.mem_singleton.mp h).symm⟩ hstay
          · cases h
        · exact h
      obtain ⟨piece, pieces, heq, hlt⟩ := ih hlater (c :: current)
      refine ⟨piece, pieces, heq, ?_⟩
      rw [List.count_cons] at hlt ⊢
      omega

/-- All commas are in the pieces or between two of them. -/
theorem sum_count_splitFrom (depth : Int) (current t : Text) :
    ((splitFrom depth current t).map (List.count ',')).sum + (splitFrom depth current t).length =
      current.count ',' + t.count ',' + 1 := by
  induction t generalizing depth current with
  | nil => simp [splitFrom]
  | cons c t ih =>
    rw [splitFrom_cons]
    split
    · next hcut =>
      have hrest := ih depth []
      rw [List.count_nil] at hrest
      rw [List.map_cons, List.sum_cons, List.length_cons, List.count_reverse, hcut.1,
        List.count_cons_self]
      omega
    · rw [ih, List.count_cons, List.count_cons]
      omega

theorem count_joinWith (hpad : pad.isBlank = true) (t : Text) (ts : List Text) :
    (Text.joinWith (',' :: pad) (t :: ts)).count ',' =
      ((t :: ts).map (List.count ',')).sum + ts.length := by
  induction ts generalizing t with
  | nil => simp [Text.joinWith]
  | cons u us ih =>
    rw [Text.joinWith_cons_cons, List.count_append, List.count_append, ih, List.count_cons_self,
      Text.count_of_isBlank hpad (by decide)]
    simp only [List.map_cons, List.sum_cons, List.length_cons]
    omega

/-! ## Joining and cutting -/

/-- Joined texts are cut where they were joined. -/
theorem splitFrom_joinWith (hpad : pad.isBlank = true) (h : CutApart (t :: ts)) :
    splitFrom 0 [] (Text.joinWith (',' :: pad) (t :: ts)) = t :: ts.map (pad ++ ·) := by
  induction ts generalizing t with
  | nil =>
    have hone := splitFrom_append (h.2 t List.mem_cons_self) [] []
    rw [List.append_nil, List.append_nil] at hone
    rw [Text.joinWith, hone, splitFrom, List.reverse_reverse]
    rfl
  | cons u us ih =>
    obtain ⟨⟨hrise, hcommas⟩, hrest⟩ := cutApart_cons_cons.mp h
    rw [Text.joinWith_cons_cons, splitFrom_append hcommas, hrise, List.append_nil, Int.add_zero,
      List.cons_append, splitFrom_cons, if_pos ⟨rfl, rfl⟩, List.reverse_reverse,
      ← Text.joinWith_append_head, ih ((cutApart_append_head hpad).mpr hrest)]
    rfl

/-- Pieces with as many commas as the texts, one after the other, are cut where the texts were
joined. -/
theorem cutApart_of_count (hpad : pad.isBlank = true)
    (h : (splitFrom 0 [] (Text.joinWith (',' :: pad) (t :: ts))).map (List.count ',') =
      (t :: ts).map (List.count ',')) : CutApart (t :: ts) := by
  induction ts generalizing t with
  | nil =>
    refine ⟨fun _ hmem => absurd hmem List.not_mem_nil, fun t' ht' hzero => ?_⟩
    rw [List.mem_singleton.mp ht'] at hzero
    obtain ⟨piece, pieces, heq, hlt⟩ := count_piece_lt hzero [] []
    rw [List.append_nil] at heq
    rw [Text.joinWith, heq, List.map_cons, List.map_cons, List.cons.injEq] at h
    rw [List.count_nil] at hlt
    omega
  | cons u us ih =>
    rw [Text.joinWith_cons_cons] at h
    have hcommas : 0 ∉ commaDepths 0 t := by
      intro hzero
      obtain ⟨piece, pieces, heq, hlt⟩ := count_piece_lt hzero [] _
      rw [heq, List.map_cons, List.map_cons, List.cons.injEq] at h
      rw [List.count_nil] at hlt
      omega
    rw [splitFrom_append hcommas, List.append_nil, List.cons_append, splitFrom_cons] at h
    split at h
    · next hcut =>
      -- the piece ends with the text, and the next one is cut from what follows
      have hrise : rise t = 0 := by omega
      rw [hcut.2, ← Text.joinWith_append_head, List.map_cons, List.map_cons, List.cons.injEq] at h
      have hnext : (pad ++ u).count ',' = u.count ',' := by
        rw [List.count_append, Text.count_of_isBlank hpad (by decide), Nat.zero_add]
      have hrest := ih (t := pad ++ u) (by rw [h.2, List.map_cons, List.map_cons, hnext])
      exact cutApart_cons_cons.mpr ⟨⟨hrise, hcommas⟩, (cutApart_append_head hpad).mp hrest⟩
    · -- the comma after the text would be in the piece
      obtain ⟨piece, pieces, heq, hle⟩ := splitFrom_eq_cons (0 + rise t + depthOf ',')
        (',' :: t.reverse) (pad ++ Text.joinWith (',' :: pad) (u :: us))
      rw [heq, List.map_cons, List.map_cons, List.cons.injEq] at h
      rw [List.count_cons_self, List.count_reverse] at hle
      omega

theorem trim_of_cutApart (hpad : pad.isBlank = true) (h : CutApart ts) :
    split (Text.joinWith (',' :: pad) ts) =
      (ts.map Text.trim).filter fun part => !part.isEmpty := by
  cases ts with
  | nil => rfl
  | cons t ts =>
    rw [split, splitFrom_joinWith hpad h, List.map_cons, List.map_cons, List.map_map]
    congr 2
    exact List.map_congr_left fun u _ => Text.trim_append_left hpad u

/-- The pieces of joined texts that are not blank are all there are, if they are as many as the
texts and hold as many commas. -/
theorem trim_splitFrom_of_split (hpad : pad.isBlank = true)
    (h : split (Text.joinWith (',' :: pad) (t :: ts)) = (t :: ts).map Text.trim) :
    (splitFrom 0 [] (Text.joinWith (',' :: pad) (t :: ts))).map Text.trim =
      (t :: ts).map Text.trim := by
  have hcount : List.count ',' ∘ Text.trim = List.count ',' :=
    funext (Text.count_trim (by decide))
  -- a piece that is left out holds no comma
  have hkept : ∀ pieces : List Text,
      ((pieces.filter fun part => !part.isEmpty).map (List.count ',')).sum =
        (pieces.map (List.count ',')).sum := by
    intro pieces
    induction pieces with
    | nil => rfl
    | cons piece pieces ih => cases piece <;> simp [ih]
  have hall := sum_count_splitFrom 0 [] (Text.joinWith (',' :: pad) (t :: ts))
  rw [count_joinWith hpad, List.count_nil] at hall
  have hsum := congrArg (fun parts => (parts.map (List.count ',')).sum) h
  simp only [split, hkept, List.map_map, hcount] at hsum
  have hlength := congrArg List.length h
  rw [split, List.length_map, List.length_cons] at hlength
  have hfull : ((splitFrom 0 [] (Text.joinWith (',' :: pad) (t :: ts))).map Text.trim).filter
      (fun part => !part.isEmpty) =
        (splitFrom 0 [] (Text.joinWith (',' :: pad) (t :: ts))).map Text.trim :=
    List.filter_sublist.eq_of_length (by rw [hlength, List.length_map]; omega)
  rw [← hfull]
  exact h

/-- Texts that are joined by commas are given back, trimmed, exactly if the commas between them
alone are at depth zero. -/
theorem split_joinWith_iff (hpad : pad.isBlank = true) (hts : ∀ t ∈ ts, t.isBlank = false) :
    split (Text.joinWith (',' :: pad) ts) = ts.map Text.trim ↔ CutApart ts := by
  constructor
  · intro h
    cases ts with
    | nil => simp [CutApart]
    | cons t ts =>
      refine cutApart_of_count hpad ?_
      have hcounts := congrArg (List.map (List.count ',')) (trim_splitFrom_of_split hpad h)
      rwa [List.map_map, List.map_map,
        show List.count ',' ∘ Text.trim = List.count ',' from
          funext (Text.count_trim (by decide))] at hcounts
  · intro h
    rw [trim_of_cutApart hpad h, List.filter_eq_self]
    intro part hpart
    obtain ⟨t, ht, rfl⟩ := List.mem_map.mp hpart
    have hne : Text.trim t ≠ [] := by
      rw [Ne, Text.trim_eq_nil_iff, hts t ht]
      decide
    simpa using hne

end Parameters

/-! ## Balanced texts -/

/-- The brackets that a comma may stand in. -/
inductive ListBracket where
  | round
  | square
  | curly
  | angle
  deriving DecidableEq, Repr

def ListBracket.opening : ListBracket → Char
  | round => '('
  | square => '['
  | curly => '\x7b'
  | angle => '<'

def ListBracket.closing : ListBracket → Char
  | round => ')'
  | square => ']'
  | curly => '\x7d'
  | angle => '>'

/-- The arrow of a function type, of a result, and of a channel. -/
inductive ListArrow where
  | function
  | result
  | channel
  deriving DecidableEq, Repr

def ListArrow.text : ListArrow → Text
  | function => ['=', '>']
  | result => ['-', '>']
  | channel => ['<', '-']

/-- The change of depth at an arrow. -/
def ListArrow.rise : ListArrow → Int
  | function => -1
  | result => -1
  | channel => 1

/-- A text with balanced brackets and with arrows, where a comma stands inside of brackets only. The
index says whether the text itself stands inside of brackets. -/
inductive BalancedText : Bool → Type where
  | done {inside : Bool} : BalancedText inside
  | char {inside : Bool} (c : Char) (plain : c ≠ ',' ∧ c ∉ Parameters.marks)
      (rest : BalancedText inside) : BalancedText inside
  | comma (rest : BalancedText true) : BalancedText true
  | arrow {inside : Bool} (a : ListArrow) (rest : BalancedText inside) : BalancedText inside
  | group {inside : Bool} (b : ListBracket) (inner : BalancedText true)
      (rest : BalancedText inside) : BalancedText inside

namespace BalancedText

variable {inside : Bool}

/-- The characters of the text. -/
def text {inside : Bool} : BalancedText inside → Text
  | done => []
  | char c _ rest => c :: rest.text
  | comma rest => ',' :: rest.text
  | arrow a rest => a.text ++ rest.text
  | group b inner rest => b.opening :: (inner.text ++ b.closing :: rest.text)

/-- Characters that are neither brackets nor commas, with what follows. -/
def chars {inside : Bool} : (t : Text) → t.all (fun c => decide (c ≠ ',' ∧ c ∉ Parameters.marks)) →
    BalancedText inside → BalancedText inside
  | [], _, rest => rest
  | c :: t, h, rest =>
    char c (of_decide_eq_true (Bool.and_eq_true_iff.mp h).1)
      (chars t (Bool.and_eq_true_iff.mp h).2 rest)

/-- How many more arrows look like an opening bracket than like a closing one. -/
def arrowRise {inside : Bool} : BalancedText inside → Int
  | done => 0
  | char _ _ rest => rest.arrowRise
  | comma rest => rest.arrowRise
  | arrow a rest => a.rise + rest.arrowRise
  | group _ inner rest => inner.arrowRise + rest.arrowRise

/-- What is counted at the commas of a text: the brackets around, and the arrows before. -/
def commaCounts {inside : Bool} : Int → BalancedText inside → List Int
  | _, done => []
  | n, char _ _ rest => rest.commaCounts n
  | n, comma rest => n :: rest.commaCounts n
  | n, arrow a rest => rest.commaCounts (n + a.rise)
  | n, group _ inner rest => inner.commaCounts (n + 1) ++ rest.commaCounts (n + inner.arrowRise)

/-- No arrow stands in the text. -/
def ArrowFree {inside : Bool} : BalancedText inside → Prop
  | done => True
  | char _ _ rest => rest.ArrowFree
  | comma rest => rest.ArrowFree
  | arrow _ _ => False
  | group _ inner rest => inner.ArrowFree ∧ rest.ArrowFree

theorem depthOf_opening (b : ListBracket) : Parameters.depthOf b.opening = 1 := by
  cases b <;> rfl

theorem depthOf_closing (b : ListBracket) : Parameters.depthOf b.closing = -1 := by
  cases b <;> rfl

theorem opening_ne_comma (b : ListBracket) : b.opening ≠ ',' := by cases b <;> decide

theorem closing_ne_comma (b : ListBracket) : b.closing ≠ ',' := by cases b <;> decide

theorem rise_arrow (a : ListArrow) : Parameters.rise a.text = a.rise := by cases a <;> rfl

theorem commaDepths_arrow (a : ListArrow) (n : Int) : Parameters.commaDepths n a.text = [] := by
  cases a <;> rfl

/-- The brackets of a balanced text cancel, so only its arrows change the depth. -/
theorem rise_text (t : BalancedText inside) : Parameters.rise t.text = t.arrowRise := by
  induction t with
  | done => rfl
  | char c plain rest ih =>
    rw [text, Parameters.rise_cons, Parameters.depthOf_eq_zero plain.2, ih, Int.zero_add]
    rfl
  | comma rest ih =>
    rw [text, Parameters.rise_cons, ih, Parameters.depthOf_comma, Int.zero_add]
    rfl
  | arrow a rest ih => rw [text, Parameters.rise_append, rise_arrow, ih]; rfl
  | group b inner rest ihInner ihRest =>
    rw [text, Parameters.rise_cons, Parameters.rise_append, Parameters.rise_cons, depthOf_opening,
      depthOf_closing, ihInner, ihRest, arrowRise]
    omega

/-- The depths at the commas are what is counted at them. -/
theorem commaDepths_text (t : BalancedText inside) (n : Int) :
    Parameters.commaDepths n t.text = t.commaCounts n := by
  induction t generalizing n with
  | done => rfl
  | char c plain rest ih =>
    rw [text, Parameters.commaDepths_cons, if_neg plain.1, Parameters.depthOf_eq_zero plain.2,
      Int.add_zero, ih]
    rfl
  | comma rest ih =>
    rw [text, Parameters.commaDepths_cons, if_pos rfl, Parameters.depthOf_comma, Int.add_zero, ih]
    rfl
  | arrow a rest ih =>
    rw [text, Parameters.commaDepths_append, commaDepths_arrow, rise_arrow, ih]
    rfl
  | group b inner rest ihInner ihRest =>
    have hback : n + 1 + inner.arrowRise + -1 = n + inner.arrowRise := by omega
    rw [text, Parameters.commaDepths_cons, if_neg (opening_ne_comma b), depthOf_opening,
      Parameters.commaDepths_append, rise_text, Parameters.commaDepths_cons,
      if_neg (closing_ne_comma b), depthOf_closing, hback, ihInner, ihRest]
    rfl

theorem arrowRise_of_arrowFree {t : BalancedText inside} (h : t.ArrowFree) : t.arrowRise = 0 := by
  induction t with
  | done => rfl
  | char _ _ rest ih => exact ih h
  | comma rest ih => exact ih h
  | arrow a rest => exact absurd h id
  | group b inner rest ihInner ihRest => rw [arrowRise, ihInner h.1, ihRest h.2]; rfl

/-- Without arrows a comma is at least one bracket deep. -/
theorem le_of_mem_commaCounts {t : BalancedText inside} (h : t.ArrowFree) {n m : Int}
    (hm : m ∈ t.commaCounts n) : (if inside then n else n + 1) ≤ m := by
  induction t generalizing n with
  | done => cases hm
  | char _ _ rest ih => exact ih h hm
  | comma rest ih =>
    rcases List.mem_cons.mp hm with rfl | hm
    · exact Int.le_refl _
    · exact ih h hm
  | arrow a rest => exact absurd h id
  | @group inside b inner rest ihInner ihRest =>
    rw [commaCounts, arrowRise_of_arrowFree h.1, Int.add_zero, List.mem_append] at hm
    rcases hm with hm | hm
    · have hdeep := ihInner h.1 hm
      rw [if_pos rfl] at hdeep
      split <;> omega
    · exact ihRest h.2 hm

/-- Texts whose arrows make up for each other: those of every text but the last, and those before a
comma never for the brackets around it. -/
def ArrowsEven (ts : List (BalancedText false)) : Prop :=
  (∀ t ∈ ts.dropLast, t.arrowRise = 0) ∧ ∀ t ∈ ts, 0 ∉ t.commaCounts 0

theorem cutApart_iff (ts : List (BalancedText false)) :
    Parameters.CutApart (ts.map text) ↔ ArrowsEven ts := by
  rw [Parameters.CutApart, ArrowsEven, ← List.map_dropLast]
  simp only [List.forall_mem_map, rise_text, commaDepths_text]

theorem arrowsEven_of_arrowFree {ts : List (BalancedText false)} (h : ∀ t ∈ ts, t.ArrowFree) :
    ArrowsEven ts := by
  refine ⟨fun t ht => arrowRise_of_arrowFree (h t (List.dropLast_subset ts ht)),
    fun t ht hzero => ?_⟩
  have hdeep := le_of_mem_commaCounts (h t ht) hzero
  exact absurd hdeep (by decide)

end BalancedText

namespace Parameters

/-- Parameters that are joined by a comma and a blank are given back exactly if their arrows make
up for each other; always, if they have none. -/
theorem split_parameters_iff (ts : List (BalancedText false))
    (hts : ∀ t ∈ ts, t.text.isBlank = false) :
    (split (Text.joinWith ", ".toList (ts.map BalancedText.text)) =
        ts.map (fun t => Text.trim t.text) ↔ BalancedText.ArrowsEven ts) ∧
      ((∀ t ∈ ts, t.ArrowFree) →
        split (Text.joinWith ", ".toList (ts.map BalancedText.text)) =
          ts.map fun t => Text.trim t.text) := by
  have hblank : ∀ t ∈ ts.map BalancedText.text, t.isBlank = false :=
    List.forall_mem_map.mpr hts
  have hpad : Text.isBlank [' '] = true := by decide
  have hiff := split_joinWith_iff hpad hblank
  rw [BalancedText.cutApart_iff, List.map_map] at hiff
  exact ⟨hiff, fun hfree => hiff.mpr (BalancedText.arrowsEven_of_arrowFree hfree)⟩

/-- A table of numbers, and a callback with two parameters. -/
def callbackParameters : List (BalancedText false) :=
  [.chars "seen: Map".toList (by decide) <|
      .group .angle (.chars "string".toList (by decide) <| .comma <|
        .chars " number".toList (by decide) .done) .done,
    .chars "done: ".toList (by decide) <|
      .group .round (.chars "a: A".toList (by decide) <| .comma <|
        .chars " b: B".toList (by decide) .done) <|
      .chars " ".toList (by decide) <| .arrow .function <| .chars " void".toList (by decide) .done]

/-- An arrow of the last parameter does no harm. -/
theorem split_parameters_callback :
    callbackParameters.map (·.text) =
        ["seen: Map<string, number>".toList, "done: (a: A, b: B) => void".toList] ∧
      split "seen: Map<string, number>, done: (a: A, b: B) => void".toList =
        ["seen: Map<string, number>".toList, "done: (a: A, b: B) => void".toList] := by
  have hblank : (callbackParameters.all fun t => t.text.isBlank == false) = true := by decide
  have heven : BalancedText.ArrowsEven callbackParameters :=
    ⟨List.forall_mem_singleton.mpr rfl,
      List.forall_mem_cons.mpr ⟨by decide, List.forall_mem_singleton.mpr (by decide)⟩⟩
  refine ⟨by decide,
    ((split_parameters_iff callbackParameters fun t ht => ?_).1.mpr heven).trans ?_⟩
  · exact beq_iff_eq.mp (List.all_eq_true.mp hblank t ht)
  · decide

/-- A channel to receive from, and a count. -/
def channelParameters : List (BalancedText false) :=
  [.chars "c ".toList (by decide) <| .arrow .channel <| .chars "chan int".toList (by decide) .done,
    .chars "n int".toList (by decide) .done]

/-- The arrow of a channel hides the comma after it. -/
theorem split_channel :
    channelParameters.map (fun t => Text.trim t.text) =
        ["c <-chan int".toList, "n int".toList] ∧
      split (Text.joinWith ", ".toList (channelParameters.map BalancedText.text)) =
        ["c <-chan int, n int".toList] := by
  decide

end Parameters
end SourceAudit
