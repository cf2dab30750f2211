import Mathlib.Data.List.Infix
import SourceAudit.Text.Basic

/-!
  Texts put together from parts.

  What is proved:
    1. `append_inj_of_stops` — a text that begins with a stretch of characters of one kind,
       and does not go on with it, can be cut behind it in one way only.
    2. `holds_append_mark` — a word without the mark stands before it or behind it.
    3. `lowerAfter_append` — small letters are found in each part alone, if the second
       part does not go on with a cased letter: only the sigma that ends a word looks at
       what comes behind it, and it looks no further.
-/
namespace SourceAudit

namespace Text

/-! ## Stretches -/

/-- Whether a text is over, or goes on with a character that is not of a kind. -/
def Stops (kind : Char → Bool) (t : Text) : Prop := ∀ c ∈ t.head?, kind c = false

section
variable {kind : Char → Bool}

theorem stops_nil : Stops kind [] := fun _ h => nomatch h

theorem stops_cons {c : Char} {rest : Text} (h : kind c = false) : Stops kind (c :: rest) := by
  intro d hd
  obtain rfl := Option.some.inj hd
  exact h

/-- A stretch is as long as the text says, whatever comes behind it. -/
theorem append_inj_of_stops {xs ys rest others : Text} (hxs : ∀ c ∈ xs, kind c = true)
    (hys : ∀ c ∈ ys, kind c = true) (hrest : Stops kind rest) (hothers : Stops kind others)
    (h : xs ++ rest = ys ++ others) : xs = ys ∧ rest = others := by
  induction xs generalizing ys with
  | nil =>
    cases ys with
    | nil => exact ⟨rfl, h⟩
    | cons y ys =>
      have hy : kind y = false := hrest y (by rw [← List.nil_append rest, h]; rfl)
      rw [hys y List.mem_cons_self] at hy
      cases hy
  | cons x xs ih =>
    cases ys with
    | nil =>
      have hx : kind x = false := hothers x (by rw [← List.nil_append others, ← h]; rfl)
      rw [hxs x List.mem_cons_self] at hx
      cases hx
    | cons y ys =>
      obtain ⟨rfl, htail⟩ := List.cons.inj h
      obtain ⟨rfl, hsame⟩ := ih (fun c hc => hxs c (List.mem_cons_of_mem _ hc))
        (fun c hc => hys c (List.mem_cons_of_mem _ hc)) htail
      exact ⟨rfl, hsame⟩

/-- Parts before the first separator are equal if the texts are. -/
theorem append_cons_inj {separator : Char} {xs ys rest others : Text} (hxs : separator ∉ xs)
    (hys : separator ∉ ys) (h : xs ++ separator :: rest = ys ++ separator :: others) :
    xs = ys ∧ rest = others := by
  have hkind : ∀ {t : Text}, separator ∉ t → ∀ c ∈ t, (c != separator) = true := by
    intro t ht c hc
    simpa using ne_of_mem_of_not_mem hc ht
  have hstops : ∀ t : Text, Stops (· != separator) (separator :: t) := fun t => stops_cons (by simp)
  have hcut := append_inj_of_stops (hkind hxs) (hkind hys) (hstops rest) (hstops others) h
  exact ⟨hcut.1, (List.cons.inj hcut.2).2⟩

end

variable {part a b : Text} {mark : Char}

/-! ## Words of a text -/

theorem holds_iff_infix {t : Text} : holds part t = true ↔ part <:+: t := by
  induction t with
  | nil => simp [holds]
  | cons c rest ih =>
    rw [holds, Bool.or_eq_true, ih, List.isPrefixOf_iff_prefix, List.infix_cons_iff]

theorem prefix_append_mark (h : mark ∉ part) : part <+: a ++ mark :: b ↔ part <+: a := by
  induction a generalizing part with
  | nil =>
    cases part with
    | nil => simp
    | cons p part =>
      have hp : p ≠ mark := fun heq => h (heq ▸ List.mem_cons_self)
      simp [List.cons_prefix_cons, hp]
  | cons c a ih =>
    cases part with
    | nil => simp
    | cons p part =>
      have hpart : mark ∉ part := fun hmem => h (List.mem_cons_of_mem _ hmem)
      rw [List.cons_append, List.cons_prefix_cons, List.cons_prefix_cons, ih hpart]

theorem infix_append_mark (h : mark ∉ part) :
    part <:+: a ++ mark :: b ↔ part <:+: a ∨ part <:+: b := by
  induction a with
  | nil =>
    have hnil : part <+: mark :: b ↔ part <+: [] := prefix_append_mark (a := []) h
    rw [List.nil_append, List.infix_cons_iff, hnil, List.prefix_nil, List.infix_nil]
  | cons c a ih =>
    have hhead : part <+: c :: (a ++ mark :: b) ↔ part <+: c :: a :=
      prefix_append_mark (a := c :: a) h
    rw [List.cons_append, List.infix_cons_iff, ih, hhead, List.infix_cons_iff, or_assoc]

/-- A word in which a mark does not occur stands on one side of the mark. -/
theorem holds_append_mark (h : mark ∉ part) :
    holds part (a ++ mark :: b) = (holds part a || holds part b) := by
  rw [Bool.eq_iff_iff, Bool.or_eq_true, holds_iff_infix, holds_iff_infix, holds_iff_infix,
    infix_append_mark h]

end Text

namespace Unicode

/-! ## Small letters -/

/-- Whether the nearest character that is not inert has a case, behind a text and what stood before
it. -/
def casedBehind (before : Bool) (t : Text) : Bool :=
  t.foldl (fun flag c => if isInert c then flag else isCased c) before

/-- Whether a text goes on with a cased letter, inert marks aside. -/
def goesOnCased (t : Text) : Bool := (t.dropWhile isInert).head?.any isCased

theorem goesOnCased_cons {c : Char} (h : isInert c = false) (t : Text) :
    goesOnCased (c :: t) = isCased c := by
  rw [goesOnCased, List.dropWhile_cons_of_neg (by simp [h])]
  rfl

theorem goesOnCased_append {t rest : Text} (h : goesOnCased rest = false) :
    goesOnCased (t ++ rest) = goesOnCased t := by
  unfold goesOnCased at *
  rw [List.dropWhile_append]
  split
  · next hempty =>
    rw [List.isEmpty_iff.mp hempty, h]
    rfl
  · next hmore =>
    rw [List.head?_append_of_ne_nil _ fun hnil => hmore (List.isEmpty_iff.mpr hnil)]

/-- Any character but the sigma is put in small letters whatever stands around it. -/
theorem lowerAfter_cons {c : Char} (h : c ≠ 'Σ') (before : Bool) (rest : Text) :
    lowerAfter before (c :: rest) =
      lowers c ++ lowerAfter (if isInert c then before else isCased c) rest := by
  have hplain : (c == 'Σ') = false := by simpa using h
  rw [lowerAfter, hplain]
  rfl

theorem lowerAfter_of_notMem {t : Text} (h : 'Σ' ∉ t) (before : Bool) :
    lowerAfter before t = t.flatMap lowers := by
  induction t generalizing before with
  | nil => rfl
  | cons c rest ih =>
    obtain ⟨hc, hrest⟩ := List.ne_and_not_mem_of_not_mem_cons h
    rw [lowerAfter_cons (Ne.symm hc), ih hrest, List.flatMap_cons]

/-- The rule for the last sigma gives all small letters: it changes nothing where there is none. -/
theorem lowerText_eq (t : Text) : lowerText t = lowerAfter false t := by
  unfold lowerText
  split
  · rfl
  · next h => rw [lowerAfter_of_notMem (by simpa using h)]

/-- A text whose second part does not go on with a cased letter is put in small letters part by
part. -/
theorem lowerAfter_append {t rest : Text} (h : goesOnCased rest = false) (before : Bool) :
    lowerAfter before (t ++ rest) =
      lowerAfter before t ++ lowerAfter (casedBehind before t) rest := by
  induction t generalizing before with
  | nil => rfl
  | cons c t ih =>
    have hahead := goesOnCased_append (t := t) h
    unfold goesOnCased at hahead
    rw [List.cons_append, lowerAfter, lowerAfter, hahead, ih, List.append_assoc]
    rfl

end Unicode
end SourceAudit
