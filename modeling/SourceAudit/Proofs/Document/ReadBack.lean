import SourceAudit.Proofs.Document.CompactText
import SourceAudit.Proofs.Document.KeyedTables

/-!
  Compact JSON texts are read back.

  What is proved:
    1. `readNumber_whole` — a whole number is read as it was written, if it has no more
       digits than are read.
    2. `readItems_compact`, `readEntries_compact` — lists and tables are read item by item
       and entry by entry, from values that are read back.
    3. `readValue_compact` — so is every value without reals and moments whose tables have
       each name once, if it is not nested too deep (`Value.IsReadable`).
    4. `read_compact` — and then the whole text is read as the value.
-/
namespace SourceAudit

/-- Values that are read from their texts as they are: no reals and no moments, whole numbers with
as many digits as are read, tables with each name once, and at most the given number of lists and
tables within one another. -/
inductive Value.IsReadable : Nat → Value → Prop where
  | null {n : Nat} : IsReadable n .null
  | flag {n : Nat} (b : Bool) : IsReadable n (.flag b)
  | whole {n : Nat} {k : Int} (h : (toString k.natAbs).toList.length ≤ Number.maxDigits) :
    IsReadable n (.whole k)
  | text {n : Nat} (s : String) : IsReadable n (.text s)
  | list {n : Nat} {items : List Value} (h : ∀ v ∈ items, IsReadable n v) :
    IsReadable (n + 1) (.list items)
  | table {n : Nat} {entries : List (String × Value)} (hnames : (entries.map (·.1)).Nodup)
    (h : ∀ e ∈ entries, IsReadable n e.2) : IsReadable (n + 1) (.table entries)

theorem Value.IsReadable.isProper {n : Nat} {v : Value} (h : v.IsReadable n) : v.IsProper := by
  induction h with
  | null => exact .null
  | flag b => exact .flag b
  | whole h => exact .whole _
  | text s => exact .text s
  | list _ ih => exact .list ih
  | table _ _ ih => exact .table ih

namespace Json

/-! ## White space -/

theorem trim_cons {c : Char} (h : isSpace c = false) (t : Text) (offset : Nat) :
    (Rest.mk (c :: t) offset).trim = ⟨c :: t, offset⟩ := by
  simp [Rest.trim, Rest.skip, h]

theorem trim_space_cons {c : Char} (h : isSpace c = false) (t : Text) (offset : Nat) :
    (Rest.mk (' ' :: c :: t) offset).trim = ⟨c :: t, offset + 1⟩ := by
  have hspace : isSpace ' ' = true := by decide
  simp [Rest.trim, Rest.skip, h, hspace]

theorem skip_one (c : Char) (t : Text) (offset : Nat) :
    (Rest.mk (c :: t) offset).skip 1 = ⟨t, offset + 1⟩ := rfl

/-- The text of a value begins with a character that is no white space and closes nothing. -/
theorem exists_compact_cons {v : Value} (hv : v.IsProper) :
    ∃ c t, (compact v).toList = c :: t ∧ isSpace c = false ∧ c ≠ ']' ∧ c ≠ '\x7d' := by
  obtain ⟨c, t, ht, -, hc⟩ := opening_spec hv
  refine ⟨c, t, ht, ?_⟩
  rcases hc with ⟨-, hplain⟩ | ⟨hopening, -⟩
  · refine ⟨?_, ?_, ?_⟩
    · by_contra hspace
      simp only [isSpace, Bool.not_eq_false, Bool.or_eq_true, beq_iff_eq] at hspace
      rcases hspace with ((rfl | rfl) | rfl) | rfl <;> exact absurd hplain (by decide)
    · rintro rfl
      exact absurd hplain (by decide)
    · rintro rfl
      exact absurd hplain (by decide)
  · cases v <;> simp only [opening?, Option.some.injEq, reduceCtorEq] at hopening <;>
      (subst hopening; decide)

/-! ## Whole numbers -/

/-- The digits of a number begin with a zero only if the number is zero. -/
theorem head?_toString_ne {n : Nat} (h : n ≠ 0) : (toString n).toList.head? ≠ some '0' := by
  rw [Number.toList_toString]
  induction n using Nat.strong_induction_on with
  | _ n ih =>
    rcases Nat.lt_or_ge n 10 with hlt | hge
    · have hall : ∀ k < 10, k ≠ 0 → (Nat.toDigits 10 k).head? ≠ some '0' := by decide
      exact hall n hlt h
    · rw [Nat.toDigits_of_base_le (by decide) hge,
        List.head?_append_of_ne_nil _ Nat.toDigits_ne_nil]
      exact ih (n / 10) (Nat.div_lt_self (by omega) (by decide)) (by omega)

/-- The digits that are read of a number with something behind it that does not go on with it. -/
theorem leading_digits (n : Nat) {rest : Text} (hrest : Text.Stops isPlain rest) :
    (match (toString n).toList ++ rest with
      | '0' :: _ => ['0']
      | _ => ((toString n).toList ++ rest).takeWhile Char.isDigit) = (toString n).toList := by
  have hdigits := Number.allDigits_toString n
  have hstops : rest.takeWhile Char.isDigit = [] := by
    cases rest with
    | nil => rfl
    | cons c t =>
      have hc : c.isDigit = false := by
        by_contra hdigit
        have hplain : isPlain c = true := by
          simp [isPlain, Char.isAlphanum, Bool.not_eq_false .. ▸ hdigit]
        rw [hrest c rfl] at hplain
        cases hplain
      rw [List.takeWhile_cons, hc]
      rfl
  have htake : ((toString n).toList ++ rest).takeWhile Char.isDigit = (toString n).toList := by
    rw [List.takeWhile_append_of_pos hdigits, hstops, List.append_nil]
  rcases eq_or_ne n 0 with rfl | hne
  · rfl
  · split
    · next heq =>
      have hhead := head?_toString_ne hne
      obtain ⟨c, t, ht⟩ := List.exists_cons_of_ne_nil (Number.toString_ne_nil n)
      rw [ht, List.cons_append] at heq
      rw [ht, (List.cons.inj heq).1] at hhead
      exact absurd rfl hhead
    · exact htake

/-- No decimal places follow. -/
theorem stops_point {rest : Text} (hrest : Text.Stops isPlain rest) :
    (match rest with
      | '.' :: t => t.takeWhile Char.isDigit
      | _ => []) = [] := by
  split
  · exact absurd (hrest '.' rfl) (by decide)
  · rfl

/-- A sign leads the text of a number exactly if the number is negative. -/
theorem head?_toString_int (k : Int) (rest : Text) :
    (((toString k).toList ++ rest).head? == some '-') = decide (k < 0) := by
  rw [toList_toString_int]
  by_cases hsmall : k < 0
  · simp [hsmall]
  · obtain ⟨c, t, ht⟩ := List.exists_cons_of_ne_nil (Number.toString_ne_nil k.natAbs)
    have hc := Number.allDigits_toString k.natAbs c (by rw [ht]; exact List.mem_cons_self)
    have hsign : c ≠ '-' := by
      rintro rfl
      cases hc
    rw [if_neg hsmall, List.nil_append, ht, List.cons_append, List.head?_cons,
      decide_eq_false hsmall]
    simpa using hsign

/-- Behind the sign stand the digits. -/
theorem drop_sign (k : Int) (rest : Text) :
    (if decide (k < 0) = true then ((toString k).toList ++ rest).drop 1
      else (toString k).toList ++ rest) = (toString k.natAbs).toList ++ rest := by
  rw [toList_toString_int]
  by_cases hsmall : k < 0 <;> simp [hsmall]

theorem length_toString_int (k : Int) :
    (if decide (k < 0) = true then 1 else 0) + (toString k.natAbs).toList.length =
      (toString k).toList.length := by
  rw [toList_toString_int, List.length_append]
  by_cases hsmall : k < 0 <;> simp [hsmall]

theorem signed_natAbs (k : Int) : Number.signed (decide (k < 0)) k.natAbs = k := by
  unfold Number.signed
  simp only [decide_eq_true_eq]
  split <;> omega

theorem stops_exponent {e : Char} {t : Text} (h : Text.Stops isPlain (e :: t)) :
    (e == 'e' || e == 'E') = false := by
  have hplain : isPlain e = false := h e rfl
  by_contra hmark
  simp only [Bool.not_eq_false, Bool.or_eq_true, beq_iff_eq] at hmark
  rcases hmark with rfl | rfl <;> exact absurd hplain (by decide)

/-- A whole number is read as it was written. -/
theorem readNumber_whole {k : Int} (hk : (toString k.natAbs).toList.length ≤ Number.maxDigits)
    {rest : Text} (hrest : Text.Stops isPlain rest) (offset : Nat) :
    readNumber ⟨(toString k).toList ++ rest, offset⟩ =
      .ok (.whole k, ⟨rest, offset + (toString k).toList.length⟩) := by
  have hvalue : Number.ofDigitsWithin ((toString k.natAbs).toList.map digitValue) =
      .ok k.natAbs := by
    rw [Number.ofDigitsWithin, List.length_map, if_neg (by omega)]
    exact congrArg _ ((Number.ofDigits_digitValues _).trans (Number.ofDigitChars_toString _))
  have hskip : (Rest.mk ((toString k).toList ++ rest) offset).skip (toString k).toList.length =
      ⟨rest, offset + (toString k).toList.length⟩ := by
    rw [Rest.skip, List.drop_left]
  unfold readNumber
  -- What the reader takes for the sign, the digits, the decimal places and what is behind them.
  extract_lets negative body whole behind places further
  have hnegative : negative = decide (k < 0) := head?_toString_int k rest
  have hbody : body = (toString k.natAbs).toList ++ rest := by
    simp only [body, hnegative]
    exact drop_sign k rest
  have hwhole : whole = (toString k.natAbs).toList := by
    simp only [whole, hbody]
    exact leading_digits k.natAbs hrest
  have hbehind : behind = rest := by
    simp only [behind, hwhole, hbody]
    exact List.drop_left
  have hplaces : places = [] := by
    simp only [places, hbehind]
    exact stops_point hrest
  have hfurther : further = rest := by
    simp only [further, hplaces, hbehind]
    rfl
  rw [if_neg (by simp [hwhole]), hfurther, hplaces, hwhole]
  rcases rest with _ | ⟨e, t⟩
  case' cons =>
    dsimp only
    rw [stops_exponent hrest]
  -- Without decimal places and an exponent the number is whole.
  all_goals
    simp only [List.isEmpty_nil, Bool.and_self, Bool.false_eq_true, if_false, if_true, Nat.add_zero,
      hvalue, hnegative, signed_natAbs, length_toString_int, hskip]

/-! ## Values -/

/-- Whether a value that holds at most `n` lists and tables within one another is read from its
text, whatever comes behind it that does not go on with it. -/
def ReadsBack (n : Nat) (v : Value) : Prop :=
  ∀ (fuel depth offset : Nat) (rest : Text), (compact v).toList.length < fuel →
    depth + n ≤ maxDepth → Text.Stops isPlain rest →
    ∃ stop, readValue fuel depth ⟨(compact v).toList ++ rest, offset⟩ = .ok (v, ⟨rest, stop⟩)

theorem readsBack_null (n : Nat) : ReadsBack n .null := by
  intro fuel depth offset rest hfuel _ _
  obtain ⟨fuel, rfl⟩ := Nat.exists_eq_succ_of_ne_zero (Nat.ne_zero_of_lt hfuel)
  refine ⟨offset + 4, ?_⟩
  simp only [compact, String.reduceToList, List.cons_append, List.nil_append, readValue, words]
  rfl

theorem readsBack_flag (n : Nat) (b : Bool) : ReadsBack n (.flag b) := by
  intro fuel depth offset rest hfuel _ _
  obtain ⟨fuel, rfl⟩ := Nat.exists_eq_succ_of_ne_zero (Nat.ne_zero_of_lt hfuel)
  cases b with
  | false => exact ⟨offset + 5, rfl⟩
  | true => exact ⟨offset + 4, rfl⟩

theorem length_le_escapes (cs : Text) : cs.length ≤ (cs.flatMap escapeChar).length := by
  induction cs with
  | nil => exact Nat.le_refl _
  | cons c cs ih =>
    have hpos : 0 < (escapeChar c).length := by
      unfold escapeChar escapeUnit
      extract_lets
      repeat' split
      all_goals simp
    rw [List.flatMap_cons, List.length_append, List.length_cons]
    omega

/-- A string that is written here is read up to its closing quote. -/
theorem readString_string (name : String) (rest : Text) (offset : Nat) :
    ∃ stop, readString offset (((string name).toList ++ rest).length + 1)
      ((Rest.mk ((string name).toList ++ rest) offset).skip 1) [] = .ok (name, ⟨rest, stop⟩) := by
  have htext : (string name).toList ++ rest =
      '"' :: (name.toList.flatMap escapeChar ++ '"' :: rest) := by
    rw [toList_string]
    simp
  have hlength : name.toList.length < ((string name).toList ++ rest).length + 1 := by
    have := length_le_escapes name.toList
    simp only [htext, List.length_cons, List.length_append]
    omega
  obtain ⟨stop, hread⟩ := readString_escapes offset _ (offset + 1) name.toList rest [] hlength
  rw [List.reverse_nil, List.nil_append, String.ofList_toList] at hread
  exact ⟨stop, by rw [← hread, htext, skip_one]⟩

theorem readsBack_text (n : Nat) (s : String) : ReadsBack n (.text s) := by
  intro fuel depth offset rest hfuel _ _
  obtain ⟨fuel, rfl⟩ := Nat.exists_eq_succ_of_ne_zero (Nat.ne_zero_of_lt hfuel)
  obtain ⟨stop, hread⟩ := readString_string s rest offset
  refine ⟨stop, ?_⟩
  rw [compact]
  rw [toList_string, List.cons_append] at hread ⊢
  rw [readValue]
  dsimp only
  rw [hread]
  rfl

/-- What leads the text of a number is a digit or the sign. -/
theorem toString_leads {k : Int} {c : Char} {t rest : Text}
    (h : (toString k).toList ++ rest = c :: t) : c.isDigit = true ∨ c = '-' := by
  have hne : (toString k).toList ≠ [] := by
    rw [toList_toString_int]
    exact List.append_ne_nil_of_right_ne_nil _ (Number.toString_ne_nil _)
  obtain ⟨d, s, hs⟩ := List.exists_cons_of_ne_nil hne
  rw [hs, List.cons_append] at h
  obtain ⟨rfl, -⟩ := List.cons.inj h
  exact isDigit_or_of_mem_toString (by rw [hs]; exact List.mem_cons_self)

/-- A number begins with none of the words that stand for values: `-Infinity` alone has its sign in
front, and no digit behind it. -/
theorem find?_words_whole (k : Int) (rest : Text) :
    words.find? (fun w => w.1.toList.isPrefixOf ((toString k).toList ++ rest)) = none := by
  obtain ⟨c, t, ht⟩ := List.exists_cons_of_ne_nil (Number.toString_ne_nil k.natAbs)
  have hc := Number.allDigits_toString k.natAbs c (by rw [ht]; exact List.mem_cons_self)
  have hother : ∀ d : Char, d.isDigit = false → (d == c) = false := by
    intro d hd
    rw [beq_eq_false_iff_ne]
    rintro rfl
    rw [hd] at hc
    cases hc
  have hletters : ('n' == c) = false ∧ ('t' == c) = false ∧ ('f' == c) = false ∧
      ('N' == c) = false ∧ ('I' == c) = false ∧ ('-' == c) = false :=
    ⟨hother 'n' (by decide), hother 't' (by decide), hother 'f' (by decide), hother 'N' (by decide),
      hother 'I' (by decide), hother '-' (by decide)⟩
  rw [toList_toString_int, ht]
  by_cases hsmall : k < 0
  · simp only [hsmall, words, List.find?_cons, String.reduceToList, List.isPrefixOf, if_true,
      List.cons_append, List.nil_append, hletters]
    rfl
  · simp only [hsmall, words, List.find?_cons, String.reduceToList, List.isPrefixOf, if_false,
      List.cons_append, List.nil_append, hletters, Bool.false_and, List.find?_nil]

theorem readsBack_whole (n : Nat) {k : Int}
    (hk : (toString k.natAbs).toList.length ≤ Number.maxDigits) : ReadsBack n (.whole k) := by
  intro fuel depth offset rest hfuel _ hrest
  obtain ⟨fuel, rfl⟩ := Nat.exists_eq_succ_of_ne_zero (Nat.ne_zero_of_lt hfuel)
  refine ⟨offset + (toString k).toList.length, ?_⟩
  have hopens : ∀ c t, (toString k).toList ++ rest = c :: t → c ≠ '"' ∧ c ≠ '\x7b' ∧ c ≠ '[' := by
    intro c t ht
    rcases toString_leads ht with hdigit | rfl
    · refine ⟨?_, ?_, ?_⟩ <;> (rintro rfl; cases hdigit)
    · decide
  rw [compact, readValue]
  split
  · next heq => exact absurd rfl (hopens _ _ heq).1
  · next heq => exact absurd rfl (hopens _ _ heq).2.1
  · next heq => exact absurd rfl (hopens _ _ heq).2.2
  · rw [find?_words_whole]
    exact readNumber_whole hk hrest offset

/-! ## Lists and tables -/

section Nested

variable {n : Nat} {v : Value} {fuel depth offset : Nat}

theorem trim_compact (hv : v.IsProper) (t : Text) (offset : Nat) :
    (Rest.mk ((compact v).toList ++ t) offset).trim = ⟨(compact v).toList ++ t, offset⟩ := by
  obtain ⟨c, s, hs, hspace, -⟩ := exists_compact_cons hv
  rw [hs, List.cons_append, trim_cons hspace]

theorem trim_space_compact (hv : v.IsProper) (t : Text) (offset : Nat) :
    (Rest.mk (' ' :: ((compact v).toList ++ t)) offset).trim =
      ⟨(compact v).toList ++ t, offset + 1⟩ := by
  obtain ⟨c, s, hs, hspace, -⟩ := exists_compact_cons hv
  rw [hs, List.cons_append, trim_space_cons hspace]

theorem trim_space_string (name : String) (t : Text) (offset : Nat) :
    (Rest.mk (' ' :: ((string name).toList ++ t)) offset).trim =
      ⟨(string name).toList ++ t, offset + 1⟩ := by
  rw [toList_string, List.cons_append, trim_space_cons (by decide)]

/-- Items are read one after the other up to the bracket behind the last. -/
theorem readItems_compact {items : List Value} (hproper : ∀ w ∈ v :: items, w.IsProper)
    (hread : ∀ w ∈ v :: items, ReadsBack n w) (hdepth : depth + n ≤ maxDepth) (rest : Text)
    (fuel offset : Nat) (hfuel : ((compact v).toList ++ afterItem items).length < fuel)
    (done : List Value) :
    ∃ stop, readItems fuel depth ⟨(compact v).toList ++ (afterItem items ++ rest), offset⟩ done =
      .ok (.list (done.reverse ++ v :: items), ⟨rest, stop⟩) := by
  -- On the items behind the first: the text of each is shorter than what bounds the work.
  induction items generalizing v fuel offset done with
  | nil =>
    obtain ⟨fuel, rfl⟩ := Nat.exists_eq_succ_of_ne_zero (Nat.ne_zero_of_lt hfuel)
    simp only [afterItem, List.length_append, List.length_singleton] at hfuel
    obtain ⟨stop, hv⟩ := hread v List.mem_cons_self fuel depth offset (afterItem [] ++ rest)
      (by omega) hdepth (stops_afterItem [] rest)
    refine ⟨stop + 1, ?_⟩
    rw [readItems, hv]
    dsimp only [afterItem, List.cons_append, List.nil_append]
    rw [trim_cons (by decide)]
    simp [skip_one]
  | cons w items ih =>
    obtain ⟨fuel, rfl⟩ := Nat.exists_eq_succ_of_ne_zero (Nat.ne_zero_of_lt hfuel)
    rw [List.forall_mem_cons] at hproper hread
    simp only [afterItem, List.length_append, List.length_cons] at hfuel
    obtain ⟨stop, hv⟩ := hread.1 fuel depth offset (afterItem (w :: items) ++ rest)
      (by omega) hdepth (stops_afterItem (w :: items) rest)
    obtain ⟨last, hrest⟩ := ih hproper.2 hread.2 fuel (stop + 1 + 1)
      (by rw [List.length_append]; omega) (v :: done)
    refine ⟨last, ?_⟩
    rw [readItems, hv]
    dsimp only [afterItem, List.cons_append]
    rw [trim_cons (by decide)]
    dsimp only
    rw [skip_one, List.append_assoc, trim_space_compact (List.forall_mem_cons.mp hproper.2).1,
      hrest, List.reverse_cons, List.append_assoc, List.singleton_append]
    rfl

/-- An entry is read up to what stands behind its value. -/
theorem readEntries_entry {name : String} (hproper : v.IsProper) (hread : ReadsBack n v)
    (hdepth : depth + n ≤ maxDepth) {t : Text} (ht : Text.Stops isPlain t) (fuel offset : Nat)
    (hfuel : (compact v).toList.length < fuel) (done : List (String × Value)) :
    ∃ stop, readEntries (fuel + 1) depth
        ⟨(string name).toList ++ ':' :: ' ' :: ((compact v).toList ++ t), offset⟩ done =
      match (Rest.mk t stop).trim.text with
      | '\x7d' :: _ =>
        .ok (.table (Value.enter done name v), (Rest.mk t stop).trim.skip 1)
      | ',' :: _ =>
        readEntries fuel depth ((Rest.mk t stop).trim.skip 1).trim (Value.enter done name v)
      | _ => .error (.malformed .noComma (Rest.mk t stop).trim.offset) := by
  obtain ⟨middle, hname⟩ := readString_string name (':' :: ' ' :: ((compact v).toList ++ t)) offset
  obtain ⟨stop, hv⟩ := hread fuel depth (middle + 1 + 1) t hfuel hdepth ht
  refine ⟨stop, ?_⟩
  rw [toList_string, List.cons_append] at hname ⊢
  rw [readEntries]
  dsimp only
  rw [hname]
  dsimp only
  rw [trim_cons (by decide)]
  dsimp only
  rw [skip_one, trim_space_compact hproper, hv]
  rfl

/-- What is entered under a name that stands nowhere else comes last. -/
theorem enter_fresh {name : String} {entries done : List (String × Value)}
    (hnames : ((done ++ (name, v) :: entries).map (·.1)).Nodup) :
    Value.enter done name v = done ++ [(name, v)] := by
  refine Value.enter_of_notMem v fun hmem => ?_
  rw [List.map_append, List.map_cons] at hnames
  exact List.disjoint_of_nodup_append hnames hmem List.mem_cons_self

/-- Entries are read one after the other up to the brace behind the last; each of them comes last
when it is entered, since its name is new. -/
theorem readEntries_compact {name : String} {entries : List (String × Value)}
    (hproper : ∀ e ∈ (name, v) :: entries, e.2.IsProper)
    (hread : ∀ e ∈ (name, v) :: entries, ReadsBack n e.2) (hdepth : depth + n ≤ maxDepth)
    (rest : Text) (fuel offset : Nat)
    (hfuel : ((string name).toList ++
      ':' :: ' ' :: ((compact v).toList ++ afterEntry entries)).length < fuel)
    {done : List (String × Value)}
    (hnames : ((done ++ (name, v) :: entries).map (·.1)).Nodup) :
    ∃ stop, readEntries fuel depth ⟨(string name).toList ++
        ':' :: ' ' :: ((compact v).toList ++ (afterEntry entries ++ rest)), offset⟩ done =
      .ok (.table (done ++ (name, v) :: entries), ⟨rest, stop⟩) := by
  -- On the entries behind the first: their names differ from one another and from those entered.
  induction entries generalizing name v fuel offset done with
  | nil =>
    obtain ⟨fuel, rfl⟩ := Nat.exists_eq_succ_of_ne_zero (Nat.ne_zero_of_lt hfuel)
    simp only [List.length_append, List.length_cons] at hfuel
    have hv : ReadsBack n v := hread _ List.mem_cons_self
    have hfirst : v.IsProper := hproper _ List.mem_cons_self
    obtain ⟨stop, hentry⟩ := readEntries_entry hfirst hv hdepth
      (stops_afterEntry [] rest) fuel offset (by omega) done
    refine ⟨stop + 1, ?_⟩
    rw [hentry]
    dsimp only [afterEntry, List.cons_append, List.nil_append]
    rw [trim_cons (by decide), enter_fresh hnames]
    rfl
  | cons e entries ih =>
    obtain ⟨fuel, rfl⟩ := Nat.exists_eq_succ_of_ne_zero (Nat.ne_zero_of_lt hfuel)
    obtain ⟨other, w⟩ := e
    simp only [afterEntry, List.length_append, List.length_cons] at hfuel
    have hv : ReadsBack n v := hread _ List.mem_cons_self
    have hfirst : v.IsProper := hproper _ List.mem_cons_self
    obtain ⟨stop, hentry⟩ := readEntries_entry hfirst hv hdepth
      (stops_afterEntry ((other, w) :: entries) rest) fuel offset (by omega) done
    -- What was entered before grows by this entry.
    have hdone : done ++ (name, v) :: (other, w) :: entries =
        Value.enter done name v ++ (other, w) :: entries := by
      rw [enter_fresh hnames, List.append_assoc, List.singleton_append]
    rw [hdone] at hnames ⊢
    obtain ⟨last, hrest⟩ := ih (List.forall_mem_cons.mp hproper).2 (List.forall_mem_cons.mp hread).2
      fuel (stop + 1 + 1) (by simp only [List.length_append, List.length_cons]; omega) hnames
    refine ⟨last, ?_⟩
    rw [hentry]
    dsimp only [afterEntry, List.cons_append]
    rw [trim_cons (by decide)]
    dsimp only
    simp only [skip_one, List.append_assoc, List.cons_append, trim_space_string]
    exact hrest

theorem readValue_bracket (hroom : depth < maxDepth) (t : Text) :
    readValue (fuel + 1) depth ⟨'[' :: t, offset⟩ =
      match (Rest.mk t (offset + 1)).trim.text with
      | ']' :: _ => .ok (.list [], (Rest.mk t (offset + 1)).trim.skip 1)
      | _ => readItems fuel (depth + 1) (Rest.mk t (offset + 1)).trim [] := by
  rw [readValue]
  exact if_neg (by omega)

theorem readValue_brace (hroom : depth < maxDepth) (t : Text) :
    readValue (fuel + 1) depth ⟨'\x7b' :: t, offset⟩ =
      match (Rest.mk t (offset + 1)).trim.text with
      | '\x7d' :: _ => .ok (.table [], (Rest.mk t (offset + 1)).trim.skip 1)
      | _ => readEntries fuel (depth + 1) (Rest.mk t (offset + 1)).trim [] := by
  rw [readValue]
  exact if_neg (by omega)

theorem readsBack_list {items : List Value} (hproper : ∀ w ∈ items, w.IsProper)
    (hread : ∀ w ∈ items, ReadsBack n w) : ReadsBack (n + 1) (.list items) := by
  intro fuel depth offset rest hfuel hdepth _
  obtain ⟨fuel, rfl⟩ := Nat.exists_eq_succ_of_ne_zero (Nat.ne_zero_of_lt hfuel)
  have hroom : depth < maxDepth := by omega
  cases items with
  | nil =>
    have htext : (compact (.list [])).toList = ['[', ']'] := by simp [compact, compactItems]
    refine ⟨offset + 1 + 1, ?_⟩
    rw [htext, List.cons_append, List.cons_append, List.nil_append, readValue_bracket hroom,
      trim_cons (by decide)]
    rfl
  | cons v items =>
    have hfirst := hproper v List.mem_cons_self
    rw [compact_list_cons, List.length_cons] at hfuel
    have hdeeper : depth + 1 + n ≤ maxDepth := by omega
    obtain ⟨stop, hitems⟩ := readItems_compact hproper hread hdeeper rest fuel (offset + 1)
      (by omega) []
    refine ⟨stop, ?_⟩
    rw [compact_list_cons, List.cons_append, readValue_bracket hroom, List.append_assoc,
      trim_compact hfirst]
    -- No text of a value is taken for the bracket of an empty list.
    split
    · next heq =>
      obtain ⟨c, t, ht, -, hbracket, -⟩ := exists_compact_cons hfirst
      rw [ht] at heq
      exact absurd (List.cons.inj heq).1 hbracket
    · exact hitems

theorem readsBack_table {entries : List (String × Value)} (hproper : ∀ e ∈ entries, e.2.IsProper)
    (hnames : (entries.map (·.1)).Nodup) (hread : ∀ e ∈ entries, ReadsBack n e.2) :
    ReadsBack (n + 1) (.table entries) := by
  intro fuel depth offset rest hfuel hdepth _
  obtain ⟨fuel, rfl⟩ := Nat.exists_eq_succ_of_ne_zero (Nat.ne_zero_of_lt hfuel)
  have hroom : depth < maxDepth := by omega
  cases entries with
  | nil =>
    have htext : (compact (.table [])).toList = ['\x7b', '\x7d'] := by
      simp [compact, compactEntries]
    refine ⟨offset + 1 + 1, ?_⟩
    rw [htext, List.cons_append, List.cons_append, List.nil_append, readValue_brace hroom,
      trim_cons (by decide)]
    rfl
  | cons e entries =>
    obtain ⟨name, v⟩ := e
    rw [compact_table_cons, List.length_cons] at hfuel
    have hdeeper : depth + 1 + n ≤ maxDepth := by omega
    have hfresh : ((([] : List (String × Value)) ++ (name, v) :: entries).map (·.1)).Nodup := hnames
    obtain ⟨stop, hentries⟩ := readEntries_compact hproper hread hdeeper rest fuel (offset + 1)
      (by omega) hfresh
    refine ⟨stop, ?_⟩
    rw [compact_table_cons, List.cons_append, readValue_brace hroom]
    simp only [List.append_assoc, List.cons_append]
    rw [toList_string, List.cons_append] at hentries ⊢
    rw [trim_cons (by decide)]
    exact hentries

end Nested

/-- A value that is readable is read from its text. -/
theorem readValue_compact {n : Nat} {v : Value} (h : v.IsReadable n) : ReadsBack n v := by
  induction h with
  | null => exact readsBack_null _
  | flag b => exact readsBack_flag _ b
  | whole hdigits => exact readsBack_whole _ hdigits
  | text s => exact readsBack_text _ s
  | list hitems ih => exact readsBack_list (fun w hw => (hitems w hw).isProper) ih
  | table hnames hentries ih =>
    exact readsBack_table (fun e he => (hentries e he).isProper) hnames ih

/-- The text of a readable value is read as the value. -/
theorem read_compact {n : Nat} {v : Value} (h : v.IsReadable n) (hn : n ≤ maxDepth) :
    read (compact v).toList = .ok v := by
  obtain ⟨stop, hread⟩ := readValue_compact h (2 * (compact v).toList.length + 2) 0 0 [] (by omega)
    (by omega) Text.stops_nil
  have htrim := trim_compact h.isProper [] 0
  rw [List.append_nil] at hread htrim
  rw [read, htrim, hread]
  rfl

end Json
end SourceAudit
