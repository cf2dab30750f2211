import Mathlib.Data.List.TakeWhile
import Mathlib.Tactic.Linarith
import Mathlib.Tactic.NormNum
import Mathlib.Tactic.Ring
import SourceAudit.Number.Reading
import SourceAudit.Proofs.Text.MarkedText

/-!
  The texts of decimals, and how they are read.

  A decimal is taken apart (`Parts`): the digits before the point and behind, and an
  exponent. What is proved:
    1. `Parts.decimal?_text`, `Parts.fraction?_text` — the text of a decimal is read as
       its parts say, with a sign and without.
    2. `Parts.toList_layOut`, `Parts.value_ofLayOut` — digits laid out around the point
       are such a text, and it stands for the number that the digits and the place tell.
-/
namespace SourceAudit
namespace Number

/-! ## Decimals taken apart -/

/-- Characters that go on a run of digits: digits, and underscores between them. -/
def goesOn (c : Char) : Bool := Unicode.isDigit c || c == '_'

/-- A text of ASCII digits. -/
def AllDigits (t : Text) : Prop := ∀ c ∈ t, c.isDigit = true

theorem AllDigits.append {s t : Text} (hs : AllDigits s) (ht : AllDigits t) : AllDigits (s ++ t) :=
  fun c hc => (List.mem_append.mp hc).elim (hs c) (ht c)

theorem AllDigits.mono {s t : Text} (ht : AllDigits t) (h : s ⊆ t) : AllDigits s :=
  fun c hc => ht c (h hc)

theorem allDigits_zeros (n : ℕ) : AllDigits (List.replicate n '0') := by
  intro c hc
  rw [List.eq_of_mem_replicate hc]
  rfl

theorem toList_toString (n : ℕ) : (toString n).toList = Nat.toDigits 10 n := Nat.toList_repr

theorem allDigits_toString (n : ℕ) : AllDigits (toString n).toList := by
  rw [toList_toString]
  exact fun c hc => Nat.isDigit_of_mem_toDigits (by norm_num) (by norm_num) hc

theorem toString_ne_nil (n : ℕ) : (toString n).toList ≠ [] := by
  rw [toList_toString]
  exact Nat.toDigits_ne_nil

theorem ofDigitChars_toString (n : ℕ) : Nat.ofDigitChars 10 (toString n).toList 0 = n := by
  rw [toList_toString]
  exact Nat.ofDigitChars_toDigits (by norm_num) (by norm_num)

theorem ofDigitChars_zeros (n k : ℕ) :
    Nat.ofDigitChars 10 (List.replicate k '0') n = n * 10 ^ k := by
  induction k generalizing n with
  | zero => simp
  | succ k ih =>
    rw [List.replicate_succ, Nat.ofDigitChars_cons, ih, pow_succ]
    simp
    ring

theorem digitValue?_of_isDigit {c : Char} (h : c.isDigit = true) :
    Unicode.digitValue? c = some (c.toNat - '0'.toNat) := by
  simp only [Unicode.digitValue?, h, if_true]
  rfl

/-- The values of ASCII digits. -/
def digitValues (t : Text) : List Nat := t.map fun c => c.toNat - '0'.toNat

@[simp]
theorem digitValues_nil : digitValues [] = [] := rfl

theorem ofDigits_digitValues (t : Text) : ofDigits (digitValues t) = Nat.ofDigitChars 10 t 0 :=
  List.foldl_map

theorem digitValues_append (s t : Text) : digitValues (s ++ t) = digitValues s ++ digitValues t :=
  List.map_append

theorem digitValues_eq_nil_iff {t : Text} : digitValues t = [] ↔ t = [] := List.map_eq_nil_iff

/-- A run of digits ends where the text does not go on with one. -/
theorem digitRun_append {ds rest : Text} (hds : AllDigits ds) (hrest : Text.Stops goesOn rest) :
    digitRun (ds ++ rest) = (digitValues ds, rest) := by
  induction ds with
  | nil =>
    cases rest with
    | nil => rfl
    | cons c rest =>
      have hc := hrest c rfl
      simp only [goesOn, Unicode.isDigit, Bool.or_eq_false_iff, Option.isSome_eq_false_iff,
        Option.isNone_iff_eq_none] at hc
      cases rest with
      | nil => simp [digitRun, hc.1]
      | cons d rest =>
        by_cases hd : d = '_'
        · simp [digitRun, hd, hc.1]
        · simp [digitRun, hd, hc.1]
  | cons c ds ih =>
    have hc : c.isDigit = true := hds c List.mem_cons_self
    have htail := ih fun d hd => hds d (List.mem_cons_of_mem _ hd)
    rw [List.cons_append, digitValues, List.map_cons, ← digitValues]
    cases hmore : ds ++ rest with
    | nil =>
      obtain ⟨rfl, rfl⟩ := List.append_eq_nil_iff.mp hmore
      simp [digitRun, digitValue?_of_isDigit hc]
    | cons d more =>
      have hd : d ≠ '_' := by
        rintro rfl
        cases ds with
        | nil => exact absurd (hrest '_' (by rw [← List.nil_append rest, hmore]; rfl)) (by decide)
        | cons e ds =>
          obtain ⟨rfl, -⟩ := List.cons.inj hmore
          exact absurd (hds '_' (by simp)) (by decide)
      rw [hmore] at htail
      simp [digitRun, hd, digitValue?_of_isDigit hc, htail]

/-- The parts of an unsigned decimal. -/
structure Parts where
  whole : Text
  places : Text := []
  exponent : Option (Bool × Text) := none

namespace Parts

/-- The text of an exponent. -/
def exponentText : Option (Bool × Text) → Text
  | none => []
  | some (negative, size) => 'e' :: (if negative then '-' else '+') :: size

/-- The text of a decimal: the point is left out if no places follow it. -/
def text (p : Parts) : Text :=
  p.whole ++ ((if p.places.isEmpty then [] else '.' :: p.places) ++ exponentText p.exponent)

/-- The number that an exponent stands for. -/
def exponentValue : Option (Bool × Text) → Int
  | none => 0
  | some (negative, size) => signed negative (Nat.ofDigitChars 10 size 0)

/-- The digits of a decimal as a whole number. -/
def mantissa (p : Parts) : Nat := Nat.ofDigitChars 10 (p.whole ++ p.places) 0

/-- The power of ten of the last digit. -/
def power (p : Parts) : Int := exponentValue p.exponent - p.places.length

/-- A decimal has digits, and only digits, before the point and behind, and in its exponent. -/
structure IsProper (p : Parts) : Prop where
  whole_ne_nil : p.whole ≠ []
  whole : AllDigits p.whole
  places : AllDigits p.places
  exponent : ∀ e ∈ p.exponent, e.2 ≠ [] ∧ AllDigits e.2

/-- The text of a decimal shows that it is none of a whole number. -/
def IsMarked (p : Parts) : Prop := p.places ≠ [] ∨ p.exponent ≠ none

theorem IsMarked.exists_mem_text {p : Parts} (h : p.IsMarked) : ∃ c ∈ p.text, c = '.' ∨ c = 'e' := by
  unfold text
  rcases h with hplaces | hexponent
  · exact ⟨'.', by simp [hplaces], .inl rfl⟩
  · obtain ⟨e, he⟩ := Option.ne_none_iff_exists'.mp hexponent
    exact ⟨'e', by simp [he, exponentText], .inr rfl⟩

theorem stops_exponentText (kind : Char → Bool) (hkind : kind 'e' = false)
    (e : Option (Bool × Text)) : Text.Stops kind (exponentText e) := by
  cases e with
  | none => exact Text.stops_nil
  | some e => exact Text.stops_cons hkind

theorem exponent?_exponentText {e : Option (Bool × Text)}
    (h : ∀ x ∈ e, x.2 ≠ [] ∧ AllDigits x.2) : exponent? (exponentText e) = some (exponentValue e) := by
  cases e with
  | none => rfl
  | some e =>
    obtain ⟨negative, size⟩ := e
    obtain ⟨hne, hdigits⟩ : size ≠ [] ∧ AllDigits size := h _ rfl
    have hrun := digitRun_append hdigits Text.stops_nil
    rw [List.append_nil] at hrun
    cases hvalues : digitValues size with
    | nil => exact absurd (digitValues_eq_nil_iff.mp hvalues) hne
    | cons d ds =>
      rw [hvalues] at hrun
      rw [exponentValue, ← ofDigits_digitValues, hvalues]
      cases negative <;> simp [exponentText, exponent?, signOf, hrun]

/-- The digits behind a point that leads a text, with what follows. -/
def placeRun : Text → List Nat × Text
  | '.' :: more => digitRun more
  | t => ([], t)

theorem decimal?_eq (negative : Bool) (t : Text) :
    decimal? negative t =
      let (ds, after) := digitRun t
      let (places, rest) := placeRun after
      if ds.isEmpty && places.isEmpty then none
      else
        (exponent? rest).map fun e =>
          Quantity.ofDecimal negative (ofDigits (ds ++ places)) (e - (places.length : Int)) := by
  unfold decimal?
  rcases digitRun t with ⟨ds, after⟩
  dsimp only
  split
  · rfl
  · next hnoPoint =>
    rw [placeRun.eq_2 _ hnoPoint]

/-- A decimal is read as its parts say. -/
theorem decimal?_text {p : Parts} (h : p.IsProper) (negative : Bool) :
    decimal? negative p.text = some (Quantity.ofDecimal negative p.mantissa p.power) := by
  have hexponent := exponent?_exponentText h.exponent
  have hstops := stops_exponentText goesOn (by decide) p.exponent
  have hruns : ∃ after, digitRun p.text = (digitValues p.whole, after) ∧
      placeRun after = (digitValues p.places, exponentText p.exponent) := by
    unfold text
    by_cases hplaces : p.places = []
    · refine ⟨exponentText p.exponent, ?_, ?_⟩
      · simpa [hplaces] using digitRun_append h.whole hstops
      · rw [hplaces]
        cases p.exponent <;> rfl
    · refine ⟨'.' :: (p.places ++ exponentText p.exponent), ?_, ?_⟩
      · simpa [hplaces] using digitRun_append h.whole (Text.stops_cons (by decide))
      · exact digitRun_append h.places hstops
  obtain ⟨after, hwhole, hbehind⟩ := hruns
  have hsome : (digitValues p.whole).isEmpty = false := by
    simpa [digitValues_eq_nil_iff] using h.whole_ne_nil
  rw [decimal?_eq, hwhole]
  simp only [hbehind, hsome, Bool.false_and, Bool.false_eq_true, if_false, hexponent, Option.map_some,
    mantissa, power, ← ofDigits_digitValues, digitValues_append]
  rw [digitValues, digitValues, List.length_map]

end Parts

/-! ## Digits around the point -/

namespace Parts

/-- The digits of the size of an exponent: two at least. -/
def sizeText (e : Int) : Text :=
  let size := toString e.natAbs
  (if size.length < 2 then "0" ++ size else size).toList

/-- The parts of digits laid out around the point at the given place. -/
def ofLayOut (digits : Text) (place : Int) : Parts :=
  if -4 < place && place ≤ 16 then
    if place ≤ 0 then
      { whole := ['0'], places := List.replicate (-place).toNat '0' ++ digits }
    else if (digits.length : Int) ≤ place then
      { whole := digits ++ List.replicate (place - digits.length).toNat '0', places := ['0'] }
    else { whole := digits.take place.toNat, places := digits.drop place.toNat }
  else
    { whole := digits.take 1
      places := digits.drop 1
      exponent := some (decide (place - 1 < 0), sizeText (place - 1)) }

theorem sizeText_eq (e : Int) :
    sizeText e = (toString e.natAbs).toList ∨ sizeText e = '0' :: (toString e.natAbs).toList := by
  unfold sizeText
  dsimp only
  split
  · exact .inr String.toList_append
  · exact .inl rfl

theorem sizeText_spec (e : Int) :
    sizeText e ≠ [] ∧ AllDigits (sizeText e) ∧ Nat.ofDigitChars 10 (sizeText e) 0 = e.natAbs := by
  rcases sizeText_eq e with h | h
  · rw [h]
    exact ⟨toString_ne_nil _, allDigits_toString _, ofDigitChars_toString _⟩
  · rw [h]
    exact ⟨List.cons_ne_nil _ _, (allDigits_zeros 1).append (allDigits_toString _),
      ofDigitChars_toString _⟩

theorem exponentValue_sizeText (e : Int) :
    exponentValue (some (decide (e < 0), sizeText e)) = e := by
  rw [exponentValue, (sizeText_spec e).2.2, signed]
  by_cases h : e < 0
  · rw [decide_eq_true h, if_pos rfl]
    omega
  · rw [decide_eq_false h, if_neg (by decide)]
    omega

theorem toList_layOut {digits : Text} (hdigits : digits ≠ []) (place : Int) :
    (layOut digits place).toList = (ofLayOut digits place).text := by
  unfold layOut ofLayOut text
  dsimp only
  split
  · split
    · simp [exponentText, hdigits]
    · split
      · simp [exponentText]
      · have hdrop : digits.drop place.toNat ≠ [] := by
          rw [ne_eq, List.drop_eq_nil_iff]
          omega
        simp [exponentText, hdrop]
  · obtain ⟨d, rest, rfl⟩ := List.exists_cons_of_ne_nil hdigits
    by_cases hrest : rest = []
    · by_cases hsign : place - 1 < 0 <;> simp [exponentText, sizeText, hrest, hsign]
    · by_cases hsign : place - 1 < 0 <;> simp [exponentText, sizeText, hrest, hsign]

theorem isProper_ofLayOut {digits : Text} (hne : digits ≠ []) (hdigits : AllDigits digits)
    (place : Int) : (ofLayOut digits place).IsProper := by
  unfold ofLayOut
  split
  · split
    · exact ⟨by simp, allDigits_zeros 1, (allDigits_zeros _).append hdigits, nofun⟩
    · split
      · exact ⟨by simp [hne], hdigits.append (allDigits_zeros _), allDigits_zeros 1, nofun⟩
      · refine ⟨?_, hdigits.mono (List.take_subset _ _), hdigits.mono (List.drop_subset _ _), nofun⟩
        rw [ne_eq, List.take_eq_nil_iff, not_or]
        exact ⟨by omega, hne⟩
  · refine ⟨?_, hdigits.mono (List.take_subset _ _), hdigits.mono (List.drop_subset _ _), ?_⟩
    · simpa [List.take_eq_nil_iff] using hne
    · intro e he
      rw [← Option.mem_some_iff.mp he]
      dsimp only
      exact ⟨(sizeText_spec _).1, (sizeText_spec _).2.1⟩

theorem isMarked_ofLayOut {digits : Text} (hne : digits ≠ []) (place : Int) :
    (ofLayOut digits place).IsMarked := by
  unfold ofLayOut
  split
  · left
    split
    · simp [hne]
    · split
      · simp
      · rw [ne_eq, List.drop_eq_nil_iff]
        omega
  · exact .inr nofun

/-- Digits around the point stand for the number that they and the place tell. -/
theorem value_ofLayOut {digits : Text} (hne : digits ≠ []) (place : Int) :
    ((ofLayOut digits place).mantissa : ℚ) * 10 ^ (ofLayOut digits place).power =
      Nat.ofDigitChars 10 digits 0 * 10 ^ (place - digits.length) := by
  unfold ofLayOut mantissa power
  split
  · split
    · have hzeros : Nat.ofDigitChars 10 ('0' :: (List.replicate (-place).toNat '0' ++ digits)) 0 =
          Nat.ofDigitChars 10 digits 0 := by
        rw [← List.cons_append, ← List.replicate_succ, Nat.ofDigitChars_append, ofDigitChars_zeros,
          Nat.zero_mul]
      simp only [List.singleton_append, hzeros, exponentValue, List.length_append,
        List.length_replicate]
      congr 2
      omega
    · split
      · next hwhole =>
        have hpower : (10 : ℚ) ^ (place - digits.length) = 10 ^ (place - digits.length).toNat := by
          rw [← zpow_natCast, Int.toNat_of_nonneg (by omega)]
        have hlast : ∀ n, Nat.ofDigitChars 10 ['0'] n = n * 10 := fun n => ofDigitChars_zeros n 1
        simp only [Nat.ofDigitChars_append, ofDigitChars_zeros, hlast, exponentValue, hpower]
        push_cast
        rw [zero_sub, List.length_singleton, Nat.cast_one, zpow_neg_one]
        ring
      · simp only [List.take_append_drop, exponentValue, List.length_drop]
        congr 2
        omega
  · simp only [List.take_append_drop, exponentValue_sizeText, List.length_drop]
    congr 2
    have := List.length_pos_iff.mpr hne
    omega

end Parts

/-! ## Numbers among other texts -/

/-- Characters of which numbers are made. -/
def isNumeral (c : Char) : Bool := c.isDigit || c == '.' || c == 'e' || c == '+' || c == '-'

theorem isSpace_of_isNumeral {c : Char} (h : isNumeral c = true) : isSpace c = false := by
  simp only [isNumeral, Bool.or_eq_true, beq_iff_eq] at h
  rcases h with (((hdigit | rfl) | rfl) | rfl) | rfl
  · have hrange : 48 ≤ c.toNat ∧ c.toNat ≤ 57 := by
      simpa [Char.isDigit, UInt32.le_iff_toNat_le] using hdigit
    have hspace : c ≠ ' ' := by
      rintro rfl
      exact absurd hdigit (by decide)
    simp [isSpace, Unicode.isBlank, hspace]
    omega
  all_goals rfl

/-- A text without white space is bare. -/
theorem bare_eq {t : Text} (h : ∀ c ∈ t, isSpace c = false) : bare t = t := by
  have hdrop : ∀ s : Text, (∀ c ∈ s, isSpace c = false) → s.dropWhile isSpace = s := by
    intro s hs
    cases s with
    | nil => rfl
    | cons c s => rw [List.dropWhile_cons_of_neg (by simp [hs c])]
  rw [bare, hdrop t h, hdrop _ fun c hc => h c (List.mem_reverse.mp hc), List.reverse_reverse]

theorem toLower_of_isDigit {c : Char} (h : c.isDigit = true) : c.toLower = c := by
  simp only [Char.isDigit, Bool.and_eq_true, decide_eq_true_eq] at h
  have hbelow : c.val.toNat ≤ 57 := h.2
  unfold Char.toLower
  rw [dif_neg]
  rintro ⟨hcapital, -⟩
  have habove : 65 ≤ c.val.toNat := hcapital
  omega

theorem isNumeral_of_isDigit {c : Char} (h : c.isDigit = true) : isNumeral c = true := by
  simp [isNumeral, h]

namespace Parts

theorem isNumeral_of_mem {p : Parts} (h : p.IsProper) {c : Char} (hc : c ∈ p.text) :
    isNumeral c = true := by
  rw [text, List.mem_append, List.mem_append] at hc
  rcases hc with hwhole | hplaces | hexponent
  · exact isNumeral_of_isDigit (h.whole c hwhole)
  · split at hplaces
    · cases hplaces
    · rcases List.mem_cons.mp hplaces with rfl | hplaces
      · rfl
      · exact isNumeral_of_isDigit (h.places c hplaces)
  · have hsize := h.exponent
    cases hparts : p.exponent with
    | none =>
      rw [hparts] at hexponent
      cases hexponent
    | some e =>
      rw [hparts, exponentText, List.mem_cons, List.mem_cons] at hexponent
      rcases hexponent with rfl | rfl | hdigit
      · rfl
      · split <;> rfl
      · exact isNumeral_of_isDigit ((hsize e hparts).2 c hdigit)

/-- A decimal begins with a digit. -/
theorem exists_text_eq_cons {p : Parts} (h : p.IsProper) :
    ∃ d rest, p.text = d :: rest ∧ d.isDigit = true := by
  obtain ⟨d, rest, hwhole⟩ := List.exists_cons_of_ne_nil h.whole_ne_nil
  refine ⟨d, _, by rw [text, hwhole, List.cons_append], h.whole d ?_⟩
  rw [hwhole]
  exact List.mem_cons_self

/-- A decimal with a sign or without is read as a decimal, and as nothing else. -/
theorem fraction?_text {p : Parts} (h : p.IsProper) (negative : Bool) :
    fraction? (if negative then '-' :: p.text else p.text) = decimal? negative p.text := by
  have hspace : ∀ c ∈ p.text, isSpace c = false := fun c hc =>
    isSpace_of_isNumeral (isNumeral_of_mem h hc)
  obtain ⟨d, rest, htext, hd⟩ := exists_text_eq_cons h
  have hsign : signOf (bare (if negative then '-' :: p.text else p.text)) = (negative, p.text) := by
    cases negative with
    | true =>
      rw [if_pos rfl, bare_eq (List.forall_mem_cons.mpr ⟨by decide, hspace⟩)]
      rfl
    | false =>
      rw [if_neg (by decide), bare_eq hspace, htext]
      unfold signOf
      split
      · next heq => exact absurd ((List.cons.inj heq).1 ▸ hd) (by decide)
      · next heq => exact absurd ((List.cons.inj heq).1 ▸ hd) (by decide)
      · rfl
  -- No word for what is no finite number begins with a digit.
  have hword : ∀ w ∈ ["inf", "infinity", "nan"],
      (String.ofList (p.text.map Char.toLower) == w) = false := by
    intro w hw
    apply beq_eq_false_iff_ne.mpr
    rintro rfl
    rw [htext, List.map_cons, toLower_of_isDigit hd] at hw
    simp only [List.mem_cons, List.not_mem_nil, or_false, ← String.toList_inj,
      String.toList_ofList] at hw
    rcases hw with hw | hw | hw <;>
      exact absurd ((List.cons.inj hw).1 ▸ hd) (by decide)
  simp only [fraction?, hsign, hword "inf" (by simp), hword "infinity" (by simp),
    hword "nan" (by simp), Bool.or_self, Bool.false_eq_true, if_false]

end Parts

end Number
end SourceAudit
