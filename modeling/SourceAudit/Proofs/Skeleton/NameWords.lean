import SourceAudit.Skeleton.Kind

/-!
  The words of a name.

  A name is cut while it is read; a word that is under way is given up at a character that
  belongs to no word, and a new one is begun where letters and digits meet or a capital
  starts. What is proved:
    1. `flatten_cutFrom` — no cut loses a character of a word or adds one.
    2. `of_mem_cutFrom` — a word holds letters only or digits only, since it goes on with a
       letter behind a letter alone, and with a digit behind a digit (`isLetter_of_goesOn`).
    3. `all_ascii` — the words of an ASCII name in small letters, one behind the other, are the
       letters and digits of the name in small letters.
-/
namespace SourceAudit
namespace NameWords

/-- ASCII letters. -/
def isLetter (c : Char) : Bool := isSmall c || isCapital c

/-- A word of letters only, or of digits only. -/
def IsUniform (w : Text) : Prop :=
  w ≠ [] ∧ ∃ letters : Bool, ∀ c ∈ w, isPart c = true ∧ isLetter c = letters

variable {letters t : Text}

theorem IsUniform.singleton {c : Char} (h : isPart c = true) : IsUniform [c] :=
  ⟨List.cons_ne_nil c [], isLetter c, fun d hd => by
    obtain rfl := List.mem_singleton.mp hd
    exact ⟨h, rfl⟩⟩

theorem IsUniform.reverse {w : Text} (h : IsUniform w) : IsUniform w.reverse := by
  obtain ⟨hne, letters, hall⟩ := h
  exact ⟨by simpa using hne, letters, fun c hc => hall c (List.mem_reverse.mp hc)⟩

/-! ## Cutting -/

/-- A decimal digit is no ASCII letter. -/
theorem isLetter_of_isDigit {c : Char} (h : Unicode.isDigit c = true) : isLetter c = false := by
  rw [Bool.eq_false_iff]
  intro hletter
  simp only [isLetter, isSmall, isCapital, Bool.or_eq_true, Bool.and_eq_true, decide_eq_true_eq,
    Char.le_def, UInt32.le_iff_toNat_le] at hletter
  have hcode : (65 ≤ c.toNat ∧ c.toNat ≤ 90) ∨ (97 ≤ c.toNat ∧ c.toNat ≤ 122) := hletter.symm
  have hdigit : c.isDigit = false := by
    rw [Bool.eq_false_iff, Char.isDigit, Ne, Bool.and_eq_true, decide_eq_true_eq, decide_eq_true_eq]
    rintro ⟨-, hle⟩
    have hle : c.toNat ≤ 57 := UInt32.le_iff_toNat_le.mp hle
    omega
  have hvalue : Unicode.digitValue? c = none := by
    rw [Unicode.digitValue?, hdigit, if_neg Bool.false_ne_true, if_pos (by omega)]
  rw [Unicode.isDigit, hvalue] at h
  cases h

/-- A word goes on with a letter behind a letter, and with a digit behind a digit. -/
theorem isLetter_of_goesOn {last c : Char} {next : Option Char} (hc : isPart c = true)
    (h : goesOn last c next = true) : isLetter c = isLetter last := by
  rw [goesOn] at h
  split at h
  · next hsmall => rw [isLetter, isLetter, hsmall, h, Bool.true_or]
  · next hsmall =>
    split at h
    · next hcapital =>
      obtain ⟨hlast, -⟩ := Bool.and_eq_true_iff.mp h
      rw [isLetter, isLetter, hcapital, hlast, Bool.or_true, Bool.or_true]
    · next hcapital =>
      have hdigit : Unicode.isDigit c = true := by simpa [isPart, hsmall, hcapital] using hc
      rw [isLetter_of_isDigit hdigit, isLetter_of_isDigit h]

theorem flatten_close (letters : Text) (rest : List Text) :
    (close letters rest).flatten = letters.reverse ++ rest.flatten := by
  cases letters <;> simp [close]

theorem of_mem_close {w : Text} {rest : List Text} (hw : w ∈ close letters rest) :
    (letters ≠ [] ∧ w = letters.reverse) ∨ w ∈ rest := by
  cases letters with
  | nil => exact .inr hw
  | cons c letters =>
    rcases List.mem_cons.mp hw with rfl | hw
    · exact .inl ⟨List.cons_ne_nil c letters, rfl⟩
    · exact .inr hw

/-- No cut loses a character of a word or adds one. -/
theorem flatten_cutFrom (letters t : Text) :
    (cutFrom letters t).flatten = letters.reverse ++ t.filter isPart := by
  induction t generalizing letters with
  | nil => simp [cutFrom, flatten_close]
  | cons c rest ih =>
    cases letters with
    | nil =>
      rw [cutFrom]
      split
      · next hc => simp [ih, hc]
      · next hc => simp [ih, hc]
    | cons last letters =>
      rw [cutFrom]
      split
      · next hc => simp [flatten_close, ih, show isPart c = false by simpa using hc]
      · next hc =>
        have hpart : isPart c = true := by simpa using hc
        split
        · simp [ih, hpart]
        · simp [flatten_close, ih, hpart]

/-- A word holds letters only or digits only, if the word under way does. -/
theorem of_mem_cutFrom (hletters : letters ≠ [] → IsUniform letters) :
    ∀ w ∈ cutFrom letters t, IsUniform w := by
  induction t generalizing letters with
  | nil =>
    intro w hw
    rw [cutFrom] at hw
    rcases of_mem_close hw with ⟨hne, rfl⟩ | hw
    · exact (hletters hne).reverse
    · cases hw
  | cons c rest ih =>
    intro w hw
    have hnone : ∀ w ∈ cutFrom [] rest, IsUniform w := ih fun hne => absurd rfl hne
    cases letters with
    | nil =>
      rw [cutFrom] at hw
      split at hw
      · next hc => exact ih (fun _ => .singleton hc) w hw
      · exact hnone w hw
    | cons last letters =>
      have hword := hletters (List.cons_ne_nil last letters)
      rw [cutFrom] at hw
      split at hw
      · rcases of_mem_close hw with ⟨-, rfl⟩ | hw
        · exact hword.reverse
        · exact hnone w hw
      · next hc =>
        have hpart : isPart c = true := by simpa using hc
        split at hw
        · next hgoes =>
          -- the word stays of one kind with the character
          obtain ⟨-, isLetters, hall⟩ := hword
          obtain ⟨-, hlast⟩ := hall last List.mem_cons_self
          refine ih (fun _ => ⟨List.cons_ne_nil c _, isLetters, ?_⟩) w hw
          refine List.forall_mem_cons.mpr ⟨⟨hpart, ?_⟩, hall⟩
          rw [isLetter_of_goesOn hpart hgoes, hlast]
        · rcases of_mem_close hw with ⟨-, rfl⟩ | hw
          · exact hword.reverse
          · exact ih (fun _ => .singleton hpart) w hw

/-! ## Small letters -/

/-- What holds of each ASCII character can be checked one by one. -/
theorem of_ascii {p : Char → Bool} (h : (List.range 128).all (fun n => p (Char.ofNat n)) = true)
    {c : Char} (hc : c.toNat < 128) : p c = true := by
  have hone := List.all_eq_true.mp h c.toNat (List.mem_range.mpr hc)
  rwa [Char.ofNat_toNat] at hone

theorem isAlphanum_toLower {c : Char} (hc : c.toNat < 128) :
    c.toLower.isAlphanum = isPart c := by
  simpa using of_ascii (p := fun c => c.toLower.isAlphanum == isPart c) (by decide) hc

theorem isLower_toLower {c : Char} (hc : c.toNat < 128) (h : isLetter c = true) :
    c.toLower.isLower = true := by
  simpa [h] using of_ascii (p := fun c => !isLetter c || c.toLower.isLower) (by decide) hc

theorem isDigit_toLower {c : Char} (hc : c.toNat < 128) (hpart : isPart c = true)
    (h : isLetter c = false) : c.toLower.isDigit = true := by
  simpa [h, hpart] using
    of_ascii (p := fun c => isLetter c || !isPart c || c.toLower.isDigit) (by decide) hc

/-- An ASCII text is put in small letters character by character. -/
theorem lower_ascii (h : ∀ c ∈ t, c.toNat < 128) : Text.lower t = t.map Char.toLower := by
  have hsigma : t.contains 'Σ' = false := by
    rw [List.contains_eq_mem, decide_eq_false_iff_not]
    intro hmem
    exact absurd (h 'Σ' hmem) (by decide)
  rw [Text.lower, Unicode.lowerText, hsigma, if_neg Bool.false_ne_true]
  induction t with
  | nil => rfl
  | cons c t ih =>
    obtain ⟨hc, ht⟩ := List.forall_mem_cons.mp h
    have hdotted : (c.toNat == 0x130) = false := by
      rw [beq_eq_false_iff_ne]
      omega
    have hlowers : Unicode.lowers c = [c.toLower] := by
      rw [Unicode.lowers, hdotted, if_neg Bool.false_ne_true, Unicode.lower, if_pos hc]
    have hrest : t.contains 'Σ' = false := (Bool.or_eq_false_iff.mp hsigma).2
    rw [List.flatMap_cons, hlowers, ih ht hrest]
    rfl

/-- The words of an ASCII name are not empty and hold small letters only or digits only. One behind
the other they are the name in small letters, without what is neither a letter nor a digit. -/
theorem all_ascii {name : Text} (h : ∀ c ∈ name, c.toNat < 128) :
    (∀ w ∈ all name, w ≠ [] ∧ ((∀ c ∈ w, c.isLower = true) ∨ ∀ c ∈ w, c.isDigit = true)) ∧
      (all name).flatten = (Text.lower name).filter Char.isAlphanum := by
  have hflatten : (cutFrom [] name).flatten = name.filter isPart := flatten_cutFrom [] name
  have hascii : ∀ w ∈ cutFrom [] name, ∀ c ∈ w, c.toNat < 128 := by
    intro w hw c hc
    have hmem : c ∈ (cutFrom [] name).flatten := List.mem_flatten.mpr ⟨w, hw, hc⟩
    rw [hflatten] at hmem
    exact h c (List.mem_filter.mp hmem).1
  have hlower : all name = (cutFrom [] name).map (List.map Char.toLower) :=
    List.map_congr_left fun w hw => lower_ascii (hascii w hw)
  constructor
  · intro v hv
    rw [hlower] at hv
    obtain ⟨w, hw, rfl⟩ := List.mem_map.mp hv
    obtain ⟨hne, isLetters, hall⟩ := of_mem_cutFrom (fun hne => absurd rfl hne) w hw
    refine ⟨by simpa using hne, ?_⟩
    cases isLetters with
    | true =>
      refine .inl fun d hd => ?_
      obtain ⟨c, hc, rfl⟩ := List.mem_map.mp hd
      exact isLower_toLower (hascii w hw c hc) (hall c hc).2
    | false =>
      refine .inr fun d hd => ?_
      obtain ⟨c, hc, rfl⟩ := List.mem_map.mp hd
      exact isDigit_toLower (hascii w hw c hc) (hall c hc).1 (hall c hc).2
  · calc (all name).flatten
        = (name.filter isPart).map Char.toLower := by
          rw [hlower, ← List.map_flatten, hflatten]
      _ = (name.filter (Char.isAlphanum ∘ Char.toLower)).map Char.toLower := by
          refine congrArg (List.map Char.toLower) (List.filter_congr fun c hc => ?_)
          exact (isAlphanum_toLower (h c hc)).symm
      _ = (Text.lower name).filter Char.isAlphanum := by
          rw [lower_ascii h, List.filter_map]

/-- A name with capitals in a row, single capitals, digits between words and other marks. -/
theorem all_ascii_header :
    let name : Text := "_parseHTTPHeader2x$A1b_C".toList
    (∀ c ∈ name, c.toNat < 128) ∧
      all name = ["parse", "http", "header", "2", "x", "a", "1", "b", "c"].map String.toList ∧
      (all name).flatten = "parsehttpheader2xa1bc".toList := by
  have hascii : ∀ c ∈ "_parseHTTPHeader2x$A1b_C".toList, c.toNat < 128 :=
    fun c hc => of_decide_eq_true (List.all_eq_true.mp
      (by decide : ("_parseHTTPHeader2x$A1b_C".toList.all fun c => decide (c.toNat < 128)) = true)
        c hc)
  exact ⟨hascii, by decide, (all_ascii hascii).2.trans (by decide)⟩

end NameWords
end SourceAudit
