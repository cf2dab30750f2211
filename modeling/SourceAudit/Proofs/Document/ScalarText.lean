import SourceAudit.Document.JsonReader
import SourceAudit.Document.JsonWriter
import SourceAudit.Proofs.Number.ShortestText

/-!
  Strings, numbers and words in JSON texts.

  What is proved:
    1. `readString_escapeChar` — one step: the reader takes the escape of a character for
       that character, also where it is a surrogate pair.
    2. `readString_escapes` — a string up to its closing quote is read as it was written,
       whatever follows; so a text that begins with a string begins with no other one
       (`string_cut`).
    3. `toString_inj`, `Quantity.number_inj` with `exists_mark` — no two numbers are
       written alike: a real is marked by a character that no whole number has.
    4. `eq_of_opening?_none` — nor are a number and a word, or two words.
    5. `cut_of_opening?_none` — a number or a word ends where the text goes on with a
       character that is in none of them.

  Reals have to be such as the number format has: others are rounded when written.
-/
namespace SourceAudit

namespace Json

/-! ## Escapes of UTF-16 units -/

theorem hexValue?_hexDigit {n : Nat} (h : n < 16) :
    Number.hexValue? (Number.hexDigit n) = some n := by
  have hall : ∀ k < 16, Number.hexValue? (Number.hexDigit k) = some k := by decide
  exact hall n h

theorem hexDigits_four (n : Nat) :
    Number.hexDigits 4 n = [Number.hexDigit (n / 4096 % 16), Number.hexDigit (n / 256 % 16),
      Number.hexDigit (n / 16 % 16), Number.hexDigit (n % 16)] := by
  simp [Number.hexDigits, Nat.div_div_eq_div_mul]

/-- Four digits are read as the unit that they were written for. -/
theorem unit?_hexDigits {n : Nat} (h : n < 0x10000) (rest : Text) :
    unit? (Number.hexDigits 4 n ++ rest) = some n := by
  have hvalue : 4096 * (n / 4096 % 16) + 256 * (n / 256 % 16) + 16 * (n / 16 % 16) + n % 16 = n := by
    omega
  simp only [hexDigits_four, List.cons_append, unit?,
    hexValue?_hexDigit (Nat.mod_lt _ (by decide : 0 < 16)), hvalue]

/-- A character is no surrogate. -/
theorem charOf_toNat (c : Char) : charOf c.toNat = c := by
  have hvalid : c.toNat < 0xd800 ∨ 0xdfff < c.toNat ∧ c.toNat < 0x110000 := c.valid
  rw [charOf, if_neg (by omega), Char.ofNat_toNat]

section Step

variable (opening fuel offset : Nat) {rest : Text} (done : Text)

/-- The escape of a unit that is no first half of a pair is read as its character. -/
theorem readString_escapeUnit {n : Nat} (hn : n < 0x10000) (hsingle : ¬ (0xd800 ≤ n ∧ n < 0xdc00))
    (hrest : rest ≠ []) :
    readString opening (fuel + 1) ⟨escapeUnit n ++ rest, offset⟩ done =
      readString opening fuel ⟨rest, offset + 6⟩ (charOf n :: done) := by
  have hlength : ¬ (Number.hexDigits 4 n ++ rest).length < 5 := by
    have := List.length_pos_iff.mpr hrest
    simp only [hexDigits_four, List.length_append, List.length_cons, List.length_nil]
    omega
  have hunit := unit?_hexDigits hn rest
  simp only [escapeUnit, List.cons_append, readString, hlength, if_false, hunit, hsingle]
  simp [Rest.skip, hexDigits_four]

/-- The escapes of a pair are read as its character. -/
theorem readString_escapePair {high low : Nat} (hhigh : 0xd800 ≤ high ∧ high < 0xdc00)
    (hlow : 0xdc00 ≤ low ∧ low < 0xe000) (hrest : rest ≠ []) :
    readString opening (fuel + 1) ⟨escapeUnit high ++ (escapeUnit low ++ rest), offset⟩ done =
      readString opening fuel ⟨rest, offset + 12⟩
        (charOf (0x10000 + (high - 0xd800) * 0x400 + (low - 0xdc00)) :: done) := by
  have hpos := List.length_pos_iff.mpr hrest
  have hlength : ¬ (Number.hexDigits 4 high ++ (escapeUnit low ++ rest)).length < 5 := by
    simp only [hexDigits_four, escapeUnit, List.length_append, List.length_cons, List.length_nil]
    omega
  have hsecond : ¬ (Number.hexDigits 4 low ++ rest).length < 5 := by
    simp only [hexDigits_four, List.length_append, List.length_cons, List.length_nil]
    omega
  have hunit := unit?_hexDigits (by omega : high < 0x10000) (escapeUnit low ++ rest)
  have hother := unit?_hexDigits (by omega : low < 0x10000) rest
  have hdrop : (Number.hexDigits 4 high ++ (escapeUnit low ++ rest)).drop 4 =
      '\\' :: 'u' :: (Number.hexDigits 4 low ++ rest) := by
    simp [hexDigits_four, escapeUnit]
  rw [show escapeUnit high ++ (escapeUnit low ++ rest) =
    '\\' :: 'u' :: (Number.hexDigits 4 high ++ (escapeUnit low ++ rest)) from rfl]
  simp only [readString, hlength, if_false, hunit, hhigh, hdrop, hsecond, hother, hlow, and_self,
    if_true]
  simp [Rest.skip, hexDigits_four, escapeUnit]

/-- A character that stands for itself is read as it is. -/
theorem readString_self {c : Char} (hquote : c ≠ '"') (hbackslash : c ≠ '\\')
    (hprinted : 32 ≤ c.toNat) :
    readString opening (fuel + 1) ⟨c :: rest, offset⟩ done =
      readString opening fuel ⟨rest, offset + 1⟩ (c :: done) := by
  have hcontrol : ¬ c.toNat ≤ 0x1f := by omega
  simp [readString, hcontrol, Rest.skip, hbackslash]

/-- The escape of a character is read as that character. -/
theorem readString_escapeChar (c : Char) (hrest : rest ≠ []) :
    readString opening (fuel + 1) ⟨escapeChar c ++ rest, offset⟩ done =
      readString opening fuel ⟨rest, offset + (escapeChar c).length⟩ (c :: done) := by
  have hnamed : ∀ n, (c.toNat == n) = true → c = Char.ofNat n := by
    intro n hn
    rw [← beq_iff_eq.mp hn, Char.ofNat_toNat]
  have hvalid : c.toNat < 0xd800 ∨ 0xdfff < c.toNat ∧ c.toNat < 0x110000 := c.valid
  unfold escapeChar
  extract_lets n m
  split
  · next h => rw [beq_iff_eq.mp h]; rfl
  split
  · next h => rw [beq_iff_eq.mp h]; rfl
  split
  · next h => rw [beq_iff_eq.mp h]; rfl
  split
  · next h => rw [beq_iff_eq.mp h]; rfl
  split
  · next h => rw [beq_iff_eq.mp h]; rfl
  split
  · next h => rw [hnamed 8 h]; rfl
  split
  · next h => rw [hnamed 12 h]; rfl
  split
  · next hquote hbackslash _ _ _ _ _ hprinted =>
    exact readString_self opening fuel offset done (by simpa using hquote)
      (by simpa using hbackslash) hprinted.1
  split
  · next hunit =>
    rw [readString_escapeUnit opening fuel offset done hunit (by omega) hrest, charOf_toNat]
    simp [escapeUnit, hexDigits_four]
  · next hpair =>
    have hpoint : 0x10000 + (0xd800 + m / 0x400 - 0xd800) * 0x400 + (0xdc00 + m % 0x400 - 0xdc00) =
        c.toNat := by
      omega
    rw [List.append_assoc, readString_escapePair opening fuel offset done (by omega) (by omega) hrest,
      hpoint, charOf_toNat]
    simp [escapeUnit, hexDigits_four]

end Step

/-! ## Strings -/

/-- Characters up to the closing quote are read as they were written. -/
theorem readString_escapes (opening fuel offset : Nat) (cs rest done : Text)
    (hfuel : cs.length < fuel) :
    ∃ stop, readString opening fuel ⟨cs.flatMap escapeChar ++ '"' :: rest, offset⟩ done =
      .ok (String.ofList (done.reverse ++ cs), ⟨rest, stop⟩) := by
  induction cs generalizing fuel offset done with
  | nil =>
    obtain ⟨fuel, rfl⟩ := Nat.exists_eq_succ_of_ne_zero (Nat.ne_of_gt hfuel)
    exact ⟨offset + 1, by simp [readString, Rest.skip]⟩
  | cons c cs ih =>
    obtain ⟨fuel, rfl⟩ := Nat.exists_eq_succ_of_ne_zero (Nat.ne_zero_of_lt hfuel)
    rw [List.length_cons] at hfuel
    obtain ⟨stop, hread⟩ := ih fuel (offset + (escapeChar c).length) (c :: done) (by omega)
    refine ⟨stop, ?_⟩
    rw [List.flatMap_cons, List.append_assoc, readString_escapeChar _ _ _ _ _ (by simp), hread,
      List.reverse_cons, List.append_assoc, List.singleton_append]

theorem toList_string (s : String) :
    (string s).toList = '"' :: (s.toList.flatMap escapeChar ++ ['"']) := by
  simp [string]

/-- What follows the opening quote tells the string and where it ends. -/
theorem string_cut {s t : String} {rest others : Text}
    (h : (string s).toList ++ rest = (string t).toList ++ others) : s = t ∧ rest = others := by
  simp only [toList_string, List.cons_append, List.append_assoc, List.nil_append, List.cons.injEq,
    true_and] at h
  obtain ⟨stop, hread⟩ := readString_escapes 0 (s.toList.length + t.toList.length + 1) 0 s.toList
    rest [] (by omega)
  obtain ⟨stop', hread'⟩ := readString_escapes 0 (s.toList.length + t.toList.length + 1) 0 t.toList
    others [] (by omega)
  rw [h, hread'] at hread
  simp only [Except.ok.injEq, Prod.mk.injEq, Rest.mk.injEq, List.reverse_nil, List.nil_append,
    String.ofList_toList] at hread
  exact ⟨hread.1.symm, hread.2.1.symm⟩

end Json

namespace Value

/-- Whether the number format has all reals of a value. -/
inductive IsProper : Value → Prop where
  | null : IsProper .null
  | flag (b : Bool) : IsProper (.flag b)
  | whole (n : Int) : IsProper (.whole n)
  | real {q : Quantity} (h : q.IsProper) : IsProper (.real q)
  | text (s : String) : IsProper (.text s)
  | moment (kind s : String) : IsProper (.moment kind s)
  | list {items : List Value} (h : ∀ v ∈ items, IsProper v) : IsProper (.list items)
  | table {entries : List (String × Value)} (h : ∀ e ∈ entries, IsProper e.2) :
    IsProper (.table entries)

end Value

namespace Json

/-- Characters of numbers and words. -/
def isPlain (c : Char) : Bool := c.isAlphanum || c == '.' || c == '+' || c == '-'

/-- A character that no whole number has. -/
def IsMark (c : Char) : Prop := c.isDigit = false ∧ c ≠ '-'

theorem isPlain_of_isNumeral {c : Char} (h : Number.isNumeral c = true) : isPlain c = true := by
  simp only [Number.isNumeral, Bool.or_eq_true, beq_iff_eq] at h
  rcases h with (((hdigit | rfl) | rfl) | rfl) | rfl
  · simp [isPlain, Char.isAlphanum, hdigit]
  all_goals rfl

/-- A real is written with plain characters, and is marked as none of the whole numbers. -/
theorem number_spec {q : Quantity} (h : q.IsProper) :
    (∀ c ∈ (number q).toList, isPlain c = true) ∧ ∃ c ∈ (number q).toList, IsMark c := by
  cases q with
  | negativeZero => exact ⟨List.all_eq_true.mp (by decide), '.', by decide, by decide, by decide⟩
  | infinite negative =>
    cases negative <;>
      exact ⟨List.all_eq_true.mp (by decide), 'I', by decide, by decide, by decide⟩
  | undefined => exact ⟨List.all_eq_true.mp (by decide), 'N', by decide, by decide, by decide⟩
  | finite q =>
    rcases eq_or_ne q 0 with rfl | hne
    · exact ⟨List.all_eq_true.mp (by decide +kernel), '.', by decide +kernel, by decide, by decide⟩
    · obtain ⟨p, hp, hmarked, -, htext⟩ := Number.exists_parts hne h.1
      have hplain : ∀ c ∈ p.text, isPlain c = true := fun c hc =>
        isPlain_of_isNumeral (Number.Parts.isNumeral_of_mem hp hc)
      obtain ⟨mark, hmark, hwhich⟩ := hmarked.exists_mem_text
      have hmem : ∀ c ∈ p.text, c ∈ (number (.finite q)).toList := by
        intro c hc
        change c ∈ (Number.shortestText q).toList
        rw [htext]
        split
        · exact List.mem_cons_of_mem _ hc
        · exact hc
      refine ⟨?_, mark, hmem mark hmark, ?_⟩
      · intro c hc
        change c ∈ (Number.shortestText q).toList at hc
        rw [htext] at hc
        split at hc
        · rcases List.mem_cons.mp hc with rfl | hc
          · rfl
          · exact hplain c hc
        · exact hplain c hc
      · rcases hwhich with rfl | rfl <;> exact ⟨by decide, by decide⟩

theorem toList_toString_int (n : Int) :
    (toString n).toList = (if n < 0 then ['-'] else []) ++ (toString n.natAbs).toList := by
  cases n with
  | ofNat n => rfl
  | negSucc n =>
    rw [if_pos (Int.negSucc_lt_zero n)]
    exact String.toList_append

theorem isDigit_or_of_mem_toString {n : Int} {c : Char} (h : c ∈ (toString n).toList) :
    c.isDigit = true ∨ c = '-' := by
  rw [toList_toString_int, List.mem_append] at h
  rcases h with hsign | hdigits
  · split at hsign
    · exact .inr (List.mem_singleton.mp hsign)
    · cases hsign
  · exact .inl (Number.allDigits_toString _ c hdigits)

theorem minus_mem_toString_iff (n : Int) : '-' ∈ (toString n).toList ↔ n < 0 := by
  have hdigits : '-' ∉ (toString n.natAbs).toList := fun h =>
    absurd (Number.allDigits_toString _ _ h) (by decide)
  rw [toList_toString_int, List.mem_append, or_iff_left hdigits]
  split <;> simp [*]

/-- Whole numbers that are written alike are the same. -/
theorem toString_inj {m n : Int} (h : toString m = toString n) : m = n := by
  have hsign : m < 0 ↔ n < 0 := by
    rw [← minus_mem_toString_iff, ← minus_mem_toString_iff, h]
  have hsize : m.natAbs = n.natAbs := by
    have htext := congrArg String.toList h
    rw [toList_toString_int, toList_toString_int, if_congr hsign rfl rfl,
      List.append_cancel_left_eq] at htext
    have hvalue := congrArg (fun ds => Nat.ofDigitChars 10 ds 0) htext
    rwa [Number.ofDigitChars_toString, Number.ofDigitChars_toString] at hvalue
  omega

/-- The character with which the text of a value opens, if it is no number and no word. -/
def opening? : Value → Option Char
  | .text _ | .moment _ _ => some '"'
  | .list _ => some '['
  | .table _ => some '\x7b'
  | _ => none

section Scalars

variable {v w : Value} {rest others : Text}

/-- Numbers and words have plain characters, one at least. -/
theorem plain_of_opening?_none (hv : v.IsProper) (h : opening? v = none) :
    (compact v).toList ≠ [] ∧ ∀ c ∈ (compact v).toList, isPlain c = true := by
  cases v with
  | null => exact ⟨by decide, List.all_eq_true.mp (by decide)⟩
  | flag b => cases b <;> exact ⟨by decide, List.all_eq_true.mp (by decide)⟩
  | whole n =>
    change (toString n).toList ≠ [] ∧ ∀ c ∈ (toString n).toList, isPlain c = true
    constructor
    · rw [toList_toString_int]
      exact List.append_ne_nil_of_right_ne_nil _ (Number.toString_ne_nil _)
    · intro c hc
      rcases isDigit_or_of_mem_toString hc with hdigit | rfl
      · simp [isPlain, Char.isAlphanum, hdigit]
      · rfl
  | real q =>
    cases hv with
    | real hq =>
      obtain ⟨hplain, c, hc, -⟩ := number_spec hq
      exact ⟨List.ne_nil_of_mem hc, hplain⟩
  | text s | moment kind s | list items | table entries => cases h

/-- Words and reals are marked as none of the whole numbers. -/
theorem exists_mark (hv : v.IsProper) (h : opening? v = none) (hwhole : ∀ n, v ≠ .whole n) :
    ∃ c ∈ (compact v).toList, IsMark c := by
  cases v with
  | null => exact ⟨'l', by decide, by decide, by decide⟩
  | flag b => cases b <;> exact ⟨'e', by decide, by decide, by decide⟩
  | whole n => exact absurd rfl (hwhole n)
  | real q =>
    cases hv with
    | real hq => exact (number_spec hq).2
  | text s | moment kind s | list items | table entries => cases h

/-- A word is not read as a number. -/
theorem number_ne_word {q : Quantity} (hq : q.IsProper) {word : String}
    (hword : word ∈ ["null", "true", "false"]) : number q ≠ word := by
  have hunread : ∀ w ∈ ["null", "true", "false"], Number.fraction? w.toList = none := by
    decide +kernel
  rintro rfl
  have hread := hunread _ hword
  rw [Quantity.fraction?_number hq] at hread
  cases hread

theorem compact_flag_mem (b : Bool) : compact (.flag b) ∈ ["null", "true", "false"] := by
  cases b <;> decide

/-- What is written as a whole number is that number. -/
theorem eq_whole_of_compact {n : Int} (hv : v.IsProper) (hvo : opening? v = none)
    (h : compact v = compact (.whole n)) : v = .whole n := by
  by_contra hne
  have hwhole : ∀ m, v ≠ .whole m := by
    rintro m rfl
    exact hne (congrArg _ (toString_inj h))
  obtain ⟨c, hc, hmark⟩ := exists_mark hv hvo hwhole
  rw [h] at hc
  rcases isDigit_or_of_mem_toString hc with hdigit | rfl
  · rw [hmark.1] at hdigit
    cases hdigit
  · exact hmark.2 rfl

/-- Numbers and words that are written alike are the same. -/
theorem eq_of_opening?_none (hv : v.IsProper) (hw : w.IsProper) (hvo : opening? v = none)
    (hwo : opening? w = none) (h : compact v = compact w) : v = w := by
  cases v with
  | whole n => exact (eq_whole_of_compact hw hwo h.symm).symm
  | real q =>
    cases hv with | real hq =>
    cases w with
    | whole n => exact eq_whole_of_compact (.real hq) rfl h
    | real r =>
      cases hw with | real hr =>
      rw [Quantity.number_inj hq hr h]
    | null => exact absurd h (number_ne_word hq (by decide))
    | flag b => exact absurd h (number_ne_word hq (compact_flag_mem b))
    | text s | moment kind s | list items | table entries => cases hwo
  | null =>
    cases w with
    | whole n => exact eq_whole_of_compact .null rfl h
    | real r =>
      cases hw with | real hr =>
      exact absurd h.symm (number_ne_word hr (by decide))
    | null => rfl
    | flag b => cases b <;> exact absurd h (by decide)
    | text s | moment kind s | list items | table entries => cases hwo
  | flag a =>
    cases w with
    | whole n => exact eq_whole_of_compact (.flag a) rfl h
    | real r =>
      cases hw with | real hr =>
      exact absurd h.symm (number_ne_word hr (compact_flag_mem a))
    | null => cases a <;> exact absurd h (by decide)
    | flag b =>
      cases a <;> cases b
      · rfl
      · exact absurd h (by decide)
      · exact absurd h (by decide)
      · rfl
    | text s | moment kind s | list items | table entries => cases hwo
  | text s | moment kind s | list items | table entries => cases hvo

/-- Numbers and words end where the text goes on with a character that is in none of them. -/
theorem cut_of_opening?_none (hv : v.IsProper) (hw : w.IsProper) (hvo : opening? v = none)
    (hwo : opening? w = none) (hrest : Text.Stops isPlain rest) (hothers : Text.Stops isPlain others)
    (h : (compact v).toList ++ rest = (compact w).toList ++ others) : v = w ∧ rest = others := by
  obtain ⟨htext, hrests⟩ := Text.append_inj_of_stops (plain_of_opening?_none hv hvo).2
    (plain_of_opening?_none hw hwo).2 hrest hothers h
  exact ⟨eq_of_opening?_none hv hw hvo hwo (String.toList_inj.mp htext), hrests⟩

end Scalars

end Json
end SourceAudit
