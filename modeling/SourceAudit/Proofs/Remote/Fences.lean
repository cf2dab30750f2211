import SourceAudit.Proofs.Document.CompactText
import SourceAudit.Remote.Answer

/-!
  What taking the fences of code blocks out of an answer does to the JSON text in it.

  Fences are looked for in the whole text, also inside of its strings. What is proved:
    1. `withoutFencesFrom_append` — a text in front of a mark loses its own fences, and the mark
       ends the last of them.
    2. `withoutFencesFrom_compact` — the text of a value becomes the text of the value whose
       strings lost the fences in them (`unfenced`).
    3. `unfenced_eq_iff` — a string stays as it is exactly if it holds no fence.
    4. `outermost?_between` — the object is found between texts without braces.
-/
namespace SourceAudit

mutual

/-- A value with its texts, and the names in its tables, changed by a function. -/
def Value.mapTexts (g : String → String) : Value → Value
  | .text s => .text (g s)
  | .moment kind s => .moment kind (g s)
  | .list items => .list (mapItems g items)
  | .table entries => .table (mapEntries g entries)
  | v => v

/-- The items of a list with their texts changed. -/
def Value.mapItems (g : String → String) : List Value → List Value
  | [] => []
  | v :: rest => v.mapTexts g :: mapItems g rest

/-- The entries of a table with their names and texts changed. -/
def Value.mapEntries (g : String → String) : List (String × Value) → List (String × Value)
  | [] => []
  | (name, v) :: rest => (g name, v.mapTexts g) :: mapEntries g rest

end

theorem Value.mapItems_eq_map (g : String → String) (items : List Value) :
    Value.mapItems g items = items.map (Value.mapTexts g) := by
  induction items with
  | nil => rfl
  | cons v rest ih => rw [Value.mapItems, List.map_cons, ih]

theorem Value.mapEntries_eq_map (g : String → String) (entries : List (String × Value)) :
    Value.mapEntries g entries = entries.map fun e => (g e.1, e.2.mapTexts g) := by
  induction entries with
  | nil => rfl
  | cons e rest ih => rw [Value.mapEntries, List.map_cons, ih]

namespace Remote
namespace Answer

/-- What opens and closes a code block. -/
def fence : Text := ['\x60', '\x60', '\x60']

theorem withoutFencesFrom_cons (word : Bool) (c : Char) (rest : Text) :
    withoutFencesFrom 0 word (c :: rest) =
      if word && isFenceWord c then withoutFencesFrom 0 true rest
      else if fence.isPrefixOf (c :: rest) then withoutFencesFrom 2 true rest
      else c :: withoutFencesFrom 0 false rest := rfl

theorem isPrefixOf_fence_of_ne {c : Char} (h : c ≠ '\x60') (rest : Text) :
    fence.isPrefixOf (c :: rest) = false := by
  simp [fence, List.isPrefixOf, Ne.symm h]

/-- A mark ends a fence and stays. -/
theorem withoutFencesFrom_mark {c : Char} (hword : isFenceWord c = false) (hquote : c ≠ '\x60')
    (word : Bool) (rest : Text) :
    withoutFencesFrom 0 word (c :: rest) = c :: withoutFencesFrom 0 false rest := by
  rw [withoutFencesFrom_cons, hword, Bool.and_false, if_neg Bool.false_ne_true,
    isPrefixOf_fence_of_ne hquote, if_neg Bool.false_ne_true]

/-- A text without backquotes has no fence. -/
theorem withoutFencesFrom_append_of_notMem {t : Text} (h : '\x60' ∉ t) (rest : Text) :
    withoutFencesFrom 0 false (t ++ rest) = t ++ withoutFencesFrom 0 false rest := by
  induction t with
  | nil => rfl
  | cons c t ih =>
    rw [List.mem_cons, not_or] at h
    rw [List.cons_append, withoutFencesFrom_cons, Bool.false_and, if_neg Bool.false_ne_true,
      isPrefixOf_fence_of_ne (Ne.symm h.1), if_neg Bool.false_ne_true, ih h.2, List.cons_append]

theorem mem_of_mem_withoutFencesFrom {c : Char} {skip : Nat} {word : Bool} {t : Text}
    (h : c ∈ withoutFencesFrom skip word t) : c ∈ t := by
  induction t generalizing skip word with
  | nil => cases skip <;> cases h
  | cons d t ih =>
    cases skip with
    | succ skip => exact List.mem_cons_of_mem _ (ih h)
    | zero =>
      rw [withoutFencesFrom_cons] at h
      split at h
      · exact List.mem_cons_of_mem _ (ih h)
      split at h
      · exact List.mem_cons_of_mem _ (ih h)
      · rcases List.mem_cons.mp h with rfl | hrest
        · exact List.mem_cons_self
        · exact List.mem_cons_of_mem _ (ih hrest)

/-- Backquotes in front of a mark are those of the text before it. -/
theorem isPrefixOf_replicate_append {d : Char} (hd : d ≠ '\x60') (n : Nat) (t rest : Text) :
    (List.replicate n '\x60').isPrefixOf (t ++ d :: rest) =
      (List.replicate n '\x60').isPrefixOf t := by
  induction n generalizing t with
  | zero => simp
  | succ n ih =>
    cases t with
    | nil => simp [List.replicate_succ, List.isPrefixOf, Ne.symm hd]
    | cons c t => simp only [List.replicate_succ, List.cons_append, List.isPrefixOf, ih]

theorem isPrefixOf_fence_append {d : Char} (hd : d ≠ '\x60') (t rest : Text) :
    fence.isPrefixOf (t ++ d :: rest) = fence.isPrefixOf t :=
  isPrefixOf_replicate_append hd 3 t rest

theorem exists_of_isPrefixOf_fence {c : Char} {t : Text} (h : fence.isPrefixOf (c :: t) = true) :
    c = '\x60' ∧ ∃ rest, t = '\x60' :: '\x60' :: rest := by
  obtain ⟨rest, hrest⟩ := List.isPrefixOf_iff_prefix.mp h
  obtain ⟨hc, ht⟩ := List.cons.inj hrest
  exact ⟨hc.symm, rest, ht.symm⟩

/-- A text in front of a mark loses its own fences. -/
theorem withoutFencesFrom_append {d : Char} (hword : isFenceWord d = false) (hquote : d ≠ '\x60')
    {skip : Nat} {word : Bool} {t : Text} (hskip : skip ≤ t.length) (rest : Text) :
    withoutFencesFrom skip word (t ++ d :: rest) =
      withoutFencesFrom skip word t ++ d :: withoutFencesFrom 0 false rest := by
  induction t generalizing skip word with
  | nil =>
    obtain rfl : skip = 0 := Nat.le_zero.mp hskip
    exact withoutFencesFrom_mark hword hquote word rest
  | cons c t ih =>
    cases skip with
    | succ skip => exact ih (Nat.le_of_succ_le_succ hskip)
    | zero =>
      rw [List.cons_append, withoutFencesFrom_cons, withoutFencesFrom_cons, ← List.cons_append,
        isPrefixOf_fence_append hquote]
      split
      · exact ih (Nat.zero_le _)
      split
      -- The two backquotes that are skipped stand in front of the mark.
      · next hfence =>
        obtain ⟨-, behind, rfl⟩ := exists_of_isPrefixOf_fence hfence
        exact ih (by simp)
      · rw [ih (Nat.zero_le _), List.cons_append]

/-! ## Strings -/

/-- A character that goes on with the word of a fence also where it stands in a JSON string: it is
written as itself there. -/
def isPlainWord (c : Char) : Bool := isFenceWord c && Json.escapeChar c == [c]

/-- The characters of a string without the fences in it; the arguments are those of
`withoutFencesFrom`. -/
def unfencedFrom : Nat → Bool → Text → Text
  | _, _, [] => []
  | skip + 1, word, _ :: rest => unfencedFrom skip word rest
  | 0, word, c :: rest =>
    if word && isPlainWord c then unfencedFrom 0 true rest
    else if fence.isPrefixOf (c :: rest) then unfencedFrom 2 true rest
    else c :: unfencedFrom 0 false rest

/-- A string without the fences in it, as they are found in its JSON text. -/
def unfenced (s : String) : String := String.ofList (unfencedFrom 0 false s.toList)

theorem notMem_hexDigits (width n : Nat) : '\x60' ∉ Number.hexDigits width n := by
  have hall : ∀ k < 16, '\x60' ≠ Number.hexDigit k := by decide
  induction width generalizing n with
  | zero => exact List.not_mem_nil
  | succ width ih =>
    rw [Number.hexDigits, List.mem_append, List.mem_singleton, not_or]
    exact ⟨ih (n / 16), hall _ (Nat.mod_lt _ (by decide))⟩

/-- A character is written as itself, or as an escape, in which there is no backquote. -/
theorem escapeChar_cases (c : Char) :
    Json.escapeChar c = [c] ∨ c ≠ '\x60' ∧ ∃ t, Json.escapeChar c = '\\' :: t ∧ '\x60' ∉ t := by
  have hself : Json.escapeChar '\x60' = ['\x60'] := by decide
  rcases eq_or_ne c '\x60' with rfl | hne
  · exact .inl hself
  unfold Json.escapeChar
  extract_lets n m
  repeat' split
  all_goals first
    | exact .inl rfl
    | exact .inr ⟨hne, _, rfl, by decide⟩
    | exact .inr ⟨hne, _, rfl, by simp [Json.escapeUnit, notMem_hexDigits]⟩

/-- A character that is escaped does not belong to the word of a fence. -/
theorem isPlainWord_of_escape {c : Char} {t : Text} (h : Json.escapeChar c = '\\' :: t) :
    isPlainWord c = false := by
  by_contra hword
  rw [Bool.not_eq_false, isPlainWord, Bool.and_eq_true, beq_iff_eq, h] at hword
  obtain ⟨hword, hsame⟩ := hword
  obtain ⟨rfl, -⟩ := List.cons.inj hsame
  exact absurd hword (by decide)

/-- As many backquotes lead a string as lead its text. -/
theorem isPrefixOf_replicate_escapes (n : Nat) (cs : Text) :
    (List.replicate n '\x60').isPrefixOf (cs.flatMap Json.escapeChar) =
      (List.replicate n '\x60').isPrefixOf cs := by
  induction n generalizing cs with
  | zero => simp
  | succ n ih =>
    cases cs with
    | nil => rfl
    | cons c cs =>
      rw [List.flatMap_cons]
      rcases escapeChar_cases c with hself | ⟨hne, t, hescape, -⟩
      · rw [hself]
        simp only [List.replicate_succ, List.singleton_append, List.isPrefixOf, ih]
      · rw [hescape]
        simp [List.replicate_succ, List.isPrefixOf, Ne.symm hne]

theorem isPrefixOf_fence_escapes (cs rest : Text) :
    fence.isPrefixOf (cs.flatMap Json.escapeChar ++ '"' :: rest) = fence.isPrefixOf cs := by
  rw [isPrefixOf_fence_append (by decide)]
  exact isPrefixOf_replicate_escapes 3 cs

/-- The text of a string loses the fences that the string has. What is skipped of a fence are
backquotes, which stand for themselves in the text. -/
theorem withoutFencesFrom_escapes (cs rest : Text) {skip : Nat} {word : Bool}
    (hskip : skip ≤ cs.length) (hquotes : ∀ c ∈ cs.take skip, c = '\x60') :
    withoutFencesFrom skip word (cs.flatMap Json.escapeChar ++ '"' :: rest) =
      (unfencedFrom skip word cs).flatMap Json.escapeChar ++
        '"' :: withoutFencesFrom 0 false rest := by
  -- On the characters, for every state in which a fence may be under way.
  induction cs generalizing skip word with
  | nil =>
    obtain rfl : skip = 0 := Nat.le_zero.mp hskip
    exact withoutFencesFrom_mark (by decide) (by decide) word rest
  | cons c cs ih =>
    cases skip with
    | succ skip =>
      rw [List.take_succ_cons, List.forall_mem_cons] at hquotes
      obtain ⟨rfl, hquotes⟩ := hquotes
      exact ih (Nat.le_of_succ_le_succ hskip) hquotes
    | zero =>
      have hrest : ∀ word, withoutFencesFrom 0 word (cs.flatMap Json.escapeChar ++ '"' :: rest) =
          (unfencedFrom 0 word cs).flatMap Json.escapeChar ++
            '"' :: withoutFencesFrom 0 false rest :=
        fun _ => ih (Nat.zero_le _) nofun
      have hprefix := isPrefixOf_fence_escapes (c :: cs) rest
      rw [List.flatMap_cons, List.append_assoc] at hprefix ⊢
      rw [unfencedFrom]
      rcases escapeChar_cases c with hself | ⟨hne, t, hescape, ht⟩
      · have hplain : isPlainWord c = isFenceWord c := by simp [isPlainWord, hself]
        rw [hself, List.singleton_append] at hprefix ⊢
        rw [withoutFencesFrom_cons, hprefix, hplain]
        split
        · exact hrest true
        split
        · next hfence =>
          obtain ⟨-, behind, rfl⟩ := exists_of_isPrefixOf_fence hfence
          exact ih (by simp) (by simp)
        · rw [hrest false, List.flatMap_cons, hself, List.singleton_append, List.cons_append]
      -- The backslash of an escape ends a fence, also where the character itself would not.
      · rw [isPlainWord_of_escape hescape, Bool.and_false, if_neg Bool.false_ne_true,
          isPrefixOf_fence_of_ne hne, if_neg Bool.false_ne_true, List.flatMap_cons, hescape,
          List.cons_append, withoutFencesFrom_mark (by decide) (by decide),
          withoutFencesFrom_append_of_notMem ht, hrest false, List.append_assoc]
        rfl

/-! ## Values -/

/-- Whether a value in an answer becomes the value whose strings lost their fences. -/
def Unfences (v : Value) : Prop :=
  ∀ rest : Text, withoutFencesFrom 0 false ((Json.compact v).toList ++ rest) =
    (Json.compact (v.mapTexts unfenced)).toList ++ withoutFencesFrom 0 false rest

theorem withoutFencesFrom_string (s : String) (rest : Text) :
    withoutFencesFrom 0 false ((Json.string s).toList ++ rest) =
      (Json.string (unfenced s)).toList ++ withoutFencesFrom 0 false rest := by
  simp only [Json.toList_string, List.cons_append, List.append_assoc, List.nil_append]
  rw [withoutFencesFrom_mark (by decide) (by decide),
    withoutFencesFrom_escapes _ _ (Nat.zero_le _) nofun, unfenced, String.toList_ofList]

/-- Numbers and words have no backquotes. -/
theorem unfences_of_opening?_none {v : Value} (hv : v.IsProper) (h : Json.opening? v = none) :
    Unfences v := by
  intro rest
  have hsame : v.mapTexts unfenced = v := by
    cases v <;> first | rfl | cases h
  rw [hsame]
  refine withoutFencesFrom_append_of_notMem (fun hmem => ?_) rest
  exact absurd ((Json.plain_of_opening?_none hv h).2 _ hmem) (by decide)

theorem unfences_afterItem {items : List Value} (h : ∀ v ∈ items, Unfences v) (rest : Text) :
    withoutFencesFrom 0 false (Json.afterItem items ++ rest) =
      Json.afterItem (Value.mapItems unfenced items) ++ withoutFencesFrom 0 false rest := by
  induction items with
  | nil => exact withoutFencesFrom_mark (by decide) (by decide) false rest
  | cons v items ih =>
    rw [List.forall_mem_cons] at h
    simp only [Json.afterItem, Value.mapItems, List.cons_append, List.append_assoc]
    rw [withoutFencesFrom_mark (by decide) (by decide),
      withoutFencesFrom_mark (by decide) (by decide), h.1, ih h.2]

theorem unfences_afterEntry {entries : List (String × Value)} (h : ∀ e ∈ entries, Unfences e.2)
    (rest : Text) :
    withoutFencesFrom 0 false (Json.afterEntry entries ++ rest) =
      Json.afterEntry (Value.mapEntries unfenced entries) ++ withoutFencesFrom 0 false rest := by
  induction entries with
  | nil => exact withoutFencesFrom_mark (by decide) (by decide) false rest
  | cons e entries ih =>
    obtain ⟨name, v⟩ := e
    rw [List.forall_mem_cons] at h
    simp only [Json.afterEntry, Value.mapEntries, List.cons_append, List.append_assoc]
    rw [withoutFencesFrom_mark (by decide) (by decide),
      withoutFencesFrom_mark (by decide) (by decide), withoutFencesFrom_string,
      withoutFencesFrom_mark (by decide) (by decide),
      withoutFencesFrom_mark (by decide) (by decide), h.1, ih h.2]

theorem unfences_list {items : List Value} (h : ∀ v ∈ items, Unfences v) :
    Unfences (.list items) := by
  intro rest
  cases items with
  | nil =>
    have hbrackets : '\x60' ∉ (Json.compact (.list [])).toList := by decide
    exact withoutFencesFrom_append_of_notMem hbrackets rest
  | cons v items =>
    rw [List.forall_mem_cons] at h
    rw [Value.mapTexts, Value.mapItems, Json.compact_list_cons, Json.compact_list_cons]
    simp only [List.cons_append, List.append_assoc]
    rw [withoutFencesFrom_mark (by decide) (by decide), h.1, unfences_afterItem h.2]

theorem unfences_table {entries : List (String × Value)} (h : ∀ e ∈ entries, Unfences e.2) :
    Unfences (.table entries) := by
  intro rest
  cases entries with
  | nil =>
    have hbraces : '\x60' ∉ (Json.compact (.table [])).toList := by decide
    exact withoutFencesFrom_append_of_notMem hbraces rest
  | cons e entries =>
    obtain ⟨name, v⟩ := e
    rw [List.forall_mem_cons] at h
    rw [Value.mapTexts, Value.mapEntries, Json.compact_table_cons, Json.compact_table_cons]
    simp only [List.cons_append, List.append_assoc]
    rw [withoutFencesFrom_mark (by decide) (by decide), withoutFencesFrom_string,
      withoutFencesFrom_mark (by decide) (by decide),
      withoutFencesFrom_mark (by decide) (by decide), h.1, unfences_afterEntry h.2]

/-- The text of a value becomes the text of the value whose strings lost their fences. -/
theorem withoutFencesFrom_compact {v : Value} (hv : v.IsProper) : Unfences v := by
  induction hv with
  | null => exact unfences_of_opening?_none .null rfl
  | flag b => exact unfences_of_opening?_none (.flag b) rfl
  | whole n => exact unfences_of_opening?_none (.whole n) rfl
  | real h => exact unfences_of_opening?_none (.real h) rfl
  | text s => exact withoutFencesFrom_string s
  | moment kind s => exact withoutFencesFrom_string s
  | list _ ih => exact unfences_list ih
  | table _ ih => exact unfences_table ih

/-! ## Strings without fences -/

theorem holds_cons (c : Char) (t : Text) :
    Text.holds fence (c :: t) = (fence.isPrefixOf (c :: t) || Text.holds fence t) := rfl

theorem length_unfencedFrom_le (skip : Nat) (word : Bool) (t : Text) :
    (unfencedFrom skip word t).length ≤ t.length := by
  induction t generalizing skip word with
  | nil => cases skip <;> exact Nat.le_refl _
  | cons c t ih =>
    cases skip with
    | succ skip => exact (ih skip word).trans (Nat.le_succ _)
    | zero =>
      rw [unfencedFrom]
      split
      · exact (ih 0 true).trans (Nat.le_succ _)
      split
      · exact (ih 2 true).trans (Nat.le_succ _)
      · exact Nat.succ_le_succ (ih 0 false)

/-- Characters stay as they are exactly if no fence is among them. -/
theorem unfencedFrom_eq_iff (t : Text) :
    unfencedFrom 0 false t = t ↔ Text.holds fence t = false := by
  induction t with
  | nil => exact ⟨fun _ => rfl, fun _ => rfl⟩
  | cons c t ih =>
    rw [unfencedFrom, Bool.false_and, if_neg Bool.false_ne_true, holds_cons]
    by_cases hfence : fence.isPrefixOf (c :: t) = true
    · rw [if_pos hfence, hfence, Bool.true_or]
      refine iff_of_false (fun hsame => ?_) (by decide)
      have hlength := congrArg List.length hsame
      have hle := length_unfencedFrom_le 2 true t
      rw [List.length_cons] at hlength
      omega
    · rw [if_neg hfence, Bool.eq_false_of_not_eq_true hfence, Bool.false_or, List.cons.injEq,
        eq_self, true_and, ih]

/-- A string stays as it is exactly if it holds no fence. -/
theorem unfenced_eq_iff (s : String) : unfenced s = s ↔ Text.holds fence s.toList = false := by
  rw [← unfencedFrom_eq_iff, unfenced, ← String.toList_inj, String.toList_ofList]

/-! ## The object in an answer -/

theorem dropWhile_append_mark {d : Char} {t : Text} (h : d ∉ t) (rest : Text) :
    (t ++ d :: rest).dropWhile (· != d) = d :: rest := by
  have hall : ∀ c ∈ t, (c != d) = true := by
    intro c hc
    rw [bne_iff_ne]
    rintro rfl
    exact h hc
  rw [List.dropWhile_append_of_pos hall, List.dropWhile_cons_of_neg (by simp)]

/-- The object is what stands between its braces, if no opening brace comes before it and no
closing brace behind it. -/
theorem outermost?_between {before after : Text} (hbefore : '\x7b' ∉ before)
    (hafter : '\x7d' ∉ after) (inner : Text) :
    outermost? (before ++ '\x7b' :: (inner ++ '\x7d' :: after)) =
      some ('\x7b' :: (inner ++ ['\x7d'])) := by
  have hreverse : ('\x7b' :: (inner ++ '\x7d' :: after)).reverse =
      after.reverse ++ '\x7d' :: ('\x7b' :: inner).reverse := by
    simp
  have hmark : '\x7d' ∉ after.reverse := by rwa [List.mem_reverse]
  have hspan : (('\x7b' :: (inner ++ '\x7d' :: after)).reverse.dropWhile (· != '\x7d')).reverse =
      '\x7b' :: (inner ++ ['\x7d']) := by
    rw [hreverse, dropWhile_append_mark hmark]
    simp
  rw [outermost?, dropWhile_append_mark hbefore, hspan]
  rfl

/-- In an answer that holds the text of a table, the object is the text of the table whose strings
lost their fences. -/
theorem object?_compact {entries : List (String × Value)} (h : (Value.table entries).IsProper)
    {before after : Text} (hbefore : '\x7b' ∉ before) (hafter : '\x7d' ∉ after) :
    object? (before ++ ((Json.compact (.table entries)).toList ++ after)) =
      some (Json.compact ((Value.table entries).mapTexts unfenced)).toList := by
  have hbraces : ∀ es, ∃ inner, (Json.compact (.table es)).toList =
      '\x7b' :: (inner ++ ['\x7d']) :=
    fun es => ⟨_, by simp only [Json.compact, String.toList_append]; rfl⟩
  obtain ⟨inner, hinner⟩ := hbraces entries
  obtain ⟨stripped, hstripped⟩ := hbraces (Value.mapEntries unfenced entries)
  have hobject := withoutFencesFrom_compact h after
  rw [Value.mapTexts] at hobject ⊢
  rw [hstripped] at hobject ⊢
  have hcut : withoutFences (before ++ ((Json.compact (.table entries)).toList ++ after)) =
      withoutFences before ++ '\x7b' :: (stripped ++ '\x7d' :: withoutFences after) := by
    rw [hinner, List.cons_append] at hobject ⊢
    rw [withoutFencesFrom_mark (by decide) (by decide)] at hobject
    rw [withoutFences, withoutFencesFrom_append (by decide) (by decide) (Nat.zero_le _), hobject]
    simp [withoutFences]
  rw [object?, hcut]
  exact outermost?_between (fun hmem => hbefore (mem_of_mem_withoutFencesFrom hmem))
    (fun hmem => hafter (mem_of_mem_withoutFencesFrom hmem)) stripped

end Answer
end Remote
end SourceAudit
