import SourceAudit.Detector.Battery
import SourceAudit.Language.Python
import SourceAudit.Proofs.Number.DecimalText
import SourceAudit.Proofs.Source.PreparedLines
import SourceAudit.Proofs.Text.MarkedText

/-!
  Repeated blocks: what is reported of them, and that nothing else is.

  A block that is repeated is left out if its places go on, one further each, with
  those of the repeated block before it. What is proved:
    1. `getElem?_blocks`, `mem_startsOf`, `mem_repeats_iff` — the places of a block
       are all rows that start it, in order, and the repeated blocks are those with
       two or more.
    2. `repeats_disjoint` — no row is a place of two blocks.
    3. `leading_covers` — whatever is left out goes on from something reported, and
       every block on the way is repeated at the places in between.
    4. `exists_leading` — so rows that start one block are found, or rows on the way back.
    5. `lists_unique` — the message of a finding names its rows without ambiguity,
       for rows stand on different lines and numerals hold no commas.
    6. `duplicateCode_exactly` — so the findings are sound, complete and different.
-/
namespace SourceAudit
namespace Duplicates

/-! ## Places of blocks -/

/-- The block of some rows that starts at a row, if there are so many from there on. -/
def blockAt? (size : Nat) (rows : List Row) (s : Nat) : Option (List Text) :=
  if s + size ≤ rows.length then some (((rows.drop s).take size).map (·.text)) else none

theorem getElem?_blocks {size : Nat} (hsize : 0 < size) (rows : List Row) (s : Nat) :
    (blocks size (rows.map (·.text)))[s]? = blockAt? size rows s := by
  induction rows generalizing s with
  | nil =>
    rw [blockAt?, if_neg (by rw [List.length_nil]; omega)]
    rfl
  | cons row rows ih =>
    rw [List.map_cons, blocks, List.length_map]
    split
    · next hshort =>
      rw [blockAt?, if_neg (by rw [List.length_cons]; omega)]
      rfl
    · next hlong =>
      cases s with
      | zero =>
        rw [blockAt?, if_pos (by rw [List.length_cons]; omega), ← List.map_cons, ← List.map_take]
        rfl
      | succ s =>
        rw [List.getElem?_cons_succ, ih, blockAt?, blockAt?, List.length_cons, List.drop_succ_cons]
        exact if_congr (by omega) rfl rfl

variable {long : List Text → Bool} {all : List (List Text)} {block : List Text}

theorem mem_startsOf {s : Nat} : s ∈ startsOf block all ↔ all[s]? = some block := by
  simp only [startsOf, List.mem_map, List.mem_filter, Prod.exists,
    List.mk_mem_zipIdx_iff_getElem?, beq_iff_eq]
  constructor
  · rintro ⟨other, k, ⟨hother, rfl⟩, rfl⟩
    exact hother
  · exact fun h => ⟨block, s, ⟨h, rfl⟩, rfl⟩

theorem startsOf_pairwise (block : List Text) (all : List (List Text)) :
    (startsOf block all).Pairwise (· < ·) :=
  List.pairwise_map.mpr ((Text.pairwise_zipIdx all).sublist List.filter_sublist)

/-- A block is repeated if it is long enough and has two places or more. -/
theorem mem_repeats_iff {starts : List Nat} :
    starts ∈ repeats long all ↔
      ∃ block, long block = true ∧ starts = startsOf block all ∧ 2 ≤ starts.length := by
  simp only [repeats, List.mem_filterMap, Prod.exists, List.mk_mem_zipIdx_iff_getElem?,
    Option.ite_none_right_eq_some, Option.some.injEq, Bool.and_eq_true, beq_iff_eq,
    decide_eq_true_eq]
  constructor
  · rintro ⟨block, i, -, hlong, ⟨-, hlength⟩, rfl⟩
    exact ⟨block, hlong, rfl, hlength⟩
  · rintro ⟨block, hlong, rfl, hlength⟩
    -- it is found at the first of its places
    cases hstarts : startsOf block all with
    | nil => rw [hstarts] at hlength; cases hlength
    | cons i rest =>
      have hi : all[i]? = some block := mem_startsOf.mp (hstarts ▸ List.mem_cons_self)
      exact ⟨block, i, hi, hlong, ⟨hstarts ▸ rfl, hlength⟩, hstarts⟩

/-- No row is a place of two repeated blocks. -/
theorem repeats_disjoint (long : List Text → Bool) (all : List (List Text)) :
    (repeats long all).Pairwise List.Disjoint := by
  refine List.Pairwise.filterMap _ ?_ (Text.pairwise_zipIdx all)
  rintro ⟨block, i⟩ ⟨other, j⟩ hlt starts hstarts others hothers s hs hs'
  simp only [Option.ite_none_right_eq_some, Option.some.injEq, Bool.and_eq_true,
    beq_iff_eq] at hstarts hothers
  obtain ⟨-, ⟨hi, -⟩, rfl⟩ := hstarts
  obtain ⟨-, ⟨hj, -⟩, rfl⟩ := hothers
  -- both are the block that starts there, so they have one first place
  have hblock : block = other :=
    Option.some.inj ((mem_startsOf.mp hs).symm.trans (mem_startsOf.mp hs'))
  have hplace : i = j := Option.some.inj (hi.symm.trans (hblock ▸ hj))
  exact absurd hlt (hplace ▸ Nat.lt_irrefl i)

/-! ## What is left out -/

theorem leading_sublist (before : List Nat) (all : List (List Nat)) :
    (leading before all).Sublist all := by
  induction all generalizing before with
  | nil => exact List.Sublist.refl _
  | cons starts rest ih =>
    rw [leading]
    split
    · exact (ih starts).cons starts
    · exact (ih starts).cons_cons starts

/-- Places some rows further on. -/
def shift (k : Nat) (places : List Nat) : List Nat := places.map (· + k)

theorem shift_zero (places : List Nat) : shift 0 places = places := List.map_id _

theorem shift_shift (k j : Nat) (places : List Nat) :
    shift k (shift j places) = shift (k + j) places := by
  rw [shift, shift, List.map_map]
  exact List.map_congr_left fun s _ => by dsimp only [Function.comp]; omega

/-- Places that are left out go on from places that are not, or from those before all, and on the
way are the places of other blocks. -/
theorem leading_covers (before : List Nat) {starts : List Nat} {all : List (List Nat)}
    (h : starts ∈ all) :
    (∃ first ∈ leading before all, ∃ t, starts = shift t first ∧ ∀ k ≤ t, shift k first ∈ all) ∨
      ∃ t, starts = shift (t + 1) before ∧ ∀ k ≤ t, shift (k + 1) before ∈ all := by
  induction all generalizing before with
  | nil => cases h
  | cons next rest ih =>
    have hway : ∀ {t : Nat}, (∀ k ≤ t, shift (k + 1) next ∈ rest) →
        ∀ k ≤ t + 1, shift k next ∈ next :: rest := by
      intro t hrest k hk
      cases k with
      | zero => exact (shift_zero next).symm ▸ List.mem_cons_self
      | succ k => exact List.mem_cons_of_mem _ (hrest k (Nat.le_of_succ_le_succ hk))
    rw [leading]
    split
    · next hgoes =>
      -- the next places go on from those before, and so does what goes on from them
      have hnext : next = shift 1 before := beq_iff_eq.mp hgoes
      rcases List.mem_cons.mp h with rfl | h
      · refine .inr ⟨0, hnext, fun k hk => ?_⟩
        obtain rfl := Nat.le_zero.mp hk
        exact hnext ▸ List.mem_cons_self
      · rcases ih next h with ⟨first, hfirst, t, hstarts, hrest⟩ | ⟨t, hstarts, hrest⟩
        · exact .inl ⟨first, hfirst, t, hstarts, fun k hk => List.mem_cons_of_mem _ (hrest k hk)⟩
        · refine .inr ⟨t + 1, by rw [hstarts, hnext, shift_shift], fun k hk => ?_⟩
          rw [← shift_shift k 1, ← hnext]
          exact hway hrest k hk
    · rcases List.mem_cons.mp h with rfl | h
      · refine .inl ⟨starts, List.mem_cons_self, 0, (shift_zero starts).symm, fun k hk => ?_⟩
        obtain rfl := Nat.le_zero.mp hk
        exact (shift_zero starts).symm ▸ List.mem_cons_self
      · rcases ih next h with ⟨first, hfirst, t, hstarts, hrest⟩ | ⟨t, hstarts, hrest⟩
        · exact .inl ⟨first, List.mem_cons_of_mem _ hfirst, t, hstarts,
            fun k hk => List.mem_cons_of_mem _ (hrest k hk)⟩
        · exact .inl ⟨next, List.mem_cons_self, t + 1, hstarts, hway hrest⟩

/-! ## What a finding names -/

theorem rows_pairwise (p : Prepared) : (rows p).Pairwise fun r s => r.line < s.line := by
  refine List.Pairwise.filterMap _ ?_ (Text.pairwise_zipIdx p.codeLines)
  rintro ⟨line, i⟩ ⟨other, j⟩ hlt r hr s hs
  simp only [Option.ite_none_left_eq_some, Option.some.injEq] at hr hs
  obtain ⟨-, rfl⟩ := hr
  obtain ⟨-, rfl⟩ := hs
  exact Nat.succ_lt_succ hlt

/-- Numerals with commas between them. -/
def numerals (xs : List Nat) : Text :=
  ", ".toList.intercalate (xs.map fun n => (toString n).toList)

theorem numerals_cons (x : Nat) (xs : List Nat) :
    numerals (x :: xs) =
      (toString x).toList ++ if xs = [] then [] else ',' :: ' ' :: numerals xs := by
  cases xs with
  | nil => simp [numerals]
  | cons y ys => simp [numerals]

/-- They say which numbers they are. -/
theorem numerals_inj {xs ys : List Nat} (h : numerals xs = numerals ys) : xs = ys := by
  have hsome : ∀ (n : Nat) (ns : List Nat), numerals (n :: ns) ≠ [] := by
    intro n ns hnil
    rw [numerals_cons] at hnil
    exact Number.toString_ne_nil n (List.append_eq_nil_iff.mp hnil).1
  have hstops : ∀ ns : List Nat,
      Text.Stops Char.isDigit (if ns = [] then [] else ',' :: ' ' :: numerals ns) := by
    intro ns
    split
    · exact Text.stops_nil
    · exact Text.stops_cons (by decide)
  induction xs generalizing ys with
  | nil =>
    cases ys with
    | nil => rfl
    | cons y ys => exact absurd h.symm (hsome y ys)
  | cons x xs ih =>
    cases ys with
    | nil => exact absurd h (hsome x xs)
    | cons y ys =>
      rw [numerals_cons, numerals_cons] at h
      obtain ⟨hfirst, hrest⟩ := Text.append_inj_of_stops (Number.allDigits_toString x)
        (Number.allDigits_toString y) (hstops xs) (hstops ys) h
      have hxy : x = y := by
        rw [← Number.ofDigitChars_toString x, hfirst, Number.ofDigitChars_toString]
      rw [hxy]
      congr 1
      split at hrest
      · next hxs =>
        split at hrest
        · next hys => rw [hxs, hys]
        · cases hrest
      · split at hrest
        · cases hrest
        · exact ih (List.cons.inj (List.cons.inj hrest).2).2

/-- The line of a row. -/
def lineOf (rows : List Row) (s : Nat) : Nat := (rows.getD s ⟨0, []⟩).line

/-- Whether the message of a finding names the lines of some rows. -/
def Lists (rows : List Row) (i : RawIssue) (starts : List Nat) : Prop :=
  (∀ s ∈ starts, s < rows.length) ∧
    i.message = "Duplicate code block found at lines: " ++
      ", ".intercalate (starts.map fun s => toString (lineOf rows s))

theorem lineOf_eq {rows : List Row} {s : Nat} (hs : s < rows.length) :
    lineOf rows s = rows[s].line := by
  rw [lineOf, List.getD_eq_getElem?_getD, List.getElem?_eq_getElem hs, Option.getD_some]

/-- No two rows stand on one line. -/
theorem lineOf_inj {p : Prepared} {r s : Nat} (hr : r < (rows p).length)
    (hs : s < (rows p).length) (h : lineOf (rows p) r = lineOf (rows p) s) : r = s := by
  rw [lineOf_eq hr, lineOf_eq hs] at h
  have hpairs := List.pairwise_iff_getElem.mp (rows_pairwise p)
  rcases Nat.lt_trichotomy r s with hlt | heq | hlt
  · exact absurd h (Nat.ne_of_lt (hpairs r s hr hs hlt))
  · exact heq
  · exact absurd h.symm (Nat.ne_of_lt (hpairs s r hs hr hlt))

/-- A message names the rows of one list only. -/
theorem lists_unique {p : Prepared} {i : RawIssue} {starts others : List Nat}
    (h : Lists (rows p) i starts) (h' : Lists (rows p) i others) : starts = others := by
  have htext := congrArg String.toList
    ((String.append_right_inj _).mp (h.2.symm.trans h'.2))
  have hlines : starts.map (lineOf (rows p)) = others.map (lineOf (rows p)) := by
    apply numerals_inj
    simpa only [String.toList_intercalate, List.map_map, numerals, Function.comp_def] using htext
  have hlength : starts.length = others.length := by
    simpa only [List.length_map] using congrArg List.length hlines
  refine List.ext_getElem hlength fun k hk hk' => ?_
  have hline := List.getElem_of_eq hlines (i := k) (by rwa [List.length_map])
  rw [List.getElem_map, List.getElem_map] at hline
  exact lineOf_inj (h.1 _ (List.getElem_mem hk)) (h'.1 _ (List.getElem_mem hk')) hline

/-! ## What is reported -/

/-- What it means that a finding reports a repeated block by the rows it lists: these rows are all
that start the block, two or more in increasing order, and the finding stands on the line of the
first. -/
structure IsRepetition (size : Nat) (long : List Text → Bool) (rows : List Row) (i : RawIssue)
    (starts : List Nat) : Prop where
  listed : ∀ others, Lists rows i others ↔ others = starts
  rising : starts.Pairwise (· < ·)
  several : 2 ≤ starts.length
  complete : ∃ block, long block = true ∧ ∀ s, s ∈ starts ↔ blockAt? size rows s = some block
  first : ∃ s row, starts.head? = some s ∧ rows[s]? = some row ∧ i.line = row.line

/-- Whether two rows start blocks that are the same. -/
def StartAlike (size : Nat) (rows : List Row) (r s : Nat) : Prop :=
  ∃ block, blockAt? size rows r = some block ∧ blockAt? size rows s = some block

section
variable {size : Nat} (hsize : 0 < size) {long : List Text → Bool} {p : Prepared}
include hsize

theorem mem_startsOf_blocks {rows : List Row} {block : List Text} {s : Nat} :
    s ∈ startsOf block (blocks size (rows.map (·.text))) ↔ blockAt? size rows s = some block := by
  rw [mem_startsOf, getElem?_blocks hsize]

theorem lists_report {starts : List Nat}
    (h : starts ∈ repeats long (blocks size ((rows p).map (·.text)))) :
    Lists (rows p) (report (rows p) starts) starts := by
  obtain ⟨block, -, rfl, -⟩ := mem_repeats_iff.mp h
  refine ⟨fun s hs => ?_, ?_⟩
  · have hblock := (mem_startsOf_blocks hsize).mp hs
    unfold blockAt? at hblock
    split at hblock
    · omega
    · cases hblock
  · simp only [report, List.map_map, Function.comp_def]
    rfl

/-- Each repeated block is reported by its places. -/
theorem isRepetition_report {starts : List Nat}
    (h : starts ∈ repeats long (blocks size ((rows p).map (·.text)))) :
    IsRepetition size long (rows p) (report (rows p) starts) starts := by
  have hlists := lists_report hsize h
  obtain ⟨block, hlong, hstarts, hlength⟩ := mem_repeats_iff.mp h
  refine ⟨fun others => ⟨fun h' => lists_unique h' hlists, fun heq => heq ▸ hlists⟩, ?_, hlength,
    ⟨block, hlong, fun s => ?_⟩, ?_⟩
  · rw [hstarts]
    exact startsOf_pairwise _ _
  · rw [hstarts]
    exact mem_startsOf_blocks hsize
  · cases hcases : starts with
    | nil => rw [hcases] at hlength; cases hlength
    | cons s rest =>
      have hs : s < (rows p).length := hlists.1 s (hcases ▸ List.mem_cons_self)
      refine ⟨s, (rows p)[s], rfl, List.getElem?_eq_getElem hs, ?_⟩
      rw [← lineOf_eq hs]
      rfl

/-- Two rows that start one block are among the places of a block that is not left out, or go on
from there side by side. -/
theorem exists_leading {rows : List Row} {r s : Nat} {block : List Text} (hrs : r < s)
    (hr : blockAt? size rows r = some block) (hs : blockAt? size rows s = some block)
    (hlong : long block = true) :
    ∃ first ∈ leading [] (repeats long (blocks size (rows.map (·.text)))), ∃ t ≤ r,
      r - t ∈ first ∧ s - t ∈ first ∧ ∀ k ≤ t, StartAlike size rows (r - k) (s - k) := by
  generalize hall : blocks size (rows.map (·.text)) = all
  have hplace : ∀ {block s}, s ∈ startsOf block all ↔ blockAt? size rows s = some block :=
    hall ▸ mem_startsOf_blocks hsize
  have hr' := hplace.mpr hr
  have hs' := hplace.mpr hs
  have hlength : 2 ≤ (startsOf block all).length := by
    by_contra hshort
    obtain ⟨first, hfirst⟩ := List.length_eq_one_iff.mp
      (show (startsOf block all).length = 1 by have := List.length_pos_of_mem hr'; omega)
    rw [hfirst, List.mem_singleton] at hr' hs'
    omega
  have hrepeated := mem_repeats_iff.mpr ⟨block, hlong, rfl, hlength⟩
  rcases leading_covers [] hrepeated with
    ⟨first, hfirst, t, hstarts, hway⟩ | ⟨t, hstarts, -⟩
  · rw [hstarts] at hr' hs'
    obtain ⟨r, hfirstr, rfl⟩ := List.mem_map.mp hr'
    obtain ⟨s, hfirsts, rfl⟩ := List.mem_map.mp hs'
    refine ⟨first, hfirst, t, Nat.le_add_left t r, by rwa [Nat.add_sub_cancel],
      by rwa [Nat.add_sub_cancel], fun k hk => ?_⟩
    -- the places of another block, as far on as is left of the way
    obtain ⟨other, -, hother, -⟩ := mem_repeats_iff.mp (hway (t - k) (Nat.sub_le t k))
    rw [Nat.add_sub_assoc hk, Nat.add_sub_assoc hk]
    exact ⟨other, hplace.mp (hother ▸ List.mem_map_of_mem hfirstr),
      hplace.mp (hother ▸ List.mem_map_of_mem hfirsts)⟩
  · rw [hstarts] at hr'
    cases hr'

end

/-- The detector with a whole number as block size and a number as least length. -/
theorem duplicateCode_eq (th : Thresholds) (size : Nat) (least : Quantity) (p : Prepared) :
    Detector.duplicateCode { th with
        duplicateWindow := .ofInt size, duplicateRows := .ok size, duplicateMinChars := .ok least } p =
      .ok (find size (fun block => least.lt (.ofInt (blockLength block))) (rows p)) := by
  unfold Detector.duplicateCode
  dsimp only [Quantity.ofInt]
  split
  · next hfew =>
    have hrows : (rows p).length < size * 2 := by
      have hlt := of_decide_eq_true hfew
      exact_mod_cast hlt
    rw [find, if_pos hrows]
  · rfl

/-- The duplicates of a source are found, each once. With blocks of any size but zero, any least
length, and at least twice as many rows as a block has:
a finding lists all rows that start one block longer than the least length, two or more in
increasing order, and stands on the line of the first;
if two rows start the same such block, there is a finding that lists two rows as far back from them
as each other, and all the way back the blocks are the same;
and no two findings have a row in common. -/
theorem duplicateCode_exactly (th : Thresholds) {size : Nat} (hsize : 0 < size) (least : Quantity)
    (p : Prepared) (hrows : size * 2 ≤ (rows p).length) :
    let long : List Text → Bool := fun block => least.lt (.ofInt (blockLength block))
    ∃ found, Detector.duplicateCode { th with
        duplicateWindow := .ofInt size, duplicateRows := .ok size,
        duplicateMinChars := .ok least } p = .ok found ∧
      (∀ i ∈ found, ∃ starts, IsRepetition size long (rows p) i starts) ∧
      (∀ r s block, r < s → blockAt? size (rows p) r = some block →
        blockAt? size (rows p) s = some block → long block = true →
        ∃ i ∈ found, ∃ starts, Lists (rows p) i starts ∧ ∃ t ≤ r, r - t ∈ starts ∧ s - t ∈ starts ∧
          ∀ k ≤ t, StartAlike size (rows p) (r - k) (s - k)) ∧
      found.Pairwise fun i j => ∀ starts others, Lists (rows p) i starts →
        Lists (rows p) j others → starts.Disjoint others := by
  intro long
  refine ⟨_, duplicateCode_eq th size least p, ?_⟩
  rw [find, if_neg (Nat.not_lt.mpr hrows)]
  have hsub := leading_sublist [] (repeats long (blocks size ((rows p).map (·.text))))
  refine ⟨fun i hi => ?_, fun r s block hrs hr hs hlong => ?_, List.pairwise_map.mpr ?_⟩
  · obtain ⟨starts, hstarts, rfl⟩ := List.mem_map.mp hi
    exact ⟨starts, isRepetition_report hsize (hsub.subset hstarts)⟩
  · obtain ⟨first, hfirst, t, ht, hr, hs, hway⟩ := exists_leading hsize hrs hr hs hlong
    exact ⟨_, List.mem_map_of_mem hfirst, first, lists_report hsize (hsub.subset hfirst), t, ht,
      hr, hs, hway⟩
  · refine ((repeats_disjoint long _).sublist hsub).imp_of_mem fun {a b} ha hb hdisjoint => ?_
    intro starts others hstarts hothers
    rw [lists_unique hstarts (lists_report hsize (hsub.subset ha)),
      lists_unique hothers (lists_report hsize (hsub.subset hb))]
    exact hdisjoint

/-- Three rows, and once more with another one between them and a comment among them. -/
def threeTwice : Text :=
  "a = 1\nb = 2\nc = 3\n\nd = 4\na = 1\n# once more\n  b = 2\nc = 3".toList

/-- The second rows of both start one block of two, which is left out: it is found from the row
before it. -/
theorem duplicateCode_threeTwice :
    let p := prepare Language.python threeTwice
    let block := ["b = 2".toList, "c = 3".toList]
    2 * 2 ≤ (rows p).length ∧ blockAt? 2 (rows p) 1 = some block ∧
      blockAt? 2 (rows p) 5 = some block ∧
      ∃ found, Detector.duplicateCode { ({} : Thresholds) with
          duplicateWindow := .ofInt (2 : Nat), duplicateRows := .ok (2 : Nat),
          duplicateMinChars := .ok (.ofInt 10) } p = .ok found ∧
        ∃ i ∈ found, ∃ starts, Lists (rows p) i starts ∧ ∃ t ≤ 1, 1 - t ∈ starts ∧
          5 - t ∈ starts ∧ ∀ k ≤ t, StartAlike 2 (rows p) (1 - k) (5 - k) := by
  intro p block
  have hrows : 2 * 2 ≤ (rows p).length := by decide +kernel
  have hfirst : blockAt? 2 (rows p) 1 = some block := by decide +kernel
  have hsecond : blockAt? 2 (rows p) 5 = some block := by decide +kernel
  obtain ⟨found, hfound, -, hcomplete, -⟩ :=
    duplicateCode_exactly {} (by decide : 0 < 2) (.ofInt 10) p hrows
  exact ⟨hrows, hfirst, hsecond, found, hfound,
    hcomplete 1 5 block (by decide) hfirst hsecond (by decide +kernel)⟩

end Duplicates
end SourceAudit
