import SourceAudit.Proofs.Score.Judgements
import SourceAudit.Proofs.Source.PreparedLines

/-!
  The language that a text is found to be in, and the ones it might be in.

  Scores are computed step by step, exactly or rounded to binary fractions; what is proved
  holds of any steps that keep the order of values. What is proved:
    1. `filter_mergeSort` — sorting leaves ties in their order, so the ranking of scores is
       the list of the tables that score above zero, best first, and of equal ones the
       earlier (`exists_isRanking`). There is only one (`IsRanking.unique`).
    2. `winner_isBest` — the first of a ranking is the earliest of the best tables.
    3. `confidenceWith_mono`, `confidenceWith_mem`, `confidence_le_winner` — a higher score
       has no lower confidence, all lie within 0 and 100, and the winner gains.
    4. `detect_ranked` — so the language that is reported is the first of the ranking, with
       the next three as alternatives, whose confidences fall from the winner's on. Where
       no table scores above zero, the fallback is reported with confidence 0.
-/
namespace SourceAudit

open Score (IsRounding)

namespace Classifier

/-! ## Rankings -/

/-- A sort leaves things in their order that are tied with each other. -/
theorem filter_mergeSort {α : Type} {le : α → α → Bool}
    (htrans : ∀ a b c, le a b = true → le b c = true → le a c = true)
    (htotal : ∀ a b, (le a b || le b a) = true) {p : α → Bool}
    (hties : ∀ a b, p a = true → p b = true → le a b = true) (l : List α) :
    (l.mergeSort le).filter p = l.filter p := by
  have hsorted : (l.filter p).Pairwise fun a b => le a b = true :=
    List.pairwise_of_forall_mem_list fun a ha b hb =>
      hties a b (List.mem_filter.mp ha).2 (List.mem_filter.mp hb).2
  have hsub := (List.sublist_mergeSort htrans htotal hsorted List.filter_sublist).filter p
  rw [List.filter_filter] at hsub
  simp only [Bool.and_self] at hsub
  exact (hsub.eq_of_length ((List.mergeSort_perm l le).filter p).length_eq.symm).symm

/-- The tables that score above zero, each with its place in the registry: best first, and of equal
ones the earlier. -/
structure IsRanking (all : List LanguageScore) (order : List (LanguageScore × Nat)) : Prop where
  perm : order.Perm (all.zipIdx.filter fun s => decide (0 < s.1.score))
  sorted : order.Pairwise fun a b =>
    b.1.score < a.1.score ∨ a.1.score = b.1.score ∧ a.2 < b.2

section
variable {all : List LanguageScore} {order : List (LanguageScore × Nat)}

/-- The ranking is one of the tables with their places. -/
theorem exists_isRanking (all : List LanguageScore) :
    ∃ order, IsRanking all order ∧ ranking all = order.map (·.1) := by
  let placed := all.zipIdx.filter fun s => decide (0 < s.1.score)
  let le : LanguageScore × Nat → LanguageScore × Nat → Bool := fun a b =>
    decide (b.1.score ≤ a.1.score)
  have htrans : ∀ a b c, le a b = true → le b c = true → le a c = true := by
    intro a b c hab hbc
    exact decide_eq_true ((of_decide_eq_true hbc).trans (of_decide_eq_true hab))
  have htotal : ∀ a b, (le a b || le b a) = true := by
    intro a b
    simpa [le] using le_total b.1.score a.1.score
  have hplaced : placed.Pairwise fun a b => a.2 < b.2 := (Text.pairwise_zipIdx all).filter _
  have hmap : placed.map (·.1) = all.filter fun s => decide (0 < s.score) := by
    have hfilter := List.filter_map (f := Prod.fst) (p := fun s : LanguageScore =>
      decide (0 < s.score)) (l := all.zipIdx)
    rw [List.zipIdx_map_fst] at hfilter
    exact hfilter.symm
  refine ⟨placed.mergeSort le, ⟨List.mergeSort_perm placed le, ?sorted⟩, ?ranked⟩
  case sorted =>
    refine List.pairwise_iff_forall_sublist.mpr fun {a b} hpair => ?_
    have hle := of_decide_eq_true
      (List.pairwise_iff_forall_sublist.mp (List.pairwise_mergeSort htrans htotal placed) hpair)
    refine hle.lt_or_eq.imp_right fun heq => ⟨heq.symm, ?_⟩
    -- two tables with one score stand as they stood before
    let tied : LanguageScore × Nat → Bool := fun s => decide (s.1.score = a.1.score)
    have hties : ∀ s t, tied s = true → tied t = true → le s t = true := by
      intro s t hs ht
      exact decide_eq_true ((of_decide_eq_true ht).trans (of_decide_eq_true hs).symm).le
    have hkept := hpair.filter tied
    rw [filter_mergeSort htrans htotal hties placed] at hkept
    have htiedPair : [a, b].filter tied = [a, b] := by simp [tied, heq]
    rw [htiedPair] at hkept
    exact List.pairwise_iff_forall_sublist.mp (hplaced.filter tied) hkept
  case ranked =>
    rw [ranking, ← hmap]
    exact (List.map_mergeSort (f := Prod.fst) (r := le) fun _ _ _ _ => rfl).symm

/-- There is only one ranking. -/
theorem IsRanking.unique {other : List (LanguageScore × Nat)} (h : IsRanking all order)
    (h' : IsRanking all other) : order = other := by
  refine List.Perm.eq_of_pairwise (fun a b _ _ hab hba => ?_) h.sorted h'.sorted
    (h.perm.trans h'.perm.symm)
  rcases hab with hab | ⟨hab, hless⟩
  · rcases hba with hba | ⟨hba, -⟩
    · exact absurd hba hab.asymm
    · exact absurd hba hab.ne
  · rcases hba with hba | ⟨-, hmore⟩
    · exact absurd hab hba.ne
    · exact absurd hmore hless.asymm

theorem IsRanking.mem_iff (h : IsRanking all order) {s : LanguageScore} {i : Nat} :
    (s, i) ∈ order ↔ all[i]? = some s ∧ 0 < s.score := by
  rw [h.perm.mem_iff, List.mem_filter, List.mk_mem_zipIdx_iff_getElem?, decide_eq_true_iff]

/-- The first of a ranking scores best, and no earlier table does as well. -/
theorem winner_isBest {s : LanguageScore} {i : Nat} {others : List (LanguageScore × Nat)}
    (h : IsRanking all ((s, i) :: others)) {j : Nat} {t : LanguageScore} (ht : all[j]? = some t) :
    t.score ≤ s.score ∧ (t.score = s.score → i ≤ j) := by
  have hs : 0 < s.score := (h.mem_iff.mp List.mem_cons_self).2
  rcases le_or_gt t.score 0 with hzero | hpos
  · exact ⟨hzero.trans hs.le, fun heq => absurd (heq ▸ hzero) hs.not_ge⟩
  · rcases List.mem_cons.mp (h.mem_iff.mpr ⟨ht, hpos⟩) with heq | hother
    · obtain ⟨rfl, rfl⟩ := Prod.mk.inj heq
      exact ⟨le_rfl, fun _ => le_rfl⟩
    · rcases List.rel_of_pairwise_cons h.sorted hother with hless | ⟨heq, hplace⟩
      · exact ⟨hless.le, fun heq => absurd heq hless.ne⟩
      · exact ⟨heq.ge, fun _ => hplace.le⟩

/-- Tables of different names are ranked under different names. -/
theorem IsRanking.nodup (h : IsRanking all order) (hnames : (all.map (·.language)).Nodup) :
    (order.map (·.1.language)).Nodup := by
  rw [(h.perm.map (·.1.language)).nodup_iff]
  refine hnames.sublist ?_
  have hsub : (all.zipIdx.filter fun s => decide (0 < s.1.score)).Sublist all.zipIdx :=
    List.filter_sublist
  have hmap := (hsub.map Prod.fst).map LanguageScore.language
  rwa [List.zipIdx_map_fst, List.map_map] at hmap

end

/-! ## Confidences -/

section
variable {round : ℚ → ℚ} {s t : ℚ} (possible : Nat)

theorem confidenceWith_mono (hround : IsRounding round) (h : s ≤ t) :
    confidenceWith round s possible ≤ confidenceWith round t possible := by
  have hshare : round (s / possible) ≤ round (t / possible) := hround.mono (by gcongr)
  have hpercent : round (round (s / possible) * 100) ≤ round (round (t / possible) * 100) :=
    hround.mono (by gcongr)
  exact min_le_min_left 100 (Rat.floor_monotone (hround.mono (by gcongr)))

/-- The confidence in a table that does not score below zero lies within 0 and 100. -/
theorem confidenceWith_mem (hround : IsRounding round) (h : 0 ≤ s) :
    0 ≤ confidenceWith round s possible ∧ confidenceWith round s possible ≤ 100 := by
  have hkeeps : ∀ {q : ℚ}, 0 ≤ q → 0 ≤ round q := fun hq => hround.zero.ge.trans (hround.mono hq)
  have hshare : 0 ≤ round (s / possible) := hkeeps (by positivity)
  have hpercent : 0 ≤ round (round (s / possible) * 100) := hkeeps (by positivity)
  have hrounded : 0 ≤ round (round (round (s / possible) * 100) + 1 / 2) := hkeeps (by positivity)
  have hfloor : 0 ≤ (round (round (round (s / possible) * 100) + 1 / 2)).floor :=
    Rat.le_floor_iff.mpr (by exact_mod_cast hrounded)
  exact ⟨le_min (by norm_num) hfloor, min_le_left _ _⟩

/-- The winner gains for a high score, and has at most 100. -/
theorem confidence_le_winner (round : ℚ → ℚ) (s : ℚ) :
    confidenceWith round s possible ≤ winnerConfidenceWith round s possible ∧
      winnerConfidenceWith round s possible ≤ 100 := by
  have hbase : confidenceWith round s possible ≤ 100 := min_le_left _ _
  unfold winnerConfidenceWith
  dsimp only
  split_ifs <;> omega

end

/-! ## The classification -/

end Classifier

/-- A classification names the first table of a ranking, and the next three as alternatives. -/
structure Detection.Names (d : Detection) (order : List (LanguageScore × Nat)) : Prop where
  winner : order.head?.map (·.1.language) = some d.language
  alternatives : d.alternatives.map (·.language) = (order.tail.take 3).map (·.1.language)

/-- The confidences of a classification: the winner's, then those of the alternatives. -/
def Detection.confidences (d : Detection) : List Int :=
  d.confidence :: d.alternatives.map (·.confidence)

/-- The languages of a classification: the winner, then the alternatives. -/
def Detection.languages (d : Detection) : List String :=
  d.language :: d.alternatives.map (·.language)

namespace Classifier

variable {round : ℚ → ℚ} {r : Registry} {code : Text} {order : List (LanguageScore × Nat)}

/-- A text that is not blank is classified by the ranking of its scores. -/
theorem detectWith_of_ranking {s : LanguageScore} {i : Nat} {others : List (LanguageScore × Nat)}
    (hcode : code.isBlank = false)
    (hranking : ranking (scoresWith round r code) = ((s, i) :: others).map (·.1)) :
    let limit := possible code.lines.length
    let d := detectWith round r code none
    d.language = s.language ∧ d.confidence = winnerConfidenceWith round s.score limit ∧
      d.alternatives = (others.take 3).map fun t =>
        ⟨t.1.language, confidenceWith round t.1.score limit⟩ := by
  simp only [detectWith, detectContentWith, hcode, hranking, List.map_cons]
  exact ⟨rfl, rfl, by rw [← List.map_take, List.map_map]; rfl⟩

/-- The confidences fall from the winner's on, and lie within 0 and 100. -/
theorem confidences_fall {d : Detection} {s : LanguageScore} {i limit : Nat}
    {others : List (LanguageScore × Nat)} (hround : IsRounding round)
    (h : IsRanking (scoresWith round r code) ((s, i) :: others))
    (hwinner : d.confidence = winnerConfidenceWith round s.score limit)
    (hothers : d.alternatives = (others.take 3).map fun t =>
      ⟨t.1.language, confidenceWith round t.1.score limit⟩) :
    (∀ c ∈ d.confidences, 0 ≤ c ∧ c ≤ 100) ∧ d.confidences.Pairwise (· ≥ ·) := by
  have hpos : ∀ t ∈ (s, i) :: others, 0 ≤ t.1.score := fun t ht => (h.mem_iff.mp ht).2.le
  have hfalling : ((s, i) :: others).Pairwise fun a b => b.1.score ≤ a.1.score :=
    h.sorted.imp fun hab => hab.elim (·.le) (·.1.ge)
  obtain ⟨hbest, hrest⟩ := List.pairwise_cons.mp hfalling
  obtain ⟨hgain, hmost⟩ := confidence_le_winner limit round s.score
  have hconfidences : d.confidences = winnerConfidenceWith round s.score limit ::
      (others.take 3).map fun t => confidenceWith round t.1.score limit := by
    rw [Detection.confidences, hwinner, hothers, List.map_map]
    rfl
  rw [hconfidences]
  refine ⟨List.forall_mem_cons.mpr ⟨?winner, List.forall_mem_map.mpr fun t ht => ?other⟩,
    List.pairwise_cons.mpr ⟨List.forall_mem_map.mpr fun t ht => ?below, ?falling⟩⟩
  case winner =>
    exact ⟨(confidenceWith_mem limit hround (hpos _ List.mem_cons_self)).1.trans hgain, hmost⟩
  case other =>
    exact confidenceWith_mem limit hround
      (hpos t (List.mem_cons_of_mem _ (List.mem_of_mem_take ht)))
  case below =>
    exact (confidenceWith_mono limit hround (hbest t (List.mem_of_mem_take ht))).trans hgain
  case falling =>
    refine List.pairwise_map.mpr ((hrest.sublist (List.take_sublist 3 others)).imp fun hab => ?_)
    exact confidenceWith_mono limit hround hab

theorem map_language_scoresWith (round : ℚ → ℚ) (r : Registry) (code : Text) :
    (scoresWith round r code).map (·.language) = r.names := by
  rw [scoresWith, List.map_map]
  rfl

/-- Without a file name, a classification goes by the scores, with steps that are exact and with
steps that round to binary fractions, as those that are reported do. If the text is not blank and
some table scores above zero, the tables that do are ranked by their scores, equal ones in the order
of the registry. The first of them is reported, which is the earliest of the best; the next three,
or as many as there are, are the alternatives; tables with different names give different languages.
All confidences lie within 0 and 100 and fall from the winner's on. If no table scores above zero,
the fallback is reported with confidence 0 and without alternatives. -/
theorem detect_ranked :
    (IsRounding id ∧ IsRounding Number.toBinary ∧
      ∀ r code file, detect r code file = detectWith Number.toBinary r code file) ∧
    ∀ round, IsRounding round → ∀ (r : Registry) (code : Text),
      (code.isBlank = false → (∃ s ∈ scoresWith round r code, 0 < s.score) →
        ∃ s i others, IsRanking (scoresWith round r code) ((s, i) :: others) ∧
          (∀ (j : Nat) t, (scoresWith round r code)[j]? = some t →
            t.score ≤ s.score ∧ (t.score = s.score → i ≤ j)) ∧
          (detectWith round r code none).Names ((s, i) :: others) ∧
          (r.names.Nodup → (detectWith round r code none).languages.Nodup) ∧
          (∀ c ∈ (detectWith round r code none).confidences, 0 ≤ c ∧ c ≤ 100) ∧
          (detectWith round r code none).confidences.Pairwise (· ≥ ·)) ∧
      ((∀ s ∈ scoresWith round r code, s.score ≤ 0) →
        (detectWith round r code none).language = r.fallback ∧
        (detectWith round r code none).confidence = 0 ∧
        (detectWith round r code none).alternatives = []) := by
  refine ⟨⟨Score.isRounding_id, Score.isRounding_toBinary, fun _ _ _ => rfl⟩,
    fun round hround r code => ⟨fun hcode hscores => ?ranked, fun hnone => ?fallback⟩⟩
  case ranked =>
    obtain ⟨order, horder, hranking⟩ := exists_isRanking (scoresWith round r code)
    cases order with
    | nil =>
      -- a table that scores above zero has a place in the ranking
      obtain ⟨t, ht, hpos⟩ := hscores
      obtain ⟨j, hj⟩ := List.getElem?_of_mem ht
      exact absurd (horder.mem_iff.mpr ⟨hj, hpos⟩) List.not_mem_nil
    | cons first others =>
      obtain ⟨s, i⟩ := first
      obtain ⟨hlanguage, hconfidence, hothers⟩ := detectWith_of_ranking hcode hranking
      have hnames : (detectWith round r code none).alternatives.map (·.language) =
          (others.take 3).map (·.1.language) := by
        rw [hothers, List.map_map]
        rfl
      have hfall := confidences_fall hround horder hconfidence hothers
      refine ⟨s, i, others, horder, fun j t ht => winner_isBest horder ht,
        ⟨congrArg some hlanguage.symm, hnames⟩, fun hnodup => ?_, hfall⟩
      have hall := horder.nodup (map_language_scoresWith round r code ▸ hnodup)
      have hreported : (detectWith round r code none).languages =
          (((s, i) :: others).take 4).map (·.1.language) := by
        rw [Detection.languages, hlanguage, hnames, List.take_succ_cons, List.map_cons]
      rw [hreported]
      exact hall.sublist ((List.take_sublist 4 _).map _)
  case fallback =>
    have hranking : ranking (scoresWith round r code) = [] := by
      have hfilter : (scoresWith round r code).filter (fun s => decide (0 < s.score)) = [] :=
        List.filter_eq_nil_iff.mpr fun s hs => by simpa using hnone s hs
      rw [ranking, hfilter, List.mergeSort_nil]
    simp only [detectWith, detectContentWith, hranking]
    split <;> exact ⟨rfl, rfl, rfl⟩

/-- Tables in which the word stands for different points; two score alike, one is counted against,
and one does not know the word. -/
def rivals : List Language := [
  { name := "faint", keywords := ["if"], weight := 1 / 2 },
  { name := "clear", keywords := ["if"], weight := 3 / 2 },
  { name := "alike", imports := ["if"] },
  { name := "averse", keywords := ["if"], weight := -1 },
  { name := "deaf", keywords := ["do"] }]

/-- The earlier one of two equal tables is reported. -/
theorem detect_ranked_alike :
    let r : Registry := ⟨rivals, [], "deaf"⟩
    let code : Text := "if a\nif b".toList
    let d := detectWith id r code none
    IsRounding id ∧ code.isBlank = false ∧ (∃ s ∈ scoresWith id r code, 0 < s.score) ∧
      (scoresWith id r code).map (·.score) = [2, 6, 6, -4, 0] ∧ r.names.Nodup ∧
      d.language = "clear" ∧ d.languages.Nodup ∧ d.confidences.Pairwise (· ≥ ·) := by
  intro r code d
  have hcode : code.isBlank = false := by decide
  have hscores : ∃ s ∈ scoresWith id r code, 0 < s.score := by decide +kernel
  have hnames : r.names.Nodup := by decide +kernel
  have hvalues : (scoresWith id r code).map (·.score) = [2, 6, 6, -4, 0] := by decide +kernel
  obtain ⟨-, hall⟩ := detect_ranked
  obtain ⟨s, i, others, horder, hbest, hd, hdistinct, -, hfall⟩ :=
    (hall id Score.isRounding_id r code).1 hcode hscores
  -- the two best tables have the places 1 and 2
  have hplace : (scoresWith id r code)[i]? = some s := (horder.mem_iff.mp List.mem_cons_self).1
  have hscore : [(2 : ℚ), 6, 6, -4, 0][i]? = some s.score := by
    rw [← hvalues, List.getElem?_map, hplace]
    rfl
  have hsecond : (scoreWith id rivals[1] code).score = 6 := by decide +kernel
  obtain ⟨hleast, hfirst⟩ := hbest 1 (scoreWith id rivals[1] code) rfl
  rw [hsecond] at hleast hfirst
  have hmost : ∀ q ∈ [(2 : ℚ), 6, 6, -4, 0], q ≤ 6 := by norm_num
  have hsix : s.score = 6 := (hmost _ (List.mem_of_getElem? hscore)).antisymm hleast
  have hle : i ≤ 1 := hfirst hsix.symm
  have hne : i ≠ 0 := by
    rintro rfl
    exact absurd (hsix ▸ Option.some.inj hscore) (by norm_num)
  obtain rfl : i = 1 := by omega
  obtain rfl : scoreWith id rivals[1] code = s := Option.some.inj hplace
  exact ⟨Score.isRounding_id, hcode, hscores, hvalues, hnames, (Option.some.inj hd.winner).symm,
    hdistinct hnames, hfall⟩

end Classifier
end SourceAudit
