import SourceAudit.Language.Registry
import SourceAudit.Number.Rounding

/-!
  Which language a text is in. Every table scores the text: keywords count
  twice, imports three times, idioms four times and hallmarks five times, the
  sum multiplied by the weight of the table. The best score wins, and of equal
  scores the earlier table.

  The confidence is the score in per cent of ten points a line, at least
  twenty, rounded half up and capped at 100; a winner above 20 points gains 20,
  one above 50 points another 30. Scores and confidences are computed step by
  step; `round` says what a step makes of its exact value.
-/
namespace SourceAudit

/-- A language with the confidence in it. -/
structure LanguageGuess where
  language : String
  confidence : Int
  deriving DecidableEq, Repr

/-- The outcome of a classification. -/
structure Detection where
  language : String
  confidence : Int
  alternatives : List LanguageGuess := []
  reason : String := ""
  deriving DecidableEq, Repr

/-- The score of one table, and what it found. -/
structure LanguageScore where
  language : String
  score : Rat
  reasons : List String

namespace Classifier

/-- One sign of a language found in a text: what to say of it, its points, and how often. -/
structure Sign where
  label : String
  points : Nat
  count : Nat

/-- The sentence that reports a sign. -/
def Sign.reason (s : Sign) : String := s.label ++ " (" ++ toString s.count ++ " times)"

/-- The signs that the words of a list give. -/
def wordSigns (code : Text) (kind : String) (points : Nat) (words : List String) : List Sign :=
  words.map fun w =>
    ⟨"Found \"" ++ w ++ "\" " ++ kind, points, (Pattern.wholeWord w.toList).count code⟩

/-- The signs that the patterns of a list give; they are called by their place in it. -/
def formSigns (code : Text) (kind : String) (points : Nat) (forms : List Pattern) : List Sign :=
  forms.zipIdx.map fun (p, i) =>
    ⟨"Matched " ++ kind ++ " pattern " ++ toString (i + 1), points, p.count code⟩

/-- Everything of a language that is found in a text, in the order of the report. -/
def signs (l : Language) (code : Text) : List Sign :=
  (wordSigns code "keyword" 2 l.keywords ++ wordSigns code "import" 3 l.imports ++
    formSigns code "syntax" 4 l.idioms ++ formSigns code "specific" 5 l.hallmarks).filter
      fun s => s.count != 0

/-- The points of the signs together. -/
def points (found : List Sign) : Nat :=
  (found.map fun s => s.count * s.points).foldr (· + ·) 0

/-- The score of a table. -/
def scoreWith (round : Rat → Rat) (l : Language) (code : Text) : LanguageScore :=
  let found := signs l code
  ⟨l.name, round ((points found : Rat) * l.weight), found.map Sign.reason⟩

/-- The scores of all tables, in their order. -/
def scoresWith (round : Rat → Rat) (r : Registry) (code : Text) : List LanguageScore :=
  r.languages.map fun l => scoreWith round l code

/-- The scores of all tables as binary fractions. -/
def scores (r : Registry) (code : Text) : List LanguageScore := scoresWith Number.toBinary r code

/-- The tables that score above zero, best first, equal ones in their order. -/
def ranking (all : List LanguageScore) : List LanguageScore :=
  (all.filter fun s => decide (0 < s.score)).mergeSort fun a b => decide (b.score ≤ a.score)

/-- The score in per cent of what the text could give, rounded half up, at most 100. -/
def confidenceWith (round : Rat → Rat) (score : Rat) (possible : Nat) : Int :=
  let share := round (round (round (score / possible) * 100) + 1 / 2)
  min 100 share.floor

/-- The confidence in the winner: more for a high score. -/
def winnerConfidenceWith (round : Rat → Rat) (score : Rat) (possible : Nat) : Int :=
  let base := confidenceWith round score possible
  let more := if 20 < score then min 100 (base + 20) else base
  if 50 < score then min 100 (more + 30) else more

/-- The points that a text of so many lines could give. -/
def possible (lineCount : Nat) : Nat := max 20 (lineCount * 10)

/-- The classification that names the fallback of the registry. -/
def fallback (r : Registry) (reason : String) : Detection := ⟨r.fallback, 0, [], reason⟩

/-- The classification by content alone. -/
def detectContentWith (round : Rat → Rat) (r : Registry) (code : Text) : Detection :=
  if code.isBlank then fallback r "No code provided"
  else
    match ranking (scoresWith round r code) with
    | [] => fallback r "No language patterns matched"
    | top :: others =>
      let limit := possible code.lines.length
      { language := top.language
        confidence := winnerConfidenceWith round top.score limit
        alternatives := (others.take 3).map fun s =>
          ⟨s.language, confidenceWith round s.score limit⟩
        reason := "Detected based on: " ++ ", ".intercalate (top.reasons.take 3) }

/-- The classification of a text, by the suffix of its file name if that decides. -/
def detectWith (round : Rat → Rat) (r : Registry) (code : Text) (file : Option String) :
    Detection :=
  match file with
  | none => detectContentWith round r code
  | some path =>
    match (if path.isEmpty then none else r.ofFileName path) with
    | none => detectContentWith round r code
    | some language =>
      { language := language
        confidence := 95
        alternatives := []
        reason := "Detected from file extension: " ++
          String.ofList (FileName.fromLastDot path.toList) }

/-- The classification of a text with scores and confidences that are binary fractions. -/
def detect (r : Registry) (code : Text) (file : Option String) : Detection :=
  detectWith Number.toBinary r code file

end Classifier
end SourceAudit
