import SourceAudit.Language.Registry
import SourceAudit.Proofs.Complexity.LoopFrame
import SourceAudit.Proofs.Complexity.LoopGrowth

/-!
  The depth of loops in items that have the header of an implementation around them.

  The word between the trait and the type of a header (`Header`) is a loop word, and it
  takes the block behind the type for its body. What is proved:
    1. `Header.foldl_tokensAround` — so the steps over whole items with a header around them
       note one more than their depth, unless something in the type takes the loop.
    2. `depth_of_headers` — a source without loops has no depth exactly if it has no such
       word, and a header around items of a source counts as a loop around them.
-/
namespace SourceAudit.Enclosed
open LoopToken LoopDepth LoopDepth.State

/-- The loop words. -/
def loopWords : List Text := ["for", "while", "loop"].map String.toList

/-- The header of an implementation: the passages for the trait and for the type, each behind its
word. -/
structure Header where
  trait : Passage loopWords
  type : Passage loopWords
  apart : Apart trait.text ∧ Apart type.text
  ends : trait.text ≠ [] ∧ Ends trait.text

/-- A header around a text. -/
def Header.around (h : Header) (t : Text) : Text :=
  "impl".toList ++ (h.trait.text ++ ("for".toList ++ (h.type.text ++ '\x7b' :: (t ++ ['\x7d']))))

/-- The tokens of a header around items. -/
def Header.tokensAround (h : Header) (inner : List LoopToken) : List LoopToken :=
  h.trait.text.filterMap ofMark? ++ .loop :: (h.type.text.filterMap ofMark? ++
    .braceOpen :: (inner ++ [.braceClose]))

/-- Whole items within a source, where no loop waits for them and no call goes on with them. -/
structure Place where
  before : Text
  items : Text
  behind : Text
  ends : Ends before ∧ Ends items
  apart : Piece.opensCall (Piece.all (items ++ behind)) = false ∧
    Piece.opensCall (Piece.all behind) = false
  idle : ((all loopWords before).foldl step {}).waiting = []
  whole : Whole loopWords items

namespace Place
variable (p : Place)

/-- The source with the items as they are. -/
def text : Text := p.before ++ (p.items ++ p.behind)

/-- The source with a header around the items. -/
def within (h : Header) : Text := p.before ++ (h.around p.items ++ p.behind)

/-- How deep the loops of the items are nested on their own. -/
def depth : Nat := ofTokens (all loopWords p.items)

/-- The number of loops that are open at the items. -/
def opened : Nat := ((all loopWords p.before).foldl step {}).taken

/-- How deep the loops are nested without the items. -/
def elsewhere : Nat := ofTokens (all loopWords (p.before ++ p.behind))

end Place

theorem Header.all_around_append (h : Header) (t rest : Text) :
    all loopWords (h.around t ++ rest) =
      h.tokensAround (all loopWords t) ++ all loopWords rest := by
  have htrait : ∀ t, Apart (h.trait.text ++ t) := fun t c hc =>
    h.apart.1 c (by rwa [List.head?_append_of_ne_nil _ h.ends.1] at hc)
  have hassoc : h.around t ++ rest = "impl".toList ++ (h.trait.text ++ ("for".toList ++
      (h.type.text ++ '\x7b' :: (t ++ '\x7d' :: rest)))) := by
    simp [around]
  rw [hassoc, all_word_append (by decide) (by decide) (htrait _),
    all_append_of_ends h.ends.2 (opensCall_word_append (by decide) (by decide) _),
    all_quiet h.trait.quiet,
    all_word_append (by decide) (by decide) (h.apart.2.append (apart_cons (by decide) _)),
    all_append_mark rfl (by decide), all_quiet h.type.quiet, all_append_mark rfl (by decide)]
  simp [tokensAround, loopWords]

/-- A header counts as a loop around what it stands around, or beside it. -/
theorem Header.foldl_tokensAround (h : Header) {t : Text} (ht : Whole loopWords t) {s : State}
    (hs : s.Settled) (hw : s.waiting = []) :
    (h.tokensAround (all loopWords t)).foldl step s =
      s.after (if takes 0 h.type.text then max 1 (ofTokens (all loopWords t))
        else ofTokens (all loopWords t) + 1) := by
  have hloop := step_loop_settled hs
  rw [tokensAround, List.foldl_append, h.trait.foldl_tokens hs hw, List.foldl_cons,
    List.foldl_append, h.type.foldl_tokens_of_waiting hloop,
    foldl_block fun s hs hw => foldl_whole ht hs hw]
  split
  · rw [after_step_loop, after_after hw]
  · rw [after_step_loop]

/-- The depth of a source with whole items is the greater of that of the rest and of that of the
items; a header around the items adds a loop, unless it ends in the type. -/
theorem Place.ofTokens_text (p : Place) (h : Header) :
    ofTokens (all loopWords p.text) = max p.elsewhere (p.opened + p.depth) ∧
      ofTokens (all loopWords (p.within h)) = max p.elsewhere
        (p.opened + if takes 0 h.type.text then max 1 p.depth else p.depth + 1) := by
  have hsettled : ((all loopWords p.before).foldl step {}).Settled :=
    ⟨by simp [p.idle], foldl_noted (s := {}) (Nat.le_refl 0) _⟩
  have helsewhere : p.elsewhere = ofTokens (all loopWords p.before ++ all loopWords p.behind) := by
    rw [elsewhere, all_append_of_ends p.ends.1 p.apart.2]
  constructor
  · rw [text, all_append_of_ends p.ends.1 p.apart.1, all_append_of_ends p.ends.2 p.apart.2,
      ofTokens_of_after p.idle (foldl_whole p.whole hsettled p.idle), helsewhere]
    rfl
  · have hword : Piece.opensCall (Piece.all (h.around p.items ++ p.behind)) = false := by
      rw [Header.around, List.append_assoc]
      exact opensCall_word_append (by decide) (by decide) _
    rw [within, all_append_of_ends p.ends.1 hword, h.all_around_append,
      ofTokens_of_after p.idle (h.foldl_tokensAround p.whole hsettled p.idle), helsewhere]
    rfl

theorem ofSource_eq (t : Text) : LoopDepth.ofSource (prepare Language.rust t) =
    ofTokens (all loopWords (prepare Language.rust t).masked) := by
  have hlanguage : (prepare Language.rust t).language = Language.rust := rfl
  have hbraces : Language.rust.usesBraces = true := rfl
  rw [LoopDepth.ofSource, hlanguage, if_pos hbraces]
  rfl

/-- In a source without other loops and without calls, no depth is found exactly if the word of the
headers does not stand in it; so its time is constant, if nothing but its loops bears on it. And a
header around whole items of a source counts as a loop around them, or beside them if something in
its type takes it. -/
theorem depth_of_headers (t : Text) :
    (¬ WordIn "while".toList (prepare Language.rust t).masked →
      ¬ WordIn "loop".toList (prepare Language.rust t).masked →
      ¬ CallIn (prepare Language.rust t).masked →
        (LoopDepth.ofSource (prepare Language.rust t) = 0 ↔
          ¬ WordIn "for".toList (prepare Language.rust t).masked) ∧
        ((prepare Language.rust t).LoopsOnly →
          ((Complexity.ofSource (prepare Language.rust t)).time.growth = .constant ↔
            ¬ WordIn "for".toList (prepare Language.rust t).masked))) ∧
    (∀ (p : Place) (h : Header) (t' : Text), (prepare Language.rust t).masked = p.text →
      (prepare Language.rust t').masked = p.within h →
        LoopDepth.ofSource (prepare Language.rust t) = max p.elsewhere (p.opened + p.depth) ∧
        LoopDepth.ofSource (prepare Language.rust t') = max p.elsewhere
          (p.opened + if takes 0 h.type.text then max 1 p.depth else p.depth + 1)) := by
  constructor
  · intro hwhile hloop hcall
    have hwords : ∀ w ∈ loopWords, w.all Unicode.isWord = true ∧ w ≠ [] ∧ w ∉ iterators := by
      decide
    have hdepth : LoopDepth.ofSource (prepare Language.rust t) = 0 ↔
        ¬ WordIn "for".toList (prepare Language.rust t).masked := by
      rw [ofSource_eq, ofTokens_all_eq_zero_iff hcall hwords]
      simp only [loopWords, List.map_cons, List.map_nil, List.forall_mem_cons, List.not_mem_nil,
        false_imp_iff, implies_true, and_true]
      exact ⟨And.left, fun hfor => ⟨hfor, hwhile, hloop⟩⟩
    refine ⟨hdepth, fun honly => ?_⟩
    rw [Complexity.time_growth_of_loopsOnly rfl honly, Growth.ofLoopDepth_eq_constant_iff, hdepth]
  · intro p h t' ht ht'
    rw [ofSource_eq, ofSource_eq, ht, ht']
    exact p.ofTokens_text h

/-- The header of an implementation of `A` for `B`. -/
def plainHeader : Header where
  trait := .ofQuiet " A ".toList (.of_not_occurs (by decide) (by decide)) (by decide)
  type := .ofQuiet " B ".toList (.of_not_occurs (by decide) (by decide)) (by decide)
  apart := by decide
  ends := by decide

/-- A function with a loop, in a module. -/
def loopItems : Place where
  before := "mod m \x7b\n".toList
  items := "fn f() \x7b for x in y \x7b\x7d \x7d\n".toList
  behind := "\x7d\n".toList
  ends := by decide
  apart := by decide
  idle := by decide
  whole := by decide

/-- Without headers no depth is found where there is no loop, and around the function with the loop
a header counts as one more. -/
theorem depth_of_header_around_loop :
    let plain := "mod m;".toList
    let bare := "mod m \x7b\nfn f() \x7b for x in y \x7b\x7d \x7d\n\x7d\n".toList
    let headed := "mod m \x7b\nimpl A for B \x7bfn f() \x7b for x in y \x7b\x7d \x7d\n\x7d\x7d\n".toList
    LoopDepth.ofSource (prepare Language.rust plain) = 0 ∧
      (Complexity.ofSource (prepare Language.rust plain)).time.growth = .constant ∧
      LoopDepth.ofSource (prepare Language.rust bare) = 1 ∧
      LoopDepth.ofSource (prepare Language.rust headed) = 2 := by
  intro plain bare headed
  have hquiet : Quiet loopWords (prepare Language.rust plain).masked :=
    .of_not_occurs (by decide +kernel) (by decide +kernel)
  have hnone := (depth_of_headers plain).1 (hquiet.noWord _ (by decide))
    (hquiet.noWord _ (by decide)) hquiet.noCall
  have hfor := hquiet.noWord "for".toList (by decide)
  have hplace := (depth_of_headers bare).2 loopItems plainHeader headed (by decide +kernel)
    (by decide +kernel)
  refine ⟨hnone.1.mpr hfor, (hnone.2 ⟨by decide +kernel, by decide +kernel⟩).mpr hfor, ?_, ?_⟩
  · exact hplace.1.trans (by decide)
  · exact hplace.2.trans (by decide)

/-- No items, on lines of their own. -/
def noItems : Place where
  before := []
  items := "\n".toList
  behind := "\n".toList
  ends := by decide
  apart := by decide
  idle := by decide
  whole := by decide

/-- A source whose one loop word is that of a header has depth one, and without the header none. -/
theorem depth_of_header_around_nothing :
    let t := "impl A for B \x7b\n\x7d\n".toList
    (prepare Language.rust noItems.text).masked = noItems.text ∧
      (prepare Language.rust t).masked = noItems.within plainHeader ∧
      Quiet loopWords noItems.items ∧ Quiet loopWords noItems.behind ∧
      (∀ w ∈ ["while", "loop", "do"].map String.toList,
        ¬ WordIn w (prepare Language.rust t).masked) ∧
      ¬ CallIn (prepare Language.rust t).masked ∧
      LoopDepth.ofSource (prepare Language.rust noItems.text) = 0 ∧
      LoopDepth.ofSource (prepare Language.rust t) = 1 := by
  intro t
  have hquiet : Quiet (["while", "loop", "do"].map String.toList)
      (prepare Language.rust t).masked := .of_not_occurs (by decide +kernel) (by decide +kernel)
  exact ⟨by decide +kernel, by decide +kernel, .of_not_occurs (by decide) (by decide),
    .of_not_occurs (by decide) (by decide), hquiet.noWord, hquiet.noCall, by decide +kernel,
    by decide +kernel⟩

end SourceAudit.Enclosed
