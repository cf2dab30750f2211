import SourceAudit.Proofs.Document.ScalarText

/-!
  Compact JSON texts tell values apart.

  A value is told by its text up to moments, which are written as texts are
  (`Json.told`). What is proved:
    1. `compact_cut` — what stands at the start of a text is written for one value only,
       and ends in one place.
    2. `compact_eq_iff` — values are written alike exactly if they are told alike.
-/
namespace SourceAudit

/-- Induction over values, their items and the values of their entries. -/
@[elab_as_elim]
theorem Value.induction {P : Value → Prop} (null : P .null) (flag : ∀ b, P (.flag b))
    (whole : ∀ n, P (.whole n)) (real : ∀ q, P (.real q)) (text : ∀ s, P (.text s))
    (moment : ∀ kind s, P (.moment kind s))
    (list : ∀ items, (∀ v ∈ items, P v) → P (.list items))
    (table : ∀ entries, (∀ e ∈ entries, P e.2) → P (.table entries)) (v : Value) : P v := by
  refine @Value.rec P (fun items => ∀ v ∈ items, P v) (fun entries => ∀ e ∈ entries, P e.2)
    (fun e => P e.2) null flag whole real text moment list table ?_ ?_ ?_ ?_ ?_ v
  · exact nofun
  · exact fun v rest hv hrest => List.forall_mem_cons.mpr ⟨hv, hrest⟩
  · exact nofun
  · exact fun e rest he hrest => List.forall_mem_cons.mpr ⟨he, hrest⟩
  · exact fun name v hv => hv

namespace Json

mutual

/-- A value as its text tells it: moments are texts. -/
def told : Value → Value
  | .moment _ s => .text s
  | .list items => .list (toldItems items)
  | .table entries => .table (toldEntries entries)
  | v => v

/-- The items of a list as their texts tell them. -/
def toldItems : List Value → List Value
  | [] => []
  | v :: rest => told v :: toldItems rest

/-- The entries of a table as their texts tell them. -/
def toldEntries : List (String × Value) → List (String × Value)
  | [] => []
  | (name, v) :: rest => (name, told v) :: toldEntries rest

end

/-! ## Lists and tables -/

/-- What stands behind an item of a list: the others, and the bracket that closes it. -/
def afterItem : List Value → Text
  | [] => [']']
  | v :: rest => ',' :: ' ' :: ((compact v).toList ++ afterItem rest)

/-- What stands behind an entry of a table: the others, and the brace that closes it. -/
def afterEntry : List (String × Value) → Text
  | [] => ['\x7d']
  | (name, v) :: rest =>
    ',' :: ' ' :: ((string name).toList ++ ':' :: ' ' :: ((compact v).toList ++ afterEntry rest))

theorem toList_intercalate_cons (v : Value) (rest : List Value) :
    (", ".intercalate (compactItems (v :: rest))).toList ++ [']'] =
      (compact v).toList ++ afterItem rest := by
  induction rest generalizing v with
  | nil => simp [compactItems, afterItem]
  | cons w rest ih =>
    have hstep : ", ".intercalate (compactItems (v :: w :: rest)) =
        compact v ++ ", " ++ ", ".intercalate (compactItems (w :: rest)) :=
      String.intercalate_cons_cons
    rw [hstep, String.toList_append, String.toList_append, List.append_assoc, ih, afterItem,
      List.append_assoc]
    rfl

theorem compact_list_cons (v : Value) (rest : List Value) :
    (compact (.list (v :: rest))).toList = '[' :: ((compact v).toList ++ afterItem rest) := by
  rw [← toList_intercalate_cons]
  simp [compact]

theorem toList_intercalate_entries (name : String) (v : Value) (rest : List (String × Value)) :
    (", ".intercalate (compactEntries ((name, v) :: rest))).toList ++ ['\x7d'] =
      (string name).toList ++ ':' :: ' ' :: ((compact v).toList ++ afterEntry rest) := by
  induction rest generalizing name v with
  | nil => simp [compactEntries, afterEntry]
  | cons e rest ih =>
    have hstep : ", ".intercalate (compactEntries ((name, v) :: e :: rest)) =
        (string name ++ ": " ++ compact v) ++ ", " ++ ", ".intercalate (compactEntries (e :: rest)) :=
      String.intercalate_cons_cons
    rw [hstep, String.toList_append, String.toList_append, List.append_assoc, ih, afterEntry]
    simp

theorem compact_table_cons (name : String) (v : Value) (rest : List (String × Value)) :
    (compact (.table ((name, v) :: rest))).toList =
      '\x7b' :: ((string name).toList ++ ':' :: ' ' :: ((compact v).toList ++ afterEntry rest)) := by
  rw [← toList_intercalate_entries]
  simp [compact]

/-- Whether a value is the only one whose text stands at the start of a text, and it ends in one
place. -/
def Cuts (v : Value) : Prop :=
  ∀ (w : Value) (rest others : Text), v.IsProper → w.IsProper → Text.Stops isPlain rest →
    Text.Stops isPlain others → (compact v).toList ++ rest = (compact w).toList ++ others →
    told v = told w ∧ rest = others

theorem stops_afterItem (items : List Value) (rest : Text) :
    Text.Stops isPlain (afterItem items ++ rest) := by
  cases items <;> exact Text.stops_cons (by decide)

theorem stops_afterEntry (entries : List (String × Value)) (rest : Text) :
    Text.Stops isPlain (afterEntry entries ++ rest) := by
  cases entries <;> exact Text.stops_cons (by decide)

section Cut

variable {rest others : Text}

/-- A text begins with the character that opens it, or with a plain one. -/
theorem opening_spec {v : Value} (hv : v.IsProper) :
    ∃ c t, (compact v).toList = c :: t ∧ c ≠ ']' ∧
      (opening? v = none ∧ isPlain c = true ∨ opening? v = some c ∧ isPlain c = false) := by
  cases hopening : opening? v with
  | none =>
    obtain ⟨hne, hplain⟩ := plain_of_opening?_none hv hopening
    obtain ⟨c, t, ht⟩ := List.exists_cons_of_ne_nil hne
    have hc : isPlain c = true := hplain c (by rw [ht]; exact List.mem_cons_self)
    refine ⟨c, t, ht, ?_, .inl ⟨rfl, hc⟩⟩
    rintro rfl
    cases hc
  | some c =>
    cases v with
    | null | flag b | whole n | real q => cases hopening
    | text s | moment kind s =>
      cases hopening
      exact ⟨'"', _, toList_string s, by decide, .inr ⟨rfl, by decide⟩⟩
    | list items =>
      cases hopening
      exact ⟨'[', _, by simp only [compact, String.toList_append]; rfl, by decide,
        .inr ⟨rfl, by decide⟩⟩
    | table entries =>
      cases hopening
      exact ⟨'\x7b', _, by simp only [compact, String.toList_append]; rfl, by decide,
        .inr ⟨rfl, by decide⟩⟩

/-- Values whose texts begin alike open alike. -/
theorem opening?_eq {v w : Value} (hv : v.IsProper) (hw : w.IsProper)
    (h : (compact v).toList ++ rest = (compact w).toList ++ others) : opening? v = opening? w := by
  obtain ⟨c, s, hs, -, hc⟩ := opening_spec hv
  obtain ⟨d, t, ht, -, hd⟩ := opening_spec hw
  rw [hs, ht] at h
  obtain ⟨rfl, -⟩ := List.cons.inj h
  rcases hc with ⟨hv, hplain⟩ | ⟨hv, hmark⟩ <;> rcases hd with ⟨hw, hplain'⟩ | ⟨hw, hmark'⟩
  · rw [hv, hw]
  · rw [hplain] at hmark'
    cases hmark'
  · rw [hmark] at hplain'
    cases hplain'
  · rw [hv, hw]

theorem cuts_of_opening?_none {v : Value} (h : opening? v = none) : Cuts v := by
  intro w rest others hv hw hrest hothers htext
  have hw' : opening? w = none := (opening?_eq hv hw htext).symm.trans h
  obtain ⟨rfl, hrests⟩ := cut_of_opening?_none hv hw h hw' hrest hothers htext
  exact ⟨rfl, hrests⟩

/-- Texts and moments are written as strings. -/
theorem cuts_of_string {v : Value} {s : String} (htold : told v = .text s)
    (hcompact : compact v = string s) (hopening : opening? v = some '"') : Cuts v := by
  intro w rest others hv hw _ _ htext
  have hw' := (opening?_eq hv hw htext).symm.trans hopening
  rw [hcompact] at htext
  cases w with
  | null | flag b | whole n | real q | list items | table entries => cases hw'
  | text t | moment kind t =>
    obtain ⟨rfl, hrests⟩ := string_cut htext
    exact ⟨htold, hrests⟩

theorem items_cut {items others' : List Value} (hcuts : ∀ v ∈ items, Cuts v)
    (hitems : ∀ v ∈ items, v.IsProper) (hothers : ∀ v ∈ others', v.IsProper)
    (h : afterItem items ++ rest = afterItem others' ++ others) :
    toldItems items = toldItems others' ∧ rest = others := by
  induction items generalizing others' with
  | nil =>
    cases others' with
    | nil => exact ⟨rfl, (List.cons.inj h).2⟩
    | cons w ws => exact absurd (List.cons.inj h).1 (by decide)
  | cons v vs ih =>
    cases others' with
    | nil => exact absurd (List.cons.inj h).1 (by decide)
    | cons w ws =>
      rw [List.forall_mem_cons] at hcuts hitems hothers
      simp only [afterItem, List.cons_append, List.append_assoc, List.cons.injEq, true_and] at h
      obtain ⟨hvalue, hbehind⟩ := hcuts.1 w _ _ hitems.1 hothers.1 (stops_afterItem vs rest)
        (stops_afterItem ws others) h
      obtain ⟨hvalues, hrest⟩ := ih hcuts.2 hitems.2 hothers.2 hbehind
      exact ⟨by rw [toldItems, toldItems, hvalue, hvalues], hrest⟩

theorem entries_cut {entries others' : List (String × Value)} (hcuts : ∀ e ∈ entries, Cuts e.2)
    (hentries : ∀ e ∈ entries, e.2.IsProper) (hothers : ∀ e ∈ others', e.2.IsProper)
    (h : afterEntry entries ++ rest = afterEntry others' ++ others) :
    toldEntries entries = toldEntries others' ∧ rest = others := by
  induction entries generalizing others' with
  | nil =>
    cases others' with
    | nil => exact ⟨rfl, (List.cons.inj h).2⟩
    | cons f fs => exact absurd (List.cons.inj h).1 (by decide)
  | cons e es ih =>
    cases others' with
    | nil => exact absurd (List.cons.inj h).1 (by decide)
    | cons f fs =>
      obtain ⟨name, v⟩ := e
      obtain ⟨other, w⟩ := f
      rw [List.forall_mem_cons] at hcuts hentries hothers
      simp only [afterEntry, List.cons_append, List.append_assoc, List.cons.injEq, true_and] at h
      obtain ⟨rfl, hcolon⟩ := string_cut h
      simp only [List.cons.injEq, true_and] at hcolon
      obtain ⟨hvalue, hbehind⟩ := hcuts.1 w _ _ hentries.1 hothers.1 (stops_afterEntry es rest)
        (stops_afterEntry fs others) hcolon
      obtain ⟨hvalues, hrest⟩ := ih hcuts.2 hentries.2 hothers.2 hbehind
      exact ⟨by rw [toldEntries, toldEntries, hvalue, hvalues], hrest⟩

end Cut

theorem cuts_list {items : List Value} (hcuts : ∀ v ∈ items, Cuts v) : Cuts (.list items) := by
  intro w rest others hv hw _ _ htext
  have hopening := opening?_eq hv hw htext
  cases w with
  | null | flag b | whole n | real q | text s | moment kind s | table entries => cases hopening
  | list ws =>
    cases hv with | list hitems =>
    cases hw with | list hothers =>
    cases items with
    | nil =>
      cases ws with
      | nil => exact ⟨rfl, List.append_cancel_left htext⟩
      | cons w ws =>
        obtain ⟨c, t, ht, hc, -⟩ := opening_spec (hothers w List.mem_cons_self)
        rw [compact_list_cons, ht] at htext
        exact absurd (List.cons.inj (List.cons.inj htext).2).1.symm hc
    | cons v vs =>
      cases ws with
      | nil =>
        obtain ⟨c, t, ht, hc, -⟩ := opening_spec (hitems v List.mem_cons_self)
        rw [compact_list_cons, ht] at htext
        exact absurd (List.cons.inj (List.cons.inj htext).2).1 hc
      | cons w ws =>
        rw [compact_list_cons, compact_list_cons] at htext
        obtain ⟨htold, hrests⟩ := items_cut hcuts hitems hothers
          (congrArg (fun t => ',' :: ' ' :: t) (List.cons.inj htext).2)
        exact ⟨by rw [told, told, htold], hrests⟩

theorem cuts_table {entries : List (String × Value)} (hcuts : ∀ e ∈ entries, Cuts e.2) :
    Cuts (.table entries) := by
  intro w rest others hv hw _ _ htext
  have hopening := opening?_eq hv hw htext
  cases w with
  | null | flag b | whole n | real q | text s | moment kind s | list items => cases hopening
  | table fs =>
    cases hv with | table hentries =>
    cases hw with | table hothers =>
    cases entries with
    | nil =>
      cases fs with
      | nil => exact ⟨rfl, List.append_cancel_left htext⟩
      | cons f fs =>
        rw [compact_table_cons, toList_string] at htext
        exact absurd (List.cons.inj (List.cons.inj htext).2).1 (by decide)
    | cons e es =>
      cases fs with
      | nil =>
        rw [compact_table_cons, toList_string] at htext
        exact absurd (List.cons.inj (List.cons.inj htext).2).1 (by decide)
      | cons f fs =>
        rw [compact_table_cons, compact_table_cons] at htext
        obtain ⟨htold, hrests⟩ := entries_cut hcuts hentries hothers
          (congrArg (fun t => ',' :: ' ' :: t) (List.cons.inj htext).2)
        exact ⟨by rw [told, told, htold], hrests⟩

/-- What stands at the start of a text is written for one value only, and ends in one place. -/
theorem compact_cut (v : Value) : Cuts v := by
  induction v using Value.induction with
  | null | flag | whole | real => exact cuts_of_opening?_none rfl
  | text s | moment kind s => exact cuts_of_string rfl rfl rfl
  | list items ih => exact cuts_list ih
  | table entries ih => exact cuts_table ih

theorem toldItems_eq_map (items : List Value) : toldItems items = items.map told := by
  induction items with
  | nil => rfl
  | cons v rest ih => rw [toldItems, List.map_cons, ih]

theorem toldEntries_eq_map (entries : List (String × Value)) :
    toldEntries entries = entries.map fun e => (e.1, told e.2) := by
  induction entries with
  | nil => rfl
  | cons e rest ih => rw [toldEntries, List.map_cons, ih]

theorem compactItems_eq_map (items : List Value) : compactItems items = items.map compact := by
  induction items with
  | nil => rfl
  | cons v rest ih => rw [compactItems, List.map_cons, ih]

theorem compactEntries_eq_map (entries : List (String × Value)) :
    compactEntries entries = entries.map fun e => string e.1 ++ ": " ++ compact e.2 := by
  induction entries with
  | nil => rfl
  | cons e rest ih => rw [compactEntries, List.map_cons, ih]

/-- A value is written as it is told. -/
theorem compact_told (v : Value) : compact (told v) = compact v := by
  induction v using Value.induction with
  | null | flag | whole | real | text | moment => rfl
  | list items ih =>
    rw [told, compact, compact, toldItems_eq_map, compactItems_eq_map, compactItems_eq_map,
      List.map_map, List.map_congr_left (f := compact ∘ told) ih]
  | table entries ih =>
    have hentries : ∀ e ∈ entries, string e.1 ++ ": " ++ compact (told e.2) =
        string e.1 ++ ": " ++ compact e.2 := by
      intro e he
      rw [ih e he]
    rw [told, compact, compact, toldEntries_eq_map, compactEntries_eq_map, compactEntries_eq_map,
      List.map_map, ← List.map_congr_left hentries]
    rfl

/-- Values are written alike exactly if they are told alike. -/
theorem compact_eq_iff {v w : Value} (hv : v.IsProper) (hw : w.IsProper) :
    compact v = compact w ↔ told v = told w := by
  constructor
  · intro h
    exact (compact_cut v w [] [] hv hw Text.stops_nil Text.stops_nil (by rw [h])).1
  · intro h
    rw [← compact_told v, h, compact_told]

end Json
end SourceAudit
