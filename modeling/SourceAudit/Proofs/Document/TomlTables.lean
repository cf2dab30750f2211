import SourceAudit.Document.Toml.Reader
import SourceAudit.Proofs.Document.KeyedTables

/-!
  Tables of TOML texts have every name once.

  What is proved:
    1. `isKeyed_eval` — a value that is written has, for whatever its entries are.
    2. `isKeyed_step`, `isKeyed_run` — so has what has been read so far, after each
       statement and after all of them.
    3. `isKeyed_read` — hence the table that a text stands for.
-/
namespace SourceAudit
namespace Toml

/-! ## Scalars and values as written -/

theorem exists_of_map_fst {α β : Type} {o : Option (α × Text)} {f : α → β} {b : β} {r : Text}
    (h : (o.map fun (a, rest) => (f a, rest)) = some (b, r)) : ∃ a, o = some (a, r) ∧ f a = b := by
  obtain ⟨⟨a, rest⟩, ho, heq⟩ := Option.map_eq_some_iff.mp h
  obtain ⟨hb, rfl⟩ := Prod.mk.inj heq
  exact ⟨a, ho, hb⟩

theorem isKeyed_momentOf {m : Match} {v : Value} (h : momentOf? m = some v) : v.IsKeyed := by
  unfold momentOf? at h
  dsimp only at h
  split at h
  · cases h
  split at h <;> obtain rfl := Option.some.inj h <;> exact .moment _ _

theorem isKeyed_scalar {t r : Text} {v : Value} (h : scalar? t = some (v, r)) : v.IsKeyed := by
  -- opened as an equation of functions, for checked at a text the body would run its patterns
  have hopened := Eq.refl scalar?
  conv at hopened =>
    rhs
    delta scalar?
  rw [hopened] at h
  beta_reduce at h
  split at h
  · obtain ⟨w, hw, heq⟩ := Option.map_eq_some_iff.mp h
    obtain ⟨rfl, -⟩ := Prod.mk.inj heq
    exact isKeyed_momentOf hw
  split at h
  · obtain ⟨rfl, -⟩ := Prod.mk.inj (Option.some.inj h)
    exact .moment _ _
  split at h
  · obtain ⟨rfl, -⟩ := Prod.mk.inj (Option.some.inj h)
    exact .whole _
  split at h
  · split at h
    · split at h
      · obtain ⟨rfl, -⟩ := Prod.mk.inj (Option.some.inj h)
        exact .whole _
      · cases h
    · obtain ⟨q, -, heq⟩ := Option.map_eq_some_iff.mp h
      obtain ⟨rfl, -⟩ := Prod.mk.inj heq
      exact .real q
  · obtain ⟨w, -, heq⟩ := Option.map_eq_some_iff.mp h
    obtain ⟨rfl, -⟩ := Prod.mk.inj heq
    exact .real w.2

/-- Whether the scalars of a value as written have every name once. -/
inductive Expr.IsKeyed : Expr → Prop where
  | scalar {v : Value} (h : v.IsKeyed) : IsKeyed (.scalar v)
  | list {items : List Expr} (h : ∀ e ∈ items, IsKeyed e) : IsKeyed (.list items)
  | table {entries : List (List String × Expr)} (h : ∀ e ∈ entries, IsKeyed e.2) :
    IsKeyed (.table entries)

/-- What is read as a value, as the items of a list or as the entries of a table. -/
structure ReadsKeyed (fuel : Nat) : Prop where
  value : ∀ {t e r}, value? fuel t = some (e, r) → e.IsKeyed
  items : ∀ {t es r}, items? fuel t = some (es, r) → ∀ e ∈ es, e.IsKeyed
  pairs : ∀ {t es r}, pairs? fuel t = some (es, r) → ∀ e ∈ es, e.2.IsKeyed

theorem isKeyed_pairWith {fuel : Nat} (h : ReadsKeyed fuel) {t r : Text}
    {pair : List String × Expr} (hpair : pairWith? (value? fuel) t = some (pair, r)) :
    pair.2.IsKeyed := by
  unfold pairWith? at hpair
  split at hpair
  · obtain ⟨e, hvalue, rfl⟩ := exists_of_map_fst hpair
    exact h.value hvalue
  · cases hpair

/-- The forms of a value in order: texts in either quotes, flags, lists, tables, scalars. -/
theorem isKeyed_value {fuel : Nat} (ih : ReadsKeyed fuel) {t r : Text} {e : Expr}
    (h : value? (fuel + 1) t = some (e, r)) : e.IsKeyed := by
  unfold value? at h
  split at h
  · obtain ⟨s, -, rfl⟩ := exists_of_map_fst (f := fun s => Expr.scalar (.text (String.ofList s))) h
    exact .scalar (.text _)
  · obtain ⟨s, -, rfl⟩ := exists_of_map_fst (f := fun s => Expr.scalar (.text (String.ofList s))) h
    exact .scalar (.text _)
  · obtain ⟨rfl, -⟩ := Prod.mk.inj (Option.some.inj h)
    exact .scalar (.flag _)
  · obtain ⟨rfl, -⟩ := Prod.mk.inj (Option.some.inj h)
    exact .scalar (.flag _)
  · obtain ⟨es, hitems, rfl⟩ := exists_of_map_fst h
    exact .list (ih.items hitems)
  · split at h
    · obtain ⟨rfl, -⟩ := Prod.mk.inj (Option.some.inj h)
      exact .table nofun
    · obtain ⟨es, hpairs, rfl⟩ := exists_of_map_fst h
      exact .table (ih.pairs hpairs)
  · obtain ⟨v, hscalar, rfl⟩ := exists_of_map_fst h
    exact .scalar (isKeyed_scalar hscalar)

theorem isKeyed_items {fuel : Nat} (ih : ReadsKeyed fuel) {t r : Text} {es : List Expr}
    (h : items? (fuel + 1) t = some (es, r)) : ∀ e ∈ es, e.IsKeyed := by
  unfold items? at h
  split at h
  · cases h
  · obtain ⟨rfl, -⟩ := Prod.mk.inj (Option.some.inj h)
    exact nofun
  · split at h
    · cases h
    · next hvalue =>
      split at h
      · obtain ⟨rfl, -⟩ := Prod.mk.inj (Option.some.inj h)
        exact List.forall_mem_singleton.mpr (ih.value hvalue)
      · obtain ⟨vs, hitems, rfl⟩ := exists_of_map_fst h
        exact List.forall_mem_cons.mpr ⟨ih.value hvalue, ih.items hitems⟩
      · cases h

theorem isKeyed_pairs {fuel : Nat} (ih : ReadsKeyed fuel) {t r : Text}
    {es : List (List String × Expr)} (h : pairs? (fuel + 1) t = some (es, r)) :
    ∀ e ∈ es, e.2.IsKeyed := by
  unfold pairs? at h
  split at h
  · cases h
  · next hpair =>
    split at h
    · obtain ⟨rfl, -⟩ := Prod.mk.inj (Option.some.inj h)
      exact List.forall_mem_singleton.mpr (isKeyed_pairWith ih hpair)
    · obtain ⟨ps, hpairs, rfl⟩ := exists_of_map_fst h
      exact List.forall_mem_cons.mpr ⟨isKeyed_pairWith ih hpair, ih.pairs hpairs⟩
    · cases h

theorem readsKeyed (fuel : Nat) : ReadsKeyed fuel := by
  induction fuel with
  | zero => exact ⟨nofun, nofun, nofun⟩
  | succ fuel ih => exact ⟨isKeyed_value ih, isKeyed_items ih, isKeyed_pairs ih⟩

/-! ## Statements -/

/-- Whether the value of a statement, if it has one, is made of such scalars. -/
def Statement.IsKeyed : Statement → Prop
  | .entry _ e => e.IsKeyed
  | .table _ | .element _ => True

theorem isKeyed_statement {t r : Text} {s : Statement} (h : statement? t = some (s, r)) :
    s.IsKeyed := by
  unfold statement? at h
  split at h
  · split at h
    · obtain ⟨rfl, -⟩ := Prod.mk.inj (Option.some.inj h)
      trivial
    · cases h
  · split at h
    · obtain ⟨rfl, -⟩ := Prod.mk.inj (Option.some.inj h)
      trivial
    · cases h
  · split at h
    · next hpair =>
      split at h
      · obtain ⟨rfl, -⟩ := Prod.mk.inj (Option.some.inj h)
        exact isKeyed_pairWith (readsKeyed _) hpair
      · cases h
    · cases h

theorem isKeyed_statementsFrom {fuel : Nat} {t : Text} {ss : List Statement}
    (h : statementsFrom? fuel t = some ss) : ∀ s ∈ ss, s.IsKeyed := by
  induction fuel generalizing t ss with
  | zero => cases h
  | succ fuel ih =>
    unfold statementsFrom? at h
    split at h
    · obtain rfl := Option.some.inj h
      exact nofun
    · exact ih h
    · obtain ⟨next, -, hnext⟩ := Option.bind_eq_some_iff.mp h
      exact ih hnext
    · split at h
      · cases h
      · next hstatement =>
        split at h
        · cases h
        · obtain ⟨rest, hrest, rfl⟩ := Option.map_eq_some_iff.mp h
          exact List.forall_mem_cons.mpr ⟨isKeyed_statement hstatement, ih hrest⟩

/-! ## Entries of a table at a path -/

/-- Whether a change leaves every name of a table once. -/
def KeepsKeyed (f : List (String × Value) → Option (List (String × Value))) : Prop :=
  ∀ es es', (Value.table es).IsKeyed → f es = some es' → (Value.table es').IsKeyed

theorem isKeyed_mapLast {f : Value → Option Value} (hf : ∀ v w, v.IsKeyed → f v = some w → w.IsKeyed)
    {vs ws : List Value} (hvs : ∀ v ∈ vs, v.IsKeyed) (h : mapLast? f vs = some ws) :
    ∀ w ∈ ws, w.IsKeyed := by
  induction vs generalizing ws with
  | nil => cases h
  | cons v rest ih =>
    rw [List.forall_mem_cons] at hvs
    cases rest with
    | nil =>
      obtain ⟨w, hw, rfl⟩ := Option.map_eq_some_iff.mp h
      exact List.forall_mem_singleton.mpr (hf v w hvs.1 hw)
    | cons u rest =>
      obtain ⟨us, hus, rfl⟩ := Option.map_eq_some_iff.mp h
      exact List.forall_mem_cons.mpr ⟨hvs.1, ih hvs.2 hus⟩

theorem isKeyed_inside {f : List (String × Value) → Option (List (String × Value))}
    (hf : KeepsKeyed f) {v w : Value} (hv : v.IsKeyed) (h : inside? f v = some w) : w.IsKeyed := by
  have htable : ∀ {es : List (String × Value)} {u : Value}, (Value.table es).IsKeyed →
      (f es).map Value.table = some u → u.IsKeyed := by
    intro es u hes hu
    obtain ⟨es', hes', rfl⟩ := Option.map_eq_some_iff.mp hu
    exact hf es es' hes hes'
  unfold inside? at h
  split at h
  · exact htable hv h
  · obtain ⟨ws, hws, rfl⟩ := Option.map_eq_some_iff.mp h
    cases hv with | list hvs =>
    refine .list (isKeyed_mapLast (fun u w hu hw => ?_) hvs hws)
    split at hw
    · exact htable hu hw
    · cases hw
  · cases h

theorem KeepsKeyed.within {f : List (String × Value) → Option (List (String × Value))}
    (hf : KeepsKeyed f) (path : List String) : KeepsKeyed (within? f path) := by
  induction path with
  | nil => exact hf
  | cons name path ih =>
    intro es es' hes h
    unfold within? at h
    split at h
    · obtain ⟨t, ht, rfl⟩ := Option.map_eq_some_iff.mp h
      exact hes.enter name (ih _ _ Value.isKeyed_empty ht)
    · next hfind =>
      obtain ⟨w, hw, rfl⟩ := Option.map_eq_some_iff.mp h
      exact hes.enter name (isKeyed_inside ih (hes.find? hfind) hw)

theorem keepsKeyed_enterNew {name : String} {v : Value} (hv : v.IsKeyed) :
    KeepsKeyed (enterNew? name v) := by
  intro es es' hes h
  unfold enterNew? at h
  split at h
  · obtain rfl := Option.some.inj h
    exact hes.enter name hv
  · cases h

theorem keepsKeyed_addElement (name : String) : KeepsKeyed (Draft.addElement? name) := by
  intro es es' hes h
  unfold Draft.addElement? at h
  split at h
  · obtain rfl := Option.some.inj h
    exact hes.enter name (.list (List.forall_mem_singleton.mpr Value.isKeyed_empty))
  · next hfind =>
    obtain rfl := Option.some.inj h
    cases hes.find? hfind with | list hvs =>
    refine hes.enter name (.list fun v hv => ?_)
    rcases List.mem_append.mp hv with hold | hnew
    · exact hvs v hold
    · obtain rfl := List.mem_singleton.mp hnew
      exact Value.isKeyed_empty
  · cases h

/-! ## Values that are written -/

mutual

theorem isKeyed_eval {e : Expr} {v : Value} (he : e.IsKeyed) (h : e.eval? = some v) : v.IsKeyed := by
  cases e with
  | scalar w =>
    rw [Expr.eval?] at h
    obtain rfl := Option.some.inj h
    cases he with | scalar hw => exact hw
  | list items =>
    rw [Expr.eval?] at h
    obtain ⟨vs, hvs, rfl⟩ := Option.map_eq_some_iff.mp h
    cases he with | list hitems => exact .list (isKeyed_evalItems hitems hvs)
  | table entries =>
    rw [Expr.eval?] at h
    obtain ⟨es, hes, rfl⟩ := Option.map_eq_some_iff.mp h
    cases he with | table hentries =>
    exact isKeyed_evalEntries hentries Value.isKeyed_empty hes

theorem isKeyed_evalItems {items : List Expr} {vs : List Value} (hitems : ∀ e ∈ items, e.IsKeyed)
    (h : evalItems? items = some vs) : ∀ v ∈ vs, v.IsKeyed := by
  cases items with
  | nil =>
    rw [evalItems?] at h
    obtain rfl := Option.some.inj h
    exact nofun
  | cons e rest =>
    rw [List.forall_mem_cons] at hitems
    rw [evalItems?] at h
    split at h
    · next hv hrest =>
      obtain rfl := Option.some.inj h
      exact List.forall_mem_cons.mpr
        ⟨isKeyed_eval hitems.1 hv, isKeyed_evalItems hitems.2 hrest⟩
    · cases h

theorem isKeyed_evalEntries {entries : List (List String × Expr)} {closed : List (List String)}
    {es es' : List (String × Value)} (hentries : ∀ e ∈ entries, e.2.IsKeyed)
    (hes : (Value.table es).IsKeyed) (h : evalEntries? entries closed es = some es') :
    (Value.table es').IsKeyed := by
  cases entries with
  | nil =>
    rw [evalEntries?] at h
    obtain rfl := Option.some.inj h
    exact hes
  | cons e rest =>
    obtain ⟨key, e⟩ := e
    rw [List.forall_mem_cons] at hentries
    rw [evalEntries?] at h
    split at h
    · cases h
    · next v hv =>
      split at h
      · cases h
      · next es'' hinline =>
        refine isKeyed_evalEntries hentries.2 ?_ h
        unfold enterInline? at hinline
        split at hinline
        · cases hinline
        split at hinline
        · cases hinline
        · exact (keepsKeyed_enterNew (isKeyed_eval hentries.1 hv)).within _ _ _ hes hinline

end

/-! ## Texts -/

theorem isKeyed_step {d d' : Draft} {s : Statement} (hd : (Value.table d.entries).IsKeyed)
    (hs : s.IsKeyed) (h : d.step? s = some d') : (Value.table d'.entries).IsKeyed := by
  cases s with
  | entry key e =>
    unfold Draft.step? Draft.entry? at h
    dsimp only at h
    split at h
    · next v stem hv hstem =>
      split at h
      · cases h
      · obtain ⟨es, hes, rfl⟩ := Option.map_eq_some_iff.mp h
        exact (keepsKeyed_enterNew (isKeyed_eval hs hv)).within _ _ _ hd hes
    · cases h
  | table key =>
    unfold Draft.step? Draft.table? at h
    dsimp only at h
    split at h
    · cases h
    · obtain ⟨es, hes, rfl⟩ := Option.map_eq_some_iff.mp h
      have hsame : KeepsKeyed some := fun es es' hes heq => Option.some.inj heq ▸ hes
      exact hsame.within _ _ _ hd hes
  | element key =>
    unfold Draft.step? Draft.element? at h
    dsimp only at h
    split at h
    · cases h
    split at h
    · cases h
    · obtain ⟨es, hes, rfl⟩ := Option.map_eq_some_iff.mp h
      exact (keepsKeyed_addElement _).within _ _ _ hd hes

theorem isKeyed_run {d d' : Draft} {ss : List Statement} (hd : (Value.table d.entries).IsKeyed)
    (hss : ∀ s ∈ ss, s.IsKeyed) (h : d.run? ss = some d') : (Value.table d'.entries).IsKeyed := by
  induction ss generalizing d with
  | nil =>
    obtain rfl := Option.some.inj h
    exact hd
  | cons s rest ih =>
    rw [List.forall_mem_cons] at hss
    obtain ⟨next, hstep, hrest⟩ := Option.bind_eq_some_iff.mp h
    exact ih (isKeyed_step hd hss.1 hstep) hss.2 hrest

/-- The table that a text stands for has every name once, at every level. -/
theorem isKeyed_read {t : Text} {es : List (String × Value)} (h : read? t = some es) :
    (Value.table es).IsKeyed := by
  unfold read? at h
  split at h
  · cases h
  · next ss hss =>
    obtain ⟨d, hd, rfl⟩ := Option.map_eq_some_iff.mp h
    exact isKeyed_run Value.isKeyed_empty (isKeyed_statementsFrom hss) hd

end Toml
end SourceAudit
