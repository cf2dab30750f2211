import SourceAudit.Proofs.Text.MarkedText
import SourceAudit.Store.Cache

/-!
  What a store holds, and what its keys are made of.

  A store holds nothing but what was written into it: `mem_of_get?` for reading,
  `mem_insert` for writing with all that goes on the way. The text behind a key can
  be taken apart (`keyText_inj`): the salt and the language end at the first zeros, so
  the source behind them may hold any characters.
-/
namespace SourceAudit

namespace Store

variable {α : Type} {s : Store α} {e entry : StoreEntry α}

/-- What is read under a key was written under it. -/
theorem mem_of_get? {now : Rat} {key : String} {value : α} (h : s.get? now key = some value) :
    ∃ e ∈ s, e.key = key ∧ e.value = value := by
  unfold get? at h
  cases hfind : s.find? fun e => e.key == key with
  | none =>
    rw [hfind] at h
    cases h
  | some e =>
    rw [hfind] at h
    dsimp only at h
    split at h
    · exact ⟨e, List.mem_of_find?_eq_some hfind, by simpa using List.find?_some hfind,
        Option.some.inj h⟩
    · cases h

theorem get?_singleton {key : String} {value : α} {expires : Option Quantity} {now : Rat}
    (hlive : (expires.all fun t => (Quantity.finite now).lt t) = true) :
    get? [⟨key, value, expires⟩] now key = some value := by
  cases expires <;> simp_all [get?, StoreEntry.isLive]

theorem mem_put (h : e ∈ s.put entry) : e = entry ∨ e ∈ s := by
  induction s with
  | nil => exact .inl (by simpa [put] using h)
  | cons first rest ih =>
    rw [put] at h
    split at h
    · rcases List.mem_cons.mp h with rfl | hrest
      · exact .inl rfl
      · exact .inr (List.mem_cons_of_mem _ hrest)
    · rcases List.mem_cons.mp h with rfl | hrest
      · exact .inr List.mem_cons_self
      · exact (ih hrest).imp_right (List.mem_cons_of_mem _)

theorem mem_trim {limit : Quantity} (h : e ∈ s.trim limit) : e ∈ s := by
  induction s with
  | nil => exact h
  | cons first rest ih =>
    rw [trim] at h
    split at h
    · exact List.mem_cons_of_mem _ (ih h)
    · exact h

/-- After an entry is written, a store holds it and what was there before, at most. -/
theorem mem_insert {now : Rat} {limit : Quantity} (h : e ∈ s.insert now limit entry) :
    e = entry ∨ e ∈ s :=
  mem_put (List.mem_filter.mp (mem_trim h)).1

end Store

namespace Cache

variable {α : Type} {c : Cache α}

theorem mem_of_get? {now : Rat} {language source : String} {value : α}
    (h : c.get? now language source = some value) :
    ∃ e ∈ c.store, e.key = c.key language source ∧ e.value = value := by
  unfold get? at h
  split at h
  · exact Store.mem_of_get? h
  · cases h

theorem mem_set {now : Rat} {language source : String} {value : α} {e : StoreEntry α}
    (h : e ∈ (c.set now language source value).store) :
    e.key = c.key language source ∧ e.value = value ∨ e ∈ c.store := by
  unfold set at h
  split at h
  · rcases Store.mem_insert h with rfl | hold
    · exact .inl ⟨rfl, rfl⟩
    · exact .inr hold
  · exact .inr h

/-- What is written into an empty store is all that stands there. -/
theorem store_set_of_empty {now : Rat} {language source : String} {value : α} {limit : Quantity}
    {expires : Option Quantity} (hdisk : c.disk = .working)
    (hempty : c.store = []) (hlimit : c.limit.quantity? = some limit)
    (hexpires : expiry? c.life now = some expires) (hroom : limit.lt (.ofInt 1) = false)
    (hlive : (expires.all fun t => (Quantity.finite now).lt t) = true) :
    (c.set now language source value).store = [⟨c.key language source, value, expires⟩] := by
  simp only [set, hdisk, hlimit, hexpires, hempty]
  cases expires <;> simp_all [Store.insert, Store.put, StoreEntry.isLive, Store.trim]

/-- What separates the parts of a key text. -/
def separator : Char := '\x00'

theorem toList_keyText (language source salt : String) :
    (keyText language source salt).toList =
      salt.toList ++ separator :: (language.toList ++ separator :: source.toList) := by
  simp only [keyText, String.toList_append, List.append_assoc]
  rfl

/-- Key texts with one salt are equal only if language and source are. -/
theorem keyText_inj {salt language other source text : String}
    (hlanguage : separator ∉ language.toList) (hother : separator ∉ other.toList)
    (h : keyText language source salt = keyText other text salt) :
    language = other ∧ source = text := by
  have htext := congrArg String.toList h
  rw [toList_keyText, toList_keyText, List.append_cancel_left_eq, List.cons.injEq] at htext
  have hparts := Text.append_cons_inj hlanguage hother htext.2
  exact ⟨String.toList_inj.mp hparts.1, String.toList_inj.mp hparts.2⟩

/-- Key texts with salts that hold no separator are equal only if the salts are. -/
theorem salt_eq_of_keyText {salt pepper language other source text : String}
    (hsalt : separator ∉ salt.toList) (hpepper : separator ∉ pepper.toList)
    (h : keyText language source salt = keyText other text pepper) : salt = pepper := by
  have htext := congrArg String.toList h
  rw [toList_keyText, toList_keyText] at htext
  exact String.toList_inj.mp (Text.append_cons_inj hsalt hpepper htext).1

end Cache
end SourceAudit
