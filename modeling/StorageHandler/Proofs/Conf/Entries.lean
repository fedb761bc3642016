import Mathlib.Data.List.Basic
import StorageHandler.Conf.Table
import StorageHandler.Proofs.OrderedMap

/-!
# Entries that a configuration takes

A table holds texts only, or it has a first entry that is refused (`textEntries_or_refused`). Texts
are all taken (`ofEntries_textEntries`) ; of other tables the entries before the first refused one
are taken (`assign_refused`).
-/

namespace StorageHandler

/-- Entries of texts as data. -/
def textEntries (ts : List (String × String)) : Table :=
  ts.map fun e => (.text e.1, .text e.2)

/-- An entry whose name or value is no text. -/
def Refused (k v : Datum) : Prop := k.text? = none ∨ v.text? = none

theorem text_or_refused (k v : Datum) :
    (∃ name value, k = .text name ∧ v = .text value) ∨ Refused k v := by
  cases hk : k.text? with
  | none => exact .inr (.inl hk)
  | some name =>
    cases hv : v.text? with
    | none => exact .inr (.inr hv)
    | some value =>
      exact .inl ⟨name, value, Datum.text?_eq_some_iff.1 hk, Datum.text?_eq_some_iff.1 hv⟩

theorem textEntries_or_refused (es : Table) :
    (∃ ts, es = textEntries ts) ∨
      ∃ ts k v more, es = textEntries ts ++ (k, v) :: more ∧ Refused k v := by
  induction es with
  | nil => exact Or.inl ⟨[], rfl⟩
  | cons e es ih =>
    obtain ⟨k, v⟩ := e
    rcases text_or_refused k v with ⟨name, value, rfl, rfl⟩ | h
    · rcases ih with ⟨ts, rfl⟩ | ⟨ts, k', v', more, rfl, hrefused⟩
      · exact Or.inl ⟨(name, value) :: ts, rfl⟩
      · exact Or.inr ⟨(name, value) :: ts, k', v', more, rfl, hrefused⟩
    · exact Or.inr ⟨[], k, v, es, rfl, h⟩

/-- Names that are texts are told apart as texts. -/
theorem put_textEntries (k v : String) (ts : List (String × String)) :
    Table.put (.text k) (.text v) (textEntries ts) = textEntries (OrderedMap.put k v ts) := by
  induction ts with
  | nil => rfl
  | cons e ts ih =>
    have hname : (Datum.text e.1).name? = (Datum.text k).name? ↔ e.1 = k := by
      simp [Datum.name?]
    rw [textEntries, List.map_cons, Table.put, OrderedMap.put, if_congr hname rfl rfl]
    split_ifs with h
    · rw [h]
      rfl
    · exact congrArg ((Datum.text e.1, Datum.text e.2) :: ·) ih

/-- A datum that is the name of a text is the text. -/
theorem Datum.eq_text_of_name?_eq {d : Datum} {s : String} (h : d.name? = some (.text s)) :
    d = .text s := by
  cases d with
  | number x =>
    simp only [Datum.name?] at h
    split at h <;> cases h
  | _ => cases h <;> rfl

namespace JobConf

/-- What is asked for is a text with a value, a name without one, or no name at all. -/
theorem get?_cases (c : JobConf) (key : Datum) :
    (∃ k v, key = .text k ∧ c.find? k = some v ∧ c.get? key = .ok (some v)) ∨
      (key.name? ≠ none ∧ (∀ k, key = .text k → c.find? k = none) ∧ c.get? key = .ok none) ∨
      (key.name? = none ∧ c.get? key = .error (.notAName key)) := by
  cases key with
  | text k =>
    have hget : c.get? (.text k) = .ok (c.find? k) := rfl
    rw [hget]
    cases hk : c.find? k with
    | none => exact .inr (.inl ⟨by simp [Datum.name?], by simp [hk], rfl⟩)
    | some v => exact .inl ⟨k, v, rfl, hk, rfl⟩
  | list items => exact .inr (.inr ⟨rfl, rfl⟩)
  | record fields => exact .inr (.inr ⟨rfl, rfl⟩)
  | number x =>
    have hname : (Datum.number x).name? ≠ none := by
      simp only [Datum.name?]
      split <;> simp
    exact .inr (.inl ⟨hname, by simp, rfl⟩)
  | _ => exact .inr (.inl ⟨by simp [Datum.name?], by simp, rfl⟩)

theorem set_refused (c : JobConf) {k v : Datum} (h : Refused k v) :
    c.set k v = .error (.notText k v) := by
  cases k with
  | text name =>
    cases v with
    | text value => rcases h with h | h <;> cases h
    | _ => rfl
  | _ => rfl

theorem assign_textEntries (c : JobConf) (ts : List (String × String)) :
    c.assign (textEntries ts) = (c.insertMany ts, none) :=
  assign_texts c ts

theorem assign_refused (c : JobConf) (ts : List (String × String)) {k v : Datum} (more : Table)
    (h : Refused k v) :
    c.assign (textEntries ts ++ (k, v) :: more) = (c.insertMany ts, some (.notText k v)) := by
  rw [assign_append, assign_textEntries]
  dsimp only
  rw [assign, set_refused _ h]

theorem ofEntries_textEntries (ts : List (String × String)) :
    ofEntries (textEntries ts) = .ok (.ofList ts) := by
  rw [ofEntries, assignAll, assign_textEntries]
  rfl

theorem ofEntries_refused (ts : List (String × String)) {k v : Datum} (more : Table)
    (h : Refused k v) :
    ofEntries (textEntries ts ++ (k, v) :: more) = .error (.notText k v) := by
  rw [ofEntries, assignAll, assign_refused _ ts more h]

end JobConf

end StorageHandler
