import StorageHandler.Proofs.Conf.AddressList

/-!
# Lists in settings

Items that are written into a setting are read back as their entries (`strings_insertStrings_eq`).
So they are read back as they were exactly if each of them is an entry of its own, without a comma
and without blanks at its ends (`flatMap_entries_eq_self_iff`). What was read can be written again
and is read as the same list, whatever stood in the setting before (`strings_roundTrip`).
-/

namespace StorageHandler

/-- Items that are taken apart stay as they are exactly if every one is an entry. -/
theorem Text.flatMap_entries_eq_self_iff {items : List String} :
    items.flatMap entries = items ↔ ∀ item ∈ items, IsEntry item := by
  constructor
  · intro h item hitem
    rw [← h, List.mem_flatMap] at hitem
    obtain ⟨s, -, hs⟩ := hitem
    exact isEntry_of_mem_entries hs
  · intro h
    rw [← entries_join, entries_join_of_isEntry h]

namespace JobConf

/-- `c'` has the settings of `c` in their order, `key` apart, which stands where it stood or comes
last. -/
structure DiffersAt (c c' : JobConf) (key : String) : Prop where
  others : ∀ k, k ≠ key → c'.find? k = c.find? k
  order : c'.keys = if key ∈ c.keys then c.keys else c.keys ++ [key]

theorem differsAt_insert (c : JobConf) (key value : String) :
    c.DiffersAt (c.insert key value) key where
  others k hk := by rw [OrderedMap.find?_insert, if_neg (Ne.symm hk)]
  order := OrderedMap.keys_insert c key value

theorem getStrings_text (c : JobConf) (key : String) :
    c.getStrings (.text key) = .ok (c.strings key) := rfl

theorem textItems_texts (items : List String) : textItems (items.map .text) = .ok items := by
  induction items with
  | nil => rfl
  | cons item items ih =>
    rw [List.map_cons, textItems, ih]
    rfl

theorem setStrings_texts (c : JobConf) (key : String) (items : List String) :
    c.setStrings (.text key) (items.map .text) = .ok (c.insertStrings key items) := by
  rw [setStrings, textItems_texts]
  rfl

/-- Every item is read back as its entries. -/
theorem strings_insertStrings_eq (c : JobConf) (key : String) (items : List String) :
    (c.insertStrings key items).strings key = items.flatMap Text.entries := by
  rw [strings, insertStrings, OrderedMap.find?_insert, if_pos rfl]
  exact Text.entries_join items

theorem strings_insertStrings (c : JobConf) (key : String) {items : List String}
    (h : ∀ e ∈ items, Text.IsEntry e) : (c.insertStrings key items).strings key = items := by
  rw [strings_insertStrings_eq, Text.flatMap_entries_eq_self_iff.2 h]

theorem isEntry_of_mem_strings {c : JobConf} {key e : String} (h : e ∈ c.strings key) :
    Text.IsEntry e :=
  Text.isEntry_of_mem_entries h

/-- A list that is written is read back item by item, each as its entries, and as it was exactly if
every item is not empty, has no comma and no blank at its ends. A list that is read and written is
read again as it was. No other setting takes part in this. -/
theorem strings_roundTrip (c : JobConf) (key : String) (items : List String) :
    (∃ c', c.setStrings (.text key) (items.map .text) = .ok c' ∧ c.DiffersAt c' key ∧
      (∃ es, List.Forall₂ EntriesOf items es ∧ c'.getStrings (.text key) = .ok es.flatten) ∧
      (c'.getStrings (.text key) = .ok items ↔
        ∀ item ∈ items, item ≠ "" ∧ ',' ∉ item.toList ∧ Text.Trimmed item)) ∧
    ∃ es c', EntriesOf ((c.find? key).getD "") es ∧ c.getStrings (.text key) = .ok es ∧
      c.setStrings (.text key) (es.map .text) = .ok c' ∧ c.DiffersAt c' key ∧
      c'.getStrings (.text key) = .ok es := by
  constructor
  · refine ⟨_, c.setStrings_texts key items, c.differsAt_insert key _, ?_, ?_⟩
    · have hentries : List.Forall₂ EntriesOf items (items.map Text.entries) := by
        rw [List.forall₂_map_right_iff, List.forall₂_same]
        exact fun _ _ => entries_eq_iff.1 rfl
      refine ⟨_, hentries, ?_⟩
      rw [getStrings_text, strings_insertStrings_eq, List.flatMap_def]
    · simp only [getStrings_text, strings_insertStrings_eq, Except.ok.injEq,
        Text.flatMap_entries_eq_self_iff, Text.isEntry_iff]
  · refine ⟨c.strings key, _, entries_eq_iff.1 rfl, c.getStrings_text key, c.setStrings_texts key _,
      c.differsAt_insert key _, ?_⟩
    rw [getStrings_text, strings_insertStrings c key fun _ => isEntry_of_mem_strings]

/-- Items that are no entries come apart, or vanish. -/
example :
    ((insertStrings .empty "k" ["", " a,b\u2003", "c"]).strings "k", strings .empty "k") =
      (["a", "b", "c"], []) := by
  decide

end JobConf

end StorageHandler
