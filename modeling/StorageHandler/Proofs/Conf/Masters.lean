import StorageHandler.Conf.Masters
import StorageHandler.Conf.Overlay
import StorageHandler.Environment
import StorageHandler.Proofs.OrderedMap

/-!
# Where master addresses are found

The addresses of a configuration are the first text that is not empty under the table's name and
under the default's name (`masters_eq`). The default of the process counts under the default's name
when nothing else does (`nonempty?_withDefaultMasters`), and under no other name
(`find?_withDefaultMasters_of_ne`).
-/

namespace StorageHandler

namespace JobConf

/-! ## Taking texts -/

/-- The entries of a configuration make it again. -/
theorem ofEntries_toEntries (c : JobConf) : ofEntries c.toEntries = .ok c := by
  rw [ofEntries, assignAll, toEntries, assign_texts]
  exact congrArg Except.ok c.ofList_entries

/-- Taking the entries of a configuration is laying it over. -/
theorem assignAll_toEntries (c d : JobConf) : c.assignAll d.toEntries = .ok (c.union d) := by
  rw [assignAll, toEntries, assign_texts]
  rfl

theorem overlay_toEntries (c d : JobConf) : c.overlay (some d.toEntries) = .ok (c.union d) :=
  assignAll_toEntries c d

/-! ## Addresses -/

theorem masters_eq (c : JobConf) (key defaultKey : String) :
    c.masters key defaultKey =
      match (c.nonempty? key).or (c.nonempty? defaultKey) with
      | some addresses => .ok addresses
      | none => .error ⟨key, defaultKey⟩ := by
  rw [masters]
  cases c.nonempty? key <;> rfl

theorem nonempty?_insert (c : JobConf) (k v : String) :
    nonempty? (c.insert k v) k = (some v).filter (· ≠ "") := by
  rw [nonempty?, OrderedMap.find?_insert, if_pos rfl]

theorem nonempty?_union (c d : JobConf) (k : String) :
    nonempty? (c.union d) k = ((d.find? k).or (c.find? k)).filter (· ≠ "") := by
  rw [nonempty?, OrderedMap.find?_union]

/-- A default that is not empty counts where nothing else does. -/
theorem nonempty?_withDefaultMasters (c : JobConf) (addresses : Option String) (key : String) :
    (c.withDefaultMasters addresses key).nonempty? key =
      (c.nonempty? key).or (addresses.filter (· ≠ "")) := by
  rw [withDefaultMasters]
  cases ha : addresses.filter (· ≠ "") with
  | none => simp
  | some a =>
    obtain ⟨-, hne⟩ := Option.filter_eq_some_iff.1 ha
    cases hc : c.nonempty? key with
    | none => exact (nonempty?_insert c key a).trans (Option.filter_some_pos hne)
    | some v => exact hc

/-- A default counts under no other name. -/
theorem find?_withDefaultMasters_of_ne (c : JobConf) (addresses : Option String) {key k : String}
    (h : key ≠ k) : (c.withDefaultMasters addresses key).find? k = c.find? k := by
  rw [withDefaultMasters]
  split
  · rw [OrderedMap.find?_insert, if_neg h]
  · rfl

end JobConf

theorem mastersKey_ne_defaultMastersKey : defaultMastersKey ≠ mastersKey := by decide

namespace JobConf

/-- The default of the process counts for nothing but the default. -/
theorem nonempty?_withDefaultMasters_mastersKey (c : JobConf) (addresses : Option String) :
    (c.withDefaultMasters addresses defaultMastersKey).nonempty? mastersKey =
      c.nonempty? mastersKey := by
  rw [nonempty?, find?_withDefaultMasters_of_ne c addresses mastersKey_ne_defaultMastersKey,
    nonempty?]

/-- The masters of a table are the first text that is not empty : under the table's name, under the
default's name, or the default of the process. -/
def mastersOr (c : JobConf) (addresses : Option String) : Option String :=
  ((c.nonempty? mastersKey).or (c.nonempty? defaultMastersKey)).or (addresses.filter (· ≠ ""))

theorem kuduMasters_withDefaultMasters (c : JobConf) (addresses : Option String) :
    (c.withDefaultMasters addresses defaultMastersKey).kuduMasters =
      match c.mastersOr addresses with
      | some a => .ok a
      | none => .error ⟨mastersKey, defaultMastersKey⟩ := by
  rw [kuduMasters, masters_eq, nonempty?_withDefaultMasters_mastersKey,
    nonempty?_withDefaultMasters, ← Option.or_assoc]
  rfl

end JobConf

end StorageHandler
