import Mathlib.Data.List.Induction

/-!
# First occurrences

`List.eraseDups` keeps the first occurrence of each item. What it does is said from the end of the
list : a last item is kept if it does not stand before (`eraseDups_append_singleton`).
-/

namespace StorageHandler

universe u

variable {α : Type u} [DecidableEq α]

theorem eraseDups_append_singleton (as : List α) (a : α) :
    (as ++ [a]).eraseDups = if a ∈ as then as.eraseDups else as.eraseDups ++ [a] := by
  rw [List.eraseDups_append]
  split_ifs with h <;> simp [List.removeAll, List.eraseDups_cons, h]

theorem nodup_eraseDups (as : List α) : as.eraseDups.Nodup := by
  induction as using List.reverseRecOn with
  | nil => exact List.nodup_nil
  | append_singleton as a ih =>
    rw [eraseDups_append_singleton]
    split_ifs with h
    · exact ih
    · refine List.nodup_append.2 ⟨ih, List.pairwise_singleton _ a, fun b hb c hc hbc => h ?_⟩
      rwa [← List.mem_singleton.1 hc, ← hbc, ← List.mem_eraseDups]

theorem eraseDups_of_nodup {as : List α} (h : as.Nodup) : as.eraseDups = as := by
  induction as using List.reverseRecOn with
  | nil => rfl
  | append_singleton as a ih =>
    obtain ⟨has, -, hne⟩ := List.nodup_append.1 h
    have ha : a ∉ as := fun ha => hne a ha a (List.mem_singleton_self a) rfl
    rw [eraseDups_append_singleton, if_neg ha, ih has]

/-- Repetitions at the start make no difference. -/
theorem eraseDups_eraseDups_append (as bs : List α) :
    (as.eraseDups ++ bs).eraseDups = (as ++ bs).eraseDups := by
  induction bs using List.reverseRecOn with
  | nil => rw [List.append_nil, List.append_nil, eraseDups_of_nodup (nodup_eraseDups as)]
  | append_singleton bs b ih =>
    simp only [← List.append_assoc, eraseDups_append_singleton, ih, List.mem_append,
      List.mem_eraseDups]

/-- Repetitions at the end make no difference. -/
theorem eraseDups_append_eraseDups (as bs : List α) :
    (as ++ bs.eraseDups).eraseDups = (as ++ bs).eraseDups := by
  induction bs using List.reverseRecOn with
  | nil => rw [List.eraseDups_nil]
  | append_singleton bs b ih =>
    by_cases h : b ∈ bs
    · have hmem : b ∈ as ++ bs := List.mem_append_right as h
      rw [eraseDups_append_singleton, if_pos h, ih, ← List.append_assoc,
        eraseDups_append_singleton, if_pos hmem]
    · have hmem : b ∈ as ++ bs.eraseDups ↔ b ∈ as ++ bs := by
        simp only [List.mem_append, List.mem_eraseDups]
      rw [eraseDups_append_singleton, if_neg h, ← List.append_assoc, ← List.append_assoc,
        eraseDups_append_singleton, eraseDups_append_singleton, if_congr hmem rfl rfl, ih]

/-- What stands before makes no difference at the end. -/
theorem eraseDups_append_of_subset {as bs : List α} (h : bs ⊆ as) :
    (as ++ bs).eraseDups = as.eraseDups := by
  have hremove : bs.removeAll as = [] := by
    refine List.filter_eq_nil_iff.2 fun b hb => ?_
    simp [h hb]
  rw [List.eraseDups_append, hremove, List.eraseDups_nil, List.append_nil]

theorem eraseDups_eq_nil_iff {as : List α} : as.eraseDups = [] ↔ as = [] := by
  simp only [List.eq_nil_iff_forall_not_mem, List.mem_eraseDups]

end StorageHandler
