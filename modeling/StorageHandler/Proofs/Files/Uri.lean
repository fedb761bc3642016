import StorageHandler.Files.Uri
import StorageHandler.Proofs.Text.Cut

/-!
# File URIs as list entries

Whatever a path is called, its URI has visible ASCII characters only, and no comma
(`visible_of_mem_escape`). So a URI can stand in a comma-separated list (`isEntry_ofPath`).
-/

namespace StorageHandler.Uri

/-- A visible ASCII character that is no comma. -/
def IsVisible (c : Char) : Prop := 0x20 < c.toNat ∧ c.toNat < 0x7F ∧ c ≠ ','

instance (c : Char) : Decidable (IsVisible c) := inferInstanceAs (Decidable (_ ∧ _ ∧ _))

theorem IsVisible.isBlank {c : Char} (h : IsVisible c) : Text.isBlank c = false := by
  obtain ⟨hlow, hhigh, -⟩ := h
  simp only [Text.isBlank, Bool.or_eq_false_iff, Bool.and_eq_false_iff, decide_eq_false_iff_not,
    beq_eq_false_iff_ne]
  omega

/-- Every byte is written in visible characters. -/
theorem visible_of_mem_escape {b : UInt8} {c : Char} (h : c ∈ escape b) : IsVisible c := by
  have hbytes :
      ((List.range 256).all fun n => (escape (UInt8.ofNat n)).all (IsVisible ·)) = true := by
    decide +kernel
  have hb := List.all_eq_true.1 hbytes b.toNat (List.mem_range.2 b.toNat_lt)
  rw [UInt8.ofNat_toNat] at hb
  exact of_decide_eq_true (List.all_eq_true.1 hb c h)

theorem visible_of_mem_ofPath {p : Path} {c : Char} (h : c ∈ (ofPath p).toList) : IsVisible c := by
  rw [ofPath, String.toList_append, List.mem_append] at h
  rcases h with h | h
  · have hscheme : ("file://".toList.all (IsVisible ·)) = true := by decide
    exact of_decide_eq_true (List.all_eq_true.1 hscheme c h)
  · rw [String.toList_ofList] at h
    obtain ⟨b, -, hb⟩ := List.mem_flatMap.1 h
    exact visible_of_mem_escape hb

theorem isEntry_ofPath (p : Path) : Text.IsEntry (ofPath p) where
  ne_empty := fun h => by
    have hlist := congrArg String.toList h
    rw [ofPath, String.toList_append] at hlist
    exact absurd (List.append_eq_nil_iff.1 hlist).1 (by decide)
  comma := fun h => (visible_of_mem_ofPath h).2.2 rfl
  stripped := by
    rw [Text.strip, Text.stripList,
      Text.trimList_of_forall fun c hc => (visible_of_mem_ofPath hc).isBlank, String.ofList_toList]

end StorageHandler.Uri
