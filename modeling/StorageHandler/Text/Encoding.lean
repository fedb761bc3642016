/-!
# Encoded texts

Texts as bytes in UTF-8. `decode?` accepts exactly what `encode` produces (`decode?_eq_some_iff`).
-/

namespace StorageHandler.Text

/-- The bytes of a text. -/
def encode (s : String) : List UInt8 := s.toUTF8.data.toList

/-- The text that bytes encode, if they encode one. -/
def decode? (bs : List UInt8) : Option String := String.fromUTF8? ⟨bs.toArray⟩

theorem decode?_eq_some_iff {bs : List UInt8} {s : String} :
    decode? bs = some s ↔ bs = encode s := by
  simp only [decode?, encode, String.fromUTF8?]
  constructor
  · intro h
    split at h
    · simp only [Option.some.injEq] at h
      subst h
      rfl
    · simp at h
  · rintro rfl
    have h : ByteArray.mk s.toUTF8.data.toList.toArray = s.toUTF8 := by simp
    rw [h]
    exact dif_pos s.isValidUTF8

@[simp] theorem decode?_encode (s : String) : decode? (encode s) = some s :=
  decode?_eq_some_iff.2 rfl

theorem encode_inj {s t : String} : encode s = encode t ↔ s = t := by
  constructor
  · intro h
    have hs : decode? (encode t) = some s := decode?_eq_some_iff.2 h.symm
    simpa using hs.symm
  · exact congrArg encode

end StorageHandler.Text
