import Mathlib.Data.List.Induction
import StorageHandler.Proofs.Token.VarInt

/-!
# The shortest encodings of integers

An integer can be read from many encodings : a small one also after a marker, and any magnitude
after zero bytes. There are no others (`read?_eq_some_iff_encodes`), and no two of them have the
same length. What is written for an integer is the shortest of them (`write_condenses`,
`write_shortest`). All that can be read is in range (`inRange_of_read?`), so the round trip
covers it.
-/

namespace StorageHandler

/-! ## Bytes that say the same in less -/

/-- The bytes `w` are `p`, or there are fewer of them. -/
def Condenses (w p : List UInt8) : Prop := w = p ∨ w.length < p.length

namespace Condenses

variable {w w₁ w₂ p p₁ p₂ : List UInt8}

theorem refl (p : List UInt8) : Condenses p p := Or.inl rfl

theorem length_le (h : Condenses w p) : w.length ≤ p.length := by
  rcases h with rfl | h
  · exact le_rfl
  · exact h.le

theorem eq_of_length_eq (h : Condenses w p) (hlen : w.length = p.length) : w = p :=
  h.resolve_right fun hlt => hlt.ne hlen

theorem trans {q : List UInt8} (h₁ : Condenses w p) (h₂ : Condenses p q) : Condenses w q := by
  rcases h₁ with rfl | h₁
  · exact h₂
  · exact Or.inr (h₁.trans_le h₂.length_le)

theorem append (h₁ : Condenses w₁ p₁) (h₂ : Condenses w₂ p₂) :
    Condenses (w₁ ++ w₂) (p₁ ++ p₂) := by
  have hle₁ := h₁.length_le
  have hle₂ := h₂.length_le
  rcases h₁ with rfl | h₁
  · rcases h₂ with rfl | h₂
    · exact refl _
    · right
      simp only [List.length_append]
      omega
  · right
    simp only [List.length_append]
    omega

theorem append_right (h : Condenses w p) (rest : List UInt8) : Condenses w (p ++ rest) := by
  have := h.append (show Condenses [] rest from by cases rest <;> simp [Condenses])
  rwa [List.append_nil] at this

end Condenses

namespace VarInt

/-! ## Bytes and magnitudes -/

theorem ofBigEndian_lt (bs : List UInt8) : ofBigEndian bs < 256 ^ bs.length := by
  induction bs using List.reverseRecOn with
  | nil => exact Nat.one_pos
  | append_singleton bs b ih =>
    have hb := b.toNat_lt
    rw [ofBigEndian_append_singleton, List.length_append, List.length_singleton, pow_succ]
    omega

/-- A magnitude gives back the bytes it was read from. -/
theorem bigEndian_ofBigEndian (bs : List UInt8) : bigEndian bs.length (ofBigEndian bs) = bs := by
  induction bs using List.reverseRecOn with
  | nil => rfl
  | append_singleton bs b ih =>
    have hb := b.toNat_lt
    have hdiv : (ofBigEndian bs * 256 + b.toNat) / 256 = ofBigEndian bs := by omega
    have hmod : (ofBigEndian bs * 256 + b.toNat) % 256 = b.toNat := by omega
    rw [List.length_append, List.length_singleton, bigEndian, ofBigEndian_append_singleton, hdiv,
      hmod, ih, UInt8.ofNat_toNat]

theorem byteCount_mono {m n : ℕ} (h : m ≤ n) : byteCount m ≤ byteCount n :=
  (byteCount_le_iff m _).2 (h.trans_lt (lt_pow_byteCount n))

/-! ## Markers -/

theorem signed_mem (b : UInt8) : -128 ≤ signed b ∧ signed b ≤ 127 := by
  have hb := b.toNat_lt
  rw [signed]
  split_ifs <;> omega

theorem byteOf_signed (b : UInt8) : byteOf (signed b) = b := by
  have hb := b.toNat_lt
  have hmod : (signed b % 256).toNat = b.toNat := by
    rw [signed]
    split_ifs <;> omega
  rw [byteOf, hmod, UInt8.ofNat_toNat]

theorem isShort_signed {b : UInt8} (h : -112 ≤ signed b) : isShort (signed b) = true :=
  isShort_iff.2 ⟨h, (signed_mem b).2⟩

theorem following_mem {b : UInt8} (h : signed b < -112) :
    0 < following (signed b) ∧ following (signed b) ≤ 8 := by
  have hb := (signed_mem b).1
  rw [following]
  split_ifs <;> omega

/-- The integer that a marker and a magnitude stand for. -/
def ofMarker (b : UInt8) (n : ℕ) : ℤ := if signed b < -120 then -(n : ℤ) - 1 else n

theorem magnitude_ofMarker (b : UInt8) (n : ℕ) : magnitude (ofMarker b n) = n := by
  rw [magnitude, ofMarker]
  split_ifs <;> omega

theorem ofMarker_lt_zero_iff (b : UInt8) (n : ℕ) : ofMarker b n < 0 ↔ signed b < -120 := by
  rw [ofMarker]
  split_ifs <;> omega

/-- The marker of such an integer is that of its sign, for the bytes that follow. -/
theorem signMarker_ofMarker {b : UInt8} (h : signed b < -112) (n : ℕ) :
    signMarker (ofMarker b n) (following (signed b)) = signed b := by
  rw [signMarker, if_congr (ofMarker_lt_zero_iff b n) rfl rfl, following]
  split_ifs <;> omega

theorem inRange_ofMarker {b : UInt8} {chunk : List UInt8} (h : signed b < -112)
    (hc : chunk.length = following (signed b)) : InRange (ofMarker b (ofBigEndian chunk)) := by
  have hlt : ofBigEndian chunk < 2 ^ 64 := by
    calc ofBigEndian chunk < 256 ^ chunk.length := ofBigEndian_lt chunk
      _ ≤ 256 ^ 8 := Nat.pow_le_pow_right (by decide) (hc ▸ (following_mem h).2)
      _ = 2 ^ 64 := by norm_num
  rw [InRange, ofMarker]
  split_ifs <;> omega

/-! ## All that can be read -/

/-- What is read has at most eight bytes of magnitude. -/
theorem inRange_of_read? {bs rest : List UInt8} {v : ℤ} (h : read? bs = some (v, rest)) :
    InRange v := by
  cases bs with
  | nil => cases h
  | cons b bs =>
    rcases read?_cons_eq_some_iff.1 h with ⟨-, rfl, -⟩ | ⟨hb, chunk, hc, -, rfl⟩
    · have hmem := signed_mem b
      exact ⟨by omega, by omega⟩
    · exact inRange_ofMarker hb hc

/-- The bytes from which an integer is read in full : the byte of a short one, or a magnitude after
any number of zeros that leaves it in eight bytes. -/
inductive Encodes (v : ℤ) : List UInt8 → Prop
  | short (single : isShort v = true) : Encodes v [byteOf v]
  | padded {k : ℕ} (pos : 0 < k) (le : k ≤ 8) (enough : byteCount (magnitude v) ≤ k) :
    Encodes v (padded v k)

theorem read?_eq_some_iff_encodes {p : List UInt8} {v : ℤ} :
    read? p = some (v, []) ↔ Encodes v p := by
  constructor
  · intro h
    cases p with
    | nil => cases h
    | cons b bs =>
      rcases read?_cons_eq_some_iff.1 h with ⟨hb, rfl, rfl⟩ | ⟨hb, chunk, hc, hbs, hv⟩
      · have hencodes := Encodes.short (isShort_signed hb)
        rwa [byteOf_signed] at hencodes
      · obtain rfl : bs = chunk := hbs.trans (List.append_nil chunk)
        change v = ofMarker b (ofBigEndian bs) at hv
        have hmag : magnitude v = ofBigEndian bs := by rw [hv, magnitude_ofMarker]
        have hmarker : signMarker v bs.length = signed b := by rw [hv, hc, signMarker_ofMarker hb]
        have hpadded : padded v bs.length = b :: bs := by
          rw [padded, hmarker, byteOf_signed, hmag, bigEndian_ofBigEndian]
        have henough : byteCount (magnitude v) ≤ bs.length := by
          rw [byteCount_le_iff, hmag]
          exact ofBigEndian_lt bs
        obtain ⟨hpos, hle⟩ := following_mem hb
        rw [← hpadded]
        exact .padded (hc ▸ hpos) (hc ▸ hle) henough
  · intro h
    cases h with
    | short single => exact read?_byteOf_cons single []
    | padded pos le enough => simpa using read?_padded_append pos le enough []

theorem Encodes.length_le {p : List UInt8} {v : ℤ} (h : Encodes v p) : p.length ≤ 9 := by
  cases h with
  | short => simp
  | padded _ le _ =>
    rw [length_padded]
    omega

/-- No two encodings of an integer have the same length. -/
theorem Encodes.eq_of_length_eq {p q : List UInt8} {v : ℤ} (hp : Encodes v p) (hq : Encodes v q)
    (h : p.length = q.length) : p = q := by
  cases hp with
  | short =>
    cases hq with
    | short => rfl
    | padded pos _ _ =>
      rw [length_padded, List.length_singleton] at h
      omega
  | padded pos _ _ =>
    cases hq with
    | short =>
      rw [length_padded, List.length_singleton] at h
      omega
    | padded _ _ _ =>
      rw [length_padded, length_padded] at h
      rw [Nat.succ.inj h]

/-! ## What is written -/

theorem length_write {v : ℤ} (h : InRange v) :
    (write v).length = if isShort v then 1 else byteCount (magnitude v) + 1 := by
  cases hs : isShort v with
  | true => rw [write_of_short hs]; rfl
  | false => rw [write_of_long h hs, length_padded]; rfl

theorem length_write_pos (v : ℤ) : 0 < (write v).length := by
  rw [write]
  split_ifs <;> simp

theorem magnitude_natCast (n : ℕ) : magnitude n = n := by
  rw [magnitude, if_neg (by omega), Int.toNat_natCast]

/-- A smaller number is not longer. -/
theorem length_write_mono {m n : ℕ} (h : m ≤ n) (hn : n < 2 ^ 64) :
    (write m).length ≤ (write n).length := by
  have hmr : InRange m := ⟨by omega, by omega⟩
  have hnr : InRange n := ⟨by omega, by omega⟩
  have hcount : byteCount (magnitude m) ≤ byteCount (magnitude n) :=
    byteCount_mono (by rwa [magnitude_natCast, magnitude_natCast])
  have hshort : isShort n = true → isShort m = true := by
    rw [isShort_iff, isShort_iff]
    omega
  rw [length_write hmr, length_write hnr]
  split_ifs with h₁ h₂
  · exact le_rfl
  · omega
  · exact absurd (hshort ‹_›) h₁
  · omega

/-- Of all bytes from which an integer is read, those that are written for it are the fewest, and
no other bytes are as few. -/
theorem write_condenses {p : List UInt8} {v : ℤ} (h : read? p = some (v, [])) :
    Condenses (write v) p := by
  have hrange := inRange_of_read? h
  cases read?_eq_some_iff_encodes.1 h with
  | short single =>
    left
    exact write_of_short single
  | @padded k pos _ enough =>
    cases hs : isShort v with
    | true =>
      right
      rw [write_of_short hs, length_padded, List.length_singleton]
      omega
    | false =>
      rw [write_of_long hrange hs]
      rcases enough.lt_or_eq with hlt | rfl
      · right
        rw [length_padded, length_padded]
        omega
      · exact .refl _

/-- An integer in range has an encoding of every length from that of what is written for it up to
nine bytes. -/
theorem exists_encodes {v : ℤ} (h : InRange v) {n : ℕ} (hle : (write v).length ≤ n) (hn : n ≤ 9) :
    ∃ p, Encodes v p ∧ p.length = n := by
  rw [length_write h] at hle
  have hpadded (hpos : 1 < n) (henough : byteCount (magnitude v) ≤ n - 1) :
      ∃ p, Encodes v p ∧ p.length = n :=
    ⟨padded v (n - 1), .padded (by omega) (by omega) henough, by rw [length_padded]; omega⟩
  cases hs : isShort v with
  | true =>
    rw [if_pos hs] at hle
    rcases hle.lt_or_eq with hlt | rfl
    · have hv := isShort_iff.1 hs
      have hone : byteCount (magnitude v) ≤ 1 := by
        rw [byteCount_le_iff, magnitude]
        split_ifs <;> omega
      exact hpadded hlt (by omega)
    · exact ⟨[byteOf v], .short hs, rfl⟩
  | false =>
    have hpos := byteCount_magnitude_pos hs
    rw [hs, if_neg Bool.false_ne_true] at hle
    exact hpadded (by omega) (by omega)

/-- What is written for an integer in range is read as it and has nine bytes at most. No bytes from
which the integer is read are fewer, and no other bytes are as few. There are such bytes of every
length from that of what is written up to nine, one of each, and of no other length. -/
theorem write_shortest {v : ℤ} (h : InRange v) :
    (read? (write v) = some (v, []) ∧ (write v).length ≤ 9) ∧
    (∀ p, read? p = some (v, []) →
      (write v).length ≤ p.length ∧ (p.length = (write v).length → p = write v)) ∧
    (∀ p q, read? p = some (v, []) → read? q = some (v, []) → p.length = q.length → p = q) ∧
    ∀ n, (∃ p, read? p = some (v, []) ∧ p.length = n) ↔ (write v).length ≤ n ∧ n ≤ 9 := by
  have hwrite : read? (write v) = some (v, []) := by simpa using read?_write_append h []
  have hlength : ∀ p, read? p = some (v, []) → p.length ≤ 9 := fun p hp =>
    (read?_eq_some_iff_encodes.1 hp).length_le
  refine ⟨⟨hwrite, hlength _ hwrite⟩, fun p hp => ?_, fun p q hp hq => ?_, fun n => ⟨?_, ?_⟩⟩
  · have hcond := write_condenses hp
    exact ⟨hcond.length_le, fun hlen => (hcond.eq_of_length_eq hlen.symm).symm⟩
  · exact (read?_eq_some_iff_encodes.1 hp).eq_of_length_eq (read?_eq_some_iff_encodes.1 hq)
  · rintro ⟨p, hp, rfl⟩
    exact ⟨(write_condenses hp).length_le, hlength p hp⟩
  · rintro ⟨hle, hn⟩
    obtain ⟨p, hp, rfl⟩ := exists_encodes h hle hn
    exact ⟨p, read?_eq_some_iff_encodes.2 hp, rfl⟩

/-- The magnitude 256 takes two bytes, of which the second is zero. It can stand after zeros too. -/
theorem write_shortest_zeroByte :
    InRange (-257) ∧ write (-257) = [0x86, 1, 0] ∧ read? [0x85, 0, 1, 0] = some (-257, []) ∧
      (∀ p, read? p = some (-257, []) → 3 ≤ p.length ∧ (p.length = 3 → p = [0x86, 1, 0])) ∧
      (∀ p q, read? p = some (-257, []) → read? q = some (-257, []) →
        p.length = q.length → p = q) ∧
      ∀ n, (∃ p, read? p = some (-257, []) ∧ p.length = n) ↔ 3 ≤ n ∧ n ≤ 9 := by
  have hrange : InRange (-257) := ⟨by decide, by decide⟩
  have hwrite : write (-257) = [0x86, 1, 0] := by decide +kernel
  obtain ⟨-, hleast, hsame, hlengths⟩ := write_shortest hrange
  rw [hwrite] at hleast hlengths
  exact ⟨hrange, hwrite, by decide +kernel, hleast, hsame, hlengths⟩

end VarInt

end StorageHandler
