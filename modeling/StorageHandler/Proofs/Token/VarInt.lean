import Mathlib.Tactic.Ring
import StorageHandler.Token.VarInt

/-!
# Reading back variable-length integers

An integer whose magnitude has at most eight bytes is read back from what is written for it, and the
bytes after it are left alone (`read?_write_append`). The steps are those of the layout : the
digits to the base 256 (`ofBigEndian_bigEndian`), their number (`byteCount_le_iff`), and the marker,
which is a byte of its own for each sign and number of bytes (`signed_byteOf_signMarker`,
`following_signMarker`). A magnitude can stand in more bytes than it has (`read?_padded_append`).
-/

namespace StorageHandler.VarInt

/-! ## Magnitudes -/

theorem length_bigEndian (count n : ℕ) : (bigEndian count n).length = count := by
  induction count generalizing n with
  | zero => rfl
  | succ count ih => rw [bigEndian, List.length_append, ih, List.length_singleton]

theorem ofBigEndian_append_singleton (bs : List UInt8) (b : UInt8) :
    ofBigEndian (bs ++ [b]) = ofBigEndian bs * 256 + b.toNat := by
  simp [ofBigEndian]

/-- The bytes of a magnitude hold its remainder modulo that power of 256. -/
theorem ofBigEndian_bigEndian (count n : ℕ) :
    ofBigEndian (bigEndian count n) = n % 256 ^ count := by
  induction count generalizing n with
  | zero => simp [bigEndian, ofBigEndian, Nat.mod_one]
  | succ count ih =>
    have hb : (UInt8.ofNat (n % 256)).toNat = n % 256 := by simp
    rw [bigEndian, ofBigEndian_append_singleton, ih, hb, pow_succ, mul_comm (256 ^ count) 256,
      Nat.mod_mul]
    ring

/-- A magnitude has at most `k` bytes if it is below the `k`-th power of 256. -/
theorem byteCount_le_iff (n k : ℕ) : byteCount n ≤ k ↔ n < 256 ^ k := by
  induction k generalizing n with
  | zero =>
    rw [byteCount]
    split_ifs with h <;> simp [h]
  | succ k ih =>
    rw [byteCount]
    split_ifs with h
    · simp [h]
    · rw [Nat.add_le_add_iff_right, ih, Nat.div_lt_iff_lt_mul (by decide), pow_succ]

theorem lt_pow_byteCount (n : ℕ) : n < 256 ^ byteCount n :=
  (byteCount_le_iff n _).1 le_rfl

theorem byteCount_pos {n : ℕ} (h : n ≠ 0) : 0 < byteCount n := by
  rw [byteCount, if_neg h]
  omega

/-! ## Markers -/

/-- A byte stores the integers from -128 to 127. -/
theorem signed_byteOf {v : ℤ} (hl : -128 ≤ v) (hu : v ≤ 127) : signed (byteOf v) = v := by
  have hb : (byteOf v).toNat = (v % 256).toNat := by
    rw [byteOf, UInt8.toNat_ofNat']
    omega
  rw [signed, hb]
  split_ifs <;> omega

/-- The integers that can be marked : those of at most eight bytes of magnitude. -/
def InRange (v : ℤ) : Prop := -2 ^ 64 ≤ v ∧ v < 2 ^ 64

theorem isShort_iff {v : ℤ} : isShort v = true ↔ -112 ≤ v ∧ v ≤ 127 := by
  simp [isShort]

theorem byteCount_magnitude_le {v : ℤ} (h : InRange v) : byteCount (magnitude v) ≤ 8 := by
  rw [byteCount_le_iff, magnitude]
  obtain ⟨hl, hu⟩ := h
  split_ifs <;> omega

theorem byteCount_magnitude_pos {v : ℤ} (h : isShort v = false) :
    0 < byteCount (magnitude v) := by
  refine byteCount_pos ?_
  simp only [isShort, Bool.and_eq_false_iff, decide_eq_false_iff_not] at h
  rw [magnitude]
  split_ifs <;> omega

/-- The marker of the sign of `v` for `k` bytes of magnitude. -/
def signMarker (v : ℤ) (k : ℕ) : ℤ := (if v < 0 then -120 else -112) - (k : ℤ)

/-- A byte holds the marker of at most eight bytes. -/
theorem signed_byteOf_signMarker (v : ℤ) {k : ℕ} (hk : k ≤ 8) :
    signed (byteOf (signMarker v k)) = signMarker v k := by
  refine signed_byteOf ?_ ?_ <;> rw [signMarker] <;> split_ifs <;> omega

/-- A marker is below all short integers. -/
theorem signMarker_lt (v : ℤ) {k : ℕ} (hpos : 0 < k) : signMarker v k < -112 := by
  rw [signMarker]
  split_ifs <;> omega

/-- The marker tells the sign. -/
theorem signMarker_lt_iff {v : ℤ} {k : ℕ} (hpos : 0 < k) (hk : k ≤ 8) :
    signMarker v k < -120 ↔ v < 0 := by
  rw [signMarker]
  split_ifs <;> omega

/-- The marker tells the number of bytes. -/
theorem following_signMarker (v : ℤ) {k : ℕ} (hpos : 0 < k) (hk : k ≤ 8) :
    following (signMarker v k) = k := by
  have hlt := signMarker_lt_iff (v := v) hpos hk
  by_cases hv : v < 0
  · rw [following, if_pos (hlt.2 hv), signMarker, if_pos hv]
    omega
  · rw [following, if_neg fun h => hv (hlt.1 h), signMarker, if_neg hv]
    omega

/-- Sign and magnitude give the integer back. -/
theorem ofMagnitude (v : ℤ) :
    (if v < 0 then -(magnitude v : ℤ) - 1 else magnitude v) = v := by
  rw [magnitude]
  split_ifs <;> omega

/-! ## Reading -/

/-- A first byte that is no marker is the integer. -/
theorem read?_cons_of_short {b : UInt8} (h : -112 ≤ signed b) (bs : List UInt8) :
    read? (b :: bs) = some (signed b, bs) := by
  rw [read?, if_pos h]

/-- After a marker come the bytes of the magnitude. -/
theorem read?_cons_of_marker {b : UInt8} (h : signed b < -112) {chunk : List UInt8}
    (hc : chunk.length = following (signed b)) (rest : List UInt8) :
    read? (b :: (chunk ++ rest)) =
      some (if signed b < -120 then -(ofBigEndian chunk : ℤ) - 1 else ofBigEndian chunk, rest) := by
  rw [read?, if_neg (not_le.2 h), List.splitAt_eq, ← hc, List.take_left, List.drop_left]
  exact if_pos rfl

/-- What an integer with the first byte `b` is, and how many bytes follow `b`. -/
theorem read?_cons_eq_some_iff {b : UInt8} {bs rest : List UInt8} {v : ℤ} :
    read? (b :: bs) = some (v, rest) ↔
      (-112 ≤ signed b ∧ v = signed b ∧ bs = rest) ∨
      (signed b < -112 ∧ ∃ chunk, chunk.length = following (signed b) ∧ bs = chunk ++ rest ∧
        v = if signed b < -120 then -(ofBigEndian chunk : ℤ) - 1 else ofBigEndian chunk) := by
  by_cases hb : -112 ≤ signed b
  · rw [read?_cons_of_short hb]
    simp [hb, not_lt.2 hb, eq_comm]
  · have hlt := not_le.1 hb
    constructor
    · intro h
      rw [read?, if_neg hb, List.splitAt_eq] at h
      dsimp only at h
      by_cases hc : (bs.take (following (signed b))).length = following (signed b)
      · rw [if_pos hc, Option.some.injEq, Prod.mk.injEq] at h
        exact .inr ⟨hlt, bs.take _, hc, by rw [← h.2, List.take_append_drop], h.1.symm⟩
      · rw [if_neg hc] at h
        exact absurd h (Option.some_ne_none _).symm
    · rintro (⟨h, -⟩ | ⟨-, chunk, hc, rfl, rfl⟩)
      · exact absurd h hb
      · exact read?_cons_of_marker hlt hc rest

/-- An integer is read off the bytes if they start with one that fills its own bytes. -/
theorem read?_eq_some_iff {bs rest : List UInt8} {v : ℤ} :
    read? bs = some (v, rest) ↔ ∃ p, bs = p ++ rest ∧ read? p = some (v, []) := by
  constructor
  · intro h
    cases bs with
    | nil => simp [read?] at h
    | cons b bs =>
      rcases read?_cons_eq_some_iff.1 h with ⟨hb, hv, rfl⟩ | ⟨hb, chunk, hc, rfl, hv⟩
      · exact ⟨[b], rfl, read?_cons_eq_some_iff.2 (.inl ⟨hb, hv, rfl⟩)⟩
      · exact ⟨b :: chunk, rfl,
          read?_cons_eq_some_iff.2 (.inr ⟨hb, chunk, hc, (List.append_nil _).symm, hv⟩)⟩
  · rintro ⟨p, rfl, hp⟩
    cases p with
    | nil => simp [read?] at hp
    | cons b p =>
      rw [List.cons_append, read?_cons_eq_some_iff]
      rcases read?_cons_eq_some_iff.1 hp with ⟨hb, hv, rfl⟩ | ⟨hb, chunk, hc, rfl, hv⟩
      · exact .inl ⟨hb, hv, rfl⟩
      · exact .inr ⟨hb, chunk, hc, by rw [List.append_nil], hv⟩

/-- A beginning of an integer that is not all of it is too short. -/
theorem read?_of_isPrefix {p q : List UInt8} {v : ℤ} (hp : read? p = some (v, [])) (hq : q <+: p)
    (hne : q ≠ p) : read? q = none := by
  obtain ⟨t, rfl⟩ := hq
  cases q with
  | nil => rfl
  | cons b q =>
    rw [List.cons_append] at hp
    rcases read?_cons_eq_some_iff.1 hp with ⟨-, -, ht⟩ | ⟨hb, chunk, hc, ht, -⟩
    · obtain ⟨rfl, rfl⟩ := List.append_eq_nil_iff.1 ht
      exact absurd rfl hne
    · have htpos : t ≠ [] := fun ht => hne (by rw [ht, List.append_nil])
      have hlen : q.length + t.length = following (signed b) := by
        rw [← hc, ← List.length_append, ht, List.append_nil]
      have hlt : q.length < following (signed b) := by
        have := List.length_pos_iff.2 htpos
        omega
      have htake : (q.take (following (signed b))).length ≠ following (signed b) := by
        rw [List.length_take]
        omega
      rw [read?, if_neg (not_le.2 hb), List.splitAt_eq]
      exact if_neg htake

/-! ## Writing and reading back -/

/-- The encoding of `v` with `k` bytes of magnitude, of which the first can be zeros. -/
def padded (v : ℤ) (k : ℕ) : List UInt8 := byteOf (signMarker v k) :: bigEndian k (magnitude v)

theorem length_padded (v : ℤ) (k : ℕ) : (padded v k).length = k + 1 := by
  rw [padded, List.length_cons, length_bigEndian]

/-- An integer is read back from any number of bytes that holds its magnitude. -/
theorem read?_padded_append {v : ℤ} {k : ℕ} (hpos : 0 < k) (hk : k ≤ 8)
    (henough : byteCount (magnitude v) ≤ k) (rest : List UInt8) :
    read? (padded v k ++ rest) = some (v, rest) := by
  have hb := signed_byteOf_signMarker v hk
  have hc : (bigEndian k (magnitude v)).length = following (signed (byteOf (signMarker v k))) := by
    rw [length_bigEndian, hb, following_signMarker v hpos hk]
  have hmagnitude : ofBigEndian (bigEndian k (magnitude v)) = magnitude v := by
    rw [ofBigEndian_bigEndian, Nat.mod_eq_of_lt ((byteCount_le_iff _ k).1 henough)]
  rw [padded, List.cons_append, read?_cons_of_marker (hb.symm ▸ signMarker_lt v hpos) hc, hb,
    hmagnitude, if_congr (signMarker_lt_iff hpos hk) rfl rfl, ofMagnitude]

/-- A short integer is read back from its byte. -/
theorem read?_byteOf_cons {v : ℤ} (h : isShort v = true) (rest : List UInt8) :
    read? (byteOf v :: rest) = some (v, rest) := by
  obtain ⟨hl, hu⟩ := isShort_iff.1 h
  have hb : signed (byteOf v) = v := signed_byteOf (by omega) hu
  rw [read?_cons_of_short (hb.symm ▸ hl), hb]

theorem write_of_short {v : ℤ} (h : isShort v = true) : write v = [byteOf v] := by
  rw [write, if_pos h]

/-- Any other integer in range is written with as few bytes of magnitude as it has. -/
theorem write_of_long {v : ℤ} (hr : InRange v) (hs : isShort v = false) :
    write v = padded v (byteCount (magnitude v)) := by
  have hcount : following (marker v) = byteCount (magnitude v) :=
    following_signMarker v (byteCount_magnitude_pos hs) (byteCount_magnitude_le hr)
  rw [write, if_neg (by simp [hs]), hcount]
  rfl

/-- An integer of at most eight bytes is read back from what is written for it, whatever follows. -/
theorem read?_write_append {v : ℤ} (h : InRange v) (rest : List UInt8) :
    read? (write v ++ rest) = some (v, rest) := by
  cases hs : isShort v with
  | true =>
    rw [write_of_short hs]
    exact read?_byteOf_cons hs rest
  | false =>
    rw [write_of_long h hs]
    exact read?_padded_append (byteCount_magnitude_pos hs) (byteCount_magnitude_le h) le_rfl rest

end StorageHandler.VarInt
