import StorageHandler.Proofs.Token.Minimal

/-!
# Integers one after the other

An integer is read back from what is written for it exactly if it is in range, for no other is ever
read (`read?_write_append_iff`). Its bytes tell where they end, so integers that are written one
after the other are read one after the other, and nothing is left over
(`readMany?_flatMap_write_append`). Integers of any size are written, and a series comes back
exactly if all of it is in range (`read?_write_selfDelimiting`).
-/

namespace StorageHandler.VarInt

/-- So many integers one after the other, and the bytes after them; nothing if the bytes end too
soon. -/
def readMany? : ℕ → List UInt8 → Option (List ℤ × List UInt8)
  | 0, bs => some ([], bs)
  | n + 1, bs =>
    (read? bs).bind fun first =>
      (readMany? n first.2).map fun others => (first.1 :: others.1, others.2)

theorem read?_write_append_iff {v : ℤ} {rest : List UInt8} :
    read? (write v ++ rest) = some (v, rest) ↔ InRange v :=
  ⟨inRange_of_read?, fun h => read?_write_append h rest⟩

/-! ## Series -/

theorem readMany?_succ_eq_some_iff {n : ℕ} {bs rest : List UInt8} {vs : List ℤ} :
    readMany? (n + 1) bs = some (vs, rest) ↔ ∃ v mid ws,
      read? bs = some (v, mid) ∧ readMany? n mid = some (ws, rest) ∧ vs = v :: ws := by
  rw [readMany?, Option.bind_eq_some_iff]
  constructor
  · rintro ⟨⟨v, mid⟩, hfirst, hothers⟩
    obtain ⟨⟨ws, rest'⟩, hws, heq⟩ := Option.map_eq_some_iff.1 hothers
    obtain ⟨rfl, rfl⟩ := Prod.mk.inj heq
    exact ⟨v, mid, ws, hfirst, hws, rfl⟩
  · rintro ⟨v, mid, ws, hfirst, hws, rfl⟩
    exact ⟨(v, mid), hfirst, by rw [hws, Option.map_some]⟩

theorem inRange_of_readMany? {n : ℕ} {bs rest : List UInt8} {vs : List ℤ}
    (h : readMany? n bs = some (vs, rest)) : ∀ v ∈ vs, InRange v := by
  induction n generalizing bs vs with
  | zero =>
    obtain ⟨rfl, -⟩ := Prod.mk.inj (Option.some.inj h)
    exact List.forall_mem_nil _
  | succ n ih =>
    obtain ⟨v, mid, ws, hfirst, hothers, rfl⟩ := readMany?_succ_eq_some_iff.1 h
    exact List.forall_mem_cons.2 ⟨inRange_of_read? hfirst, ih hothers⟩

/-- A series in range is read back, and whatever follows it is left alone. -/
theorem readMany?_flatMap_write_append {vs : List ℤ} (h : ∀ v ∈ vs, InRange v)
    (rest : List UInt8) :
    readMany? vs.length (vs.flatMap write ++ rest) = some (vs, rest) := by
  induction vs with
  | nil => rfl
  | cons v vs ih =>
    obtain ⟨hv, hvs⟩ := List.forall_mem_cons.1 h
    rw [List.flatMap_cons, List.append_assoc, List.length_cons, readMany?_succ_eq_some_iff]
    exact ⟨v, _, vs, read?_write_append hv _, ih hvs, rfl⟩

/-- Exactly the integers in range are read back, whatever follows them, and no other comes out of
any bytes. Exactly the series in range are read back from their bytes to the last one. -/
theorem read?_write_selfDelimiting :
    (∀ (v : ℤ) (rest : List UInt8), read? (write v ++ rest) = some (v, rest) ↔ InRange v) ∧
    (∀ (v : ℤ) (bs rest : List UInt8), read? bs = some (v, rest) → InRange v) ∧
    ∀ vs : List ℤ,
      readMany? vs.length (vs.flatMap write) = some (vs, []) ↔ ∀ v ∈ vs, InRange v := by
  refine ⟨fun v rest => read?_write_append_iff, fun v bs rest => inRange_of_read?, fun vs => ?_⟩
  refine ⟨inRange_of_readMany?, fun h => ?_⟩
  have hback := readMany?_flatMap_write_append h []
  rwa [List.append_nil] at hback

/-- The ends of the range and of the short integers. The first integer above the range is written,
but read as something else. -/
theorem read?_write_boundaries :
    let vs : List ℤ := [-2 ^ 64, -113, -112, 127, 128, 2 ^ 64 - 1]
    readMany? 6 (vs.flatMap write) = some (vs, []) ∧
      read? (write (2 ^ 64) ++ [7]) ≠ some (2 ^ 64, [7]) := by
  intro vs
  obtain ⟨hiff, -, hseries⟩ := read?_write_selfDelimiting
  refine ⟨(hseries vs).2 ?_, fun h => ?_⟩
  · intro v hv
    simp only [vs, List.mem_cons, List.not_mem_nil, or_false] at hv
    rcases hv with rfl | rfl | rfl | rfl | rfl | rfl <;> exact ⟨by omega, by omega⟩
  · have hrange := (hiff (2 ^ 64) [7]).1 h
    exact absurd hrange.2 (lt_irrefl _)

end StorageHandler.VarInt
