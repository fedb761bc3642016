import StorageHandler.Proofs.Token.RoundTrip

/-!
# Storage that is cut off

A reader is exact if it takes what it reads off bytes of its own and finds every shorter beginning
of them truncated (`Exact`). Exactness composes (`Exact.bind`), so every part of the storage is read
exactly, down to the entries by induction on their number (`exact_readEntries`). The header differs
in one point : bytes that end within its letters are not even recognised (`readHeader_of_cut`).

`read_cut` says the same of the whole : what storage holds depends on the bytes that were read and
on all of them.
-/

namespace StorageHandler.TokenStorage

variable {α β : Type}

/-! ## Exact readers -/

/-- Where `r` succeeds it takes its value off bytes `p` of which every shorter beginning is
truncated. -/
def Exact (r : Reader α) : Prop :=
  ∀ (bs rest : List UInt8) (a : α), r bs = .ok (a, rest) →
    ∃ p, bs = p ++ rest ∧ Takes r p a ∧ ∀ q, q <+: p → q ≠ p → r q = .error .truncated

theorem exact_pure (a : α) : Exact (pure a : Reader α) := by
  intro bs rest a' h
  obtain ⟨rfl, rfl⟩ : a = a' ∧ bs = rest := Prod.mk.inj (Except.ok.inj h)
  refine ⟨[], rfl, takes_pure a, fun q hq hne => ?_⟩
  exact absurd (List.prefix_nil.1 hq) hne

theorem exact_throw (e : StorageError) : Exact (throw e : Reader α) := by
  intro bs rest a h
  cases h

/-- A beginning of `p₁ ++ p₂` ends within `p₁`, or within `p₂` after all of `p₁`. -/
theorem isPrefix_append_cases {p₁ p₂ q : List UInt8} (hq : q <+: p₁ ++ p₂) (hne : q ≠ p₁ ++ p₂) :
    (q <+: p₁ ∧ q ≠ p₁) ∨ ∃ q₂, q = p₁ ++ q₂ ∧ q₂ <+: p₂ ∧ q₂ ≠ p₂ := by
  by_cases hp : p₁ <+: q
  · obtain ⟨q₂, rfl⟩ := hp
    refine Or.inr ⟨q₂, rfl, (List.prefix_append_right_inj p₁).1 hq, fun h => hne ?_⟩
    rw [h]
  · refine Or.inl ⟨?_, fun h => hp ?_⟩
    · exact (List.prefix_or_prefix_of_prefix hq (List.prefix_append p₁ p₂)).resolve_right hp
    · exact h ▸ List.prefix_refl q

/-- Exact readers one after the other are exact : bytes are cut within what the first one takes,
or after it within what the second one takes. -/
theorem Exact.bind {r : Reader α} {f : α → Reader β} (hr : Exact r) (hf : ∀ a, Exact (f a)) :
    Exact (r >>= f) := by
  intro bs rest b h
  obtain ⟨a, mid, ha, hb⟩ := bind_apply_eq_ok_iff.1 h
  obtain ⟨p₁, rfl, htakes₁, hcut₁⟩ := hr _ _ _ ha
  obtain ⟨p₂, rfl, htakes₂, hcut₂⟩ := hf a _ _ _ hb
  refine ⟨p₁ ++ p₂, (List.append_assoc ..).symm, htakes₁.bind htakes₂, fun q hq hne => ?_⟩
  rcases isPrefix_append_cases hq hne with ⟨hq₁, hne₁⟩ | ⟨q₂, rfl, hq₂, hne₂⟩
  · exact bind_of_error (hcut₁ q hq₁ hne₁)
  · rw [bind_of_ok (htakes₁ q₂)]
    exact hcut₂ q₂ hq₂ hne₂

/-! ## The readers of the storage -/

theorem exact_readExact (n : ℕ) : Exact (readExact n) := by
  intro bs rest x h
  obtain ⟨rfl, hlen⟩ := readExact_eq_ok_iff.1 h
  refine ⟨x, rfl, fun more => readExact_eq_ok_iff.2 ⟨rfl, hlen⟩, fun q hq hne => ?_⟩
  have hlt : q.length < x.length :=
    lt_of_le_of_ne hq.length_le fun h => hne (hq.eq_of_length h)
  rw [readExact_apply, if_neg (by omega)]

theorem exact_readCount : Exact readCount := by
  intro bs rest n h
  obtain ⟨p, rfl, hnum⟩ := readCount_eq_ok_iff.1 h
  refine ⟨p, rfl, fun more => readCount_eq_ok_iff.2 ⟨p, rfl, hnum⟩, fun q hq hne => ?_⟩
  rw [readCount_apply, VarInt.read?_of_isPrefix hnum hq hne]

theorem exact_readBytes : Exact readBytes := by
  refine exact_readCount.bind fun n => ?_
  by_cases hn : lengthBound ≤ n
  · rw [if_pos hn]
    exact (exact_throw _).bind fun _ => exact_readExact n
  · rw [if_neg hn]
    exact exact_readExact n

theorem exact_readText : Exact readText := by
  refine exact_readBytes.bind fun x => ?_
  cases Text.decode? x with
  | none => exact exact_throw _
  | some s => exact exact_pure s

theorem exact_readToken : Exact readToken :=
  exact_readBytes.bind fun _ => exact_readBytes.bind fun _ => exact_readText.bind fun _ =>
    exact_readText.bind fun _ => exact_pure _

theorem exact_readEntries {value : Reader α} (h : Exact value) (n : ℕ) (m : OrderedMap String α) :
    Exact (readEntries value n m) := by
  induction n generalizing m with
  | zero => exact exact_pure m
  | succ n ih => exact exact_readText.bind fun name => h.bind fun v => ih (m.insert name v)

theorem exact_readMap {value : Reader α} (h : Exact value) : Exact (readMap value) :=
  exact_readCount.bind fun n => exact_readEntries h n .empty

/-- What follows the header. -/
def readSections : Reader Credentials :=
  readMap readToken >>= fun tokens => readMap readBytes >>= fun secretKeys =>
    pure ⟨tokens, secretKeys⟩

theorem exact_readSections : Exact readSections :=
  (exact_readMap exact_readToken).bind fun _ => (exact_readMap exact_readBytes).bind fun _ =>
    exact_pure _

/-! ## The whole -/

/-- What is wrong with storage of which only `n` bytes are left. -/
def cutError (n : ℕ) : StorageError := if n < magic.length then .badMagic else .truncated

theorem kind_cutError (n : ℕ) : (cutError n).kind = .credentialFormat := by
  rw [cutError]
  split_ifs <;> rfl

theorem readHeader_of_cut {q : List UInt8} (hq : q <+: magic ++ [version])
    (hne : q ≠ magic ++ [version]) : readHeader q = .error (cutError q.length) := by
  rw [readHeader_apply, cutError]
  rcases isPrefix_append_cases hq hne with ⟨hq₁, hne₁⟩ | ⟨q₂, rfl, hq₂, hne₂⟩
  · have hlt : q.length < magic.length :=
      lt_of_le_of_ne hq₁.length_le fun h => hne₁ (hq₁.eq_of_length h)
    rw [List.take_of_length_le hlt.le, if_neg hne₁, if_pos hlt]
  · obtain rfl : q₂ = [] := by
      rcases List.prefix_concat_iff.1 (show q₂ <+: [] ++ [version] from hq₂) with h | h
      · exact absurd h hne₂
      · exact List.prefix_nil.1 h
    rw [List.append_nil, List.take_length, if_pos rfl, List.drop_length, if_neg (lt_irrefl _)]

/-- Credentials are taken off bytes of which no shorter beginning is storage. -/
theorem readCredentials_cut {bs rest : List UInt8} {c : Credentials}
    (h : readCredentials bs = .ok (c, rest)) :
    ∃ p, bs = p ++ rest ∧ Takes readCredentials p c ∧
      ∀ q, q <+: p → q ≠ p → readCredentials q = .error (cutError q.length) := by
  have hsplit : readCredentials = readHeader >>= fun _ => readSections := readCredentials_eq
  rw [hsplit] at h ⊢
  obtain ⟨⟨⟩, mid, hheader, hsections⟩ := bind_apply_eq_ok_iff.1 h
  obtain rfl := readHeader_eq_ok_iff.1 hheader
  obtain ⟨p, rfl, htakes, hcut⟩ := exact_readSections _ _ _ hsections
  refine ⟨magic ++ [version] ++ p, (List.append_assoc ..).symm, takes_readHeader.bind htakes,
    fun q hq hne => ?_⟩
  rcases isPrefix_append_cases hq hne with ⟨hq₁, hne₁⟩ | ⟨q₂, rfl, hq₂, hne₂⟩
  · exact bind_of_error (readHeader_of_cut hq₁ hne₁)
  · have hlong : ¬(magic ++ [version] ++ q₂).length < magic.length := by
      simp only [List.length_append]
      omega
    rw [bind_of_ok (takes_readHeader q₂), hcut q₂ hq₂ hne₂, cutError, if_neg hlong]

theorem read_eq_ok_iff {bs : List UInt8} {c : Credentials} :
    read bs = .ok c ↔ ∃ rest, readCredentials bs = .ok (c, rest) := by
  rw [read]
  cases readCredentials bs with
  | error e => simp [Except.map]
  | ok x => simp [Except.map, Prod.ext_iff]

theorem read_of_error {bs : List UInt8} {e : StorageError} (h : readCredentials bs = .error e) :
    read bs = .error e := by
  rw [read, h]
  rfl

/-- The first `k` bytes of storage that is read from more than `k` bytes are refused. -/
theorem read_take_of_lt {p rest : List UInt8} {c : Credentials}
    (h : readCredentials (p ++ rest) = .ok (c, rest)) {k : ℕ} (hk : k < p.length) :
    read (p.take k) = .error (cutError k) ∧ (cutError k).kind = .credentialFormat := by
  obtain ⟨p', hp', -, hcut⟩ := readCredentials_cut h
  obtain rfl : p = p' := List.append_cancel_right hp'
  have hlen : (p.take k).length = k := List.length_take_of_le hk.le
  have hne : p.take k ≠ p := fun he => by
    rw [he] at hlen
    omega
  have herror := hcut (p.take k) (List.take_prefix k p) hne
  rw [hlen] at herror
  exact ⟨read_of_error herror, kind_cutError k⟩

/-- Storage is read up to some byte `n`. Whatever is cut before it is refused as the library's own
failure, and bytes that begin with the same `n` hold the same credentials. What is written for
credentials is read to its end, so it is refused wherever it is cut. -/
theorem read_cut :
    (∀ p c, read p = .ok c → ∃ n ≤ p.length, readCredentials p = .ok (c, p.drop n) ∧
      (∀ k < n, read (p.take k) = .error (cutError k) ∧ (cutError k).kind = .credentialFormat) ∧
      ∀ p', p'.take n = p.take n → readCredentials p' = .ok (c, p'.drop n) ∧ read p' = .ok c) ∧
    ∀ c, Storable c → ∀ k < (write c).length,
      read ((write c).take k) = .error (cutError k) ∧ (cutError k).kind = .credentialFormat := by
  refine ⟨fun p c h => ?_, fun c hc k hk => ?_⟩
  · obtain ⟨rest, hrest⟩ := read_eq_ok_iff.1 h
    obtain ⟨used, rfl, htakes, -⟩ := readCredentials_cut hrest
    refine ⟨used.length, by simp, ?_, fun k hk => ?_, fun p' hp' => ?_⟩
    · rw [List.drop_left]
      exact hrest
    · rw [List.take_append_of_le_length hk.le]
      exact read_take_of_lt hrest hk
    · rw [List.take_left] at hp'
      have hsplit : used ++ p'.drop used.length = p' :=
        (congrArg (· ++ p'.drop used.length) hp').symm.trans (List.take_append_drop ..)
      have hread := htakes (p'.drop used.length)
      rw [hsplit] at hread
      exact ⟨hread, read_eq_ok_iff.2 ⟨_, hread⟩⟩
  · exact read_take_of_lt (takes_readCredentials hc []) hk

/-- Storage that nobody wrote : both counts are longer than they have to be, the second token takes
the place of the first, and two bytes follow. -/
def looseStorage : List UInt8 :=
  magic ++ [version] ++ [0x8f, 2] ++ [1, 97, 0, 1, 7, 0, 0] ++ [1, 97, 0, 1, 8, 0, 0] ++
    [0x8f, 0] ++ [9, 9]

/-- What it holds. -/
def looseCredentials : Credentials where
  tokens := .ofList [("a", ⟨[], [8], "", ""⟩)]
  secretKeys := .empty

theorem read_cut_looseStorage :
    read looseStorage = .ok looseCredentials ∧ Storable looseCredentials ∧
    (∃ n ≤ looseStorage.length,
      readCredentials looseStorage = .ok (looseCredentials, looseStorage.drop n) ∧
      (∀ k < n, read (looseStorage.take k) = .error (cutError k) ∧
        (cutError k).kind = .credentialFormat) ∧
      ∀ p', p'.take n = looseStorage.take n →
        readCredentials p' = .ok (looseCredentials, p'.drop n) ∧ read p' = .ok looseCredentials) ∧
    ∀ k < (write looseCredentials).length,
      read ((write looseCredentials).take k) = .error (cutError k) ∧
        (cutError k).kind = .credentialFormat := by
  have hread : read looseStorage = .ok looseCredentials := by rfl
  have hstorable : Storable looseCredentials := ⟨by decide, by decide, by decide, by decide⟩
  exact ⟨hread, hstorable, read_cut.1 _ _ hread, read_cut.2 _ hstorable⟩

end StorageHandler.TokenStorage
