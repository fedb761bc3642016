import StorageHandler.Proofs.Token.Truncation

/-!
# How long the loops of storage run

The storage announces how many tokens and how many secret keys it holds, up to `2 ^ 64 - 1` of each,
and a loop reads them one entry a turn. What bounds a loop is not the number that is announced but
the bytes that are there : a reader spends at least `k` bytes if it leaves that many fewer wherever
it succeeds (`Spends`), an entry with a token spends five and one with a secret key two, and a loop
that spends `k` bytes a turn begins at most one turn more than it has `k` bytes (`turns_le`).

`loops_bounded` says so of both loops, for any bytes, and what it says of those that are read to
their end.
-/

namespace StorageHandler.TokenStorage

variable {α β : Type} {j k n : ℕ} {bs rest : List UInt8}

/-! ## What readers spend -/

/-- Where `r` succeeds it leaves at least `k` bytes fewer. -/
def Spends (k : ℕ) (r : Reader α) : Prop :=
  ∀ (bs rest : List UInt8) (a : α), r bs = .ok (a, rest) → rest.length + k ≤ bs.length

theorem spends_pure (a : α) : Spends 0 (pure a : Reader α) := by
  intro bs rest a' h
  obtain ⟨-, rfl⟩ : a = a' ∧ bs = rest := Prod.mk.inj (Except.ok.inj h)
  exact le_rfl

theorem Spends.mono {r : Reader α} (h : Spends k r) (hle : j ≤ k) : Spends j r := by
  intro bs rest a ha
  have := h bs rest a ha
  omega

theorem Spends.bind {r : Reader α} {f : α → Reader β} (hr : Spends j r)
    (hf : ∀ a, Spends k (f a)) : Spends (j + k) (r >>= f) := by
  intro bs rest b h
  obtain ⟨a, mid, ha, hb⟩ := bind_apply_eq_ok_iff.1 h
  have hfirst := hr bs mid a ha
  have hsecond := hf a mid rest b hb
  omega

/-- However long a number is written, it takes a byte. -/
theorem length_pos_of_isNumber {p : List UInt8} {v : ℤ} (h : IsNumber p v) : 0 < p.length := by
  refine List.length_pos_iff.2 fun hp => ?_
  rw [hp] at h
  cases h

theorem spends_readCount : Spends 1 readCount := by
  intro bs rest n h
  obtain ⟨p, rfl, hp⟩ := readCount_eq_ok_iff.1 h
  have := length_pos_of_isNumber hp
  rw [List.length_append]
  omega

/-- An empty byte string takes the byte of its length. -/
theorem spends_readBytes : Spends 1 readBytes := by
  intro bs rest x h
  obtain ⟨q, rfl, hq, -⟩ := readBytes_eq_ok_iff.1 h
  have := length_pos_of_isNumber hq
  rw [List.length_append, List.length_append]
  omega

theorem spends_readText : Spends 1 readText :=
  fun bs rest s h => spends_readBytes bs rest (Text.encode s) (readText_eq_ok_iff.1 h)

theorem spends_readToken : Spends 4 readToken :=
  spends_readBytes.bind fun _ => spends_readBytes.bind fun _ => spends_readText.bind fun _ =>
    spends_readText.bind fun _ => spends_pure _

theorem spends_readHeader : Spends 5 readHeader := by
  intro bs rest u h
  obtain rfl := readHeader_eq_ok_iff.1 h
  have hmagic : (magic ++ [version]).length = 5 := by rfl
  rw [List.length_append, hmagic, Nat.add_comm]

/-! ## Turns -/

/-- A turn of a loop : an alias and a value. -/
def readEntry (value : Reader α) : Reader (String × α) :=
  readText >>= fun name => value >>= fun v => pure (name, v)

theorem spends_readEntry {value : Reader α} (h : Spends k value) :
    Spends (1 + k) (readEntry value) :=
  spends_readText.bind fun _ => h.bind fun _ => spends_pure _

theorem readEntries_succ (value : Reader α) (n : ℕ) (m : OrderedMap String α) :
    readEntries value (n + 1) m =
      readEntry value >>= fun e => readEntries value n (m.insert e.1 e.2) := by
  simp only [readEntries, readEntry, bind_assoc, pure_bind]

theorem spends_readEntries {value : Reader α} (h : Spends k (readEntry value)) (n : ℕ)
    (m : OrderedMap String α) : Spends (n * k) (readEntries value n m) := by
  induction n generalizing m with
  | zero =>
    rw [Nat.zero_mul]
    exact spends_pure m
  | succ n ih =>
    rw [readEntries_succ, Nat.succ_mul, Nat.add_comm]
    exact h.bind fun e => ih (m.insert e.1 e.2)

/-- How many turns a loop over `n` entries begins. The last of them may fail. -/
def turns (value : Reader α) : ℕ → List UInt8 → ℕ
  | 0, _ => 0
  | n + 1, bs =>
    match readEntry value bs with
    | .ok (_, rest) => turns value n rest + 1
    | .error _ => 1

/-- The turn number `i`, counted from zero, is begun if more than `i` entries are due and the loop
over the first `i` of them comes to its end. -/
theorem lt_turns_iff {value : Reader α} {i : ℕ} (m : OrderedMap String α) :
    i < turns value n bs ↔ i < n ∧ ∃ r, readEntries value i m bs = .ok r := by
  induction n generalizing i m bs with
  | zero => simp [turns]
  | succ n ih =>
    rw [turns]
    cases he : readEntry value bs with
    | error e =>
      cases i with
      | zero => simpa using ⟨m, bs, rfl⟩
      | succ i =>
        rw [readEntries_succ, bind_of_error he]
        simp
    | ok x =>
      obtain ⟨e, rest⟩ := x
      cases i with
      | zero => simpa using ⟨m, bs, rfl⟩
      | succ i =>
        rw [readEntries_succ, bind_of_ok he, Nat.add_lt_add_iff_right, Nat.add_lt_add_iff_right]
        exact ih (m.insert e.1 e.2)

/-- A loop that comes to its end has taken all its turns. -/
theorem turns_of_ok {value : Reader α} {m m' : OrderedMap String α}
    (h : readEntries value n m bs = .ok (m', rest)) : turns value n bs = n := by
  induction n generalizing m bs with
  | zero => rfl
  | succ n ih =>
    rw [readEntries_succ] at h
    obtain ⟨e, mid, he, hrest⟩ := bind_apply_eq_ok_iff.1 h
    rw [turns, he]
    dsimp only
    rw [ih hrest]

theorem turns_le {value : Reader α} (hk : 0 < k) (h : Spends k (readEntry value)) (n : ℕ)
    (bs : List UInt8) : turns value n bs ≤ bs.length / k + 1 := by
  cases ht : turns value n bs with
  | zero => exact Nat.zero_le _
  | succ t =>
    -- The turns before the last one are completed, whatever becomes of the last.
    obtain ⟨-, ⟨m, rest⟩, hr⟩ := (lt_turns_iff .empty).1 (show t < turns value n bs by omega)
    have hspent : rest.length + t * k ≤ bs.length := spends_readEntries h t .empty bs rest m hr
    exact Nat.succ_le_succ ((Nat.le_div_iff_mul_le hk).2 (by omega))

/-! ## The two loops -/

/-- A loop of the storage : the reader that ends with the number of its entries, and the one of
their values. -/
structure Loop (α : Type) where
  announced : Reader ℕ
  value : Reader α

namespace Loop

/-- How many turns the loop begins on some bytes : none if it is not reached. -/
def turns (l : Loop α) (bs : List UInt8) : ℕ :=
  match l.announced bs with
  | .ok (n, rest) => TokenStorage.turns l.value n rest
  | .error _ => 0

/-- The loop begins its turn number `i`, counted from zero : it is reached, more than `i` entries
are announced, and the first `i` of them are read. -/
def Begins (l : Loop α) (bs : List UInt8) (i : ℕ) : Prop :=
  ∃ n rest, l.announced bs = .ok (n, rest) ∧ i < n ∧
    ∃ r, readEntries l.value i .empty rest = .ok r

/-- The bytes bound the loop : a completed turn takes at least `k` of them, so at most one turn more
is begun than they have room for. -/
structure Bounded (l : Loop α) (k : ℕ) : Prop where
  turn : ∀ bs rest e, readEntry l.value bs = .ok (e, rest) → rest.length + k ≤ bs.length
  begun : ∀ bs i, i < l.turns bs ↔ l.Begins bs i
  turns_le : ∀ bs, l.turns bs ≤ bs.length / k + 1

theorem lt_turns_iff_begins {l : Loop α} {i : ℕ} : i < l.turns bs ↔ l.Begins bs i := by
  rw [turns, Begins]
  cases l.announced bs with
  | error e => simp
  | ok r =>
    obtain ⟨n, rest⟩ := r
    rw [TokenStorage.lt_turns_iff .empty]
    simp

theorem bounded_of_spends {l : Loop α} (hj : Spends j l.announced) (hk : 0 < k)
    (h : Spends k (readEntry l.value)) : l.Bounded k := by
  refine ⟨h, fun bs i => lt_turns_iff_begins, fun bs => ?_⟩
  rw [turns]
  cases hn : l.announced bs with
  | error e => exact Nat.zero_le _
  | ok r =>
    have hlength := hj bs r.2 r.1 hn
    have hdiv : r.2.length / k ≤ bs.length / k := Nat.div_le_div_right (by omega)
    exact (TokenStorage.turns_le hk h r.1 r.2).trans (Nat.succ_le_succ hdiv)

end Loop

/-- The tokens : their number comes after the header. -/
def tokenLoop : Loop SecurityToken where
  announced := readHeader >>= fun _ => readCount
  value := readToken

/-- The secret keys : their number comes after the tokens. -/
def secretLoop : Loop (List UInt8) where
  announced := readHeader >>= fun _ => readMap readToken >>= fun _ => readCount
  value := readBytes

theorem spends_readMap {value : Reader α} (h : Spends k (readEntry value)) :
    Spends 1 (readMap value) :=
  spends_readCount.bind fun n => (spends_readEntries h n .empty).mono (Nat.zero_le _)

theorem spends_announced_tokenLoop : Spends 6 tokenLoop.announced :=
  spends_readHeader.bind fun _ => spends_readCount

theorem spends_announced_secretLoop : Spends 7 secretLoop.announced :=
  spends_readHeader.bind fun _ => (spends_readMap (spends_readEntry spends_readToken)).bind
    fun _ => spends_readCount

/-- A map has no more entries than were announced. -/
theorem size_le_of_readEntries {value : Reader α} {m : OrderedMap String α}
    (h : readEntries value n .empty bs = .ok (m, rest)) : m.size ≤ n := by
  obtain ⟨es, rfl, rfl, -⟩ := readEntries_eq_ok_iff.1 h
  exact OrderedMap.size_ofList_le es

/-- Every completed turn of the loop over tokens takes at least five bytes and every one of the loop
over secret keys two, and the turns that are begun are bounded by that, whatever numbers of entries
are announced. Storage that is read takes the turns that it announces, is long enough for them and
holds no more entries. -/
theorem loops_bounded :
    tokenLoop.Bounded 5 ∧ secretLoop.Bounded 2 ∧
    ∀ bs c, read bs = .ok c → ∃ n m rest₁ rest₂,
      tokenLoop.announced bs = .ok (n, rest₁) ∧ secretLoop.announced bs = .ok (m, rest₂) ∧
      tokenLoop.turns bs = n ∧ secretLoop.turns bs = m ∧
      7 + 5 * n + 2 * m ≤ bs.length ∧ c.tokens.size ≤ n ∧ c.secretKeys.size ≤ m := by
  have htoken : Spends 5 (readEntry readToken) := spends_readEntry spends_readToken
  have hsecret : Spends 2 (readEntry readBytes) := spends_readEntry spends_readBytes
  refine ⟨Loop.bounded_of_spends spends_announced_tokenLoop (by decide) htoken,
    Loop.bounded_of_spends spends_announced_secretLoop (by decide) hsecret, fun bs c h => ?_⟩
  obtain ⟨rest, h⟩ := read_eq_ok_iff.1 h
  obtain ⟨mid₁, mid₂, hbs, htokenMap, hsecretMap⟩ := readCredentials_eq_ok_iff.1 h
  have hheader : readHeader bs = .ok ((), mid₁) := readHeader_eq_ok_iff.2 hbs
  obtain ⟨n, rest₁, hn, htokens⟩ := bind_apply_eq_ok_iff.1 htokenMap
  obtain ⟨m, rest₂, hm, hsecrets⟩ := bind_apply_eq_ok_iff.1 hsecretMap
  have hbefore₁ : tokenLoop.announced bs = .ok (n, rest₁) :=
    bind_apply_eq_ok_iff.2 ⟨(), mid₁, hheader, hn⟩
  have hbefore₂ : secretLoop.announced bs = .ok (m, rest₂) :=
    bind_apply_eq_ok_iff.2
      ⟨(), mid₁, hheader, bind_apply_eq_ok_iff.2 ⟨c.tokens, mid₂, htokenMap, hm⟩⟩
  have hbytes : 7 + 5 * n + 2 * m ≤ bs.length := by
    have h₁ : rest₁.length + 6 ≤ bs.length := spends_announced_tokenLoop _ _ _ hbefore₁
    have h₂ : mid₂.length + n * 5 ≤ rest₁.length := spends_readEntries htoken n _ _ _ _ htokens
    have h₃ : rest₂.length + 1 ≤ mid₂.length := spends_readCount _ _ _ hm
    have h₄ : rest.length + m * 2 ≤ rest₂.length := spends_readEntries hsecret m _ _ _ _ hsecrets
    omega
  refine ⟨n, m, rest₁, rest₂, hbefore₁, hbefore₂, ?_, ?_, hbytes, size_le_of_readEntries htokens,
    size_le_of_readEntries hsecrets⟩
  · rw [Loop.turns, hbefore₁]
    exact turns_of_ok htokens
  · rw [Loop.turns, hbefore₂]
    exact turns_of_ok hsecrets

/-- As many tokens are announced as can be, and there are two without any content and the start of a
third. -/
def hungryStorage : List UInt8 :=
  magic ++ [version] ++ 0x88 :: List.replicate 8 255 ++ List.replicate 10 0 ++ [1, 97, 5]

theorem loops_bounded_hungryStorage :
    (tokenLoop.announced hungryStorage =
        .ok (2 ^ 64 - 1, List.replicate 10 0 ++ [1, 97, 5]) ∧
      read hungryStorage = .error .truncated ∧ tokenLoop.turns hungryStorage = 3 ∧
      tokenLoop.turns hungryStorage ≤ hungryStorage.length / 5 + 1) ∧
    read looseStorage = .ok looseCredentials ∧
    ∃ n m rest₁ rest₂,
      tokenLoop.announced looseStorage = .ok (n, rest₁) ∧
      secretLoop.announced looseStorage = .ok (m, rest₂) ∧
      tokenLoop.turns looseStorage = n ∧ secretLoop.turns looseStorage = m ∧
      7 + 5 * n + 2 * m ≤ looseStorage.length ∧
      looseCredentials.tokens.size ≤ n ∧ looseCredentials.secretKeys.size ≤ m := by
  obtain ⟨htokens, -, hread⟩ := loops_bounded
  have hloose : read looseStorage = .ok looseCredentials := by rfl
  exact ⟨⟨by rfl, by rfl, by rfl, htokens.turns_le hungryStorage⟩, hloose, hread _ _ hloose⟩

end StorageHandler.TokenStorage
