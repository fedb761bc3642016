import StorageHandler.Proofs.Token.VarInt
import StorageHandler.Token.Storage

/-!
# Readers of token storage

What each reader does to the bytes in front of it, as one equation a reader : `readExact_apply`,
`readCount_apply`, `readBytes_apply`, `readText_apply`, `readHeader_apply`. A reader is run step by
step with `bind_of_ok` and `bind_of_error`. The whole storage is a header and two maps
(`readCredentials_eq`, `readCredentials_eq_ok_iff`).
-/

namespace StorageHandler.TokenStorage

variable {α β : Type}

/-! ## One equation a reader -/

theorem bind_of_ok {r : Reader α} {f : α → Reader β} {bs rest : List UInt8} {a : α}
    (h : r bs = .ok (a, rest)) : (r >>= f) bs = f a rest := by
  change (r bs).bind _ = _
  rw [h]
  rfl

theorem bind_of_error {r : Reader α} {f : α → Reader β} {bs : List UInt8} {e : StorageError}
    (h : r bs = .error e) : (r >>= f) bs = .error e := by
  change (r bs).bind _ = _
  rw [h]
  rfl

/-- Two readers one after the other succeed if each of them does. -/
theorem bind_apply_eq_ok_iff {r : Reader α} {f : α → Reader β} {bs rest : List UInt8} {b : β} :
    (r >>= f) bs = .ok (b, rest) ↔ ∃ a mid, r bs = .ok (a, mid) ∧ f a mid = .ok (b, rest) := by
  constructor
  · intro h
    cases hr : r bs with
    | error e =>
      rw [bind_of_error hr] at h
      cases h
    | ok x =>
      have hx : r bs = .ok (x.1, x.2) := hr
      rw [bind_of_ok hx] at h
      exact ⟨x.1, x.2, rfl, h⟩
  · rintro ⟨a, mid, hr, hf⟩
    rw [bind_of_ok hr, hf]

theorem readExact_apply (n : ℕ) (bs : List UInt8) :
    readExact n bs = if n ≤ bs.length then .ok (bs.take n, bs.drop n) else .error .truncated := by
  simp only [readExact, List.splitAt_eq, List.length_take, min_eq_left_iff]

theorem readCount_apply (bs : List UInt8) :
    readCount bs = match VarInt.read? bs with
      | none => .error .truncated
      | some (n, rest) => if n < 0 then .error (.negativeCount n) else .ok (n.toNat, rest) := by
  cases h : VarInt.read? bs with
  | none => exact bind_of_error (by simp [readNumber, h])
  | some r =>
    have hr : readNumber bs = .ok (r.1, r.2) := by simp [readNumber, h]
    refine (bind_of_ok hr).trans ?_
    dsimp only
    split_ifs <;> rfl

theorem readBytes_apply (bs : List UInt8) :
    readBytes bs = match readCount bs with
      | .error e => .error e
      | .ok (n, rest) => if lengthBound ≤ n then .error (.oversized n) else readExact n rest := by
  cases h : readCount bs with
  | error e => exact bind_of_error h
  | ok r =>
    refine (bind_of_ok h).trans ?_
    dsimp only
    split_ifs <;> rfl

theorem readText_apply (bs : List UInt8) :
    readText bs = match readBytes bs with
      | .error e => .error e
      | .ok (x, rest) => match Text.decode? x with
        | some s => .ok (s, rest)
        | none => .error .invalidText := by
  cases h : readBytes bs with
  | error e => exact bind_of_error h
  | ok r =>
    refine (bind_of_ok h).trans ?_
    dsimp only
    cases Text.decode? r.1 <;> rfl

theorem readHeader_apply (bs : List UInt8) :
    readHeader bs =
      if bs.take magic.length = magic then
        match bs.drop magic.length with
        | [] => .error .truncated
        | v :: rest =>
          if v = protobufVersion then .error .protobuf
          else if v = version then .ok ((), rest)
          else .error (.unknownVersion v)
      else .error .badMagic := by
  have hget : (get : Reader (List UInt8)) bs = .ok (bs, bs) := rfl
  rw [readHeader, bind_of_ok hget]
  by_cases hm : bs.take magic.length = magic
  · have hlen : magic.length ≤ bs.length := by
      have := congrArg List.length hm
      rw [List.length_take] at this
      omega
    rw [if_pos hm, if_neg (not_not.2 hm)]
    dsimp only
    rw [bind_of_ok (by rw [readExact_apply, if_pos hlen])]
    cases bs.drop magic.length with
    | nil => exact bind_of_error (by rw [readExact_apply]; rfl)
    | cons v rest =>
      have hv : readExact 1 (v :: rest) = .ok ([v], rest) := by rw [readExact_apply]; rfl
      rw [bind_of_ok hv]
      simp only [ne_eq, ite_not]
      split_ifs <;> rfl
  · rw [if_neg hm, if_pos hm]
    exact bind_of_error rfl

/-! ## When they succeed -/

/-- The bytes `p` are the integer `n`, in any form that is read as it. -/
def IsNumber (p : List UInt8) (n : ℤ) : Prop := VarInt.read? p = some (n, [])

theorem readExact_eq_ok_iff {n : ℕ} {bs x rest : List UInt8} :
    readExact n bs = .ok (x, rest) ↔ bs = x ++ rest ∧ x.length = n := by
  rw [readExact_apply]
  constructor
  · intro h
    split_ifs at h with hn
    rw [Except.ok.injEq, Prod.mk.injEq] at h
    obtain ⟨rfl, rfl⟩ := h
    exact ⟨(List.take_append_drop n bs).symm, List.length_take_of_le hn⟩
  · rintro ⟨rfl, rfl⟩
    rw [if_pos (by simp), List.take_left, List.drop_left]

theorem readCount_eq_ok_iff {bs rest : List UInt8} {n : ℕ} :
    readCount bs = .ok (n, rest) ↔ ∃ p, bs = p ++ rest ∧ IsNumber p n := by
  have hread : readCount bs = .ok (n, rest) ↔ VarInt.read? bs = some ((n : ℤ), rest) := by
    rw [readCount_apply]
    cases VarInt.read? bs with
    | none => simp
    | some r =>
      obtain ⟨v, rest'⟩ := r
      dsimp only
      split_ifs with hv
      · simp only [Option.some.injEq, Prod.mk.injEq, false_iff, not_and]
        omega
      · simp only [Except.ok.injEq, Option.some.injEq, Prod.mk.injEq]
        refine and_congr_left fun _ => ?_
        omega
  rw [hread, VarInt.read?_eq_some_iff]
  rfl

theorem readBytes_eq_ok_iff {bs rest x : List UInt8} :
    readBytes bs = .ok (x, rest) ↔
      ∃ q, bs = q ++ (x ++ rest) ∧ IsNumber q x.length ∧ x.length < lengthBound := by
  rw [readBytes_apply]
  constructor
  · intro h
    cases hc : readCount bs with
    | error e => simp [hc] at h
    | ok r =>
      rw [hc] at h
      dsimp only at h
      split_ifs at h with hn
      obtain ⟨hx, hlen⟩ := readExact_eq_ok_iff.1 h
      obtain ⟨q, hq, hnum⟩ := readCount_eq_ok_iff.1 hc
      exact ⟨q, hx ▸ hq, hlen ▸ hnum, hlen ▸ not_le.1 hn⟩
  · rintro ⟨q, rfl, hnum, hlt⟩
    rw [readCount_eq_ok_iff.2 ⟨q, rfl, hnum⟩]
    dsimp only
    rw [if_neg (not_le.2 hlt)]
    exact readExact_eq_ok_iff.2 ⟨rfl, rfl⟩

theorem readText_eq_ok_iff {bs rest : List UInt8} {s : String} :
    readText bs = .ok (s, rest) ↔ readBytes bs = .ok (Text.encode s, rest) := by
  rw [readText_apply]
  cases readBytes bs with
  | error e => simp
  | ok r =>
    obtain ⟨x, rest'⟩ := r
    dsimp only
    cases hd : Text.decode? x with
    | none =>
      have hx : x ≠ Text.encode s := fun h => by simp [h] at hd
      simp [hx]
    | some s' =>
      obtain rfl := Text.decode?_eq_some_iff.1 hd
      simp [Text.encode_inj]

/-- A token is read field by field. -/
theorem readToken_eq_ok_iff {bs rest : List UInt8} {t : SecurityToken} :
    readToken bs = .ok (t, rest) ↔ ∃ bs₁ bs₂ bs₃,
      readBytes bs = .ok (t.identifier, bs₁) ∧ readBytes bs₁ = .ok (t.password, bs₂) ∧
      readText bs₂ = .ok (t.kind, bs₃) ∧ readText bs₃ = .ok (t.service, rest) := by
  constructor
  · intro h
    obtain ⟨identifier, bs₁, h₁, h⟩ := bind_apply_eq_ok_iff.1 h
    obtain ⟨password, bs₂, h₂, h⟩ := bind_apply_eq_ok_iff.1 h
    obtain ⟨kind, bs₃, h₃, h⟩ := bind_apply_eq_ok_iff.1 h
    obtain ⟨service, bs₄, h₄, h⟩ := bind_apply_eq_ok_iff.1 h
    obtain ⟨rfl, rfl⟩ := Prod.mk.inj (Except.ok.inj h)
    exact ⟨bs₁, bs₂, bs₃, h₁, h₂, h₃, h₄⟩
  · rintro ⟨bs₁, bs₂, bs₃, h₁, h₂, h₃, h₄⟩
    rw [readToken, bind_of_ok h₁, bind_of_ok h₂, bind_of_ok h₃, bind_of_ok h₄]
    rfl

theorem readHeader_eq_ok_iff {bs rest : List UInt8} {u : Unit} :
    readHeader bs = .ok (u, rest) ↔ bs = magic ++ [version] ++ rest := by
  constructor
  · intro h
    rw [readHeader_apply] at h
    split_ifs at h with hm
    rw [← List.take_append_drop magic.length bs, hm, List.append_assoc]
    congr 1
    cases hd : bs.drop magic.length with
    | nil => simp [hd] at h
    | cons v more =>
      rw [hd] at h
      dsimp only at h
      split_ifs at h with hp hv
      obtain rfl : more = rest := by simpa using h
      rw [hv, List.singleton_append]
  · rintro rfl
    rw [readHeader_apply, List.append_assoc, List.take_left, List.drop_left, if_pos rfl]
    rfl

/-! ## Entries -/

/-- The bytes `bs` start with the entries `es`, and `rest` follows them. -/
inductive EntriesRead (value : Reader α) :
    List (String × α) → List UInt8 → List UInt8 → Prop
  | nil {bs : List UInt8} : EntriesRead value [] bs bs
  | cons {name : String} {v : α} {es : List (String × α)} {bs bs₁ bs₂ rest : List UInt8} :
      readText bs = .ok (name, bs₁) → value bs₁ = .ok (v, bs₂) → EntriesRead value es bs₂ rest →
      EntriesRead value ((name, v) :: es) bs rest

/-- Entries are read one after the other and inserted in their order. -/
theorem readEntries_eq_ok_iff {value : Reader α} {n : ℕ} {m m' : OrderedMap String α}
    {bs rest : List UInt8} :
    readEntries value n m bs = .ok (m', rest) ↔
      ∃ es, es.length = n ∧ m' = m.insertMany es ∧ EntriesRead value es bs rest := by
  induction n generalizing m bs with
  | zero =>
    constructor
    · intro h
      obtain ⟨rfl, rfl⟩ : m = m' ∧ bs = rest := Prod.mk.inj (Except.ok.inj h)
      exact ⟨[], rfl, rfl, .nil⟩
    · rintro ⟨es, hlen, rfl, hes⟩
      obtain rfl := List.length_eq_zero_iff.1 hlen
      cases hes
      rfl
  | succ n ih =>
    rw [readEntries, bind_apply_eq_ok_iff]
    constructor
    · rintro ⟨name, bs₁, hname, h⟩
      obtain ⟨v, bs₂, hv, h⟩ := bind_apply_eq_ok_iff.1 h
      obtain ⟨es, hlen, hm, hes⟩ := ih.1 h
      exact ⟨(name, v) :: es, by rw [List.length_cons, hlen], hm, .cons hname hv hes⟩
    · rintro ⟨es, hlen, hm, hes⟩
      cases hes with
      | nil => cases hlen
      | @cons name v es _ bs₁ bs₂ _ hname hv hes =>
        refine ⟨name, bs₁, hname, bind_apply_eq_ok_iff.2 ⟨v, bs₂, hv, ?_⟩⟩
        exact ih.2 ⟨es, Nat.succ.inj hlen, hm, hes⟩

/-! ## The whole -/

/-- The next map, after its number of entries. -/
def readMap (value : Reader α) : Reader (OrderedMap String α) :=
  readCount >>= fun n => readEntries value n .empty

theorem readCredentials_eq :
    readCredentials = readHeader >>= fun _ => readMap readToken >>= fun tokens =>
      readMap readBytes >>= fun secretKeys => pure ⟨tokens, secretKeys⟩ := by
  simp only [readCredentials, readMap, bind_assoc]

/-- Credentials are read as a map of tokens and a map of secret keys after the header. -/
theorem readCredentials_eq_ok_iff {bs rest : List UInt8} {c : Credentials} :
    readCredentials bs = .ok (c, rest) ↔ ∃ mid₁ mid₂, bs = magic ++ [version] ++ mid₁ ∧
      readMap readToken mid₁ = .ok (c.tokens, mid₂) ∧
      readMap readBytes mid₂ = .ok (c.secretKeys, rest) := by
  rw [readCredentials_eq]
  constructor
  · intro h
    obtain ⟨⟨⟩, mid₁, hheader, h⟩ := bind_apply_eq_ok_iff.1 h
    obtain ⟨tokens, mid₂, htokens, h⟩ := bind_apply_eq_ok_iff.1 h
    obtain ⟨secretKeys, mid₃, hsecrets, h⟩ := bind_apply_eq_ok_iff.1 h
    obtain ⟨rfl, rfl⟩ := Prod.mk.inj (Except.ok.inj h)
    exact ⟨mid₁, mid₂, readHeader_eq_ok_iff.1 hheader, htokens, hsecrets⟩
  · rintro ⟨mid₁, mid₂, hbs, htokens, hsecrets⟩
    rw [bind_of_ok (readHeader_eq_ok_iff (u := ()).2 hbs), bind_of_ok htokens, bind_of_ok hsecrets]
    rfl

end StorageHandler.TokenStorage
