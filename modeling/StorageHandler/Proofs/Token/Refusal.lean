import StorageHandler.Proofs.Token.Layout

/-!
# What refused storage fails with

Refused bytes are a failure of the library, with one exception : where the length of a field is due
stands a number that no memory holds. That place is said by the layout alone (`LengthDue`), and the
failure arises exactly there (`read_eq_oversized_iff`). `credentialFormat_iff` says when every
refusal is the library's own.
-/

namespace StorageHandler.TokenStorage

variable {α : Type}

/-! ## Numbers that are too large -/

/-- The bytes start with a number that no memory holds that many bytes of. -/
def StartsOversized (n : ℕ) (bs : List UInt8) : Prop :=
  ∃ q more, bs = q ++ more ∧ IsNumber q n ∧ lengthBound ≤ n

theorem startsOversized_iff {n : ℕ} {bs : List UInt8} :
    StartsOversized n bs ↔ ∃ more, readCount bs = .ok (n, more) ∧ lengthBound ≤ n := by
  simp only [StartsOversized, readCount_eq_ok_iff]
  constructor
  · rintro ⟨q, more, hbs, hnum, hle⟩
    exact ⟨more, ⟨q, hbs, hnum⟩, hle⟩
  · rintro ⟨more, ⟨q, hbs, hnum⟩, hle⟩
    exact ⟨q, more, hbs, hnum, hle⟩

theorem readCount_ne_oversized (n : ℕ) (bs : List UInt8) :
    readCount bs ≠ .error (.oversized n) := by
  rw [readCount_apply]
  cases VarInt.read? bs with
  | none => simp
  | some r =>
    dsimp only
    split_ifs <;> simp

theorem readExact_ne_oversized (k n : ℕ) (bs : List UInt8) :
    readExact k bs ≠ .error (.oversized n) := by
  rw [readExact_apply]
  split_ifs <;> simp

theorem readBytes_eq_oversized_iff {n : ℕ} {bs : List UInt8} :
    readBytes bs = .error (.oversized n) ↔ StartsOversized n bs := by
  rw [readBytes_apply, startsOversized_iff]
  cases hc : readCount bs with
  | error e =>
    have he : e ≠ .oversized n := fun h => readCount_ne_oversized n bs (h ▸ hc)
    simp [he]
  | ok r =>
    obtain ⟨m, rest⟩ := r
    dsimp only
    split_ifs with hm
    · constructor
      · intro h
        obtain rfl : m = n := by simpa using h
        exact ⟨rest, rfl, hm⟩
      · rintro ⟨more, h, -⟩
        obtain ⟨rfl, -⟩ : m = n ∧ rest = more := by simpa using h
        rfl
    · constructor
      · exact fun h => absurd h (readExact_ne_oversized m n rest)
      · rintro ⟨more, h, hn⟩
        obtain ⟨rfl, -⟩ : m = n ∧ rest = more := by simpa using h
        exact absurd hn hm

theorem left_eq_error_iff {r : Reader α} {bs : List UInt8} {e : StorageError} :
    left r bs = .error e ↔ r bs = .error e := by
  rw [left]
  cases r bs <;> simp [Except.map]

/-- A field of either kind refuses its length in the same way. -/
theorem skipField_eq_oversized_iff {k : FieldKind} {n : ℕ} {bs : List UInt8} :
    skipField k bs = .error (.oversized n) ↔ StartsOversized n bs := by
  cases k with
  | bytes => rw [skipField, left_eq_error_iff, readBytes_eq_oversized_iff]
  | text =>
    rw [skipField, left_eq_error_iff, readText_apply, ← readBytes_eq_oversized_iff]
    cases readBytes bs with
    | error e => simp
    | ok r =>
      dsimp only
      cases Text.decode? r.1 <;> simp

/-! ## Where they are met -/

theorem bind_eq_error_iff {β γ : Type} {x : Except StorageError β} {f : β → Except StorageError γ}
    {e : StorageError} :
    x.bind f = .error e ↔ x = .error e ∨ ∃ b, x = .ok b ∧ f b = .error e := by
  cases x <;> simp [Except.bind]

theorem bind_eq_ok_iff {β γ : Type} {x : Except StorageError β} {f : β → Except StorageError γ}
    {c : γ} : x.bind f = .ok c ↔ ∃ b, x = .ok b ∧ f b = .ok c := by
  cases x <;> simp [Except.bind]

/-- Among fields, a number is too large after the fields before it. -/
theorem skipFields_eq_oversized_iff {ks : List FieldKind} {n : ℕ} {bs : List UInt8} :
    skipFields ks bs = .error (.oversized n) ↔
      ∃ done k more p rest, ks = done ++ k :: more ∧ bs = p ++ rest ∧ Fields done p ∧
        StartsOversized n rest := by
  induction ks generalizing bs with
  | nil => simp [skipFields]
  | cons k ks ih =>
    rw [skipFields, bind_eq_error_iff, skipField_eq_oversized_iff]
    constructor
    · rintro (h | ⟨mid, hk, h⟩)
      · exact ⟨[], k, ks, [], bs, rfl, rfl, .nil, h⟩
      · obtain ⟨p, rfl, hp⟩ := skipField_eq_ok_iff.1 hk
        obtain ⟨done, k', more, q, rest, rfl, rfl, hq, hn⟩ := ih.1 h
        exact ⟨k :: done, k', more, p ++ q, rest, rfl, (List.append_assoc p q rest).symm,
          .cons hp hq, hn⟩
    · rintro ⟨done, k', more, p, rest, hks, rfl, hp, hn⟩
      cases hp with
      | nil => exact .inl hn
      | @cons k₁ done p q hp hq =>
        obtain ⟨rfl, rfl⟩ : k = k₁ ∧ ks = done ++ k' :: more := by simpa using hks
        exact .inr ⟨q ++ rest, skipField_eq_ok_iff.2 ⟨p, List.append_assoc p q rest, hp⟩,
          ih.2 ⟨done, k', more, q, rest, rfl, rfl, hq, hn⟩⟩

/-- The bytes `p` are a number and that many entries. -/
def IsSection (entry : List FieldKind) (p : List UInt8) : Prop :=
  ∃ (m : ℕ) (q r : List UInt8), p = q ++ r ∧ IsNumber q m ∧ Fields (entryFields entry m) r

/-- The bytes `p` are the start of a section up to where the length of one of its fields is due. -/
def SectionDue (entry : List FieldKind) (p : List UInt8) : Prop :=
  ∃ (m : ℕ) (q r : List UInt8) (done : List FieldKind) (k : FieldKind) (more : List FieldKind),
    p = q ++ r ∧ IsNumber q m ∧ entryFields entry m = done ++ k :: more ∧ Fields done r

theorem left_readMap_eq_ok_iff {value : Reader α} {ks : List FieldKind}
    (h : ∀ bs, left value bs = skipFields ks bs) {bs rest : List UInt8} :
    left (readMap value) bs = .ok rest ↔ ∃ p, bs = p ++ rest ∧ IsSection (.text :: ks) p := by
  rw [left_readMap h, bind_eq_ok_iff]
  constructor
  · rintro ⟨⟨m, mid⟩, hm, hr⟩
    obtain ⟨q, rfl, hq⟩ := readCount_eq_ok_iff.1 hm
    obtain ⟨r, rfl, hr⟩ := skipFields_eq_ok_iff.1 hr
    exact ⟨q ++ r, (List.append_assoc q r rest).symm, m, q, r, rfl, hq, hr⟩
  · rintro ⟨_, rfl, m, q, r, rfl, hq, hr⟩
    exact ⟨(m, r ++ rest), readCount_eq_ok_iff.2 ⟨q, List.append_assoc q r rest, hq⟩,
      skipFields_eq_ok_iff.2 ⟨r, rfl, hr⟩⟩

theorem left_readMap_eq_oversized_iff {value : Reader α} {ks : List FieldKind}
    (h : ∀ bs, left value bs = skipFields ks bs) {bs : List UInt8} {n : ℕ} :
    left (readMap value) bs = .error (.oversized n) ↔
      ∃ p rest, bs = p ++ rest ∧ SectionDue (.text :: ks) p ∧ StartsOversized n rest := by
  rw [left_readMap h, bind_eq_error_iff, or_iff_right (readCount_ne_oversized n bs)]
  constructor
  · rintro ⟨⟨m, mid⟩, hm, hr⟩
    obtain ⟨q, rfl, hq⟩ := readCount_eq_ok_iff.1 hm
    obtain ⟨done, k, more, r, rest, hks, rfl, hr, hn⟩ := skipFields_eq_oversized_iff.1 hr
    exact ⟨q ++ r, rest, (List.append_assoc q r rest).symm,
      ⟨m, q, r, done, k, more, rfl, hq, hks, hr⟩, hn⟩
  · rintro ⟨_, rest, rfl, ⟨m, q, r, done, k, more, rfl, hq, hks, hr⟩, hn⟩
    exact ⟨(m, r ++ rest), readCount_eq_ok_iff.2 ⟨q, List.append_assoc q r rest, hq⟩,
      skipFields_eq_oversized_iff.2 ⟨done, k, more, r, rest, hks, rfl, hr, hn⟩⟩

/-! ## The whole -/

theorem readHeader_ne_oversized (n : ℕ) (bs : List UInt8) :
    readHeader bs ≠ .error (.oversized n) := by
  rw [readHeader_apply]
  split_ifs
  · cases bs.drop magic.length with
    | nil => simp
    | cons v more =>
      dsimp only
      split_ifs <;> simp
  · simp

theorem left_readCredentials (bs : List UInt8) :
    left readCredentials bs = (left readHeader bs).bind fun b =>
      (left (readMap readToken) b).bind (left (readMap readBytes)) := by
  rw [readCredentials_eq]
  refine left_bind (fun _ => left_bind fun tokens b => ?_) bs
  rw [left_bind (g := .ok) fun _ _ => rfl]
  cases left (readMap readBytes) b <;> rfl

/-- The beginnings after which the storage goes on with the length of a field. -/
inductive LengthDue : List UInt8 → Prop
  | token {p : List UInt8} : SectionDue tokenFields p → LengthDue (magic ++ [version] ++ p)
  | secret {p q : List UInt8} : IsSection tokenFields p → SectionDue secretFields q →
      LengthDue (magic ++ [version] ++ (p ++ q))

/-- Where the length of a field is due stands a number that no memory holds. -/
def Oversized (n : ℕ) (bs : List UInt8) : Prop :=
  ∃ p rest, bs = p ++ rest ∧ LengthDue p ∧ StartsOversized n rest

theorem read_eq_error_iff {bs : List UInt8} {e : StorageError} :
    read bs = .error e ↔ left readCredentials bs = .error e := by
  rw [read, left]
  cases readCredentials bs <;> simp [Except.map]

theorem read_eq_oversized_iff {n : ℕ} {bs : List UInt8} :
    read bs = .error (.oversized n) ↔ Oversized n bs := by
  have htoken : ∀ bs, left readToken bs = skipFields [.bytes, .bytes, .text, .text] bs :=
    left_readToken
  have hsecret : ∀ bs, left readBytes bs = skipFields [.bytes] bs := by
    intro bs
    rw [skipFields, skipField]
    cases left readBytes bs <;> rfl
  rw [read_eq_error_iff, left_readCredentials]
  simp only [bind_eq_error_iff, left_eq_error_iff (r := readHeader),
    left_eq_ok_iff (r := readHeader), readHeader_eq_ok_iff, readHeader_ne_oversized,
    left_readMap_eq_ok_iff htoken, left_readMap_eq_oversized_iff htoken,
    left_readMap_eq_oversized_iff hsecret, false_or]
  constructor
  · rintro ⟨_, ⟨-, rfl⟩, ⟨p, rest, rfl, hp, hn⟩ | ⟨_, ⟨p, rfl, hp⟩, q, rest, rfl, hq, hn⟩⟩
    · exact ⟨magic ++ [version] ++ p, rest, by simp, .token hp, hn⟩
    · exact ⟨magic ++ [version] ++ (p ++ q), rest, by simp, .secret hp hq, hn⟩
  · rintro ⟨_, rest, rfl, hdue, hn⟩
    cases hdue with
    | @token p hp => exact ⟨p ++ rest, ⟨(), by simp⟩, .inl ⟨p, rest, rfl, hp, hn⟩⟩
    | @secret p q hp hq =>
      exact ⟨p ++ (q ++ rest), ⟨(), by simp⟩, .inr ⟨q ++ rest, ⟨p, rfl, hp⟩, q, rest, rfl, hq, hn⟩⟩

theorem kind_eq_credentialFormat_iff (e : StorageError) :
    e.kind = .credentialFormat ↔ ∀ n, e ≠ .oversized n := by
  cases e <;> simp [StorageError.kind]

/-- Bytes give credentials or fail as the library's own failure, unless a number that no memory
holds stands where the length of a field is due ; then the failure is not the library's own. -/
theorem read_fails_closed_iff (bs : List UInt8) :
    (((∃ c, read bs = .ok c) ∨ ∃ e, read bs = .error e ∧ e.kind = .credentialFormat) ↔
      ∀ n, ¬Oversized n bs) ∧
    ∀ n, Oversized n bs →
      ∃ e, read bs = .error e ∧ e.kind = .overflow ∧ e.kind.isOwn = false := by
  refine ⟨⟨fun h n hn => ?_, fun h => ?_⟩, fun n hn => ?_⟩
  · have hread := read_eq_oversized_iff.2 hn
    rcases h with ⟨c, hc⟩ | ⟨e, he, hk⟩
    · simp [hread] at hc
    · obtain rfl : StorageError.oversized n = e := by simpa [hread] using he
      exact (kind_eq_credentialFormat_iff _).1 hk n rfl
  · cases hread : read bs with
    | ok c => exact .inl ⟨c, rfl⟩
    | error e =>
      refine .inr ⟨e, rfl, (kind_eq_credentialFormat_iff e).2 fun n hn => ?_⟩
      exact h n (read_eq_oversized_iff.1 (hn ▸ hread))
  · exact ⟨.oversized n, read_eq_oversized_iff.2 hn, rfl, rfl⟩

/-- One token is announced, and its alias with `2 ^ 63` bytes, none of which follow. -/
def hugeAlias : List UInt8 := magic ++ [version, 1, 0x88, 0x80, 0, 0, 0, 0, 0, 0, 0]

theorem hugeAlias_not_fails_closed :
    read hugeAlias = .error (.oversized (2 ^ 63)) ∧
      ¬((∃ c, read hugeAlias = .ok c) ∨
        ∃ e, read hugeAlias = .error e ∧ e.kind = .credentialFormat) := by
  have h : read hugeAlias = .error (.oversized (2 ^ 63)) := by rfl
  refine ⟨h, ?_⟩
  simp [h, StorageError.kind]

end StorageHandler.TokenStorage
