import StorageHandler.Proofs.Token.Reader

/-!
# The layout of token storage

After its header the storage is a sequence of fields in two sections, each after its number of
entries. Which bytes are a field is said without the readers (`IsField`, `Fields`), and a reader is
seen as what it leaves of the bytes (`left`) : a token leaves what its fields leave
(`left_readToken`), and so do entries (`left_readEntries`) and maps (`left_readMap`).
-/

namespace StorageHandler.TokenStorage

variable {α β : Type}

/-! ## Fields -/

/-- What a field holds. -/
inductive FieldKind where
  | bytes | text

/-- The bytes `p` are a field : a length below the bound and as many bytes, which encode a text in
the field of one. -/
def IsField (k : FieldKind) (p : List UInt8) : Prop :=
  ∃ q x, p = q ++ x ∧ IsNumber q x.length ∧ x.length < lengthBound ∧
    (k = .text → ∃ s, x = Text.encode s)

/-- The bytes are fields of these kinds, one after the other. -/
inductive Fields : List FieldKind → List UInt8 → Prop
  | nil : Fields [] []
  | cons {k : FieldKind} {ks : List FieldKind} {p q : List UInt8} :
      IsField k p → Fields ks q → Fields (k :: ks) (p ++ q)

/-- The fields of `n` entries, each of which has those of `entry`. -/
def entryFields (entry : List FieldKind) (n : ℕ) : List FieldKind :=
  (List.replicate n entry).flatten

theorem entryFields_succ (entry : List FieldKind) (n : ℕ) :
    entryFields entry (n + 1) = entry ++ entryFields entry n := by
  rw [entryFields, List.replicate_succ, List.flatten_cons]
  rfl

/-- The fields of a token under its alias. -/
def tokenFields : List FieldKind := [.text, .bytes, .bytes, .text, .text]

/-- The fields of a secret key under its alias. -/
def secretFields : List FieldKind := [.text, .bytes]

/-! ## What a reader leaves -/

/-- What a reader leaves of the bytes, without the value that it reads. -/
def left (r : Reader α) (bs : List UInt8) : Except StorageError (List UInt8) :=
  (r bs).map Prod.snd

/-- If what comes next does not depend on the value, it goes on with what is left. -/
theorem left_bind {r : Reader α} {f : α → Reader β}
    {g : List UInt8 → Except StorageError (List UInt8)} (h : ∀ a rest, left (f a) rest = g rest)
    (bs : List UInt8) : left (r >>= f) bs = (left r bs).bind g := by
  cases hr : r bs with
  | error e => rw [left, bind_of_error hr, left, hr]; rfl
  | ok x =>
    have hf : left (r >>= f) bs = left (f x.1) x.2 := by rw [left, bind_of_ok hr]; rfl
    rw [hf, h, left, hr]
    rfl

/-- What a field leaves. -/
def skipField : FieldKind → List UInt8 → Except StorageError (List UInt8)
  | .bytes => left readBytes
  | .text => left readText

/-- What fields leave, one after the other. -/
def skipFields : List FieldKind → List UInt8 → Except StorageError (List UInt8)
  | [], bs => .ok bs
  | k :: ks, bs => (skipField k bs).bind (skipFields ks)

theorem skipFields_append (ks ls : List FieldKind) (bs : List UInt8) :
    skipFields (ks ++ ls) bs = (skipFields ks bs).bind (skipFields ls) := by
  induction ks generalizing bs with
  | nil => rfl
  | cons k ks ih =>
    rw [List.cons_append, skipFields, skipFields]
    cases skipField k bs with
    | error e => rfl
    | ok rest => exact ih rest

/-- A field, then fields. -/
theorem left_bind_fields {r : Reader α} {f : α → Reader β} {k : FieldKind} {ks : List FieldKind}
    (hr : ∀ bs, left r bs = skipField k bs) (hf : ∀ a rest, left (f a) rest = skipFields ks rest)
    (bs : List UInt8) : left (r >>= f) bs = skipFields (k :: ks) bs := by
  rw [left_bind hf, hr]
  rfl

theorem left_readToken (bs : List UInt8) :
    left readToken bs = skipFields [.bytes, .bytes, .text, .text] bs := by
  refine left_bind_fields (fun _ => rfl) (fun identifier => ?_) bs
  refine left_bind_fields (fun _ => rfl) (fun password => ?_)
  refine left_bind_fields (fun _ => rfl) (fun kind => ?_)
  exact left_bind_fields (fun _ => rfl) (fun service _ => rfl)

theorem left_readEntries {value : Reader α} {ks : List FieldKind}
    (h : ∀ bs, left value bs = skipFields ks bs) (n : ℕ) (m : OrderedMap String α)
    (bs : List UInt8) :
    left (readEntries value n m) bs = skipFields (entryFields (.text :: ks) n) bs := by
  induction n generalizing m bs with
  | zero => rfl
  | succ n ih =>
    rw [entryFields_succ, List.cons_append]
    refine left_bind_fields (fun _ => rfl) (fun name rest => ?_) bs
    rw [left_bind (fun v => ih (m.insert name v)), h, skipFields_append]

theorem left_readMap {value : Reader α} {ks : List FieldKind}
    (h : ∀ bs, left value bs = skipFields ks bs) (bs : List UInt8) :
    left (readMap value) bs = (readCount bs).bind fun r =>
      skipFields (entryFields (.text :: ks) r.1) r.2 := by
  cases hc : readCount bs with
  | error e => rw [left, readMap, bind_of_error hc]; rfl
  | ok r => 
    rw [left, readMap, bind_of_ok hc]
    exact left_readEntries h r.1 .empty r.2

/-! ## Fields are what is read -/

theorem left_eq_ok_iff {r : Reader α} {bs rest : List UInt8} :
    left r bs = .ok rest ↔ ∃ a, r bs = .ok (a, rest) := by
  rw [left]
  cases r bs with
  | error e => simp [Except.map]
  | ok x =>
    obtain ⟨a, rest'⟩ := x
    simp [Except.map]

theorem skipField_eq_ok_iff {k : FieldKind} {bs rest : List UInt8} :
    skipField k bs = .ok rest ↔ ∃ p, bs = p ++ rest ∧ IsField k p := by
  have hread : skipField k bs = .ok rest ↔
      ∃ x, readBytes bs = .ok (x, rest) ∧ (k = .text → ∃ s, x = Text.encode s) := by
    cases k with
    | bytes => simp [skipField, left_eq_ok_iff]
    | text =>
      rw [skipField, left_eq_ok_iff]
      constructor
      · rintro ⟨s, h⟩
        exact ⟨Text.encode s, readText_eq_ok_iff.1 h, fun _ => ⟨s, rfl⟩⟩
      · rintro ⟨x, h, hx⟩
        obtain ⟨s, rfl⟩ := hx rfl
        exact ⟨s, readText_eq_ok_iff.2 h⟩
  rw [hread]
  constructor
  · rintro ⟨x, h, hx⟩
    obtain ⟨q, rfl, hnum, hlt⟩ := readBytes_eq_ok_iff.1 h
    exact ⟨q ++ x, (List.append_assoc q x rest).symm, q, x, rfl, hnum, hlt, hx⟩
  · rintro ⟨_, rfl, q, x, rfl, hnum, hlt, hx⟩
    exact ⟨x, readBytes_eq_ok_iff.2 ⟨q, List.append_assoc q x rest, hnum, hlt⟩, hx⟩

theorem skipFields_eq_ok_iff {ks : List FieldKind} {bs rest : List UInt8} :
    skipFields ks bs = .ok rest ↔ ∃ p, bs = p ++ rest ∧ Fields ks p := by
  induction ks generalizing bs with
  | nil =>
    constructor
    · intro h
      obtain rfl : bs = rest := Except.ok.inj h
      exact ⟨[], rfl, .nil⟩
    · rintro ⟨_, rfl, ⟨⟩⟩
      rfl
  | cons k ks ih =>
    rw [skipFields]
    constructor
    · intro h
      cases hk : skipField k bs with
      | error e => rw [hk] at h; contradiction
      | ok mid =>
        rw [hk] at h
        obtain ⟨p, rfl, hp⟩ := skipField_eq_ok_iff.1 hk
        obtain ⟨q, rfl, hq⟩ := ih.1 h
        exact ⟨p ++ q, (List.append_assoc p q rest).symm, .cons hp hq⟩
    · rintro ⟨_, rfl, hf⟩
      cases hf with
      | @cons _ _ p q hp hq =>
        rw [skipField_eq_ok_iff.2 ⟨p, List.append_assoc p q rest, hp⟩]
        exact ih.2 ⟨q, rfl, hq⟩

end StorageHandler.TokenStorage
