import StorageHandler.Proofs.OrderedMap
import StorageHandler.Proofs.Token.Reader

/-!
# Token storage is read back

A reader takes bytes for a value if it reads the value off them and leaves whatever follows alone
(`Takes`). Taking composes (`Takes.bind`), so the layout of the storage is taken part by part : a
byte string, a text, a token, the entries by induction on their list, then the whole
(`readCredentials_write_append`).
-/

namespace StorageHandler.TokenStorage

variable {α β : Type}

/-! ## Taking bytes for a value -/

/-- `r` reads `a` off the bytes `p` and leaves what follows them. -/
def Takes (r : Reader α) (p : List UInt8) (a : α) : Prop :=
  ∀ rest, r (p ++ rest) = .ok (a, rest)

theorem takes_pure (a : α) : Takes (pure a) [] a := fun _ => rfl

theorem Takes.bind {r : Reader α} {f : α → Reader β} {p q : List UInt8} {a : α} {b : β}
    (hr : Takes r p a) (hf : Takes (f a) q b) : Takes (r >>= f) (p ++ q) b := by
  intro rest
  rw [List.append_assoc, bind_of_ok (hr _), hf]

/-! ## Fields -/

/-- A byte string whose length can be asked for. -/
def Fits (x : List UInt8) : Prop := x.length < lengthBound

instance (x : List UInt8) : Decidable (Fits x) :=
  inferInstanceAs (Decidable (x.length < lengthBound))

theorem isNumber_write {n : ℕ} (h : n < 2 ^ 64) : IsNumber (VarInt.write n) n := by
  have hr : VarInt.InRange n := ⟨by omega, by omega⟩
  simpa [IsNumber] using VarInt.read?_write_append hr []

theorem takes_readCount {n : ℕ} (h : n < 2 ^ 64) : Takes readCount (VarInt.write n) n :=
  fun _ => readCount_eq_ok_iff.2 ⟨_, rfl, isNumber_write h⟩

theorem takes_readBytes {x : List UInt8} (h : Fits x) : Takes readBytes (writeBytes x) x := by
  intro rest
  have hlt : x.length < 2 ^ 63 := h
  have hnum : IsNumber (VarInt.write x.length) x.length := isNumber_write (by omega)
  exact readBytes_eq_ok_iff.2 ⟨_, List.append_assoc .., hnum, h⟩

theorem takes_readText {s : String} (h : Fits (Text.encode s)) :
    Takes readText (writeText s) s :=
  fun rest => readText_eq_ok_iff.2 (takes_readBytes h rest)

/-! ## Entries -/

/-- A token whose fields can be asked for. -/
structure TokenFits (t : SecurityToken) : Prop where
  identifier : Fits t.identifier
  password : Fits t.password
  kind : Fits (Text.encode t.kind)
  service : Fits (Text.encode t.service)

instance (t : SecurityToken) : Decidable (TokenFits t) :=
  decidable_of_iff (Fits t.identifier ∧ Fits t.password ∧ Fits (Text.encode t.kind) ∧
      Fits (Text.encode t.service))
    ⟨fun ⟨hi, hp, hk, hs⟩ => ⟨hi, hp, hk, hs⟩, fun ⟨hi, hp, hk, hs⟩ => ⟨hi, hp, hk, hs⟩⟩

theorem takes_readToken {t : SecurityToken} (h : TokenFits t) :
    Takes readToken (writeToken t) t := by
  have hw : writeToken t = writeBytes t.identifier ++ (writeBytes t.password ++
      (writeText t.kind ++ (writeText t.service ++ []))) := by simp [writeToken]
  rw [hw]
  exact (takes_readBytes h.identifier).bind <| (takes_readBytes h.password).bind <|
    (takes_readText h.kind).bind <| (takes_readText h.service).bind <| takes_pure _

/-- The entries of a list are taken one after the other, each under its name. -/
theorem takes_readEntries {value : Reader α} {w : α → List UInt8} (es : List (String × α))
    (h : ∀ e ∈ es, Fits (Text.encode e.1) ∧ Takes value (w e.2) e.2) (m : OrderedMap String α) :
    Takes (readEntries value es.length m) (es.flatMap fun e => writeText e.1 ++ w e.2)
      (m.insertMany es) := by
  induction es generalizing m with
  | nil => exact takes_pure m
  | cons e es ih =>
    obtain ⟨hname, hvalue⟩ := h e (List.mem_cons_self ..)
    have hrest := ih (fun e' he' => h e' (List.mem_cons_of_mem _ he')) (m.insert e.1 e.2)
    rw [List.flatMap_cons, List.append_assoc]
    exact (takes_readText hname).bind (hvalue.bind hrest)

/-- A map is taken after its number of entries. -/
theorem takes_readMap {value : Reader α} {w : α → List UInt8} {m : OrderedMap String α}
    (hsize : m.size < 2 ^ 64)
    (h : ∀ e ∈ m.entries, Fits (Text.encode e.1) ∧ Takes value (w e.2) e.2) :
    Takes (readMap value) (writeEntries w m) m := by
  have hm := takes_readEntries m.entries h .empty
  rw [show OrderedMap.empty.insertMany m.entries = m from m.ofList_entries] at hm
  exact (takes_readCount hsize).bind hm

/-! ## The whole -/

theorem takes_readHeader : Takes readHeader (magic ++ [version]) () :=
  fun _ => readHeader_eq_ok_iff.2 rfl

/-- Credentials that can be stored : numbers of entries of at most eight bytes, and fields whose
lengths can be asked for. -/
structure Storable (c : Credentials) : Prop where
  tokenCount : c.tokens.size < 2 ^ 64
  secretCount : c.secretKeys.size < 2 ^ 64
  tokens : ∀ e ∈ c.tokens.entries, Fits (Text.encode e.1) ∧ TokenFits e.2
  secrets : ∀ e ∈ c.secretKeys.entries, Fits (Text.encode e.1) ∧ Fits e.2

theorem takes_readCredentials {c : Credentials} (h : Storable c) :
    Takes readCredentials (write c) c := by
  have htokens : Takes (readMap readToken) (writeEntries writeToken c.tokens) c.tokens :=
    takes_readMap h.tokenCount fun e he => ⟨(h.tokens e he).1, takes_readToken (h.tokens e he).2⟩
  have hsecrets : Takes (readMap readBytes) (writeEntries writeBytes c.secretKeys) c.secretKeys :=
    takes_readMap h.secretCount fun e he => ⟨(h.secrets e he).1, takes_readBytes (h.secrets e he).2⟩
  have hw : write c = (magic ++ [version]) ++ (writeEntries writeToken c.tokens ++
      (writeEntries writeBytes c.secretKeys ++ [])) := by simp [write]
  rw [hw, readCredentials_eq]
  exact takes_readHeader.bind <| htokens.bind <| hsecrets.bind <| takes_pure _

/-- Credentials are read back from what is written for them, with their entries in order. Whatever
follows is left over and does not matter. -/
theorem readCredentials_write_append {c : Credentials} (h : Storable c) (extra : List UInt8) :
    readCredentials (write c ++ extra) = .ok (c, extra) ∧ read (write c ++ extra) = .ok c := by
  have hc := takes_readCredentials h extra
  exact ⟨hc, by rw [read, hc]; rfl⟩

/-- Two tokens, whose aliases are not in alphabetical order, with fields at the lengths where the
encoding of an integer gets longer, and a secret key. -/
def twoClusters : Credentials where
  tokens := .ofList
    [("kudu-y", ⟨List.replicate 127 0, List.replicate 128 255, "kudu-authn-data", "y:7051"⟩),
      ("kudu-x", ⟨List.replicate 256 1, [], "kudu-authn-data", "é:7051"⟩)]
  secretKeys := .ofList [("s3.secret", [104, 117, 115, 104])]

theorem readCredentials_write_twoClusters :
    Storable twoClusters ∧ readCredentials (write twoClusters ++ [7]) = .ok (twoClusters, [7]) ∧
      read (write twoClusters ++ [7]) = .ok twoClusters := by
  have h : Storable twoClusters := ⟨by decide, by decide, by decide +kernel, by decide⟩
  exact ⟨h, readCredentials_write_append h [7]⟩

end StorageHandler.TokenStorage
