import StorageHandler.Proofs.Token.Minimal
import StorageHandler.Proofs.Token.Truncation

/-!
# Canonical storage

Storage can be longer than it has to be : its numbers can be written in more bytes than they need,
an alias can stand in it more than once, and anything can follow it. Writing what was read leaves
all that out. A writer condenses a reader if it writes whatever was read in the same bytes or in
fewer (`Condensed`) ; that holds of every part of the storage, of its maps because an entry that was
overwritten only drops bytes (`writeEntries_ofList_condenses`). So of all storage with the same
credentials, what is written for them is the shortest (`write_read_canonical`).
-/

namespace StorageHandler.TokenStorage

variable {α : Type}

/-- What `r` reads satisfies `P`, and `w` writes it in the bytes that it was read off, or in
fewer. -/
def Condensed (P : α → Prop) (w : α → List UInt8) (r : Reader α) : Prop :=
  ∀ bs rest a, r bs = .ok (a, rest) → P a ∧ ∃ p, bs = p ++ rest ∧ Condenses (w a) p

/-! ## Fields -/

theorem condensed_readCount : Condensed (· < 2 ^ 64) (fun n : ℕ => VarInt.write n) readCount := by
  intro bs rest n h
  obtain ⟨p, rfl, hnum⟩ := readCount_eq_ok_iff.1 h
  have hrange := VarInt.inRange_of_read? hnum
  exact ⟨by exact_mod_cast hrange.2, p, rfl, VarInt.write_condenses hnum⟩

theorem condensed_readBytes : Condensed Fits writeBytes readBytes := by
  intro bs rest x h
  obtain ⟨q, rfl, hnum, hlt⟩ := readBytes_eq_ok_iff.1 h
  refine ⟨hlt, q ++ x, (List.append_assoc ..).symm, ?_⟩
  exact (VarInt.write_condenses hnum).append (.refl x)

/-- A text is encoded in the bytes it was decoded from. -/
theorem condensed_readText : Condensed (fun s => Fits (Text.encode s)) writeText readText :=
  fun bs rest s h => condensed_readBytes bs rest (Text.encode s) (readText_eq_ok_iff.1 h)

theorem condensed_readToken : Condensed TokenFits writeToken readToken := by
  intro bs rest t h
  obtain ⟨bs₁, bs₂, bs₃, hidentifier, hpassword, hkind, hservice⟩ := readToken_eq_ok_iff.1 h
  obtain ⟨fits₁, p₁, rfl, hp₁⟩ := condensed_readBytes _ _ _ hidentifier
  obtain ⟨fits₂, p₂, rfl, hp₂⟩ := condensed_readBytes _ _ _ hpassword
  obtain ⟨fits₃, p₃, rfl, hp₃⟩ := condensed_readText _ _ _ hkind
  obtain ⟨fits₄, p₄, rfl, hp₄⟩ := condensed_readText _ _ _ hservice
  refine ⟨⟨fits₁, fits₂, fits₃, fits₄⟩, p₁ ++ p₂ ++ p₃ ++ p₄, by simp only [List.append_assoc], ?_⟩
  exact ((hp₁.append hp₂).append hp₃).append hp₄

/-! ## Entries -/

/-- The bytes of entries under their aliases, without their number. -/
def writeAll (w : α → List UInt8) (es : List (String × α)) : List UInt8 :=
  es.flatMap fun e => writeText e.1 ++ w e.2

theorem EntriesRead.condensed {P : α → Prop} {w : α → List UInt8} {value : Reader α}
    (h : Condensed P w value) {es : List (String × α)} {bs rest : List UInt8}
    (hes : EntriesRead value es bs rest) :
    (∀ e ∈ es, Fits (Text.encode e.1) ∧ P e.2) ∧
      ∃ p, bs = p ++ rest ∧ Condenses (writeAll w es) p := by
  induction hes with
  | nil => exact ⟨fun e he => absurd he List.not_mem_nil, [], rfl, .refl []⟩
  | cons hname hv _ ih =>
    obtain ⟨hfits, p₁, rfl, hp₁⟩ := condensed_readText _ _ _ hname
    obtain ⟨hP, p₂, rfl, hp₂⟩ := h _ _ _ hv
    obtain ⟨hall, p, rfl, hp⟩ := ih
    refine ⟨List.forall_mem_cons.2 ⟨⟨hfits, hP⟩, hall⟩, p₁ ++ p₂ ++ p, ?_, ?_⟩
    · simp only [List.append_assoc]
    · exact (hp₁.append hp₂).append hp

theorem length_writeText_pos (s : String) : 0 < (writeText s).length := by
  rw [writeText, writeBytes, List.length_append]
  exact Nat.add_pos_left (VarInt.length_write_pos _) _

/-- A map takes no more bytes than the entries that were inserted into it, and as many only if no
alias stands in them twice. -/
theorem writeEntries_ofList_condenses (w : α → List UInt8) {es : List (String × α)}
    (h : es.length < 2 ^ 64) :
    Condenses (writeEntries w (.ofList es)) (VarInt.write es.length ++ writeAll w es) := by
  have hpos : ∀ e : String × α, 0 < (writeText e.1 ++ w e.2).length := by
    intro e
    rw [List.length_append]
    exact Nat.add_pos_left (length_writeText_pos e.1) _
  rcases OrderedMap.length_flatMap_ofList hpos es with heq | hlt
  · left
    rw [writeEntries, OrderedMap.size, heq]
    rfl
  · right
    have hcount := VarInt.length_write_mono (OrderedMap.size_ofList_le es) h
    rw [writeEntries, writeAll, List.length_append, List.length_append]
    omega

/-- A map that can be stored, with values that satisfy `P`. -/
def MapFits (P : α → Prop) (m : OrderedMap String α) : Prop :=
  m.size < 2 ^ 64 ∧ ∀ e ∈ m.entries, Fits (Text.encode e.1) ∧ P e.2

theorem condensed_readMap {P : α → Prop} {w : α → List UInt8} {value : Reader α}
    (h : Condensed P w value) : Condensed (MapFits P) (writeEntries w) (readMap value) := by
  intro bs rest m hm
  obtain ⟨n, mid, hn, hentries⟩ := bind_apply_eq_ok_iff.1 hm
  obtain ⟨hlt, q, rfl, hq⟩ := condensed_readCount _ _ _ hn
  obtain ⟨es, rfl, rfl, hes⟩ := readEntries_eq_ok_iff.1 hentries
  obtain ⟨hfits, p, rfl, hp⟩ := hes.condensed h
  have hsize : (OrderedMap.ofList es).size ≤ es.length := OrderedMap.size_ofList_le es
  refine ⟨⟨hsize.trans_lt hlt, fun e he => hfits e (OrderedMap.mem_of_mem_ofList he)⟩, q ++ p,
    (List.append_assoc ..).symm, ?_⟩
  exact (writeEntries_ofList_condenses w hlt).trans (hq.append hp)

/-! ## The whole -/

theorem condensed_readCredentials : Condensed Storable write readCredentials := by
  intro bs rest c h
  obtain ⟨mid₁, mid₂, rfl, htokens, hsecrets⟩ := readCredentials_eq_ok_iff.1 h
  obtain ⟨fits₁, p₁, rfl, hp₁⟩ := condensed_readMap condensed_readToken _ _ _ htokens
  obtain ⟨fits₂, p₂, rfl, hp₂⟩ := condensed_readMap condensed_readBytes _ _ _ hsecrets
  refine ⟨⟨fits₁.1, fits₂.1, fits₁.2, fits₂.2⟩, magic ++ [version] ++ p₁ ++ p₂, ?_, ?_⟩
  · simp only [List.append_assoc]
  · exact ((Condenses.refl _).append hp₁).append hp₂

theorem write_condenses_of_read {p : List UInt8} {c : Credentials} (h : read p = .ok c) :
    Storable c ∧ Condenses (write c) p := by
  obtain ⟨rest, hrest⟩ := read_eq_ok_iff.1 h
  obtain ⟨hstorable, q, rfl, hq⟩ := condensed_readCredentials _ _ _ hrest
  exact ⟨hstorable, hq.append_right rest⟩

/-- What is written for credentials that were read is read as the same credentials and written in
the same bytes again. It is not longer than what they were read from, and shorter than anything
else that they are read from. -/
theorem write_read_canonical {p : List UInt8} {c : Credentials} (h : read p = .ok c) :
    read (write c) = .ok c ∧ (read (write c)).map write = .ok (write c) ∧
      (write c).length ≤ p.length ∧ ((write c).length = p.length → write c = p) ∧
      ∀ p', read p' = .ok c → p' ≠ write c → (write c).length < p'.length := by
  obtain ⟨hstorable, hcond⟩ := write_condenses_of_read h
  have hread : read (write c) = .ok c := by
    rw [read, ← List.append_nil (write c), takes_readCredentials hstorable []]
    rfl
  refine ⟨hread, by rw [hread]; rfl, hcond.length_le, hcond.eq_of_length_eq, fun p' hp' hne => ?_⟩
  exact (write_condenses_of_read hp').2.resolve_left hne.symm

theorem write_read_looseStorage :
    read looseStorage = .ok looseCredentials ∧
      read (write looseCredentials) = .ok looseCredentials ∧
      (read (write looseCredentials)).map write = .ok (write looseCredentials) ∧
      (write looseCredentials).length ≤ looseStorage.length ∧
      ((write looseCredentials).length = looseStorage.length →
        write looseCredentials = looseStorage) ∧
      ∀ p', read p' = .ok looseCredentials → p' ≠ write looseCredentials →
        (write looseCredentials).length < p'.length := by
  have hread : read looseStorage = .ok looseCredentials := by rfl
  exact ⟨hread, write_read_canonical hread⟩

end StorageHandler.TokenStorage
