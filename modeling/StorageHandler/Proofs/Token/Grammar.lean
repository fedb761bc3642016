import StorageHandler.Proofs.Token.Truncation

/-!
# The grammar of token storage

Which bytes are a byte string, a text, a token, entries or a whole storage, and what they hold, is
said without the readers : every rule names the bytes of its parts in their order. A number is any
bytes that are read as it, so the rules leave open how long it is written.

A reader recognizes a rule if it takes off the bytes exactly what the rule describes
(`Recognizes`). `read_eq_ok_iff_isStorage` says so of the whole, whatever follows it.
-/

namespace StorageHandler.TokenStorage

variable {α : Type}

/-! ## Rules -/

/-- The bytes `p` are the byte string `x` : its length, which can be asked for, and itself. -/
def IsBytes (p x : List UInt8) : Prop :=
  ∃ q, p = q ++ x ∧ IsNumber q x.length ∧ x.length < 2 ^ 63

/-- The bytes `p` are the text `s` : the byte string of its encoding. -/
def IsText (p : List UInt8) (s : String) : Prop := IsBytes p (Text.encode s)

/-- The bytes `p` are the token `t`, field by field. -/
def IsToken (p : List UInt8) (t : SecurityToken) : Prop :=
  ∃ p₁ p₂ p₃ p₄, p = p₁ ++ p₂ ++ p₃ ++ p₄ ∧ IsBytes p₁ t.identifier ∧ IsBytes p₂ t.password ∧
    IsText p₃ t.kind ∧ IsText p₄ t.service

/-- The bytes are these entries, each an alias and a value. -/
inductive AreEntries (isValue : List UInt8 → α → Prop) : List UInt8 → List (String × α) → Prop
  | nil : AreEntries isValue [] []
  | cons {p₁ p₂ p : List UInt8} {name : String} {v : α} {es : List (String × α)} :
      IsText p₁ name → isValue p₂ v → AreEntries isValue p es →
      AreEntries isValue (p₁ ++ p₂ ++ p) ((name, v) :: es)

/-- The bytes `p` are a map : the number of the entries `es` and the entries. -/
def IsMap (isValue : List UInt8 → α → Prop) (p : List UInt8) (es : List (String × α)) : Prop :=
  ∃ q r, p = q ++ r ∧ IsNumber q es.length ∧ AreEntries isValue r es

/-- The bytes `p` are a storage with these entries : four letters, the version 0, a map of
tokens and a map of secret keys. -/
def IsStorage (p : List UInt8) (tokens : List (String × SecurityToken))
    (secrets : List (String × List UInt8)) : Prop :=
  ∃ q r, p = Text.encode "HDTS" ++ [0] ++ q ++ r ∧ IsMap IsToken q tokens ∧
    IsMap IsBytes r secrets

/-! ## Readers of a rule -/

/-- `r` takes `a` off the bytes exactly if they start with bytes that the rule allows for `a`. -/
def Recognizes (r : Reader α) (rule : List UInt8 → α → Prop) : Prop :=
  ∀ bs rest a, r bs = .ok (a, rest) ↔ ∃ p, bs = p ++ rest ∧ rule p a

theorem recognizes_readBytes : Recognizes readBytes IsBytes := by
  intro bs rest x
  rw [readBytes_eq_ok_iff]
  constructor
  · rintro ⟨q, rfl, hnum, hlt⟩
    exact ⟨q ++ x, (List.append_assoc ..).symm, q, rfl, hnum, hlt⟩
  · rintro ⟨_, rfl, q, rfl, hnum, hlt⟩
    exact ⟨q, List.append_assoc .., hnum, hlt⟩

theorem recognizes_readText : Recognizes readText IsText := by
  intro bs rest s
  rw [readText_eq_ok_iff]
  exact recognizes_readBytes bs rest (Text.encode s)

theorem recognizes_readToken : Recognizes readToken IsToken := by
  intro bs rest t
  constructor
  · intro h
    obtain ⟨bs₁, bs₂, bs₃, h₁, h₂, h₃, h₄⟩ := readToken_eq_ok_iff.1 h
    obtain ⟨p₁, rfl, hp₁⟩ := (recognizes_readBytes _ _ _).1 h₁
    obtain ⟨p₂, rfl, hp₂⟩ := (recognizes_readBytes _ _ _).1 h₂
    obtain ⟨p₃, rfl, hp₃⟩ := (recognizes_readText _ _ _).1 h₃
    obtain ⟨p₄, rfl, hp₄⟩ := (recognizes_readText _ _ _).1 h₄
    exact ⟨p₁ ++ p₂ ++ p₃ ++ p₄, by simp, p₁, p₂, p₃, p₄, rfl, hp₁, hp₂, hp₃, hp₄⟩
  · rintro ⟨_, rfl, p₁, p₂, p₃, p₄, rfl, hp₁, hp₂, hp₃, hp₄⟩
    have h₁ := (recognizes_readBytes _ (p₂ ++ (p₃ ++ (p₄ ++ rest))) _).2 ⟨p₁, rfl, hp₁⟩
    have h₂ := (recognizes_readBytes _ (p₃ ++ (p₄ ++ rest)) _).2 ⟨p₂, rfl, hp₂⟩
    have h₃ := (recognizes_readText _ (p₄ ++ rest) _).2 ⟨p₃, rfl, hp₃⟩
    have h₄ := (recognizes_readText _ rest _).2 ⟨p₄, rfl, hp₄⟩
    simp only [List.append_assoc]
    exact readToken_eq_ok_iff.2 ⟨_, _, _, h₁, h₂, h₃, h₄⟩

/-! ## Entries -/

variable {isValue : List UInt8 → α → Prop} {value : Reader α}

theorem entriesRead_iff (h : Recognizes value isValue) {es : List (String × α)}
    {bs rest : List UInt8} :
    EntriesRead value es bs rest ↔ ∃ p, bs = p ++ rest ∧ AreEntries isValue p es := by
  constructor
  · intro hes
    induction hes with
    | nil => exact ⟨[], rfl, .nil⟩
    | cons hname hv _ ih =>
      obtain ⟨p, rfl, hp⟩ := ih
      obtain ⟨p₁, rfl, hp₁⟩ := (recognizes_readText _ _ _).1 hname
      obtain ⟨p₂, rfl, hp₂⟩ := (h _ _ _).1 hv
      exact ⟨p₁ ++ p₂ ++ p, by simp, .cons hp₁ hp₂ hp⟩
  · rintro ⟨p, rfl, hp⟩
    induction hp with
    | nil => exact .nil
    | @cons p₁ p₂ p _ _ _ hp₁ hp₂ _ ih =>
      have hname := (recognizes_readText _ (p₂ ++ (p ++ rest)) _).2 ⟨p₁, rfl, hp₁⟩
      have hv := (h _ (p ++ rest) _).2 ⟨p₂, rfl, hp₂⟩
      simp only [List.append_assoc]
      exact .cons hname hv ih

/-- A map is read as what its entries make. -/
theorem recognizes_readMap (h : Recognizes value isValue) :
    Recognizes (readMap value) fun p m => ∃ es, IsMap isValue p es ∧ m = .ofList es := by
  intro bs rest m
  rw [readMap, bind_apply_eq_ok_iff]
  constructor
  · rintro ⟨n, mid, hn, hentries⟩
    obtain ⟨q, rfl, hq⟩ := readCount_eq_ok_iff.1 hn
    obtain ⟨es, rfl, hm, hes⟩ := readEntries_eq_ok_iff.1 hentries
    obtain ⟨r, rfl, hr⟩ := (entriesRead_iff h).1 hes
    exact ⟨q ++ r, (List.append_assoc ..).symm, es, ⟨q, r, rfl, hq, hr⟩, hm⟩
  · rintro ⟨_, rfl, es, ⟨q, r, rfl, hq, hr⟩, hm⟩
    refine ⟨es.length, r ++ rest, readCount_eq_ok_iff.2 ⟨q, List.append_assoc .., hq⟩, ?_⟩
    exact readEntries_eq_ok_iff.2 ⟨es, rfl, hm, (entriesRead_iff h).2 ⟨r, rfl, hr⟩⟩

/-! ## The whole -/

theorem recognizes_readCredentials :
    Recognizes readCredentials fun p c =>
      ∃ tokens secrets, IsStorage p tokens secrets ∧ c = ⟨.ofList tokens, .ofList secrets⟩ := by
  intro bs rest c
  rw [readCredentials_eq_ok_iff]
  constructor
  · rintro ⟨mid₁, mid₂, rfl, htokens, hsecrets⟩
    obtain ⟨q, rfl, tokens, hq, hc⟩ := (recognizes_readMap recognizes_readToken _ _ _).1 htokens
    obtain ⟨r, rfl, secrets, hr, hc'⟩ := (recognizes_readMap recognizes_readBytes _ _ _).1 hsecrets
    exact ⟨magic ++ [version] ++ q ++ r, by simp, tokens, secrets, ⟨q, r, rfl, hq, hr⟩,
      by rw [← hc, ← hc']⟩
  · rintro ⟨_, rfl, tokens, secrets, ⟨q, r, rfl, hq, hr⟩, rfl⟩
    have htokens := (recognizes_readMap recognizes_readToken _ (r ++ rest) _).2
      ⟨q, rfl, tokens, hq, rfl⟩
    have hsecrets := (recognizes_readMap recognizes_readBytes _ rest _).2 ⟨r, rfl, secrets, hr, rfl⟩
    exact ⟨_, _, by simp [magic, version], htokens, hsecrets⟩

/-- Bytes hold credentials exactly if they start with a storage whose entries make them. A repeated
alias stands where it came first and has the value that came last. -/
theorem read_eq_ok_iff_isStorage :
    (∀ bs c, read bs = .ok c ↔ ∃ p rest tokens secrets, bs = p ++ rest ∧
      IsStorage p tokens secrets ∧ c = ⟨.ofList tokens, .ofList secrets⟩) ∧
    ∀ (tokens : List (String × SecurityToken)) (secrets : List (String × List UInt8)),
      (OrderedMap.ofList tokens).keys = (tokens.map Prod.fst).eraseDups ∧
      (OrderedMap.ofList secrets).keys = (secrets.map Prod.fst).eraseDups ∧
      ∀ name, (OrderedMap.ofList tokens).find? name = OrderedMap.lookup name tokens.reverse ∧
        (OrderedMap.ofList secrets).find? name = OrderedMap.lookup name secrets.reverse := by
  refine ⟨fun bs c => ?_, fun tokens secrets => ?_⟩
  · rw [read_eq_ok_iff]
    constructor
    · rintro ⟨rest, h⟩
      obtain ⟨p, hbs, tokens, secrets, hp, hc⟩ := (recognizes_readCredentials _ _ _).1 h
      exact ⟨p, rest, tokens, secrets, hbs, hp, hc⟩
    · rintro ⟨p, rest, tokens, secrets, hbs, hp, hc⟩
      exact ⟨rest, (recognizes_readCredentials _ _ _).2 ⟨p, hbs, tokens, secrets, hp, hc⟩⟩
  · exact ⟨OrderedMap.keys_ofList tokens, OrderedMap.keys_ofList secrets,
      fun name => ⟨OrderedMap.find?_ofList tokens name, OrderedMap.find?_ofList secrets name⟩⟩

end StorageHandler.TokenStorage
