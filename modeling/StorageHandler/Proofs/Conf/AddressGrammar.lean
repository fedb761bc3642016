import StorageHandler.Proofs.Conf.AddressList
import StorageHandler.Proofs.Text.Numeral

/-!
# The grammar of addresses

An entry is divided into a host and the text of a port in one of four ways (`Divides`,
`divide_eq_ok_iff`), and it writes an address if the host is not empty and the text of the port is
empty or a decimal numeral (`Writes`, `read_eq_ok_iff`). Nothing else is read. An address is written
as `render` does, with its host in brackets where the host needs them, and lists of such addresses
are read back (`readAll_join_render`).
-/

namespace StorageHandler.Address

open Text (IsEntry)
open Text.Numeral (IsDecimal)

/-! ## Host and port -/

/-- An entry, its host and the text of its port, which is empty if there is none. -/
inductive Divides : String → String → String → Prop
  | bracketed {host : String} (hhost : ']' ∉ host.toList) : Divides ("[" ++ host ++ "]") host ""
  | bracketedPort {host port : String} (hhost : ']' ∉ host.toList) :
    Divides ("[" ++ host ++ "]:" ++ port) host port
  | plain {host : String} (hhead : host.toList.head? ≠ some '[') (hhost : ':' ∉ host.toList) :
    Divides host host ""
  | plainPort {host port : String} (hhead : host.toList.head? ≠ some '[')
    (hhost : ':' ∉ host.toList) (hport : ':' ∉ port.toList) :
    Divides (host ++ ":" ++ port) host port

/-- An entry that starts with a bracket, by what stands after the closing one. -/
theorem divide_of_toList_eq_cons {entry : String} {cs : List Char} (h : entry.toList = '[' :: cs) :
    divide entry = match Text.cutList ']' cs with
      | (host, some []) => .ok (String.ofList host, "")
      | (host, some (':' :: port)) => .ok (String.ofList host, String.ofList port)
      | _ => .error (.brackets entry) := by
  rw [divide, h]
  rfl

/-- An entry that starts with no bracket, by what stands after the first colon. -/
theorem divide_of_head?_ne {entry : String} (h : entry.toList.head? ≠ some '[') :
    divide entry = match Text.cutList ':' entry.toList with
      | (host, none) => .ok (String.ofList host, "")
      | (host, some port) =>
        if ':' ∈ port then .error (.unbracketed entry)
        else .ok (String.ofList host, String.ofList port) := by
  rw [divide]
  split
  · next heq => exact absurd (by rw [heq]; rfl) h
  · rfl

theorem divide_eq_of_divides {entry host port : String} (h : Divides entry host port) :
    divide entry = .ok (host, port) := by
  cases h with
  | bracketed hhost =>
    have hentry : ("[" ++ host ++ "]").toList = '[' :: (host.toList ++ ']' :: []) := by simp
    rw [divide_of_toList_eq_cons hentry, Text.cutList_append_cons hhost]
    simp
  | bracketedPort hhost =>
    have hentry : ("[" ++ host ++ "]:" ++ port).toList =
        '[' :: (host.toList ++ ']' :: ':' :: port.toList) := by simp
    rw [divide_of_toList_eq_cons hentry, Text.cutList_append_cons hhost]
    simp
  | plain hhead hhost =>
    rw [divide_of_head?_ne hhead, Text.cutList_of_not_mem hhost]
    simp
  | plainPort hhead hhost hport =>
    have hentry : (host ++ ":" ++ port).toList = host.toList ++ ':' :: port.toList := by simp
    have hhead' : (host ++ ":" ++ port).toList.head? ≠ some '[' := by
      rw [hentry, List.head?_append]
      cases hh : host.toList.head? with
      | none => simp
      | some c => simpa [hh] using hhead
    rw [divide_of_head?_ne hhead', hentry, Text.cutList_append_cons hhost]
    simp [hport]

theorem divides_of_toList_eq_cons {entry host port : String} {cs : List Char}
    (hcs : entry.toList = '[' :: cs) (h : divide entry = .ok (host, port)) :
    Divides entry host port := by
  rw [divide_of_toList_eq_cons hcs] at h
  rcases Text.cutList_cases ']' cs with ⟨-, hcut⟩ | ⟨xs, ys, hxs, rfl, hcut⟩
  · rw [hcut] at h
    cases h
  · rw [hcut] at h
    have hhost : ']' ∉ (String.ofList xs).toList := by rwa [String.toList_ofList]
    rcases ys with _ | ⟨c, ys⟩
    · obtain ⟨rfl, rfl⟩ := Prod.mk.inj (Except.ok.inj h)
      have hentry : entry = "[" ++ String.ofList xs ++ "]" := by simp [← String.toList_inj, hcs]
      exact hentry ▸ .bracketed hhost
    · by_cases hc : c = ':'
      · subst hc
        obtain ⟨rfl, rfl⟩ := Prod.mk.inj (Except.ok.inj h)
        have hentry : entry = "[" ++ String.ofList xs ++ "]:" ++ String.ofList ys := by
          simp [← String.toList_inj, hcs]
        exact hentry ▸ .bracketedPort hhost
      · -- something else than a port stands behind the bracket
        simp [hc] at h

theorem divides_of_head?_ne {entry host port : String} (hhead : entry.toList.head? ≠ some '[')
    (h : divide entry = .ok (host, port)) : Divides entry host port := by
  rw [divide_of_head?_ne hhead] at h
  rcases Text.cutList_cases ':' entry.toList with ⟨hcolon, hcut⟩ | ⟨xs, ys, hxs, hcs, hcut⟩
  · rw [hcut] at h
    obtain ⟨rfl, rfl⟩ := Prod.mk.inj (Except.ok.inj h)
    rw [String.ofList_toList]
    exact .plain hhead hcolon
  · rw [hcut] at h
    dsimp only at h
    split_ifs at h with hport
    obtain ⟨rfl, rfl⟩ := Prod.mk.inj (Except.ok.inj h)
    have hentry : entry = String.ofList xs ++ ":" ++ String.ofList ys := by
      simp [← String.toList_inj, hcs]
    have hhost : xs.head? ≠ some '[' := by
      intro hxs'
      rw [hcs, List.head?_append, hxs'] at hhead
      exact hhead rfl
    rw [hentry]
    exact .plainPort (by rwa [String.toList_ofList]) (by rwa [String.toList_ofList])
      (by rwa [String.toList_ofList])

/-- An entry is divided in one of the four ways, or not at all. -/
theorem divide_eq_ok_iff {entry host port : String} :
    divide entry = .ok (host, port) ↔ Divides entry host port := by
  refine ⟨fun h => ?_, divide_eq_of_divides⟩
  by_cases hhead : entry.toList.head? = some '['
  · obtain ⟨cs, hcs⟩ := List.head?_eq_some_iff.1 hhead
    exact divides_of_toList_eq_cons hcs h
  · exact divides_of_head?_ne hhead h

/-! ## Entries -/

/-- The text of a port. The default is written as nothing. -/
inductive IsPort : String → ℤ → Prop
  | default : IsPort "" defaultPort
  | decimal {port : String} {n : ℤ} (h : IsDecimal port n) : IsPort port n

/-- An entry writes the address `a`. -/
def Writes (entry : String) (a : Address) : Prop :=
  ∃ port, Divides entry a.host port ∧ a.host ≠ "" ∧ IsPort port a.port

/-- The port that a text writes. -/
def port? (port : String) : Option ℤ :=
  if port = "" then some defaultPort else Text.Numeral.read? .decimal port

theorem port?_eq_some_iff {port : String} {n : ℤ} : port? port = some n ↔ IsPort port n := by
  unfold port?
  split_ifs with hport
  · subst hport
    constructor
    · rintro h
      obtain rfl := Option.some.inj h
      exact .default
    · rintro (_ | h)
      · rfl
      · -- the empty text is no numeral
        cases Text.Numeral.read?_decimal_eq_some_iff.2 h
  · rw [Text.Numeral.read?_decimal_eq_some_iff]
    constructor
    · exact .decimal
    · rintro (_ | h)
      · exact absurd rfl hport
      · exact h

theorem read_of_divide {entry host port : String} (h : divide entry = .ok (host, port)) :
    read entry =
      if host = "" then .error (.emptyHost entry)
      else match port? port with
        | some n => .ok ⟨host, n⟩
        | none => .error (.port entry) := by
  rw [read, h]
  change (if host = "" then _ else _) = _
  unfold port?
  split_ifs <;> rfl

/-- Exactly the entries that write an address are read. -/
theorem read_eq_ok_iff {entry : String} {a : Address} : read entry = .ok a ↔ Writes entry a := by
  obtain ⟨host, n⟩ := a
  simp only [Writes, ← divide_eq_ok_iff, ← port?_eq_some_iff]
  cases hdivide : divide entry with
  | error error =>
    rw [read, hdivide]
    exact iff_of_false (by simp [bind, Except.bind]) (by simp)
  | ok parts =>
    obtain ⟨host', port⟩ := parts
    rw [read_of_divide hdivide]
    simp only [Except.ok.injEq, Prod.mk.injEq, and_assoc, exists_and_left, exists_eq_left']
    split_ifs with hhost
    · exact iff_of_false (by simp) fun h => h.2.1 (h.1 ▸ hhost)
    · cases port? port with
      | none => exact iff_of_false (by simp) (by simp)
      | some m =>
        simp only [Except.ok.injEq, mk.injEq, Option.some.injEq]
        constructor
        · rintro ⟨rfl, rfl⟩
          exact ⟨rfl, hhost, rfl⟩
        · rintro ⟨rfl, -, rfl⟩
          exact ⟨rfl, rfl⟩

/-! ## Writing addresses -/

/-- A host that must stand in brackets. -/
def NeedsBrackets (host : String) : Prop := ':' ∈ host.toList ∨ host.toList.head? = some '['

instance (host : String) : Decidable (NeedsBrackets host) :=
  inferInstanceAs (Decidable (_ ∨ _))

/-- An address as an entry. -/
def render (a : Address) : String :=
  if NeedsBrackets a.host then "[" ++ a.host ++ "]:" ++ Text.Numeral.text a.port
  else a.host ++ ":" ++ Text.Numeral.text a.port

/-- An address that has an entry. -/
structure Renderable (a : Address) : Prop where
  host_ne : a.host ≠ ""
  comma : ',' ∉ a.host.toList
  bracketed : NeedsBrackets a.host → ']' ∉ a.host.toList
  unbracketed : ¬NeedsBrackets a.host →
    ∀ c, a.host.toList.head? = some c → Text.isBlank c = false
  digits : (Text.Numeral.decimalDigits a.port.natAbs).length ≤ Text.Numeral.maxDigits

variable {a : Address}

theorem Renderable.writes (h : Renderable a) : Writes a.render a := by
  refine ⟨Text.Numeral.text a.port, ?_, h.host_ne, .decimal (Text.Numeral.isDecimal_text h.digits)⟩
  unfold render
  split_ifs with hbrackets
  · exact .bracketedPort (h.bracketed hbrackets)
  · obtain ⟨hcolon, hhead⟩ := not_or.1 hbrackets
    exact .plainPort hhead hcolon (Text.Numeral.notMem_text (by decide) (by decide) a.port)

theorem Renderable.isEntry (h : Renderable a) : IsEntry a.render := by
  have hcomma := Text.Numeral.notMem_text (c := ',') (by decide) (by decide) a.port
  unfold render
  split_ifs with hbrackets
  · refine ⟨by simp, by simp [h.comma, hcomma],
      Text.Numeral.strip_append_text (by simp) fun c hc => ?_⟩
    have hopen : ("[" ++ a.host ++ "]:").toList.head? = some '[' := by simp
    rw [hopen] at hc
    exact Option.some.inj hc ▸ by decide
  · have hcs : a.host.toList ≠ [] := mt String.toList_eq_nil_iff.1 h.host_ne
    refine ⟨by simp, by simp [h.comma, hcomma],
      Text.Numeral.strip_append_text (by simp) fun c hc => ?_⟩
    rw [String.toList_append, List.head?_append_of_ne_nil _ hcs] at hc
    exact h.unbracketed hbrackets c hc

/-- Lists of addresses are read back. -/
theorem readAll_join_render {addresses : List Address} (hne : addresses ≠ [])
    (h : ∀ a ∈ addresses, Renderable a) :
    readAll (Text.join "," (addresses.map render)) = .ok addresses := by
  have hentries : ∀ e ∈ addresses.map render, IsEntry e := by
    rintro e he
    obtain ⟨a, ha, rfl⟩ := List.mem_map.1 he
    exact (h a ha).isEntry
  refine readAll_eq_ok_iff.2 ⟨hne, ?_⟩
  rw [Text.entries_join_of_isEntry hentries, mapM_eq_ok_iff_forall₂, List.forall₂_map_left_iff,
    List.forall₂_same]
  exact fun a ha => read_eq_ok_iff.2 (h a ha).writes

/-! ## The lists that are accepted -/

theorem readAll_eq_ok_iff_writes {e : String} {as : List Address} (h : IsEntry e) :
    readAll e = .ok as ↔ ∃ a, as = [a] ∧ Writes e a := by
  simp only [readAll_eq_ok_iff_of_isEntry h, read_eq_ok_iff]

theorem exists_readAll_eq_error {e : String} (h : IsEntry e) (hwrites : ∀ a, ¬Writes e a) :
    ∃ error, readAll e = .error error ∧ error.failure.kind = .configuration := by
  cases hresult : readAll e with
  | error error => exact ⟨error, rfl, rfl⟩
  | ok as =>
    obtain ⟨a, -, ha⟩ := (readAll_eq_ok_iff_writes h).1 hresult
    exact absurd ha (hwrites a)

/-- An entry is accepted with the address that it writes, and refused for its configuration if it
writes none. Lists of addresses are read back. -/
theorem readAll_grammar :
    (∀ e as, IsEntry e → (readAll e = .ok as ↔ ∃ a, as = [a] ∧ Writes e a)) ∧
    (∀ e, IsEntry e → (∀ a, ¬Writes e a) →
      ∃ error, readAll e = .error error ∧ error.failure.kind = .configuration) ∧
    ∀ addresses, addresses ≠ [] → (∀ a ∈ addresses, Renderable a) →
      readAll (Text.join "," (addresses.map render)) = .ok addresses :=
  ⟨fun _ _ => readAll_eq_ok_iff_writes, fun _ => exists_readAll_eq_error,
    fun _ => readAll_join_render⟩

theorem readAll_grammar_bracketedAndPlain :
    (readAll "[::1]: +7_1" = .ok [⟨"::1", 71⟩] ↔
        ∃ a, [⟨"::1", 71⟩] = [a] ∧ Writes "[::1]: +7_1" a) ∧
      (∃ error, readAll "::1" = .error error ∧ error.failure.kind = .configuration) ∧
      readAll (Text.join "," ([⟨"::1", 71⟩, ⟨"h", -5⟩].map render)) =
        .ok [⟨"::1", 71⟩, ⟨"h", -5⟩] := by
  have hbracketed : IsEntry "[::1]: +7_1" := ⟨by decide, by decide, by decide⟩
  have hunbracketed : IsEntry "::1" := ⟨by decide, by decide, by decide⟩
  have hrefused : read "::1" = .error (.unbracketed "::1") := by decide
  have hwrites : ∀ a, ¬Writes "::1" a := fun a ha => by
    rw [← read_eq_ok_iff, hrefused] at ha
    cases ha
  have hcolons : Renderable ⟨"::1", 71⟩ :=
    ⟨by decide, by decide, by decide, fun h => absurd (.inl (by decide)) h, by decide⟩
  have hplain : Renderable ⟨"h", -5⟩ :=
    ⟨by decide, by decide, by decide, fun _ c hc => Option.some.inj hc ▸ by decide, by decide⟩
  obtain ⟨haccepted, hothers, hlists⟩ := readAll_grammar
  refine ⟨haccepted _ _ hbracketed, hothers _ hunbracketed hwrites, hlists _ (by simp) ?_⟩
  exact List.forall_mem_cons.2 ⟨hcolons, List.forall_mem_singleton.2 hplain⟩

end StorageHandler.Address
