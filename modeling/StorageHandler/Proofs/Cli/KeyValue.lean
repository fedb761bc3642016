import StorageHandler.Cli.Command
import StorageHandler.Proofs.OrderedMap
import StorageHandler.Proofs.Results
import StorageHandler.Proofs.Text.Cut

/-!
# Keys and values on the command line

An entry writes a setting if more than blanks stands before its first `=` (`Setting.Writes`). Any
other entry is malformed, and of a list of entries the first malformed one is named
(`readAll_eq_error_iff`). A list without any gives what its entries write, repeated keys at their
first place with their last value (`readAll_eq_ok_iff`). Keys are read as they stand in a written
setting exactly if they are trimmed and not empty and have no `=` (`IsKey.writes_render`), and no
other keys are ever read (`Writes.isKey`).
-/

namespace StorageHandler

namespace Setting

/-! ## Entries -/

/-- What an entry writes : the text before the first `=`, trimmed, is the key, and all of the text
after it is the value. -/
inductive Writes : String → String × String → Prop
  | intro {before value : String} (hmark : '=' ∉ before.toList) (hkey : Text.strip before ≠ "") :
    Writes (before ++ "=" ++ value) (Text.strip before, value)

/-- An entry that writes nothing : it has no `=`, or only blanks before the first one. -/
inductive Malformed : String → Prop
  | unmarked {entry : String} (h : '=' ∉ entry.toList) : Malformed entry
  | blank {before value : String} (h : ∀ c ∈ before.toList, Text.isBlank c = true) :
    Malformed (before ++ "=" ++ value)

variable {entry : String} {s : String × String} {e : SettingError}

theorem cut_entry {before : String} (hmark : '=' ∉ before.toList) (value : String) :
    Text.cut '=' (before ++ "=" ++ value) = (before, some value) :=
  Text.cut_append hmark value

theorem Writes.read_eq (h : Writes entry s) : read entry = .ok s := by
  obtain ⟨hmark, hkey⟩ := h
  rw [read, cut_entry hmark]
  exact if_neg hkey

theorem Malformed.read_eq (h : Malformed entry) : read entry = .error ⟨entry⟩ := by
  cases h with
  | unmarked h => rw [read, Text.cut_of_notMem h]
  | @blank before value h =>
    have hmark : '=' ∉ before.toList := fun hmem => absurd (h '=' hmem) (by decide)
    rw [read, cut_entry hmark]
    exact if_pos (Text.strip_eq_empty_iff.2 h)

theorem writes_or_malformed (entry : String) : (∃ s, Writes entry s) ∨ Malformed entry := by
  by_cases hmark : '=' ∈ entry.toList
  · obtain ⟨before, value, hbefore, rfl⟩ := Text.exists_append_of_mem hmark
    by_cases hkey : Text.strip before = ""
    · exact .inr (.blank (Text.strip_eq_empty_iff.1 hkey))
    · exact .inl ⟨_, .intro hbefore hkey⟩
  · exact .inr (.unmarked hmark)

theorem read_eq_ok_iff : read entry = .ok s ↔ Writes entry s := by
  refine ⟨fun h => ?_, Writes.read_eq⟩
  rcases writes_or_malformed entry with ⟨s', hs'⟩ | hentry
  · obtain rfl := Except.ok.inj (h.symm.trans hs'.read_eq)
    exact hs'
  · cases h.symm.trans hentry.read_eq

theorem read_eq_error_iff : read entry = .error e ↔ Malformed entry ∧ e = ⟨entry⟩ := by
  constructor
  · intro h
    rcases writes_or_malformed entry with ⟨s, hs⟩ | hentry
    · cases h.symm.trans hs.read_eq
    · exact ⟨hentry, Except.error.inj (h.symm.trans hentry.read_eq)⟩
  · rintro ⟨hentry, rfl⟩
    exact hentry.read_eq

theorem exists_read_iff : (∃ s, read entry = .ok s) ↔ ¬Malformed entry := by
  constructor
  · rintro ⟨s, h⟩ hentry
    cases h.symm.trans hentry.read_eq
  · intro h
    obtain ⟨s, hs⟩ := (writes_or_malformed entry).resolve_right h
    exact ⟨s, hs.read_eq⟩

/-! ## Keys -/

/-- A text that can be the key of a setting. -/
structure IsKey (k : String) : Prop where
  ne_empty : k ≠ ""
  mark : '=' ∉ k.toList
  trimmed : Text.Trimmed k

/-- A setting as an entry. -/
def render (s : String × String) : String := s.1 ++ "=" ++ s.2

theorem Writes.isKey (h : Writes entry s) : IsKey s.1 := by
  obtain ⟨hmark, hkey⟩ := h
  refine ⟨hkey, fun hmem => hmark ?_, Text.trimmed_strip _⟩
  rw [Text.toList_strip] at hmem
  exact Text.mem_of_mem_trimList hmem

theorem IsKey.writes_render (h : IsKey s.1) : Writes (render s) s := by
  have hstrip := Text.strip_eq_self_iff.2 h.trimmed
  have hwrites : Writes (render s) (Text.strip s.1, s.2) :=
    .intro h.mark (hstrip.symm ▸ h.ne_empty)
  rwa [hstrip] at hwrites

/-! ## Lists of entries -/

variable {entries : List String} {m : OrderedMap String String}

theorem mapM_read_eq_ok_iff {es : List (String × String)} :
    entries.mapM read = .ok es ↔ List.Forall₂ Writes entries es := by
  simp only [mapM_eq_ok_iff_forall₂, read_eq_ok_iff]

theorem readAll_eq_ok_iff :
    readAll entries = .ok m ↔ ∃ es, List.Forall₂ Writes entries es ∧ m.Gathers es := by
  simp only [OrderedMap.gathers_iff, ← mapM_read_eq_ok_iff, readAll]
  cases entries.mapM read with
  | error e => simp [Except.map]
  | ok es => simp [Except.map, eq_comm]

theorem readAll_eq_error_iff :
    readAll entries = .error e ↔ ∃ pre entry post, entries = pre ++ entry :: post ∧
      (∀ x ∈ pre, ¬Malformed x) ∧ Malformed entry ∧ e = ⟨entry⟩ := by
  have hmap : readAll entries = .error e ↔ entries.mapM read = .error e := by
    rw [readAll]
    cases entries.mapM read <;> simp [Except.map]
  simp only [hmap, mapM_eq_error_iff, exists_read_iff, read_eq_error_iff]

theorem isKey_of_mem_keys (h : readAll entries = .ok m) {k : String} (hk : k ∈ m.keys) :
    IsKey k := by
  obtain ⟨es, hes, hm⟩ := readAll_eq_ok_iff.1 h
  rw [hm.order, List.mem_eraseDups, List.mem_map] at hk
  obtain ⟨s, hs, rfl⟩ := hk
  obtain ⟨i, hi, rfl⟩ := List.getElem_of_mem hs
  exact (hes.get (hes.length_eq ▸ hi) hi).isKey

theorem readAll_render (h : ∀ k ∈ m.keys, IsKey k) : readAll (m.entries.map render) = .ok m := by
  refine readAll_eq_ok_iff.2 ⟨m.entries, ?_, OrderedMap.gathers_iff.2 m.ofList_entries.symm⟩
  rw [List.forall₂_map_left_iff, List.forall₂_same]
  exact fun s hs => (h s.1 (List.mem_map_of_mem hs)).writes_render

/-- Options with values are read as the entries that they give. -/
theorem givenSettings_values (entries : List String) :
    Cli.givenSettings (entries.map .value) = (readAll entries).mapError SettingError.failure := by
  have hmapM : (entries.mapM fun entry => (read entry).mapError SettingError.failure) =
      (entries.mapM read).mapError SettingError.failure := by
    induction entries with
    | nil => rfl
    | cons entry entries ih =>
      rw [List.mapM_cons, List.mapM_cons, ih]
      cases read entry with
      | error e => rfl
      | ok s => cases entries.mapM read <;> rfl
  have hgiven : Cli.givenSettings (entries.map .value) =
      (entries.mapM fun entry => (read entry).mapError SettingError.failure).map .ofList := by
    rw [Cli.givenSettings, List.mapM_map]
    rfl
  rw [hgiven, hmapM, readAll]
  cases entries.mapM read <;> rfl

/-- Of a list of entries the first malformed one is the failure, and it is quoted. Without any the
settings are those that the entries write, each key where it came first and with the value that came
last. The keys are trimmed, not empty and without `=`, and settings with such keys are read from
their own entries, whatever their values. -/
theorem readAll_exactly (entries : List String) :
    (∀ e, readAll entries = .error e ↔ ∃ pre entry post, entries = pre ++ entry :: post ∧
      (∀ x ∈ pre, ¬Malformed x) ∧ Malformed entry ∧ e = ⟨entry⟩) ∧
    (∀ m, readAll entries = .ok m ↔ ∃ es, List.Forall₂ Writes entries es ∧ m.Gathers es) ∧
    (∀ m, readAll entries = .ok m → ∀ k ∈ m.keys, IsKey k) ∧
    (∀ m : OrderedMap String String, (∀ k ∈ m.keys, IsKey k) →
      readAll (m.entries.map render) = .ok m) ∧
    (∀ entry, SettingError.failure ⟨entry⟩ =
      ⟨.configuration, "Invalid setting '" ++ entry ++ "': expected KEY=VALUE."⟩) ∧
    Cli.givenSettings (entries.map .value) = (readAll entries).mapError SettingError.failure :=
  ⟨fun _ => readAll_eq_error_iff, fun _ => readAll_eq_ok_iff, fun _ h _ => isKey_of_mem_keys h,
    fun _ => readAll_render, fun _ => rfl, givenSettings_values entries⟩

/-- Keys with different blanks around them are one key. A value has its `=` and its blanks, and it
can be empty. Only blanks before the first `=` are no key. -/
theorem readAll_exactly_merged :
    let entries := [" a\u2003= 1=2 ", "b c=", "a==x"]
    let m := OrderedMap.ofList [("a", "=x"), ("b c", "")]
    readAll entries = .ok m ∧ (∀ k ∈ m.keys, IsKey k) ∧ readAll (m.entries.map render) = .ok m ∧
      readAll (entries ++ ["\u2003 =a", "b"]) = .error ⟨"\u2003 =a"⟩ := by
  intro entries m
  have hentries : readAll entries = .ok m := by decide
  obtain ⟨-, -, hkeys, hrender, -⟩ := readAll_exactly entries
  have hfirst := (readAll_exactly (entries ++ ["\u2003 =a", "b"])).1 ⟨"\u2003 =a"⟩
  refine ⟨hentries, hkeys m hentries, hrender m (hkeys m hentries), hfirst.2 ?_⟩
  refine ⟨entries, _, ["b"], rfl, ?_, read_eq_error_iff.1 (by decide)⟩
  simp only [entries, List.forall_mem_cons, ← exists_read_iff]
  exact ⟨⟨("a", " 1=2 "), by decide⟩, ⟨("b c", ""), by decide⟩, ⟨("a", "=x"), by decide⟩,
    List.forall_mem_nil _⟩

end Setting

end StorageHandler
