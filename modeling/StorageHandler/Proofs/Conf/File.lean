import Mathlib.Data.Int.Notation
import StorageHandler.Conf.File
import StorageHandler.Proofs.Files.Walk
import StorageHandler.Proofs.Results

/-!
# Failures of loading a configuration

Loading a configuration gives one, or reports what is wrong with the file as a bad setting, or lets
a failure of another kind out (`loadConf_cases`). That is the case in four ways (`Escapes`) : the
path holds the character NUL, the bytes of the file are no text, the text has a flaw that is not one
of the language, such as a date that does not exist, or the first entry that makes no setting has an
integer with too many digits to be written (`Unwritable`). Nothing else gets out, and none of these
is a failure of the library's own (`loadConf_reports_iff`).
-/

namespace StorageHandler

open Yaml (Content Scalar Value YamlError)

/-! ## Entries -/

/-- An integer with more digits than are written. -/
inductive Yaml.Scalar.Long : Scalar → Prop
  | integer {i : ℤ} (h : Text.Numeral.maxDigits < (Text.Numeral.decimalDigits i.natAbs).length) :
    Long (.integer i)

/-- An entry has an integer in it with more digits than are written. -/
inductive Unwritable : Scalar × Value → Prop
  | key {key : Scalar} {value : Value} (h : key.Long) : Unwritable (key, value)
  | value {key s : Scalar} (h : s.Long) : Unwritable (key, .scalar s)
  | member {key m : Scalar} {members : List Scalar} (hm : m ∈ Yaml.orderedMembers members)
    (h : m.Long) : Unwritable (key, .set members)

/-- An entry makes a setting : it can be written, and there is no sequence and no mapping in it. -/
structure MakesSetting (entry : Scalar × Value) : Prop where
  writable : ¬Unwritable entry
  not_sequence : entry.2 ≠ .sequence
  not_mapping : entry.2 ≠ .mapping

section Entries

variable {s : Scalar} {path : Path} {entry : Scalar × Value}

theorem quoted?_eq_none_iff : s.quoted? = none ↔ s.Long := by
  constructor
  · intro h
    cases s with
    | integer i =>
      simp only [Scalar.quoted?, Text.Numeral.text?] at h
      split_ifs at h with hlong
      exact .integer hlong
    | _ => cases h
  · rintro ⟨hlong⟩
    exact if_pos hlong

theorem plain?_eq_none_iff : s.plain? = none ↔ s.Long := by
  rw [← quoted?_eq_none_iff]
  cases s <;> simp [Scalar.plain?, Scalar.quoted?]

theorem settingText_eq_none_iff : settingText s = none ↔ s.Long := by
  rw [← plain?_eq_none_iff]
  cases s <;> simp [settingText, Scalar.plain?, Scalar.quoted?]

theorem setText_eq_none_iff {members : List Scalar} :
    setText members = none ↔ ∃ m ∈ Yaml.orderedMembers members, m.Long := by
  have hempty : Yaml.orderedMembers [] = [] := by decide
  cases members with
  | nil => simp [setText, hempty]
  | cons m members =>
    simp only [setText, List.isEmpty_cons, Bool.false_eq_true, if_false, Option.map_eq_none_iff,
      mapM_eq_none_iff, quoted?_eq_none_iff]

section Key

variable {key : Scalar} {k : List Text.Point}

/-- The text of the key is asked for first. -/
theorem fileSetting_of_long (h : key.Long) (value : Value) :
    fileSetting path (key, value) = .error .longInteger := by
  simp only [fileSetting, plain?_eq_none_iff.2 h]
  rfl

variable (hkey : key.plain? = some k)

include hkey

theorem not_long_of_plain? : ¬key.Long := by
  intro h
  cases hkey.symm.trans (plain?_eq_none_iff.2 h)

theorem fileSetting_sequence : fileSetting path (key, .sequence) = .error (.nested k path) := by
  simp only [fileSetting, hkey]
  rfl

theorem fileSetting_mapping : fileSetting path (key, .mapping) = .error (.nested k path) := by
  simp only [fileSetting, hkey]
  rfl

theorem fileSetting_scalar : fileSetting path (key, .scalar s) =
    match settingText s with
    | some text => .ok (k, text)
    | none => .error .longInteger := by
  simp only [fileSetting, hkey, pure_bind]
  rfl

theorem fileSetting_set {members : List Scalar} : fileSetting path (key, .set members) =
    match setText members with
    | some text => .ok (k, Text.points text)
    | none => .error .longInteger := by
  simp only [fileSetting, hkey, pure_bind]
  cases setText members <;> rfl

theorem unwritable_scalar_iff : Unwritable (key, .scalar s) ↔ settingText s = none := by
  rw [settingText_eq_none_iff]
  constructor
  · rintro (h | h)
    · exact absurd h (not_long_of_plain? hkey)
    · exact h
  · exact .value

theorem unwritable_set_iff {members : List Scalar} :
    Unwritable (key, .set members) ↔ setText members = none := by
  rw [setText_eq_none_iff]
  constructor
  · rintro (h | _ | ⟨hm, h⟩)
    · exact absurd h (not_long_of_plain? hkey)
    · exact ⟨_, hm, h⟩
  · rintro ⟨m, hm, h⟩
    exact .member hm h

end Key

/-- What becomes of an entry. -/
theorem fileSetting_cases (path : Path) (entry : Scalar × Value) :
    (MakesSetting entry ∧ ∃ setting, fileSetting path entry = .ok setting) ∨
    (¬Unwritable entry ∧ (entry.2 = .sequence ∨ entry.2 = .mapping) ∧
      ∃ key, fileSetting path entry = .error (.nested key path)) ∨
    (Unwritable entry ∧ fileSetting path entry = .error .longInteger) := by
  obtain ⟨key, value⟩ := entry
  cases hkey : key.plain? with
  | none =>
    have hlong := plain?_eq_none_iff.1 hkey
    exact .inr (.inr ⟨.key hlong, fileSetting_of_long hlong value⟩)
  | some k =>
    have hshort := not_long_of_plain? hkey
    cases value with
    | sequence =>
      exact .inr (.inl ⟨fun | .key h => hshort h, .inl rfl, k, fileSetting_sequence hkey⟩)
    | mapping =>
      exact .inr (.inl ⟨fun | .key h => hshort h, .inr rfl, k, fileSetting_mapping hkey⟩)
    | scalar s =>
      have hunwritable : Unwritable (key, .scalar s) ↔ settingText s = none :=
        unwritable_scalar_iff hkey
      rw [fileSetting_scalar hkey]
      cases hs : settingText s with
      | none => exact .inr (.inr ⟨hunwritable.2 hs, rfl⟩)
      | some text =>
        have hwritable := hunwritable.not.2 (by simp [hs])
        exact .inl ⟨⟨hwritable, nofun, nofun⟩, _, rfl⟩
    | set members =>
      have hunwritable : Unwritable (key, .set members) ↔ setText members = none :=
        unwritable_set_iff hkey
      rw [fileSetting_set hkey]
      cases hmembers : setText members with
      | none => exact .inr (.inr ⟨hunwritable.2 hmembers, rfl⟩)
      | some text =>
        have hwritable := hunwritable.not.2 (by simp [hmembers])
        exact .inl ⟨⟨hwritable, nofun, nofun⟩, _, rfl⟩

theorem exists_fileSetting_iff :
    (∃ setting, fileSetting path entry = .ok setting) ↔ MakesSetting entry := by
  constructor
  · rintro ⟨setting, h⟩
    rcases fileSetting_cases path entry with ⟨hmakes, -⟩ | ⟨-, -, key, hnested⟩ | ⟨-, hlong⟩
    · exact hmakes
    · cases h.symm.trans hnested
    · cases h.symm.trans hlong
  · intro h
    rcases fileSetting_cases path entry with ⟨-, hok⟩ | ⟨-, hnested, -⟩ | ⟨hlong, -⟩
    · exact hok
    · exact absurd hnested (not_or.2 ⟨h.not_sequence, h.not_mapping⟩)
    · exact absurd hlong h.writable

theorem fileSetting_of_unwritable (h : Unwritable entry) :
    fileSetting path entry = .error .longInteger := by
  rcases fileSetting_cases path entry with ⟨hmakes, -⟩ | ⟨hwritable, -⟩ | ⟨-, hlong⟩
  · exact absurd h hmakes.writable
  · exact absurd h hwritable
  · exact hlong

end Entries

/-! ## Contents -/

/-- The first of the entries that makes no setting has an integer with too many digits. -/
def StopsAtLong (entries : List (Scalar × Value)) : Prop :=
  ∃ pre entry post, entries = pre ++ entry :: post ∧ (∀ e ∈ pre, MakesSetting e) ∧ Unwritable entry

theorem fileSettings_of_stopsAtLong {entries : List (Scalar × Value)} (h : StopsAtLong entries)
    (path : Path) : fileSettings path (.mapping entries) = .error .longInteger := by
  obtain ⟨pre, entry, post, hsplit, hpre, hentry⟩ := h
  have hall : entries.mapM (fileSetting path) = .error .longInteger :=
    mapM_eq_error_iff.2 ⟨pre, entry, post, hsplit,
      fun e he => exists_fileSetting_iff.2 (hpre e he), fileSetting_of_unwritable hentry⟩
  rw [fileSettings, hall]
  rfl

/-- What becomes of entries : all make settings, or the first that makes none is refused or has an
integer with too many digits. -/
theorem mapM_fileSetting_cases (path : Path) (entries : List (Scalar × Value)) :
    (∃ settings, entries.mapM (fileSetting path) = .ok settings) ∨
    (∃ pre entry post, entries = pre ++ entry :: post ∧ (∀ e ∈ pre, MakesSetting e) ∧
      ¬Unwritable entry ∧ (entry.2 = .sequence ∨ entry.2 = .mapping) ∧
      ∃ key, entries.mapM (fileSetting path) = .error (.nested key path)) ∨
    StopsAtLong entries := by
  cases hall : entries.mapM (fileSetting path) with
  | ok settings => exact .inl ⟨settings, rfl⟩
  | error e =>
    obtain ⟨pre, entry, post, hsplit, hpre, hentry⟩ := mapM_eq_error_iff.1 hall
    have hmakes : ∀ e ∈ pre, MakesSetting e := fun e he => exists_fileSetting_iff.1 (hpre e he)
    rcases fileSetting_cases path entry with
      ⟨-, setting, hok⟩ | ⟨hwritable, hvalue, key, hnested⟩ | ⟨hlong, -⟩
    · cases hok.symm.trans hentry
    · obtain rfl := Except.error.inj (hnested.symm.trans hentry)
      exact .inr (.inl ⟨pre, entry, post, hsplit, hmakes, hwritable, hvalue, key, rfl⟩)
    · exact .inr (.inr ⟨pre, entry, post, hsplit, hmakes, hlong⟩)

/-- What becomes of the content of a file. -/
theorem fileSettings_cases (path : Path) (content : Content) :
    (∃ settings, fileSettings path content = .ok settings) ∨
    (∃ e, fileSettings path content = .error e ∧ e.kind = .configuration) ∨
    ∃ entries, content = .mapping entries ∧ StopsAtLong entries := by
  cases content with
  | scalar s =>
    cases s with
    | null => exact .inl ⟨_, rfl⟩
    | _ => exact .inr (.inl ⟨_, rfl, rfl⟩)
  | sequence => exact .inr (.inl ⟨_, rfl, rfl⟩)
  | set => exact .inr (.inl ⟨_, rfl, rfl⟩)
  | mapping entries =>
    rw [fileSettings]
    rcases mapM_fileSetting_cases path entries with
      ⟨settings, hall⟩ | ⟨-, -, -, -, -, -, -, key, hall⟩ | hstops
    · rw [hall]
      exact .inl ⟨_, rfl⟩
    · rw [hall]
      exact .inr (.inl ⟨_, rfl, rfl⟩)
    · exact .inr (.inr ⟨entries, rfl, hstops⟩)

/-! ## Files -/

namespace FileSystem

variable {fs : FileSystem} {path : Path}

theorem walk_ne_nulInPath (last : Bool) (links : ℕ) (place names : List String) :
    fs.walk last links place names ≠ .error .nulInPath := by
  fun_induction walk fs last links place names <;> simp_all

theorem find_eq_nulInPath_iff :
    fs.find path = .error .nulInPath ↔ Char.ofNat 0 ∈ path.text.toList := by
  rw [find, String.contains_char_eq]
  split_ifs with hnul hlong
  · exact iff_of_true rfl (of_decide_eq_true hnul)
  · exact iff_of_false (by simp) (fun h => hnul (decide_eq_true h))
  · exact iff_of_false (fs.walk_ne_nulInPath _ _ _ _) (fun h => hnul (decide_eq_true h))

theorem read_eq_nulInPath_iff :
    fs.read path = .error .nulInPath ↔ Char.ofNat 0 ∈ path.text.toList := by
  rw [← find_eq_nulInPath_iff, read]
  cases fs.find path with
  | error e => simp [bind, Except.bind]
  | ok found =>
    obtain ⟨place, entry⟩ := found
    cases entry <;>
      simp [bind, Except.bind, pure, Except.pure, throw, throwThe, MonadExceptOf.throw]

end FileSystem

/-! ## Loading -/

theorem decode?_eq_none_iff {bs : List UInt8} :
    Text.decode? bs = none ↔ ∀ s, bs ≠ Text.encode s := by
  simp only [Option.eq_none_iff_forall_ne_some, ne_eq, Text.decode?_eq_some_iff]

/-- How a failure of the given kind gets out while a configuration is loaded. -/
inductive Escapes (fs : FileSystem) (read : Yaml.Reader) (path : Path) : Failure.Kind → Prop
  | nul (h : Char.ofNat 0 ∈ path.text.toList) : Escapes fs read path .value
  | bytes {bs : List UInt8} (hread : fs.read path = .ok bs) (h : ∀ s, bs ≠ Text.encode s) :
    Escapes fs read path .encoding
  | flaw {s : String} {flaw : YamlError} (hread : fs.read path = .ok (Text.encode s))
    (hyaml : read s = .error flaw) (h : flaw ≠ .malformed) : Escapes fs read path flaw.kind
  | digits {s : String} {entries : List (Scalar × Value)}
    (hread : fs.read path = .ok (Text.encode s)) (hyaml : read s = .ok (.mapping entries))
    (h : StopsAtLong entries) : Escapes fs read path .value

/-- Loading gives a configuration or reports a bad setting. -/
def LoadsOrReports (fs : FileSystem) (read : Yaml.Reader) (path : Path) : Prop :=
  (∃ c, fs.loadConf (some read) path = .ok c) ∨
    ∃ e, fs.loadConf (some read) path = .error e ∧ e.kind = .configuration

section Loading

variable {fs : FileSystem} {read : Yaml.Reader} {path : Path} {k : Failure.Kind}
  {e : LoadError}

theorem loadConf_of_error (h : fs.loadSettings (some read) path = .error e) :
    fs.loadConf (some read) path = .error e := by
  rw [FileSystem.loadConf, h]
  rfl

theorem exists_loadConf_of_ok {settings : OrderedMap (List Text.Point) (List Text.Point)}
    (h : fs.loadSettings (some read) path = .ok settings) :
    ∃ c, fs.loadConf (some read) path = .ok c := by
  rw [FileSystem.loadConf, h]
  exact ⟨_, rfl⟩

theorem loadSettings_of_unreadable {error : FileError} (h : fs.read path = .error error) :
    fs.loadSettings (some read) path = .error (.unreadable path error) := by
  simp only [FileSystem.loadSettings, h]
  rfl

theorem loadSettings_of_notText {bs : List UInt8} (hread : fs.read path = .ok bs)
    (h : Text.decode? bs = none) : fs.loadSettings (some read) path = .error .notText := by
  simp only [FileSystem.loadSettings, hread, h]
  rfl

theorem loadSettings_of_flaw {s : String} {flaw : YamlError}
    (hread : fs.read path = .ok (Text.encode s)) (h : read s = .error flaw) :
    fs.loadSettings (some read) path = .error (.flawed path flaw) := by
  simp only [FileSystem.loadSettings, hread, Text.decode?_encode, h]
  rfl

theorem loadSettings_of_content {s : String} {content : Content}
    (hread : fs.read path = .ok (Text.encode s)) (h : read s = .ok content) :
    fs.loadSettings (some read) path = fileSettings path content := by
  simp only [FileSystem.loadSettings, hread, Text.decode?_encode, h]

theorem Escapes.exists_loadConf_eq (h : Escapes fs read path k) :
    ∃ e, fs.loadConf (some read) path = .error e ∧ e.kind = k := by
  cases h with
  | nul h =>
    have hread : fs.read path = .error .nulInPath := FileSystem.read_eq_nulInPath_iff.2 h
    exact ⟨_, loadConf_of_error (loadSettings_of_unreadable hread), rfl⟩
  | bytes hread h =>
    have hdecode := decode?_eq_none_iff.2 h
    exact ⟨_, loadConf_of_error (loadSettings_of_notText hread hdecode), rfl⟩
  | flaw hread hyaml h => exact ⟨_, loadConf_of_error (loadSettings_of_flaw hread hyaml), rfl⟩
  | digits hread hyaml h =>
    have hsettings := loadSettings_of_content hread hyaml
    rw [fileSettings_of_stopsAtLong h] at hsettings
    exact ⟨_, loadConf_of_error hsettings, rfl⟩

theorem Escapes.isOwn_eq_false (h : Escapes fs read path k) : k.isOwn = false := by
  cases h with
  | nul | bytes | digits => rfl
  | @flaw s flaw hread hyaml h =>
    cases flaw with
    | malformed => exact absurd rfl h
    | _ => rfl

/-- Loading gives a configuration, reports a bad setting or lets another failure out. -/
theorem loadConf_cases (fs : FileSystem) (read : Yaml.Reader) (path : Path) :
    LoadsOrReports fs read path ∨ ∃ k, Escapes fs read path k := by
  have hreports {e} (h : fs.loadSettings (some read) path = .error e)
      (hkind : e.kind = .configuration) : LoadsOrReports fs read path :=
    .inr ⟨e, loadConf_of_error h, hkind⟩
  cases hread : fs.read path with
  | error error =>
    by_cases hnul : error = .nulInPath
    · exact .inr ⟨_, .nul (FileSystem.read_eq_nulInPath_iff.1 (hnul ▸ hread))⟩
    · refine .inl (hreports (loadSettings_of_unreadable hread) ?_)
      cases error with
      | nulInPath => exact absurd rfl hnul
      | _ => rfl
  | ok bs =>
    cases hdecode : Text.decode? bs with
    | none => exact .inr ⟨_, .bytes hread (decode?_eq_none_iff.1 hdecode)⟩
    | some s =>
      obtain rfl := Text.decode?_eq_some_iff.1 hdecode
      cases hyaml : read s with
      | error flaw =>
        by_cases hflaw : flaw = .malformed
        · exact .inl (hreports (loadSettings_of_flaw hread hyaml) (by rw [hflaw]; rfl))
        · exact .inr ⟨_, .flaw hread hyaml hflaw⟩
      | ok content =>
        have hsettings := loadSettings_of_content hread hyaml
        rcases fileSettings_cases path content with ⟨settings, hok⟩ | ⟨e, he, hkind⟩ |
            ⟨entries, rfl, hstops⟩
        · exact .inl (.inl (exists_loadConf_of_ok (hsettings.trans hok)))
        · exact .inl (hreports (hsettings.trans he) hkind)
        · exact .inr ⟨_, .digits hread hyaml hstops⟩

end Loading

/-- Without the library for its files, loading says so. With it, loading gives a configuration or
reports a bad setting exactly if no other failure gets out, and a failure that gets out is none of
the library's own. -/
theorem loadConf_reports_iff (fs : FileSystem) (read : Yaml.Reader) (path : Path) :
    (fs.loadConf none path = .error .libraryMissing ∧
      LoadError.libraryMissing.kind = .missingLibrary) ∧
    (LoadsOrReports fs read path ↔ ∀ k, ¬Escapes fs read path k) ∧
    ∀ k, Escapes fs read path k →
      (∃ e, fs.loadConf (some read) path = .error e ∧ e.kind = k) ∧ k.isOwn = false := by
  refine ⟨⟨rfl, rfl⟩, ⟨fun h k hk => ?_, fun h => ?_⟩,
    fun k hk => ⟨hk.exists_loadConf_eq, hk.isOwn_eq_false⟩⟩
  · obtain ⟨e, he, hkind⟩ := hk.exists_loadConf_eq
    rcases h with ⟨c, hc⟩ | ⟨e', he', hconf⟩
    · cases hc.symm.trans he
    · obtain rfl := Except.error.inj (he.symm.trans he')
      have hown := hk.isOwn_eq_false
      rw [← hkind, hconf] at hown
      cases hown
  · exact (loadConf_cases fs read path).resolve_right fun ⟨k, hk⟩ => h k hk

/-- A single file, with a byte that no text has. -/
def binaryFile : FileSystem := ⟨[(["c.yaml"], .file [0xFF])], [], "/", []⟩

theorem read_binaryFile :
    binaryFile.read ⟨"", ["c.yaml"]⟩ = .ok [0xFF] ∧
      binaryFile.read ⟨"", ["d.yaml"]⟩ = .error .notFound :=
  ⟨FileSystem.read_name (by decide) rfl rfl,
    FileSystem.read_absent (by decide) rfl rfl⟩

theorem decode?_binaryFile : Text.decode? [0xFF] = none := by decide

/-- A path that leads nowhere is reported, and bytes that are no text are not. -/
theorem loadConf_reports_iff_binaryFile :
    LoadsOrReports binaryFile Yaml.read ⟨"", ["d.yaml"]⟩ ∧
    ∃ e, binaryFile.loadConf (some Yaml.read) ⟨"", ["c.yaml"]⟩ = .error e ∧ e.kind = .encoding := by
  obtain ⟨hfound, hmissing⟩ := read_binaryFile
  constructor
  · refine (loadConf_reports_iff _ _ _).2.1.2 fun k hk => ?_
    cases hk with
    | nul h => exact absurd h (by decide)
    | bytes hread _ => cases hmissing.symm.trans hread
    | flaw hread _ _ => cases hmissing.symm.trans hread
    | digits hread _ _ => cases hmissing.symm.trans hread
  · have hbytes := decode?_eq_none_iff.1 decode?_binaryFile
    exact ((loadConf_reports_iff _ _ _).2.2 _ (.bytes hfound hbytes)).1

/-- Bytes that are no text let a failure out that is none of the library's own. -/
theorem not_loadsOrReports_binaryFile :
    ¬LoadsOrReports binaryFile Yaml.read ⟨"", ["c.yaml"]⟩ ∧
    binaryFile.loadConf (some Yaml.read) ⟨"", ["c.yaml"]⟩ = .error .notText ∧
    LoadError.notText.kind.isOwn = false := by
  have hload : binaryFile.loadConf (some Yaml.read) ⟨"", ["c.yaml"]⟩ = .error .notText :=
    loadConf_of_error (loadSettings_of_notText read_binaryFile.1 decode?_binaryFile)
  refine ⟨?_, hload, rfl⟩
  rintro (⟨c, hc⟩ | ⟨e, he, hkind⟩)
  · cases hc.symm.trans hload
  · obtain rfl := Except.error.inj (hload.symm.trans he)
    cases hkind

end StorageHandler
