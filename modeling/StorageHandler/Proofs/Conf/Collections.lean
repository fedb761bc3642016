import StorageHandler.Proofs.Conf.Contents

/-!
# Collections in a configuration file

The value of an entry is to be a scalar. A sequence or a mapping is refused, but nothing looks for
sets : the members of one are written between braces, and that is the setting (`Renders`).

A file with a mapping comes to one of three ends (`Settles`) : the first entry that makes no setting
has a sequence or a mapping as its value, or it has an integer that is too long to be written, or
every entry makes one. It is refused in the first case alone (`refuses_iff_stopsAtNested`). Where
all integers can be written, that is the case if there is a sequence or a mapping among its values
(`exists_stopsAtNested_iff_of_writable`). In the last case all collections in it are sets, and each
of them is found in the settings as text if no later key is written alike
(`Settles.find?_of_isCollection`). `refuses_exactly` puts this together.
-/

namespace StorageHandler

open Yaml (Content Scalar Value)

/-! ## Entries -/

/-- A value that holds others : in order, under keys or as members. -/
inductive Yaml.Value.IsCollection : Value → Prop
  | nested {value : Value} (h : value.IsNested) : IsCollection value
  | set {members : List Scalar} : IsCollection (.set members)

/-- The text that a value becomes as a setting, if it becomes one. -/
def Yaml.Value.text? : Value → Option (List Text.Point)
  | .scalar s => settingText s
  | .set members => (setText members).map Text.points
  | .sequence | .mapping => none

/-- An entry makes a setting of the texts of its key and its value. -/
structure Renders (entry : Scalar × Value) (setting : List Text.Point × List Text.Point) :
    Prop where
  key : entry.1.plain? = some setting.1
  value : entry.2.text? = some setting.2

section Entries

variable {path : Path} {entry : Scalar × Value} {setting : List Text.Point × List Text.Point}

theorem Yaml.Value.IsNested.text?_eq_none {value : Value} (h : value.IsNested) :
    value.text? = none := by
  cases h <;> rfl

theorem Renders.not_isNested (h : Renders entry setting) : ¬entry.2.IsNested := by
  intro hnested
  cases hnested.text?_eq_none.symm.trans h.value

theorem fileSetting_eq_ok_iff : fileSetting path entry = .ok setting ↔ Renders entry setting := by
  obtain ⟨key, value⟩ := entry
  obtain ⟨k, text⟩ := setting
  cases hkey : key.plain? with
  | none =>
    rw [fileSetting_of_long (plain?_eq_none_iff.1 hkey)]
    exact ⟨nofun, fun h => nomatch hkey.symm.trans h.key⟩
  | some k' =>
    have hrenders : Renders (key, value) (k, text) ↔ k' = k ∧ value.text? = some text := by
      refine ⟨fun h => ⟨Option.some.inj (hkey.symm.trans h.key), h.value⟩, ?_⟩
      rintro ⟨rfl, h⟩
      exact ⟨hkey, h⟩
    rw [hrenders]
    cases value with
    | sequence =>
      rw [fileSetting_sequence hkey]
      exact ⟨nofun, nofun⟩
    | mapping =>
      rw [fileSetting_mapping hkey]
      exact ⟨nofun, nofun⟩
    | scalar s =>
      rw [fileSetting_scalar hkey, Value.text?]
      cases settingText s <;> simp
    | set members =>
      rw [fileSetting_set hkey, Value.text?]
      cases setText members <;> simp

theorem Renders.makesSetting (h : Renders entry setting) : MakesSetting entry := by
  have hsetting : fileSetting ⟨"", []⟩ entry = .ok setting := fileSetting_eq_ok_iff.2 h
  exact exists_fileSetting_iff.1 ⟨setting, hsetting⟩

theorem Renders.key_eq (h : Renders entry setting) : setting.1 = entry.1.keyText := by
  have hshort := not_long_of_plain? h.key
  exact Option.some.inj (h.key.symm.trans (plain?_of_not_long hshort))

/-- Of the collections only sets become text. -/
theorem Renders.exists_members (h : Renders entry setting) (hvalue : entry.2.IsCollection) :
    ∃ members text, entry.2 = .set members ∧ setText members = some text ∧
      setting.2 = Text.points text := by
  obtain ⟨key, value⟩ := entry
  cases hvalue with
  | nested hnested => exact absurd hnested h.not_isNested
  | @set members =>
    obtain ⟨text, htext, heq⟩ := Option.map_eq_some_iff.1 h.value
    exact ⟨members, text, rfl, htext, heq.symm⟩

theorem map_fst_of_forall₂_renders {entries : List (Scalar × Value)}
    {settings : List (List Text.Point × List Text.Point)}
    (h : List.Forall₂ Renders entries settings) :
    settings.map Prod.fst = entries.map fun e => e.1.keyText := by
  induction h with
  | nil => rfl
  | cons hrenders _ ih => rw [List.map_cons, List.map_cons, hrenders.key_eq, ih]

end Entries

/-! ## Mappings -/

/-- The first of the entries that makes no setting has a sequence or a mapping under `key`. -/
def StopsAtNested (entries : List (Scalar × Value)) (key : Scalar) : Prop :=
  ∃ pre value post, entries = pre ++ (key, value) :: post ∧ (∀ e ∈ pre, MakesSetting e) ∧
    ¬key.Long ∧ value.IsNested

/-- The end that a file with a mapping at a path comes to. -/
inductive Settles (path : Path) (entries : List (Scalar × Value)) :
    Except LoadError (OrderedMap (List Text.Point) (List Text.Point)) → Prop
  | nested {key : Scalar} (h : StopsAtNested entries key) :
    Settles path entries (.error (.nested key.keyText path))
  | long (h : StopsAtLong entries) : Settles path entries (.error .longInteger)
  | settings {settings : List (List Text.Point × List Text.Point)}
    {m : OrderedMap (List Text.Point) (List Text.Point)}
    (h : List.Forall₂ Renders entries settings) (hm : m.Gathers settings) :
    Settles path entries (.ok m)

section Mappings

variable {path : Path} {entries : List (Scalar × Value)}
  {r : Except LoadError (OrderedMap (List Text.Point) (List Text.Point))}

theorem exists_settles (path : Path) (entries : List (Scalar × Value)) :
    ∃ r, Settles path entries r := by
  rcases mapM_fileSetting_cases path entries with
    ⟨settings, hall⟩ | ⟨pre, ⟨key, value⟩, post, hsplit, hmakes, hwritable, hnested, -⟩ | hstops
  · have hrenders : List.Forall₂ Renders entries settings :=
      (mapM_eq_ok_iff_forall₂.1 hall).imp fun _ _ h => fileSetting_eq_ok_iff.1 h
    exact ⟨_, .settings hrenders (OrderedMap.gathers_iff.2 rfl)⟩
  · have hkey : ¬key.Long := fun h => hwritable (.key h)
    have hvalue : value.IsNested := by
      rcases hnested with h | h <;> obtain rfl : value = _ := h
      · exact .sequence
      · exact .mapping
    exact ⟨_, .nested ⟨pre, value, post, hsplit, hmakes, hkey, hvalue⟩⟩
  · exact ⟨_, .long hstops⟩

theorem Settles.fileSettings_eq (h : Settles path entries r) :
    fileSettings path (.mapping entries) = r := by
  cases h with
  | nested h =>
    obtain ⟨pre, value, post, hsplit, hpre, hkey, hvalue⟩ := h
    have hall : entries.mapM (fileSetting path) = .error (.nested _ path) :=
      mapM_eq_error_iff.2 ⟨pre, _, post, hsplit,
        fun e he => exists_fileSetting_iff.2 (hpre e he), fileSetting_nested hkey hvalue⟩
    rw [fileSettings, hall]
    rfl
  | long h => exact fileSettings_of_stopsAtLong h path
  | @settings settings m h hm =>
    have hall : entries.mapM (fileSetting path) = .ok settings :=
      mapM_eq_ok_iff_forall₂.2 (h.imp fun _ _ h => fileSetting_eq_ok_iff.2 h)
    rw [fileSettings, hall, OrderedMap.gathers_iff.1 hm]
    rfl

/-- A mapping comes to one end, and that is what comes out. -/
theorem fileSettings_eq_iff_settles :
    fileSettings path (.mapping entries) = r ↔ Settles path entries r := by
  refine ⟨?_, Settles.fileSettings_eq⟩
  rintro rfl
  obtain ⟨r, hr⟩ := exists_settles path entries
  rwa [hr.fileSettings_eq]

theorem exists_stopsAtNested_iff_of_writable (h : ∀ e ∈ entries, ¬Unwritable e) :
    (∃ key, StopsAtNested entries key) ↔ ∃ e ∈ entries, e.2.IsNested := by
  constructor
  · rintro ⟨key, pre, value, post, rfl, -, -, hvalue⟩
    exact ⟨_, List.mem_append_right _ (List.mem_cons_self ..), hvalue⟩
  · rintro ⟨e, he, hnested⟩
    obtain ⟨r, hr⟩ := exists_settles ⟨"", []⟩ entries
    cases hr with
    | nested hstops => exact ⟨_, hstops⟩
    | long hlong =>
      obtain ⟨pre, entry, post, rfl, -, hentry⟩ := hlong
      exact absurd hentry (h _ (List.mem_append_right _ (List.mem_cons_self ..)))
    | settings hrenders _ =>
      obtain ⟨pre, post, rfl⟩ := List.append_of_mem he
      obtain ⟨_, setting, _, -, hsetting, -⟩ := exists_append_cons_of_forall₂ hrenders
      exact absurd hnested hsetting.not_isNested

/-- A collection whose entry makes a setting is a set, and its text is found under its key if no
later key is written alike. -/
theorem Settles.find?_of_isCollection {m : OrderedMap (List Text.Point) (List Text.Point)}
    {pre post : List (Scalar × Value)} {key : Scalar} {value : Value}
    (h : Settles path (pre ++ (key, value) :: post) (.ok m)) (hvalue : value.IsCollection)
    (hlast : ∀ e ∈ post, e.1.keyText ≠ key.keyText) :
    ∃ members text, value = .set members ∧ setText members = some text ∧
      m.find? key.keyText = some (Text.points text) := by
  cases h with
  | settings hrenders hm =>
    obtain ⟨pre', setting, post', rfl, hsetting, hpost⟩ := exists_append_cons_of_forall₂ hrenders
    obtain ⟨members, text, hset, htext, heq⟩ := hsetting.exists_members hvalue
    have hkey : setting.1 = key.keyText := hsetting.key_eq
    have hnew : setting.1 ∉ post'.map Prod.fst := by
      rw [map_fst_of_forall₂_renders hpost, hkey, List.mem_map]
      rintro ⟨e, he, heq⟩
      exact hlast e he heq
    refine ⟨members, text, hset, htext, ?_⟩
    rw [OrderedMap.gathers_iff.1 hm, ← hkey, OrderedMap.find?_ofList_append_cons pre' hnew, heq]

end Mappings

/-! ## Files -/

/-- A file is refused for what is wrong with its settings. -/
def Refuses (fs : FileSystem) (read : Yaml.Reader) (path : Path) : Prop :=
  ∃ e, fs.loadConf (some read) path = .error e ∧ e.kind = .configuration

section Files

variable {fs : FileSystem} {read : Yaml.Reader} {path : Path} {s : String}
  {entries : List (Scalar × Value)} (hread : fs.read path = .ok (Text.encode s))
  (hyaml : read s = .ok (.mapping entries))

include hread hyaml

theorem loadSettings_eq_iff_settles
    {r : Except LoadError (OrderedMap (List Text.Point) (List Text.Point))} :
    fs.loadSettings (some read) path = r ↔ Settles path entries r := by
  rw [loadSettings_of_content hread hyaml, fileSettings_eq_iff_settles]

theorem refuses_iff_stopsAtNested : Refuses fs read path ↔ ∃ key, StopsAtNested entries key := by
  constructor
  · rintro ⟨e, he, hkind⟩
    obtain ⟨r, hr⟩ := exists_settles path entries
    have hload := (loadSettings_eq_iff_settles hread hyaml).2 hr
    cases hr with
    | nested h => exact ⟨_, h⟩
    | long =>
      obtain rfl := Except.error.inj ((loadConf_of_error hload).symm.trans he)
      cases hkind
    | settings =>
      obtain ⟨c, hc⟩ := exists_loadConf_of_ok hload
      cases hc.symm.trans he
  · rintro ⟨key, h⟩
    have hload := (loadSettings_eq_iff_settles hread hyaml).2 (.nested h)
    exact ⟨_, loadConf_of_error hload, rfl⟩

end Files

/-- A file with a mapping comes to one end. It is refused exactly if the first entry that makes no
setting has a sequence or a mapping, so, if all integers can be written, exactly if there is one.
Otherwise its collections are sets, and they are written into the settings. -/
theorem refuses_exactly {fs : FileSystem} {read : Yaml.Reader} {path : Path} {s : String}
    {entries : List (Scalar × Value)} (hread : fs.read path = .ok (Text.encode s))
    (hyaml : read s = .ok (.mapping entries)) :
    (∀ r, fs.loadSettings (some read) path = r ↔ Settles path entries r) ∧
    (Refuses fs read path ↔ ∃ key, StopsAtNested entries key) ∧
    ((∀ e ∈ entries, ¬Unwritable e) → (Refuses fs read path ↔ ∃ e ∈ entries, e.2.IsNested)) ∧
    ∀ m, fs.loadSettings (some read) path = .ok m →
      fs.loadConf (some read) path = .ok (.ofList (m.entries.map jointSetting)) ∧
      ∀ pre key value post, entries = pre ++ (key, value) :: post → value.IsCollection →
        (∀ e ∈ post, e.1.keyText ≠ key.keyText) →
        ∃ members text, value = .set members ∧ setText members = some text ∧
          m.find? key.keyText = some (Text.points text) := by
  have hsettles {r} := loadSettings_eq_iff_settles (r := r) hread hyaml
  have hrefuses := refuses_iff_stopsAtNested hread hyaml
  refine ⟨fun r => hsettles, hrefuses,
    fun h => hrefuses.trans (exists_stopsAtNested_iff_of_writable h),
    fun m hm => ⟨loadConf_of_settings hm, ?_⟩⟩
  rintro pre key value post rfl hvalue hlast
  exact (hsettles.1 hm).find?_of_isCollection hvalue hlast

/-- A single file with a text. -/
def singleFile (text : String) : FileSystem :=
  ⟨[(["c.yaml"], .file (Text.encode text))], [], "/", []⟩

theorem read_singleFile (text : String) :
    (singleFile text).read ⟨"", ["c.yaml"]⟩ = .ok (Text.encode text) :=
  FileSystem.read_name (by decide) rfl rfl

/-- A text with a set of one member. -/
def setDocument : String := "'a': !!set \x7b'x'\x7d"

/-- What `setDocument` says. -/
def setEntry : Scalar × Value := (.text (Text.points "a"), .set [.text (Text.points "x")])

theorem read_setDocument : Yaml.read setDocument = .ok (.mapping [setEntry]) := by decide +kernel

theorem setText_setEntry : setText [.text (Text.points "x")] = some "\x7b'x'\x7d" := by
  decide +kernel

theorem renders_setEntry : Renders setEntry (Text.points "a", Text.points "\x7b'x'\x7d") :=
  ⟨rfl, congrArg (Option.map Text.points) setText_setEntry⟩

/-- A text with a set and a sequence. -/
def setThenSequence : String := setDocument ++ "\n'b': []"

theorem read_setThenSequence : Yaml.read setThenSequence =
    .ok (.mapping [setEntry, (.text (Text.points "b"), .sequence)]) := by
  decide +kernel

/-- A set makes a setting, and the sequence after it is why the file is refused. -/
theorem refuses_exactly_setThenSequence :
    let path : Path := ⟨"", ["c.yaml"]⟩
    Refuses (singleFile setThenSequence) Yaml.read path ∧
    (singleFile setThenSequence).loadSettings (some Yaml.read) path =
      .error (.nested (Text.points "b") path) := by
  intro path
  have hstops : StopsAtNested [setEntry, (.text (Text.points "b"), .sequence)]
      (.text (Text.points "b")) :=
    ⟨[setEntry], .sequence, [], rfl, List.forall_mem_singleton.2 renders_setEntry.makesSetting,
      nofun, .sequence⟩
  obtain ⟨hsettles, hrefuses, -⟩ :=
    refuses_exactly (read_singleFile setThenSequence) read_setThenSequence
  exact ⟨hrefuses.2 ⟨_, hstops⟩, (hsettles _).2 (.nested hstops)⟩

/-- A file with a set is not refused : the set becomes the value of a setting. -/
theorem not_refuses_setDocument :
    let path : Path := ⟨"", ["c.yaml"]⟩
    (singleFile setDocument).read path = .ok (Text.encode setDocument) ∧
    Yaml.read setDocument = .ok (.mapping [setEntry]) ∧ setEntry.2.IsCollection ∧
    ¬Refuses (singleFile setDocument) Yaml.read path ∧
    ∃ c, (singleFile setDocument).loadConf (some Yaml.read) path = .ok c ∧
      c.entries = [("a", "\x7b'x'\x7d")] := by
  intro path
  have hsettles : Settles path [setEntry] (.ok (.ofList _)) :=
    .settings (.cons renders_setEntry .nil) (OrderedMap.gathers_iff.2 rfl)
  have hload := (loadSettings_eq_iff_settles (read_singleFile setDocument) read_setDocument).2
    hsettles
  have hconf := loadConf_of_settings hload
  refine ⟨read_singleFile setDocument, read_setDocument, .set, ?_, _, hconf, by decide⟩
  rintro ⟨e, he, -⟩
  cases hconf.symm.trans he

end StorageHandler
