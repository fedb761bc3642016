import Mathlib.Data.List.Nodup
import StorageHandler.Proofs.Conf.Entries
import StorageHandler.Proofs.Conf.File

/-!
# What a configuration file says

Content gives settings, or what is wrong with it (`Gives`). Nothing gives no settings, and a mapping
of scalars gives one for every entry, in order, where keys with the same text are one. Another root
is refused, and so is the first entry that has no scalar, which is named by the text of its key. If
every integer can be written, that is all that comes out (`fileSettings_eq_iff`), and a
configuration takes every text in it (`fileSettings_exactly`).
-/

namespace StorageHandler

open Yaml (Content Scalar Value)

/-! ## Texts of scalars -/

/-- The text of a scalar as a key, with every digit of an integer. -/
def Yaml.Scalar.keyText : Scalar → List Text.Point
  | .null => Text.points "None"
  | .boolean b => Text.points (if b then "True" else "False")
  | .integer i => Text.points (Text.Numeral.text i)
  | .number x => Text.points (numberLayout.write x)
  | .text ps => ps
  | .bytes bs => Text.points (Text.quotedBytes bs)
  | .date d => Text.points d.text
  | .moment m => Text.points m.text

/-- The text of a scalar as a value. Truth values are integers too, but they are written as
words. -/
def Yaml.Scalar.valueText : Scalar → List Text.Point
  | .null => []
  | .boolean b => Text.points (if b then "true" else "false")
  | s => s.keyText

theorem plain?_of_not_long {s : Scalar} (h : ¬s.Long) : s.plain? = some s.keyText := by
  cases s with
  | integer i =>
    have hdigits : ¬Text.Numeral.maxDigits < (Text.Numeral.decimalDigits i.natAbs).length :=
      fun hlong => h (.integer hlong)
    simp only [Scalar.plain?, Scalar.quoted?, Text.Numeral.text?, if_neg hdigits]
    rfl
  | _ => rfl

theorem settingText_of_not_long {s : Scalar} (h : ¬s.Long) : settingText s = some s.valueText := by
  cases s with
  | null | boolean => rfl
  | _ => exact plain?_of_not_long h

/-! ## Entries -/

/-- An entry with a scalar as its value. -/
def flatEntry (e : Scalar × Scalar) : Scalar × Value := (e.1, .scalar e.2)

/-- The setting that an entry with a scalar makes. -/
def flatSetting (e : Scalar × Scalar) : List Text.Point × List Text.Point :=
  (e.1.keyText, e.2.valueText)

/-- A value with values in it, in order or under keys. -/
inductive Yaml.Value.IsNested : Value → Prop
  | sequence : IsNested .sequence
  | mapping : IsNested .mapping

/-- A value that is no set, without integers that cannot be written. -/
def Yaml.Value.Ordinary : Value → Prop
  | .scalar s => ¬s.Long
  | .sequence | .mapping => True
  | .set _ => False

theorem Yaml.Value.Ordinary.scalar_or_nested {value : Value} (h : value.Ordinary) :
    (∃ s, value = .scalar s) ∨ value.IsNested := by
  cases value with
  | scalar s => exact .inl ⟨s, rfl⟩
  | sequence => exact .inr .sequence
  | mapping => exact .inr .mapping
  | set => exact h.elim

/-- An entry in which every integer can be written. -/
structure OrdinaryEntry (entry : Scalar × Value) : Prop where
  key : ¬entry.1.Long
  value : entry.2.Ordinary

section Entries

variable {path : Path}

theorem fileSetting_flatEntry {e : Scalar × Scalar} (h : OrdinaryEntry (flatEntry e)) :
    fileSetting path (flatEntry e) = .ok (flatSetting e) := by
  have hkey : e.1.plain? = some e.1.keyText := plain?_of_not_long h.key
  have hvalue : settingText e.2 = some e.2.valueText := settingText_of_not_long h.value
  rw [flatEntry, fileSetting_scalar hkey, hvalue]
  rfl

theorem fileSetting_nested {key : Scalar} {value : Value} (hkey : ¬key.Long)
    (h : value.IsNested) : fileSetting path (key, value) = .error (.nested key.keyText path) := by
  cases h with
  | sequence => exact fileSetting_sequence (plain?_of_not_long hkey)
  | mapping => exact fileSetting_mapping (plain?_of_not_long hkey)

section Lists

variable {flat : List (Scalar × Scalar)} (h : ∀ e ∈ flat.map flatEntry, OrdinaryEntry e)

include h

theorem mapM_fileSetting_flat :
    (flat.map flatEntry).mapM (fileSetting path) = .ok (flat.map flatSetting) := by
  rw [mapM_eq_ok_iff_forall₂, List.forall₂_map_left_iff, List.forall₂_map_right_iff,
    List.forall₂_same]
  exact fun e he => fileSetting_flatEntry (h _ (List.mem_map_of_mem he))

theorem mapM_fileSetting_nested {key : Scalar} {value : Value} (hkey : ¬key.Long)
    (hvalue : value.IsNested) (post : List (Scalar × Value)) :
    (flat.map flatEntry ++ (key, value) :: post).mapM (fileSetting path) =
      .error (.nested key.keyText path) := by
  refine mapM_eq_error_iff.2 ⟨_, _, _, rfl, fun e he => ?_, fileSetting_nested hkey hvalue⟩
  obtain ⟨e, -, rfl⟩ := List.mem_map.1 he
  exact ⟨_, fileSetting_flatEntry (h _ he)⟩

end Lists

/-- Entries all have scalars, or there is a first one that has not. -/
theorem flat_or_nested {entries : List (Scalar × Value)} (h : ∀ e ∈ entries, OrdinaryEntry e) :
    (∃ flat : List (Scalar × Scalar), entries = flat.map flatEntry) ∨
    ∃ (flat : List (Scalar × Scalar)) (key : Scalar) (value : Value) (post : List (Scalar × Value)),
      entries = flat.map flatEntry ++ (key, value) :: post ∧ value.IsNested := by
  induction entries with
  | nil => exact .inl ⟨[], rfl⟩
  | cons e entries ih =>
    obtain ⟨he, hentries⟩ := List.forall_mem_cons.1 h
    obtain ⟨key, value⟩ := e
    rcases he.value.scalar_or_nested with ⟨s, rfl⟩ | hnested
    · rcases ih hentries with ⟨flat, rfl⟩ | ⟨flat, key', value, post, rfl, hnested⟩
      · exact .inl ⟨(key, s) :: flat, rfl⟩
      · exact .inr ⟨(key, s) :: flat, key', value, post, rfl, hnested⟩
    · exact .inr ⟨[], key, value, entries, rfl, hnested⟩

end Entries

/-! ## Contents -/

/-- Content without sets among its values, in which every integer can be written. -/
def Yaml.Content.Ordinary : Content → Prop
  | .mapping entries => ∀ e ∈ entries, OrdinaryEntry e
  | _ => True

/-- Content that is neither nothing nor a mapping. -/
inductive Yaml.Content.NoMapping : Content → Prop
  | scalar {s : Scalar} (h : s ≠ .null) : NoMapping (.scalar s)
  | sequence : NoMapping .sequence
  | set : NoMapping .set

/-- What the content of a file at a path gives : settings, or what is wrong with it. -/
inductive Gives (path : Path) :
    Content → Except LoadError (OrderedMap (List Text.Point) (List Text.Point)) → Prop
  | nothing : Gives path (.scalar .null) (.ok .empty)
  | noMapping {content : Content} (h : content.NoMapping) :
    Gives path content (.error (.notMapping path))
  | nested {flat : List (Scalar × Scalar)} {key : Scalar} {value : Value}
    {post : List (Scalar × Value)} (h : value.IsNested) :
    Gives path (.mapping (flat.map flatEntry ++ (key, value) :: post))
      (.error (.nested key.keyText path))
  | settings {flat : List (Scalar × Scalar)}
    {m : OrderedMap (List Text.Point) (List Text.Point)} (h : m.Gathers (flat.map flatSetting)) :
    Gives path (.mapping (flat.map flatEntry)) (.ok m)

section Contents

variable {path : Path} {content : Content}
  {r : Except LoadError (OrderedMap (List Text.Point) (List Text.Point))}

theorem exists_gives (path : Path) (h : content.Ordinary) : ∃ r, Gives path content r := by
  cases content with
  | scalar s =>
    cases s with
    | null => exact ⟨_, .nothing⟩
    | _ => exact ⟨_, .noMapping (.scalar nofun)⟩
  | sequence => exact ⟨_, .noMapping .sequence⟩
  | set => exact ⟨_, .noMapping .set⟩
  | mapping entries =>
    rcases flat_or_nested h with ⟨flat, rfl⟩ | ⟨flat, key, value, post, rfl, hnested⟩
    · exact ⟨_, .settings (OrderedMap.gathers_iff.2 rfl)⟩
    · exact ⟨_, .nested hnested⟩

theorem Gives.fileSettings_eq (h : content.Ordinary) (hr : Gives path content r) :
    fileSettings path content = r := by
  cases hr with
  | nothing => rfl
  | noMapping hroot =>
    cases hroot with
    | @scalar s hs =>
      cases s with
      | null => exact absurd rfl hs
      | _ => rfl
    | sequence | set => rfl
  | nested hnested =>
    obtain ⟨hflat, hrest⟩ := List.forall_mem_append.1 h
    have hkey := (hrest _ (List.mem_cons_self ..)).key
    rw [fileSettings, mapM_fileSetting_nested hflat hkey hnested]
    rfl
  | settings hm =>
    rw [fileSettings, mapM_fileSetting_flat h, OrderedMap.gathers_iff.1 hm]
    rfl

/-- Content gives one thing, and that is what comes out. -/
theorem fileSettings_eq_iff (h : content.Ordinary) :
    fileSettings path content = r ↔ Gives path content r := by
  refine ⟨?_, Gives.fileSettings_eq h⟩
  rintro rfl
  obtain ⟨r, hr⟩ := exists_gives path h
  rwa [hr.fileSettings_eq h]

theorem Gives.kind_eq {e : LoadError} (h : Gives path content (.error e)) :
    e.kind = .configuration := by
  cases h <;> rfl

end Contents

/-! ## Files -/

/-- A setting of characters. -/
def jointSetting (e : List Text.Point × List Text.Point) : String × String :=
  (Text.joined e.1, Text.joined e.2)

theorem loadConf_of_settings {fs : FileSystem} {read : Yaml.Reader} {path : Path}
    {m : OrderedMap (List Text.Point) (List Text.Point)}
    (h : fs.loadSettings (some read) path = .ok m) :
    fs.loadConf (some read) path = .ok (.ofList (m.entries.map jointSetting)) := by
  rw [FileSystem.loadConf, h]
  rfl

/-- Settings of whole characters stay as they are. -/
theorem entries_ofList_jointSetting {m : OrderedMap (List Text.Point) (List Text.Point)}
    {ts : List (String × String)} (h : m.entries = ts.map (Prod.map Text.points Text.points)) :
    (OrderedMap.ofList (m.entries.map jointSetting)).entries = ts := by
  have hjoint : m.entries.map jointSetting = ts := by
    rw [h, List.map_map]
    exact List.map_id'' (fun t => Prod.ext (Text.joined_points t.1) (Text.joined_points t.2)) ts
  have hkeys : ((ts.map Prod.fst).map Text.points).Nodup := by
    have hnodup := m.nodup
    rw [h, List.map_map] at hnodup
    rwa [List.map_map]
  have hnodup : (ts.map Prod.fst).Nodup := List.Nodup.of_map Text.points hkeys
  rw [hjoint, OrderedMap.ofList, OrderedMap.entries_insertMany_of_nodup _ _ hnodup]
  rfl

/-- Content without sets and without integers that are too long gives just what its scalars say, or
a bad setting : there is no mapping, or the first key that has no scalar is named. A file with that
content gives the same, and a configuration takes every text in it. -/
theorem fileSettings_exactly {content : Content} (h : content.Ordinary) (path : Path) :
    (∀ r, fileSettings path content = r ↔ Gives path content r) ∧
    (∀ e, fileSettings path content = .error e → e.kind = .configuration) ∧
    (∀ key, (LoadError.nested key path).text =
      Text.points "Configuration key '" ++ key ++ Text.points ("' in " ++ path.text ++
        " has a nested value. Only flat key/value pairs are supported.")) ∧
    ∀ (fs : FileSystem) (read : Yaml.Reader) (s : String), fs.read path = .ok (Text.encode s) →
      read s = .ok content →
      fs.loadSettings (some read) path = fileSettings path content ∧
      (∀ e, fileSettings path content = .error e → fs.loadConf (some read) path = .error e) ∧
      ∀ m, fileSettings path content = .ok m → ∃ c, fs.loadConf (some read) path = .ok c ∧
        JobConf.ofEntries (textEntries (m.entries.map jointSetting)) = .ok c ∧
        ∀ ts, m.entries = ts.map (Prod.map Text.points Text.points) → c.entries = ts := by
  refine ⟨fun r => fileSettings_eq_iff h, fun e he => ((fileSettings_eq_iff h).1 he).kind_eq,
    fun key => rfl, fun fs read s hread hyaml => ?_⟩
  have hload := loadSettings_of_content hread hyaml
  refine ⟨hload, fun e he => loadConf_of_error (hload.trans he), fun m hm => ?_⟩
  exact ⟨_, loadConf_of_settings (hload.trans hm), JobConf.ofEntries_textEntries _,
    fun ts => entries_ofList_jointSetting⟩

section

-- only the numbers are not compared by evaluation
noncomputable local instance decidableEqFloat : DecidableEq Float := Classical.typeDecidableEq Float

deriving noncomputable instance DecidableEq for Scalar, Value, Content

end

/-- Content with a number and a text as keys that are written alike. -/
def mergedContent : Content :=
  .mapping [(.integer 1, .scalar (.text (Text.points "x"))), (.null, .scalar (.boolean true)),
    (.boolean true, .scalar .null), (.text (Text.points "1"), .scalar (.integer (-7)))]

/-- What `mergedContent` says. -/
def mergedSettings : OrderedMap (List Text.Point) (List Text.Point) :=
  .ofList [(Text.points "1", Text.points "-7"), (Text.points "None", Text.points "true"),
    (Text.points "True", [])]

/-- Content with two entries that are refused. -/
def nestedContent : Content :=
  .mapping [(.integer 1, .scalar .null), (.boolean false, .mapping), (.null, .sequence)]

/-- A single file with one setting. -/
def flatFile : FileSystem := ⟨[(["c.yaml"], .file (Text.encode "a: 1"))], [], "/", []⟩

/-- What the file in `flatFile` says. -/
def flatContent : Content := .mapping [(.text (Text.points "a"), .scalar (.integer 1))]

theorem read_flatFile : flatFile.read ⟨"", ["c.yaml"]⟩ = .ok (Text.encode "a: 1") :=
  FileSystem.read_name (by decide) rfl rfl

theorem read_flatContent : Yaml.read "a: 1" = .ok flatContent := by decide +kernel

/-- Two keys that are written alike are one setting, where the first stood and with the value of the
last. Of two entries that are refused, the first is named. A file gives what its content says. -/
theorem fileSettings_exactly_merged :
    let path : Path := ⟨"", ["c.yaml"]⟩
    (mergedContent.Ordinary ∧ nestedContent.Ordinary ∧ flatContent.Ordinary) ∧
    Gives path mergedContent (.ok mergedSettings) ∧
    Gives path nestedContent (.error (.nested (Text.points "False") path)) ∧
    ∃ c, flatFile.loadConf (some Yaml.read) path = .ok c ∧ c.entries = [("a", "1")] := by
  intro path
  have hone : ¬(Scalar.integer 1).Long := quoted?_eq_none_iff.not.1 (by decide)
  have hminus : ¬(Scalar.integer (-7)).Long := quoted?_eq_none_iff.not.1 (by decide)
  have hmerged : mergedContent.Ordinary := by
    simp only [mergedContent, Content.Ordinary, List.forall_mem_cons]
    exact ⟨⟨hone, nofun⟩, ⟨nofun, nofun⟩, ⟨nofun, nofun⟩, ⟨nofun, hminus⟩, List.forall_mem_nil _⟩
  have hnested : nestedContent.Ordinary := by
    simp only [nestedContent, Content.Ordinary, List.forall_mem_cons]
    exact ⟨⟨hone, nofun⟩, ⟨nofun, trivial⟩, ⟨nofun, trivial⟩, List.forall_mem_nil _⟩
  have hflat : flatContent.Ordinary := by
    simp only [flatContent, Content.Ordinary, List.forall_mem_cons]
    exact ⟨⟨nofun, hone⟩, List.forall_mem_nil _⟩
  refine ⟨⟨hmerged, hnested, hflat⟩, ((fileSettings_exactly hmerged path).1 _).1 (by decide),
    ((fileSettings_exactly hnested path).1 _).1 (by decide), ?_⟩
  obtain ⟨-, -, hload⟩ :=
    (fileSettings_exactly hflat path).2.2.2 flatFile Yaml.read "a: 1" read_flatFile read_flatContent
  have hsettings : fileSettings path flatContent =
      .ok (.ofList [(Text.points "a", Text.points "1")]) := by decide
  obtain ⟨c, hc, -, hentries⟩ := hload _ hsettings
  exact ⟨c, hc, hentries [("a", "1")] (by decide)⟩

end StorageHandler
