import StorageHandler.Cli.Program
import StorageHandler.Proofs.Client.Connect

/-!
# The masters of the command line and those of a connection

The command line writes the default of the process into the configuration before the settings and
the table properties, a connection writes it after them. That matters in one case : settings or
properties give the default an empty text, the process has a default, and nothing names masters for
the table (`Blanked`). Then the command finds no masters and the connection finds the default. In
every other case both find the same (`masterAddresses_agree_iff`).
-/

namespace StorageHandler.Cli

variable {file : JobConf} {settings properties : OrderedMap String String}
  {default : Option String}

/-! ## Layers -/

/-- A configuration with settings over it and properties over those. -/
def layered (c : JobConf) (settings properties : OrderedMap String String) : JobConf :=
  (c.union settings).union properties

/-- What a caller hands to a connection : the configuration in a file, updated with the settings,
and the properties laid over that. -/
def overlaidConf (file : JobConf) (settings properties : OrderedMap String String) :
    Except ConfError JobConf := do
  let updated ← file.assignAll (JobConf.toEntries settings)
  updated.overlay (some (JobConf.toEntries properties))

theorem overlaidConf_eq (file : JobConf) (settings properties : OrderedMap String String) :
    overlaidConf file settings properties = .ok (layered file settings properties) := by
  rw [overlaidConf, JobConf.assignAll_toEntries]
  exact JobConf.overlay_toEntries _ _

/-- The text that settings and properties give a name. -/
def given? (settings properties : OrderedMap String String) (key : String) : Option String :=
  (properties.find? key).or (settings.find? key)

theorem nonempty?_layered (c : JobConf) (settings properties : OrderedMap String String)
    (key : String) :
    (layered c settings properties).nonempty? key =
      ((given? settings properties key).or (c.find? key)).filter (· ≠ "") := by
  rw [layered, JobConf.nonempty?_union, OrderedMap.find?_union, given?, Option.or_assoc]

/-- A name that was given an empty text holds nothing, whatever the configuration says. -/
theorem nonempty?_layered_of_empty {key : String} (h : given? settings properties key = some "")
    (c : JobConf) : (layered c settings properties).nonempty? key = none := by
  rw [nonempty?_layered, h]
  rfl

theorem nonempty?_settledConf_mastersKey :
    (settledConf file default settings properties).nonempty? mastersKey =
      (layered file settings properties).nonempty? mastersKey := by
  rw [settledConf, ← layered, nonempty?_layered, nonempty?_layered,
    JobConf.find?_withDefaultMasters_of_ne file default mastersKey_ne_defaultMastersKey]

/-- The order of the layers does not matter for the default unless it was given an empty text. -/
theorem nonempty?_settledConf_defaultMastersKey
    (h : given? settings properties defaultMastersKey ≠ some "") :
    (settledConf file default settings properties).nonempty? defaultMastersKey =
      ((layered file settings properties).withDefaultMasters default
        defaultMastersKey).nonempty? defaultMastersKey := by
  rw [settledConf, ← layered, JobConf.nonempty?_withDefaultMasters, nonempty?_layered,
    nonempty?_layered]
  cases hg : given? settings properties defaultMastersKey with
  | none => exact JobConf.nonempty?_withDefaultMasters file default defaultMastersKey
  | some v =>
    have hv : v ≠ "" := fun hv => h (hg.trans (congrArg some hv))
    rw [Option.some_or, Option.some_or, Option.filter_some_pos (by simpa using hv), Option.some_or]

/-! ## Masters -/

/-- Both orders of the layers give the same masters unless the default was given an empty text that
hides the default of the process. -/
theorem kuduMasters_settledConf
    (h : given? settings properties defaultMastersKey = some "" → default.filter (· ≠ "") = none ∨
      (layered file settings properties).nonempty? mastersKey ≠ none) :
    (settledConf file default settings properties).kuduMasters =
      ((layered file settings properties).withDefaultMasters default
        defaultMastersKey).kuduMasters := by
  rw [JobConf.kuduMasters, JobConf.kuduMasters, JobConf.masters_eq, JobConf.masters_eq,
    nonempty?_settledConf_mastersKey, JobConf.nonempty?_withDefaultMasters_mastersKey]
  by_cases hg : given? settings properties defaultMastersKey = some ""
  · obtain hd | hm := h hg
    · rw [JobConf.nonempty?_withDefaultMasters, hd, nonempty?_layered_of_empty hg, settledConf,
        ← layered, nonempty?_layered_of_empty hg]
      rfl
    · obtain ⟨a, ha⟩ := Option.ne_none_iff_exists'.1 hm
      rw [ha]
      rfl
  · rw [nonempty?_settledConf_defaultMastersKey hg]

/-- Without a text for the table or for the default there are no masters. -/
theorem kuduMasters_settledConf_of_blank
    (hg : given? settings properties defaultMastersKey = some "")
    (hm : (layered file settings properties).nonempty? mastersKey = none) :
    (settledConf file default settings properties).kuduMasters =
      .error ⟨mastersKey, defaultMastersKey⟩ := by
  rw [JobConf.kuduMasters, JobConf.masters_eq, nonempty?_settledConf_mastersKey, hm, settledConf,
    ← layered, nonempty?_layered_of_empty hg]
  rfl

theorem kuduMasters_withDefaultMasters_of_blank {d : String}
    (hg : given? settings properties defaultMastersKey = some "")
    (hm : (layered file settings properties).nonempty? mastersKey = none)
    (hd : default.filter (· ≠ "") = some d) :
    ((layered file settings properties).withDefaultMasters default
      defaultMastersKey).kuduMasters = .ok d := by
  rw [JobConf.kuduMasters, JobConf.masters_eq, JobConf.nonempty?_withDefaultMasters_mastersKey, hm,
    JobConf.nonempty?_withDefaultMasters, nonempty?_layered_of_empty hg, hd]
  rfl

/-! ## What the command prints -/

section Print

variable {reader : Option Yaml.Reader} {env : Environment} {fs : FileSystem}
  {confFile : Option String} {given givenProperties : List (Given String)}
  {process : ProcessSettings}

theorem print_of_settings_error {e : EnvironmentError}
    (hfile : optionalConf reader fs confFile = .ok file) (he : env.settings fs = .error e) :
    Command.print reader env fs (.masterAddresses confFile given givenProperties) =
      .error e.failure := by
  rw [Command.print, mastersFor, hfile, he]
  rfl

theorem print_of_settings (hfile : optionalConf reader fs confFile = .ok file)
    (hset : givenSettings given = .ok settings)
    (hprops : givenSettings givenProperties = .ok properties)
    (hp : env.settings fs = .ok process) :
    Command.print reader env fs (.masterAddresses confFile given givenProperties) =
      match (settledConf file process.masters settings properties).kuduMasters with
      | .ok addresses => .ok (addresses ++ "\n")
      | .error e => .error e.failure := by
  rw [Command.print, mastersFor, hfile, hp, hset, hprops]
  change (((settledConf file process.masters settings properties).kuduMasters.mapError
    MastersMissing.failure) >>= fun addresses => Except.ok (addresses ++ "\n")) = _
  cases (settledConf file process.masters settings properties).kuduMasters <;> rfl

end Print

/-! ## Agreement -/

/-- Neither name holds masters. -/
def noMasters : MastersMissing := ⟨mastersKey, defaultMastersKey⟩

/-- What was printed agrees with a connection : the addresses printed are those for which the
builder is asked, and masters are missing in one exactly if they are in the other. A builder may
fail in any way, but only a connection without masters ends before it asks one. -/
structure Agree (printed : Except Failure String) (connecting : Run Client) : Prop where
  addresses : ∀ a, printed = .ok (a ++ "\n") ↔ connecting.actions.head? = some (.build a)
  missing : printed = .error noMasters.failure ↔ connecting = ⟨[], .error (.masters noMasters)⟩

/-- The default `d` of the process is the only text that names masters, and settings or properties
give the default an empty text. -/
structure Blanked (env : Environment) (fs : FileSystem) (file : JobConf)
    (settings properties : OrderedMap String String) (d : String) : Prop where
  process : ∃ p, env.settings fs = .ok p ∧ p.masters = some d
  unnamed : (layered file settings properties).nonempty? mastersKey = none
  blank : given? settings properties defaultMastersKey = some ""

section Agreement

variable {reader : Option Yaml.Reader} {env : Environment} {fs : FileSystem}
  {confFile : Option String} {given givenProperties : List (Given String)}
  {process : ProcessSettings}

theorem head?_toList_append {s : String} {c : Char} (h : s.toList.head? = some c) (t : String) :
    (s ++ t).toList.head? = some c := by
  rw [String.toList_append, List.head?_append, h, Option.some_or]

theorem head?_noMasters_message : noMasters.message.toList.head? = some 'K' := by
  unfold MastersMissing.message
  iterate 4 refine head?_toList_append ?_ _
  decide +kernel

theorem head?_tokenDirectory_message (value : String) :
    (EnvironmentError.tokenDirectory value).message.toList.head? = some 'I' := by
  unfold EnvironmentError.message
  iterate 4 refine head?_toList_append ?_ _
  decide +kernel

/-- The environment is never refused in the words that say that masters are missing. -/
theorem failure_ne_noMasters (e : EnvironmentError) : e.failure ≠ noMasters.failure := by
  intro h
  obtain ⟨hkind, hmessage⟩ := Failure.mk.inj h
  cases e with
  | tokenDirectory value =>
    have hhead := head?_tokenDirectory_message value
    rw [hmessage, head?_noMasters_message] at hhead
    exact absurd (Option.some.inj hhead) (by decide)
  | unknownHome => cases hkind
  | linkLoop => cases hkind
  | inaccessible error path => cases error <;> cases hkind

theorem agree_of_settings_error {conf : Table} {e : EnvironmentError}
    (hfile : optionalConf reader fs confFile = .ok file) (he : env.settings fs = .error e)
    (builder : Builder) (provider : Option Provider) :
    Agree (Command.print reader env fs (.masterAddresses confFile given givenProperties))
      (connect fs env conf builder provider) := by
  rw [print_of_settings_error hfile he, connect_of_settings_error he]
  refine ⟨fun a => ⟨fun h => ?_, fun h => ?_⟩, fun h => ?_, fun h => ?_⟩
  · cases h
  · cases h
  · exact absurd (Except.error.inj h) (failure_ne_noMasters e)
  · cases congrArg Run.outcome h

/-- A configuration without masters misses them under both names. -/
theorem eq_noMasters {c : JobConf} {e : MastersMissing} (h : c.kuduMasters = .error e) :
    e = noMasters := by
  rw [JobConf.kuduMasters, JobConf.masters_eq] at h
  split at h
  · cases h
  · exact (Except.error.inj h).symm

variable (hfile : optionalConf reader fs confFile = .ok file)
  (hset : givenSettings given = .ok settings)
  (hprops : givenSettings givenProperties = .ok properties)

include hfile hset hprops

theorem agree_of_kuduMasters_eq (hp : env.settings fs = .ok process)
    (heq : (settledConf file process.masters settings properties).kuduMasters =
      ((layered file settings properties).withDefaultMasters process.masters
        defaultMastersKey).kuduMasters)
    (builder : Builder) (provider : Option Provider) :
    Agree (Command.print reader env fs (.masterAddresses confFile given givenProperties))
      (connect fs env (layered file settings properties).toEntries builder provider) := by
  have hr := resolveMasters_toEntries (layered file settings properties) process
  rw [print_of_settings hfile hset hprops hp, heq]
  cases hk : ((layered file settings properties).withDefaultMasters process.masters
      defaultMastersKey).kuduMasters with
  | ok addresses =>
    have hhead : (connect fs env (layered file settings properties).toEntries builder
        provider).actions.head? = some (.build addresses) :=
      head?_actions_connect hp (hr.trans (by rw [hk]; rfl))
    refine ⟨fun a => ?_, fun h => ?_, fun h => ?_⟩
    · rw [hhead, Except.ok.injEq, String.append_left_inj, Option.some_inj, Action.build.injEq]
    · cases h
    · rw [h] at hhead
      cases hhead
  | error e =>
    obtain rfl := eq_noMasters hk
    rw [connect_of_unresolved hp (hr.trans (by rw [hk]; rfl))]
    refine ⟨fun a => ⟨fun h => ?_, fun h => ?_⟩, fun _ => rfl, fun _ => rfl⟩
    · cases h
    · cases h

/-- Where the default is blanked, the command misses the masters that the connection uses. -/
theorem print_of_blanked {d : String} (hd : Blanked env fs file settings properties d)
    (builder : Builder) (provider : Option Provider) :
    Command.print reader env fs (.masterAddresses confFile given givenProperties) =
        .error noMasters.failure ∧
      (connect fs env (layered file settings properties).toEntries builder
        provider).actions.head? = some (.build d) := by
  obtain ⟨⟨process, hp, hdefault⟩, hunnamed, hblank⟩ := hd
  constructor
  · rw [print_of_settings hfile hset hprops hp, kuduMasters_settledConf_of_blank hblank hunnamed]
    rfl
  · have hd : process.masters.filter (· ≠ "") = some d := by
      rw [filter_masters_of_settings hp, hdefault]
    apply head?_actions_connect hp
    rw [resolveMasters_toEntries,
      kuduMasters_withDefaultMasters_of_blank hblank hunnamed hd]
    rfl

theorem not_agree_of_blanked {d : String} (hd : Blanked env fs file settings properties d)
    (builder : Builder) (provider : Option Provider) :
    ¬ Agree (Command.print reader env fs (.masterAddresses confFile given givenProperties))
      (connect fs env (layered file settings properties).toEntries builder provider) := by
  obtain ⟨hprint, hhead⟩ := print_of_blanked hfile hset hprops hd builder provider
  intro h
  have hok := (h.addresses d).2 hhead
  rw [hprint] at hok
  cases hok

theorem agree_of_not_blanked (h : ∀ d, ¬ Blanked env fs file settings properties d)
    (builder : Builder) (provider : Option Provider) :
    Agree (Command.print reader env fs (.masterAddresses confFile given givenProperties))
      (connect fs env (layered file settings properties).toEntries builder provider) := by
  cases hp : env.settings fs with
  | error e => exact agree_of_settings_error hfile hp builder provider
  | ok process =>
    apply agree_of_kuduMasters_eq hfile hset hprops hp
    apply kuduMasters_settledConf
    intro hblank
    by_contra hne
    rw [not_or, not_not] at hne
    obtain ⟨d, hd⟩ := Option.ne_none_iff_exists'.1 hne.1
    rw [filter_masters_of_settings hp] at hd
    exact h d ⟨⟨process, hp, hd⟩, hne.2, hblank⟩

end Agreement

/-- The command prints the masters that a connection with the same configuration uses, and misses
them where the connection does, except where the default is blanked : there the command misses the
masters that the connection uses. -/
theorem masterAddresses_agree_iff {reader : Option Yaml.Reader} {env : Environment}
    {fs : FileSystem} {confFile : Option String} {given givenProperties : List (Given String)}
    (hfile : optionalConf reader fs confFile = .ok file) (hset : givenSettings given = .ok settings)
    (hprops : givenSettings givenProperties = .ok properties) (builder : Builder)
    (provider : Option Provider) :
    ∃ conf, overlaidConf file settings properties = .ok conf ∧
      (Agree (Command.print reader env fs (.masterAddresses confFile given givenProperties))
          (connect fs env conf.toEntries builder provider) ↔
        ∀ d, ¬ Blanked env fs file settings properties d) ∧
      ∀ d, Blanked env fs file settings properties d →
        Command.print reader env fs (.masterAddresses confFile given givenProperties) =
            .error noMasters.failure ∧
          (connect fs env conf.toEntries builder provider).actions.head? = some (.build d) := by
  refine ⟨layered file settings properties, overlaidConf_eq file settings properties,
    ⟨fun h d hd => ?_, fun h => ?_⟩, fun d hd => ?_⟩
  · exact not_agree_of_blanked hfile hset hprops hd builder provider h
  · exact agree_of_not_blanked hfile hset hprops h builder provider
  · exact print_of_blanked hfile hset hprops hd builder provider

/-- A file system with nothing in it. -/
def bare : FileSystem := ⟨[], [], "/", []⟩

/-- The masters of the table come from a property, which a setting and the default of the process
do not touch. -/
theorem masterAddresses_agree_property :
    ∃ conf, overlaidConf .empty (.ofList [(defaultMastersKey, "a:1")])
        (.ofList [(mastersKey, "b:2")]) = .ok conf ∧
      Agree (Command.print (some Yaml.read) ⟨none, some "c:3"⟩ bare (.masterAddresses none
          [.value (defaultMastersKey ++ "=a:1")] [.value (mastersKey ++ "=b:2")]))
        (connect bare ⟨none, some "c:3"⟩ conf.toEntries (KuduLibrary.builder none) none) := by
  obtain ⟨conf, hconf, hagree, -⟩ := masterAddresses_agree_iff
    (show optionalConf (some Yaml.read) bare none = .ok .empty from rfl)
    (show givenSettings [.value (defaultMastersKey ++ "=a:1")] =
      .ok (.ofList [(defaultMastersKey, "a:1")]) by decide +kernel)
    (show givenSettings [.value (mastersKey ++ "=b:2")] =
      .ok (.ofList [(mastersKey, "b:2")]) by decide +kernel)
    (KuduLibrary.builder none) none
  refine ⟨conf, hconf, hagree.2 fun d hd => ?_⟩
  exact absurd hd.blank (by decide +kernel)

/-- With a setting that gives the default an empty text the command misses the masters that the
process has for a connection. -/
theorem masterAddresses_not_agree_emptyDefault :
    overlaidConf .empty (.ofList [(defaultMastersKey, "")]) .empty =
        .ok (.ofList [(defaultMastersKey, "")]) ∧
      run (some Yaml.read) ⟨none, some "h:1"⟩ bare
          ["master-addresses", "--set", defaultMastersKey ++ "="] =
        .ok ⟨1, "", "error: " ++ noMasters.message ++ "\n"⟩ ∧
      ¬ Agree (Command.print (some Yaml.read) ⟨none, some "h:1"⟩ bare (.masterAddresses none
          [.value (defaultMastersKey ++ "=")] []))
        (connect bare ⟨none, some "h:1"⟩ (JobConf.toEntries (.ofList [(defaultMastersKey, "")]))
          (KuduLibrary.builder none) none) := by
  have hset : givenSettings [.value (defaultMastersKey ++ "=")] =
      .ok (.ofList [(defaultMastersKey, "")]) := by decide +kernel
  have hblanked : Blanked ⟨none, some "h:1"⟩ bare .empty (.ofList [(defaultMastersKey, "")]) .empty
      "h:1" :=
    ⟨⟨⟨none, some "h:1"⟩, by decide +kernel, rfl⟩, by decide +kernel, by decide +kernel⟩
  refine ⟨by rw [overlaidConf_eq]; rfl, by decide +kernel, ?_⟩
  have hfile : optionalConf (some Yaml.read) bare none = .ok .empty := rfl
  exact not_agree_of_blanked hfile hset rfl hblanked (KuduLibrary.builder none) none

end StorageHandler.Cli
