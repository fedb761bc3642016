import Mathlib.Tactic.Common
import StorageHandler.Cli.Program
import StorageHandler.Proofs.Cli.Masters
import StorageHandler.Proofs.Results
import StorageHandler.Proofs.Schema.Columns

/-!
# Commands step by step

A command is a program over a console : it looks for what it needs, step by step, and writes what it
finds (`Command.perform`). If it fails, what it has written until then stays. The program that runs
it turns a failure of the library's own into an exit code and a line of the errors (`program`).

A console takes every text, so writing is no step that can fail (`ConsoleProgram.writeOutput`) : it
is assumed of the output and of the errors that they are not closed or full, and that their encoding
has every character that is written.

A command stops at one of ten places (`Stops`), or it prints (`Prints`), and there is nothing else
(`stops_or_prints`). It stops before it has written anything (`Stops.perform_eq`), although the list
of tokens is written row by row (`Prints.perform_eq`). So the output is written to only if the exit
code is 0, and the errors only if it is not (`program_writes_whole`).
-/

namespace StorageHandler

namespace Cli

/-- The texts that were written to the output and to the errors, in order. -/
structure Console where
  output : List String
  errors : List String
  deriving DecidableEq, Repr

/-- A console on which nothing was written. -/
def Console.blank : Console := ⟨[], []⟩

/-- A program that writes. If it fails, what it has written until then stays. -/
abbrev ConsoleProgram := ExceptT Failure (StateM Console)

namespace ConsoleProgram

variable {α β : Type}

/-- What a program comes to, and the console after it. -/
def runOn (p : ConsoleProgram α) (s : Console) : Except Failure α × Console := p.run.run s

/-- Writes a text to the output. -/
def writeOutput (text : String) : ConsoleProgram Unit :=
  modify fun s => { s with output := s.output ++ [text] }

/-- Writes a text to the errors. -/
def writeErrors (text : String) : ConsoleProgram Unit :=
  modify fun s => { s with errors := s.errors ++ [text] }

/-- Goes on with a result, or fails. -/
theorem runOn_liftExcept_bind (r : Except Failure α) (f : α → ConsoleProgram β) (s : Console) :
    (liftExcept r >>= f : ConsoleProgram β).runOn s =
      match r with
      | .ok a => (f a).runOn s
      | .error e => (.error e, s) := by
  cases r <;> rfl

theorem runOn_writeOutput (text : String) (s : Console) :
    (writeOutput text).runOn s = (.ok (), { s with output := s.output ++ [text] }) := rfl

/-- Texts that are written one by one stand on the console in their order. -/
theorem runOn_forM_writeOutput (texts : List String) (s : Console) :
    ConsoleProgram.runOn (texts.forM writeOutput) s =
      (.ok (), { s with output := s.output ++ texts }) := by
  induction texts generalizing s with
  | nil =>
    rw [List.append_nil]
    rfl
  | cons text texts ih =>
    have hfirst := run_run_bind_of_ok (runOn_writeOutput text s)
      (fun _ => texts.forM writeOutput)
    have hrest := ih { s with output := s.output ++ [text] }
    rw [List.append_assoc, List.singleton_append] at hrest
    exact hfirst.trans hrest

end ConsoleProgram

open ConsoleProgram

/-! ## Commands and the program -/

section Programs

variable (reader : Option Yaml.Reader) (env : Environment) (fs : FileSystem)

/-- Writes the masters for a configuration file, settings and table properties. -/
def writeMasters (confFile : Option String) (settings tableProperties : List (Given String)) :
    ConsoleProgram Unit := do
  let file ← liftExcept ((optionalConf reader fs confFile).mapError LoadError.failure)
  let process ← liftExcept ((env.settings fs).mapError EnvironmentError.failure)
  let settings ← liftExcept (givenSettings settings)
  let properties ← liftExcept (givenSettings tableProperties)
  let conf := settledConf file process.masters settings properties
  let masters ← liftExcept (conf.kuduMasters.mapError MastersMissing.failure)
  writeOutput (masters ++ "\n")

/-- Writes the name of the Hive type of a Kudu type. -/
def writeHiveType (kuduType : String) (precision : Option (Given Int)) (scale : Given Int) :
    ConsoleProgram Unit := do
  let tag ← liftExcept ((TypeTag.named kuduType).resolve.mapError UnsupportedType.failure)
  let type ← liftExcept (givenType tag precision scale)
  let name ← liftExcept (writtenName type)
  writeOutput (name ++ "\n")

/-- Writes a row for each token in a token file. -/
def writeTokens (tokenFile : Option String) : ConsoleProgram Unit := do
  let path ← liftExcept (listedFile env fs tokenFile)
  let credentials ← liftExcept ((fs.readTokens path).mapError TokenFileError.failure)
  credentials.tokens.entries.forM fun entry => writeOutput (tokenRow entry)

/-- Does what a command asks for. -/
def Command.perform : Command → ConsoleProgram Unit
  | .masterAddresses confFile settings tableProperties =>
    writeMasters reader env fs confFile settings tableProperties
  | .hiveType kuduType precision scale => writeHiveType kuduType precision scale
  | .inspectTokens tokenFile => writeTokens env fs tokenFile

/-- The line that reports a failure. -/
def failureLine (f : Failure) : String := "error: " ++ f.message ++ "\n"

/-- What is done about a failure of a command : one of the library's own is reported. -/
def report (f : Failure) : ConsoleProgram ℕ :=
  if f.kind.isOwn then do
    writeErrors (failureLine f)
    return 1
  else throw f

/-- Runs a command and gives the exit code. -/
def Command.runReporting (c : Command) : ConsoleProgram ℕ :=
  tryCatch (do c.perform reader env fs; return 0) report

/-- Reads a command line and runs its command. Without one, what the reading says is written. -/
def program (arguments : List String) : ConsoleProgram ℕ :=
  match Command.ofArguments arguments with
  | .ok c => c.runReporting reader env fs
  | .error outcome => do
    writeOutput outcome.output
    writeErrors outcome.errors
    return outcome.code

end Programs

/-! ## Where commands stop -/

/-- Why no masters are written : the first of five things that fails. -/
inductive MastersStop (reader : Option Yaml.Reader) (env : Environment) (fs : FileSystem)
    (confFile : Option String) (settings tableProperties : List (Given String)) : Failure → Prop
  | confFile {e : LoadError} (failed : optionalConf reader fs confFile = .error e) :
    MastersStop reader env fs confFile settings tableProperties e.failure
  | process {conf : JobConf} {e : EnvironmentError}
    (loaded : optionalConf reader fs confFile = .ok conf) (failed : env.settings fs = .error e) :
    MastersStop reader env fs confFile settings tableProperties e.failure
  | setting {conf : JobConf} {process : ProcessSettings} {f : Failure}
    (loaded : optionalConf reader fs confFile = .ok conf) (found : env.settings fs = .ok process)
    (failed : givenSettings settings = .error f) :
    MastersStop reader env fs confFile settings tableProperties f
  | tableProperty {conf : JobConf} {process : ProcessSettings} {set : OrderedMap String String}
    {f : Failure} (loaded : optionalConf reader fs confFile = .ok conf)
    (found : env.settings fs = .ok process) (taken : givenSettings settings = .ok set)
    (failed : givenSettings tableProperties = .error f) :
    MastersStop reader env fs confFile settings tableProperties f
  | masters {conf : JobConf} {process : ProcessSettings} {set properties : OrderedMap String String}
    {e : MastersMissing} (loaded : optionalConf reader fs confFile = .ok conf)
    (found : env.settings fs = .ok process) (taken : givenSettings settings = .ok set)
    (overlaid : givenSettings tableProperties = .ok properties)
    (failed : (settledConf conf process.masters set properties).kuduMasters = .error e) :
    MastersStop reader env fs confFile settings tableProperties e.failure

/-- Why no Hive type is written : there is no such Kudu type, or no Hive type for it. -/
inductive TypeStop (kuduType : String) (precision : Option (Given Int)) (scale : Given Int) :
    Failure → Prop
  | name {e : UnsupportedType} (failed : (TypeTag.named kuduType).resolve = .error e) :
    TypeStop kuduType precision scale e.failure
  | type {tag : KuduType} {f : Failure} (named : (TypeTag.named kuduType).resolve = .ok tag)
    (failed : givenType tag precision scale = .error f) :
    TypeStop kuduType precision scale f

/-- Why no tokens are written : there is no file to list, or none that can be read. -/
inductive TokensStop (env : Environment) (fs : FileSystem) (tokenFile : Option String) :
    Failure → Prop
  | process {e : EnvironmentError} (absent : tokenFile.filter (· ≠ "") = none)
    (failed : env.settings fs = .error e) :
    TokensStop env fs tokenFile e.failure
  | noTokenFile {process : ProcessSettings} (absent : tokenFile.filter (· ≠ "") = none)
    (found : env.settings fs = .ok process) (failed : process.tokenFile = none) :
    TokensStop env fs tokenFile noTokenFile
  | tokens {path : Path} {e : TokenFileError} (listed : listedFile env fs tokenFile = .ok path)
    (failed : fs.readTokens path = .error e) :
    TokensStop env fs tokenFile e.failure

/-- A command stops with a failure. -/
def Stops (reader : Option Yaml.Reader) (env : Environment) (fs : FileSystem) :
    Command → Failure → Prop
  | .masterAddresses confFile settings tableProperties =>
    MastersStop reader env fs confFile settings tableProperties
  | .hiveType kuduType precision scale => TypeStop kuduType precision scale
  | .inspectTokens tokenFile => TokensStop env fs tokenFile

/-- A command prints texts, one after the other. -/
inductive Prints (reader : Option Yaml.Reader) (env : Environment) (fs : FileSystem) :
    Command → List String → Prop
  | masters {confFile : Option String} {settings tableProperties : List (Given String)}
    {conf : JobConf} {process : ProcessSettings} {set properties : OrderedMap String String}
    {addresses : String} (loaded : optionalConf reader fs confFile = .ok conf)
    (found : env.settings fs = .ok process) (taken : givenSettings settings = .ok set)
    (overlaid : givenSettings tableProperties = .ok properties)
    (resolved : (settledConf conf process.masters set properties).kuduMasters = .ok addresses) :
    Prints reader env fs (.masterAddresses confFile settings tableProperties) [addresses ++ "\n"]
  | type {kuduType : String} {precision : Option (Given Int)} {scale : Given Int} {tag : KuduType}
    {type : HiveType} {name : String} (named : (TypeTag.named kuduType).resolve = .ok tag)
    (mapped : givenType tag precision scale = .ok type) (written : writtenName type = .ok name) :
    Prints reader env fs (.hiveType kuduType precision scale) [name ++ "\n"]
  | tokens {tokenFile : Option String} {path : Path} {c : Credentials}
    (listed : listedFile env fs tokenFile = .ok path) (read : fs.readTokens path = .ok c) :
    Prints reader env fs (.inspectTokens tokenFile) (c.tokens.entries.map tokenRow)

section Runs

variable {reader : Option Yaml.Reader} {env : Environment} {fs : FileSystem} {c : Command}
  {f : Failure} {texts : List String}

section TokenFiles

variable {tokenFile : Option String} (absent : tokenFile.filter (· ≠ "") = none)

include absent

theorem listedFile_of_settings_error {e : EnvironmentError} (h : env.settings fs = .error e) :
    listedFile env fs tokenFile = .error e.failure := by
  rw [listedFile, absent, h]
  rfl

theorem listedFile_of_settings {process : ProcessSettings} (h : env.settings fs = .ok process) :
    listedFile env fs tokenFile =
      match process.tokenFile with
      | some path => .ok path
      | none => .error noTokenFile := by
  rw [listedFile, absent, h]
  change (match process.tokenFile with
    | some path => pure path
    | none => throw noTokenFile) = _
  cases process.tokenFile <;> rfl

end TokenFiles

/-- There is a file to list, or a reason why not. -/
theorem exists_listedFile (env : Environment) (fs : FileSystem) (tokenFile : Option String) :
    (∃ path, listedFile env fs tokenFile = .ok path) ∨ ∃ f, TokensStop env fs tokenFile f := by
  cases absent : tokenFile.filter (· ≠ "") with
  | some path =>
    refine .inl ⟨.ofString path, ?_⟩
    rw [listedFile, absent]
    rfl
  | none =>
    cases hprocess : env.settings fs with
    | error e => exact .inr ⟨_, .process absent hprocess⟩
    | ok process =>
      cases hfile : process.tokenFile with
      | none => exact .inr ⟨_, .noTokenFile absent hprocess hfile⟩
      | some path =>
        refine .inl ⟨path, ?_⟩
        rw [listedFile_of_settings absent hprocess, hfile]

/-- The Hive type of a Kudu type has a name. -/
theorem exists_writtenName {t : KuduType} {precision : Option (Given Int)} {scale : Given Int}
    {type : HiveType} (h : givenType t precision scale = .ok type) :
    ∃ name, writtenName type = .ok name := by
  obtain ⟨attributes, hmapped⟩ : ∃ attributes, t.hiveType attributes = .ok type := by
    unfold givenType at h
    split at h
    · cases h
    · next p => cases hp : HiveType.decimal p 0 <;> rw [hp] at h <;> cases h
    · exact ⟨_, mapError_eq_ok_iff.1 h⟩
    · exact ⟨_, mapError_eq_ok_iff.1 h⟩
  obtain ⟨name, hname⟩ := KuduType.exists_typeName? hmapped
  exact ⟨name, by rw [writtenName, hname]⟩

/-- A command stops, or it prints. -/
theorem stops_or_prints (reader : Option Yaml.Reader) (env : Environment) (fs : FileSystem)
    (c : Command) :
    (∃ f, Stops reader env fs c f) ∨ ∃ texts, Prints reader env fs c texts := by
  cases c with
  | masterAddresses confFile settings tableProperties =>
    cases hfile : optionalConf reader fs confFile with
    | error e => exact .inl ⟨_, .confFile hfile⟩
    | ok conf =>
      cases hprocess : env.settings fs with
      | error e => exact .inl ⟨_, .process hfile hprocess⟩
      | ok process =>
        cases hset : givenSettings settings with
        | error f => exact .inl ⟨_, .setting hfile hprocess hset⟩
        | ok set =>
          cases hproperties : givenSettings tableProperties with
          | error f => exact .inl ⟨_, .tableProperty hfile hprocess hset hproperties⟩
          | ok properties =>
            cases hmasters : (settledConf conf process.masters set properties).kuduMasters with
            | error e => exact .inl ⟨_, .masters hfile hprocess hset hproperties hmasters⟩
            | ok addresses => exact .inr ⟨_, .masters hfile hprocess hset hproperties hmasters⟩
  | hiveType kuduType precision scale =>
    cases hname : (TypeTag.named kuduType).resolve with
    | error e => exact .inl ⟨_, .name hname⟩
    | ok tag =>
      cases htype : givenType tag precision scale with
      | error f => exact .inl ⟨_, .type hname htype⟩
      | ok type =>
        obtain ⟨name, hwritten⟩ := exists_writtenName htype
        exact .inr ⟨_, .type hname htype hwritten⟩
  | inspectTokens tokenFile =>
    rcases exists_listedFile env fs tokenFile with ⟨path, hpath⟩ | hstop
    · cases htokens : fs.readTokens path with
      | error e => exact .inl ⟨_, .tokens hpath htokens⟩
      | ok c => exact .inr ⟨_, .tokens hpath htokens⟩
    · exact .inl hstop

/-- A command that stops has written nothing. -/
theorem Stops.perform_eq (h : Stops reader env fs c f) (s : Console) :
    (c.perform reader env fs).runOn s = (.error f, s) := by
  cases c with
  | masterAddresses confFile settings tableProperties =>
    rw [Command.perform, writeMasters, runOn_liftExcept_bind]
    cases h with
    | confFile failed => rw [failed]; rfl
    | process loaded failed => rw [loaded, failed]; rfl
    | setting loaded found failed => rw [loaded, found, failed]; rfl
    | tableProperty loaded found taken failed => rw [loaded, found, taken, failed]; rfl
    | @masters conf process set properties e loaded found taken overlaid failed =>
      rw [loaded, found, taken, overlaid]
      change ConsoleProgram.runOn (liftExcept ((settledConf conf process.masters set
        properties).kuduMasters.mapError MastersMissing.failure) >>= _) s = _
      rw [failed]
      rfl
  | hiveType kuduType precision scale =>
    rw [Command.perform, writeHiveType, runOn_liftExcept_bind]
    cases h with
    | name failed => rw [failed]; rfl
    | @type tag f named failed =>
      rw [named]
      change ConsoleProgram.runOn (liftExcept (givenType tag precision scale) >>= _) s = _
      rw [failed]
      rfl
  | inspectTokens tokenFile =>
    rw [Command.perform, writeTokens, runOn_liftExcept_bind]
    cases h with
    | process absent failed => rw [listedFile_of_settings_error absent failed]
    | noTokenFile absent found failed => rw [listedFile_of_settings absent found, failed]
    | @tokens path e listed failed =>
      rw [listed]
      change ConsoleProgram.runOn (liftExcept ((fs.readTokens path).mapError
        TokenFileError.failure) >>= _) s = _
      rw [failed]
      rfl

/-- A command that prints writes its texts, and nothing to the errors. -/
theorem Prints.perform_eq (h : Prints reader env fs c texts) (s : Console) :
    (c.perform reader env fs).runOn s = (.ok (), { s with output := s.output ++ texts }) := by
  cases h with
  | @masters _ _ _ conf process set properties addresses loaded found taken overlaid resolved =>
    rw [Command.perform, writeMasters, loaded, found, taken, overlaid]
    change ConsoleProgram.runOn (liftExcept ((settledConf conf process.masters set
      properties).kuduMasters.mapError MastersMissing.failure) >>= _) s = _
    rw [resolved]
    rfl
  | @type _ precision scale tag type name named mapped written =>
    rw [Command.perform, writeHiveType, named]
    change ConsoleProgram.runOn (liftExcept (givenType tag precision scale) >>= _) s = _
    rw [mapped]
    change ConsoleProgram.runOn (liftExcept (writtenName type) >>= _) s = _
    rw [written]
    rfl
  | @tokens _ path c listed read =>
    rw [Command.perform, writeTokens, listed]
    change ConsoleProgram.runOn (liftExcept ((fs.readTokens path).mapError
      TokenFileError.failure) >>= _) s = _
    have hrows : (c.tokens.entries.map tokenRow).forM writeOutput =
        c.tokens.entries.forM fun entry => writeOutput (tokenRow entry) := List.forM_map
    rw [read, ← runOn_forM_writeOutput, hrows]
    rfl

/-- What a command prints in one piece is what it does step by step. -/
theorem Stops.print_eq (h : Stops reader env fs c f) : c.print reader env fs = .error f := by
  cases c with
  | masterAddresses confFile settings tableProperties =>
    cases h with
    | confFile failed => rw [Command.print, mastersFor, failed]; rfl
    | process loaded failed => exact print_of_settings_error loaded failed
    | setting loaded found failed => rw [Command.print, mastersFor, loaded, found, failed]; rfl
    | tableProperty loaded found taken failed =>
      rw [Command.print, mastersFor, loaded, found, taken, failed]
      rfl
    | masters loaded found taken overlaid failed =>
      rw [print_of_settings loaded taken overlaid found, failed]
  | hiveType kuduType precision scale =>
    rw [Command.print, hiveTypeName]
    cases h with
    | name failed => rw [failed]; rfl
    | @type tag f named failed =>
      rw [named]
      change ((givenType tag precision scale >>= _) >>= _) = _
      rw [failed]
      rfl
  | inspectTokens tokenFile =>
    rw [Command.print, tokenListing]
    cases h with
    | process absent failed => rw [listedFile_of_settings_error absent failed]; rfl
    | noTokenFile absent found failed => rw [listedFile_of_settings absent found, failed]; rfl
    | @tokens path e listed failed =>
      rw [listed]
      change ((fs.readTokens path).mapError TokenFileError.failure >>= _) = _
      rw [failed]
      rfl

theorem Prints.print_eq (h : Prints reader env fs c texts) :
    c.print reader env fs = .ok (String.join texts) := by
  cases h with
  | masters loaded found taken overlaid resolved =>
    rw [print_of_settings loaded taken overlaid found, resolved]
    simp
  | @type _ precision scale tag type name named mapped written =>
    rw [Command.print, hiveTypeName, named]
    change ((givenType tag precision scale >>= _) >>= _) = _
    rw [mapped]
    change (writtenName type >>= _) = _
    rw [written]
    simp
  | @tokens _ path c listed read =>
    rw [Command.print, tokenListing, listed]
    change ((fs.readTokens path).mapError TokenFileError.failure >>= _) = _
    rw [read]
    rfl

theorem Stops.runReporting_of_own (h : Stops reader env fs c f) (own : f.kind.isOwn = true)
    (s : Console) :
    (c.runReporting reader env fs).runOn s =
      (.ok 1, { s with errors := s.errors ++ [failureLine f] }) := by
  have hstop := run_run_bind_of_error (h.perform_eq s) fun _ => (return 0 : ConsoleProgram ℕ)
  refine (run_run_tryCatch_of_error hstop report).trans ?_
  rw [report, if_pos own]
  rfl

theorem Stops.runReporting_of_foreign (h : Stops reader env fs c f) (foreign : f.kind.isOwn = false)
    (s : Console) : (c.runReporting reader env fs).runOn s = (.error f, s) := by
  have hstop := run_run_bind_of_error (h.perform_eq s) fun _ => (return 0 : ConsoleProgram ℕ)
  refine (run_run_tryCatch_of_error hstop report).trans ?_
  rw [report, if_neg (by rw [foreign]; decide)]
  rfl

theorem Prints.runReporting_eq (h : Prints reader env fs c texts) (s : Console) :
    (c.runReporting reader env fs).runOn s = (.ok 0, { s with output := s.output ++ texts }) := by
  have hprint := run_run_bind_of_ok (h.perform_eq s) fun _ => (return 0 : ConsoleProgram ℕ)
  exact run_run_tryCatch_of_ok hprint report

end Runs

/-! ## Runs of the program -/

/-- What a run of the program leaves, from what it comes to and what it wrote. -/
def outcomeOf (r : Except Failure ℕ × Console) : Except Failure Outcome :=
  r.1.map fun code => ⟨code, String.join r.2.output, String.join r.2.errors⟩

/-- A command line that asks for a command is run to its end, or it writes nothing to the output.
Where the command stops with a failure of the library's own, the exit code is 1 and the errors are a
line with what the failure says; any other failure leaves as it is, and nothing is written. Where it
prints, the exit code is 0 and the errors are empty. The program that runs in one piece leaves the
same. -/
theorem program_writes_whole {arguments : List String} {c : Command}
    (h : Command.ofArguments arguments = .ok c) (reader : Option Yaml.Reader) (env : Environment)
    (fs : FileSystem) :
    let r := (program reader env fs arguments).runOn .blank
    (∀ f, Stops reader env fs c f → f.kind.isOwn = true →
      r = (.ok 1, ⟨[], ["error: " ++ f.message ++ "\n"]⟩)) ∧
    (∀ f, Stops reader env fs c f → f.kind.isOwn = false → r = (.error f, .blank)) ∧
    (∀ texts, Prints reader env fs c texts → r = (.ok 0, ⟨texts, []⟩)) ∧
    ((∃ f, Stops reader env fs c f) ∨ ∃ texts, Prints reader env fs c texts) ∧
    (r.2.output ≠ [] → r.1 = .ok 0) ∧
    (r.1 = .ok 0 → r.2.errors = []) ∧
    run reader env fs arguments = outcomeOf r := by
  intro r
  have hr : r = (c.runReporting reader env fs).runOn .blank := by
    simp only [r, program, h]
  have hown (f : Failure) (hf : Stops reader env fs c f) (own : f.kind.isOwn = true) :
      r = (.ok 1, ⟨[], [failureLine f]⟩) := hr.trans (hf.runReporting_of_own own .blank)
  have hforeign (f : Failure) (hf : Stops reader env fs c f) (foreign : f.kind.isOwn = false) :
      r = (.error f, .blank) := hr.trans (hf.runReporting_of_foreign foreign .blank)
  have hprints (texts : List String) (ht : Prints reader env fs c texts) :
      r = (.ok 0, ⟨texts, []⟩) := hr.trans (ht.runReporting_eq .blank)
  refine ⟨hown, hforeign, hprints, stops_or_prints reader env fs c, ?_⟩
  have hrun : run reader env fs arguments = c.outcome reader env fs := by rw [run, h]
  rw [hrun, Command.outcome]
  rcases stops_or_prints reader env fs c with ⟨f, hf⟩ | ⟨texts, ht⟩
  · rw [hf.print_eq]
    cases hkind : f.kind.isOwn with
    | true =>
      rw [hown f hf hkind]
      refine ⟨fun hne => absurd rfl hne, nofun, ?_⟩
      simp [outcomeOf, Except.map, failureLine, hkind]
    | false =>
      rw [hforeign f hf hkind]
      refine ⟨fun hne => absurd rfl hne, nofun, ?_⟩
      simp [outcomeOf, Except.map, hkind]
  · rw [ht.print_eq, hprints texts ht]
    exact ⟨fun _ => rfl, fun _ => rfl, rfl⟩

/-- Without a token file there is nothing to list, which is reported, and so is a reader that is
missing. A type is printed, and nothing is reported. A home that nobody has is no failure of the
library's own. -/
theorem program_writes_whole_bare :
    (program (some Yaml.read) ⟨none, none⟩ bare ["inspect-tokens"]).runOn .blank =
        (.ok 1, ⟨[], ["error: No token file given. Pass --token-file or set " ++
          "HADOOP_TOKEN_FILE_LOCATION.\n"]⟩) ∧
      (program none ⟨none, none⟩ bare ["master-addresses", "--conf-file", "c.yaml"]).runOn .blank =
        (.ok 1, ⟨[], [failureLine LoadError.libraryMissing.failure]⟩) ∧
      (program (some Yaml.read) ⟨none, none⟩ bare ["hive-type", "int32"]).runOn .blank =
        (.ok 0, ⟨["int\n"], []⟩) ∧
      ∃ f, (program (some Yaml.read) ⟨some "~nobody", none⟩ bare ["inspect-tokens"]).runOn .blank =
        (.error f, .blank) := by
  have htokens : Command.ofArguments ["inspect-tokens"] = .ok (.inspectTokens none) := by rfl
  have hmasters : Command.ofArguments ["master-addresses", "--conf-file", "c.yaml"] =
      .ok (.masterAddresses (some "c.yaml") [] []) := by rfl
  have htype : Command.ofArguments ["hive-type", "int32"] =
      .ok (.hiveType "int32" none (.value 0)) := by rfl
  have hbare : Environment.settings ⟨none, none⟩ bare = .ok ⟨none, none⟩ := rfl
  have hnobody : Environment.settings ⟨some "~nobody", none⟩ bare = .error .unknownHome := by rfl
  have hunlisted : Stops (some Yaml.read) ⟨none, none⟩ bare (.inspectTokens none) noTokenFile :=
    .noTokenFile rfl hbare rfl
  have hunread : Stops none ⟨none, none⟩ bare (.masterAddresses (some "c.yaml") [] [])
      LoadError.libraryMissing.failure := .confFile rfl
  have hnamed : (TypeTag.named "int32").resolve = .ok .int32 := by decide
  have hmapped : givenType .int32 none (.value 0) = .ok ⟨.int, none, none⟩ := rfl
  have hprint : Prints (some Yaml.read) ⟨none, none⟩ bare (.hiveType "int32" none (.value 0))
      ["int" ++ "\n"] := .type hnamed hmapped rfl
  exact ⟨(program_writes_whole htokens _ _ bare).1 _ hunlisted rfl,
    (program_writes_whole hmasters _ _ bare).1 _ hunread rfl,
    (program_writes_whole htype _ _ bare).2.2.1 _ hprint,
    _, (program_writes_whole htokens _ _ bare).2.1 _ (.process rfl hnobody) rfl⟩

end Cli

end StorageHandler
