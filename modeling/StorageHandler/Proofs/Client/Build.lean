import StorageHandler.Proofs.Client.Handle
import StorageHandler.Proofs.Conf.Held

/-!
# When a builder is asked, and what its failures become

A connection asks its builder if the process settings are in order, the configuration holds texts
only and masters are named (`Resolves`) ; else it ends with the first of these that fails
(`Unresolved`). The builder's failures leave as `LeavesAs` says. After a client was built that is
logged, once and before anything is done with credentials (`IsPriming`).

A connection for a configuration that its caller holds (`connectHeld`) does the same and leaves
what is held as it is. `connectHeld_buildPhase` puts all of this together.
-/

namespace StorageHandler

variable {fs : FileSystem} {env : Environment} {conf : Table} {builder : Builder}
  {provider : Option Provider} {addresses : String}

/-! ## Before the builder is asked -/

/-- The process settings are in order, the configuration holds texts only, and `addresses` are the
masters that it or the process names. -/
def Resolves (fs : FileSystem) (env : Environment) (conf : Table) (addresses : String) : Prop :=
  ∃ settings ts, env.settings fs = .ok settings ∧ conf = textEntries ts ∧
    JobConf.mastersOr (.ofList ts) settings.masters = some addresses

/-- Why no builder is asked : the first of three conditions that is not met. -/
inductive Unresolved (fs : FileSystem) (env : Environment) (conf : Table) : ClientError → Prop
  | environment {e : EnvironmentError} (failed : env.settings fs = .error e) :
    Unresolved fs env conf (.environment e)
  | entry {settings : ProcessSettings} {ts : List (String × String)} {k v : Datum} {more : Table}
      (process : env.settings fs = .ok settings)
      (entries : conf = textEntries ts ++ (k, v) :: more) (refused : Refused k v) :
    Unresolved fs env conf (.entry (.notText k v))
  | masters {settings : ProcessSettings} {ts : List (String × String)}
      (process : env.settings fs = .ok settings) (entries : conf = textEntries ts)
      (missing : JobConf.mastersOr (.ofList ts) settings.masters = none) :
    Unresolved fs env conf (.masters ⟨mastersKey, defaultMastersKey⟩)

theorem resolveMasters_textEntries (ts : List (String × String)) (settings : ProcessSettings) :
    resolveMasters (textEntries ts) settings =
      match JobConf.mastersOr (.ofList ts) settings.masters with
      | some a => .ok a
      | none => .error (.masters ⟨mastersKey, defaultMastersKey⟩) := by
  rw [resolveMasters, JobConf.ofEntries_textEntries]
  change ((JobConf.withDefaultMasters (.ofList ts) settings.masters
    defaultMastersKey).kuduMasters).mapError ClientError.masters = _
  rw [JobConf.kuduMasters_withDefaultMasters]
  cases JobConf.mastersOr (.ofList ts) settings.masters <;> rfl

theorem resolveMasters_refused (ts : List (String × String)) {k v : Datum} (more : Table)
    (h : Refused k v) (settings : ProcessSettings) :
    resolveMasters (textEntries ts ++ (k, v) :: more) settings =
      .error (.entry (.notText k v)) := by
  rw [resolveMasters, JobConf.ofEntries_refused ts more h]
  rfl

theorem resolves_iff : Resolves fs env conf addresses ↔
    ∃ settings, env.settings fs = .ok settings ∧
      resolveMasters conf settings = .ok addresses := by
  constructor
  · rintro ⟨settings, ts, hs, rfl, ha⟩
    exact ⟨settings, hs, by rw [resolveMasters_textEntries, ha]⟩
  · rintro ⟨settings, hs, ha⟩
    rcases textEntries_or_refused conf with ⟨ts, rfl⟩ | ⟨ts, k, v, more, rfl, hrefused⟩
    · rw [resolveMasters_textEntries] at ha
      cases hm : JobConf.mastersOr (.ofList ts) settings.masters with
      | none => rw [hm] at ha; cases ha
      | some a =>
        rw [hm] at ha
        obtain rfl := Except.ok.inj ha
        exact ⟨settings, ts, hs, rfl, hm⟩
    · rw [resolveMasters_refused ts more hrefused] at ha
      cases ha

/-- Without masters a connection does nothing and says why. -/
theorem connect_of_not_resolves (builder : Builder) (provider : Option Provider)
    (h : ∀ a, ¬Resolves fs env conf a) :
    ∃ e, Unresolved fs env conf e ∧ connect fs env conf builder provider = ⟨[], .error e⟩ := by
  cases hs : env.settings fs with
  | error e => exact ⟨_, .environment hs, connect_of_settings_error hs⟩
  | ok settings =>
    rcases textEntries_or_refused conf with ⟨ts, rfl⟩ | ⟨ts, k, v, more, rfl, hrefused⟩
    · cases hm : JobConf.mastersOr (.ofList ts) settings.masters with
      | none =>
        refine ⟨_, .masters hs rfl hm, connect_of_unresolved hs ?_⟩
        rw [resolveMasters_textEntries, hm]
      | some a => exact absurd ⟨settings, ts, hs, rfl, hm⟩ (h a)
    · exact ⟨_, .entry hs rfl hrefused,
        connect_of_unresolved hs (resolveMasters_refused ts more hrefused settings)⟩

/-- A builder is asked for the masters that are named, before anything else is done. -/
theorem head?_actions_connect_iff :
    (connect fs env conf builder provider).actions.head? = some (.build addresses) ↔
      Resolves fs env conf addresses := by
  constructor
  · intro h
    by_cases hr : ∃ a, Resolves fs env conf a
    · obtain ⟨a, ha⟩ := hr
      obtain ⟨settings, hs, hmasters⟩ := resolves_iff.1 ha
      rw [head?_actions_connect hs hmasters] at h
      obtain rfl := Action.build.inj (Option.some.inj h)
      exact ha
    · obtain ⟨e, -, he⟩ := connect_of_not_resolves builder provider (not_exists.1 hr)
      rw [he] at h
      cases h
  · intro h
    obtain ⟨settings, hs, hmasters⟩ := resolves_iff.1 h
    exact head?_actions_connect hs hmasters

/-! ## Errors of builders -/

/-- How the error `e` of a builder that was asked for `addresses` leaves the connection. -/
inductive LeavesAs (addresses : String) (e : ClientError) : ClientError → Prop
  /-- A failure of the library itself leaves unchanged. -/
  | own (own : e.kind.isOwn = true) : LeavesAs addresses e e
  /-- Another ordinary failure causes a failure to connect, which names it and the masters. -/
  | wrapped {e' : ClientError} (foreign : e.kind.isOwn = false)
      (ordinary : e.kind.isOrdinary = true) (kind : e'.kind = .connection)
      (cause : e'.cause? = some e.failure)
      (message : e'.message = "Failed to connect to Kudu masters " ++ addresses ++ ": " ++
        e.failure.text ++ ". Check that the masters are reachable and retry.") :
    LeavesAs addresses e e'
  /-- An interrupt or an exit leaves unchanged. -/
  | extraordinary (extraordinary : e.kind.isOrdinary = false) : LeavesAs addresses e e

theorem leavesAs_ofBuilder (addresses : String) (e : ClientError) :
    LeavesAs addresses e (.ofBuilder addresses e) := by
  rw [ClientError.ofBuilder]
  cases hown : e.kind.isOwn with
  | true => exact .own hown
  | false =>
    cases hordinary : e.kind.isOrdinary with
    | true => exact .wrapped hown hordinary rfl rfl rfl
    | false => exact .extraordinary hordinary

/-! ## After a client was built -/

/-- What is done with a client that was built and logged : its credentials are imported, or it is
closed. -/
def IsPriming : Action → Prop
  | .log (.credentialsImported _) | .log (.credentialsSkipped ..) | .log (.closeFailed _)
  | .importSecret .. | .close => True
  | _ => False

theorem isPriming_of_mem_importCredentials {client : Client} {p : Provider} {x : Action}
    (h : x ∈ (importCredentials client p).actions) : IsPriming x := by
  rcases mem_actions_importCredentials h with ⟨s, rfl⟩ | rfl | ⟨secret, succeeded, rfl⟩ <;> trivial

theorem HandedOver.isPriming {client : Client} {p : Provider} {tail : List Action}
    {outcome : Except ClientError Client} (h : HandedOver client p tail outcome) {x : Action}
    (hx : x ∈ tail) : IsPriming x := by
  cases h with
  | returned | dropped => cases hx
  | closed | replaced =>
    obtain rfl := List.mem_singleton.1 hx
    trivial
  | noted => rcases List.mem_pair.1 hx with rfl | rfl <;> trivial

theorem isPriming_of_mem_prime {client : Client} {p : Provider} {x : Action}
    (h : x ∈ (prime client p).actions) : IsPriming x := by
  obtain ⟨tail, htail, hover⟩ := prime_handedOver client p
  rw [htail, List.mem_append] at h
  exact h.elim isPriming_of_mem_importCredentials hover.isPriming

/-! ## Configurations that are held -/

/-- The settings of the process and the masters for configuration `i` of those that are held. -/
def resolveHeld (held : Held) (i : ℕ) (fs : FileSystem) (env : Environment) :
    Held × Except ClientError (ProcessSettings × String) :=
  match env.settings fs with
  | .error e => (held, .error (.environment e))
  | .ok settings =>
    match held.seed i settings.masters with
    | (held, .error e) => (held, .error (.entry e))
    | (held, .ok j) =>
      (held, ((held.jobConf j).kuduMasters.mapError .masters).map fun a => (settings, a))

/-- `connect` for configuration `i` of those that are held. -/
def connectHeld (held : Held) (i : ℕ) (fs : FileSystem) (env : Environment) (builder : Builder)
    (provider : Option Provider) : Held × Run Client :=
  let (held, resolution) := resolveHeld held i fs env
  (held, do
    let (settings, addresses) ← Run.ofExcept resolution
    let client ← buildClient builder addresses
    prime client (usedProvider fs settings provider))

/-- Masters for a configuration that is held are those for its entries. -/
theorem snd_resolveHeld (held : Held) (i : ℕ) (fs : FileSystem) (env : Environment) :
    (resolveHeld held i fs env).2 = resolved fs env (held.conf i) := by
  rw [resolveHeld, resolved]
  cases env.settings fs with
  | error e => rfl
  | ok settings =>
    change _ = (resolveMasters (held.conf i) settings).map fun a => (settings, a)
    dsimp only
    rw [resolveMasters]
    cases hc : JobConf.ofEntries (held.conf i) with
    | error e =>
      obtain ⟨t, ht⟩ := Held.seed_of_refused hc settings.masters
      rw [ht]
      rfl
    | ok c =>
      rw [Held.seed_of_taken hc]
      dsimp only
      rw [Held.jobConf_append_length]
      rfl

theorem prefix_resolveHeld (held : Held) (i : ℕ) (fs : FileSystem) (env : Environment) :
    held <+: (resolveHeld held i fs env).1 := by
  rw [resolveHeld]
  cases env.settings fs with
  | error e => exact List.prefix_refl held
  | ok settings =>
    have h := held.prefix_seed i settings.masters
    dsimp only
    split
    · next hseed => rwa [hseed] at h
    · next hseed => rwa [hseed] at h

theorem snd_connectHeld (held : Held) (i : ℕ) (fs : FileSystem) (env : Environment)
    (builder : Builder) (provider : Option Provider) :
    (connectHeld held i fs env builder provider).2 =
      connect fs env (held.conf i) builder provider := by
  rw [connect_eq, ← snd_resolveHeld]
  rfl

/-! ## The phases until there is a client -/

/-- How a connection for `conf` goes until there is a client. -/
structure BuildPhase (fs : FileSystem) (env : Environment) (conf : Table) (builder : Builder)
    (run : Run Client) : Prop where
  /-- A builder is asked, at first, for the masters that are resolved and for no others. -/
  asked : ∀ a, run.actions.head? = some (.build a) ↔ Resolves fs env conf a
  /-- Without masters nothing is done. -/
  unasked : (∀ a, ¬Resolves fs env conf a) →
    ∃ e, Unresolved fs env conf e ∧ run = ⟨[], .error e⟩
  /-- A builder that fails is asked once, and nothing is done after it. -/
  failed : ∀ a e, Resolves fs env conf a → (builder a).outcome = .error e →
    ∃ e', LeavesAs a e e' ∧ run = ⟨.build a :: (builder a).actions, .error e'⟩
  /-- A builder that returns a client is asked once. That there is a client is logged once, before
  its credentials are dealt with. -/
  built : ∀ a client, Resolves fs env conf a → (builder a).outcome = .ok client →
    ∃ after, run.actions =
        .build a :: ((builder a).actions ++ .log (.clientCreated a) :: after) ∧
      ∀ x ∈ after, IsPriming x

theorem buildPhase_connect (fs : FileSystem) (env : Environment) (conf : Table) (builder : Builder)
    (provider : Option Provider) :
    BuildPhase fs env conf builder (connect fs env conf builder provider) where
  asked _ := head?_actions_connect_iff
  unasked := connect_of_not_resolves builder provider
  failed a e ha hb := by
    obtain ⟨settings, hs, hmasters⟩ := resolves_iff.1 ha
    exact ⟨.ofBuilder a e, leavesAs_ofBuilder a e, connect_of_refused hs hmasters hb⟩
  built a client ha hb := by
    obtain ⟨settings, hs, hmasters⟩ := resolves_iff.1 ha
    rw [connect_of_built hs hmasters hb]
    exact ⟨_, rfl, fun x => isPriming_of_mem_prime⟩

/-- A connection for a configuration that is held goes, until there is a client, as the settings of
the process, the configuration and the builder have it, and leaves all that is held as it is. -/
theorem connectHeld_buildPhase (held : Held) (i : ℕ) (fs : FileSystem) (env : Environment)
    (builder : Builder) (provider : Option Provider) :
    (connectHeld held i fs env builder provider).2 =
        connect fs env (held.conf i) builder provider ∧
      BuildPhase fs env (held.conf i) builder (connect fs env (held.conf i) builder provider) ∧
      held <+: (connectHeld held i fs env builder provider).1 :=
  ⟨snd_connectHeld held i fs env builder provider,
    buildPhase_connect fs env (held.conf i) builder provider,
    prefix_resolveHeld held i fs env⟩

/-- Masters that a table names are resolved for any process without a token file. -/
example (fs : FileSystem) :
    Resolves fs ⟨none, none⟩ (textEntries [(mastersKey, "h:7051")]) "h:7051" :=
  ⟨⟨none, none⟩, [(mastersKey, "h:7051")], rfl, rfl, by decide +kernel⟩

end StorageHandler
