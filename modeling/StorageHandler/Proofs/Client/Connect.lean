import StorageHandler.Client.Connect
import StorageHandler.Proofs.Conf.Masters

/-!
# The phases of connecting

A connection ends where its first phase fails : the process settings
(`connect_of_settings_error`), the master addresses (`connect_of_unresolved`), the builder
(`connect_of_refused`) ; else it goes on to the import of credentials (`connect_of_built`). Nothing
is done before the builder is asked (`head?_actions_connect`).
-/

namespace StorageHandler

variable {fs : FileSystem} {env : Environment} {conf : Table} {builder : Builder}
  {provider : Option Provider} {settings : ProcessSettings} {addresses : String}

/-! ## Addresses -/

theorem masters_of_settings (h : env.settings fs = .ok settings) :
    settings.masters = env.defaultMasters := by
  rw [Environment.settings] at h
  split at h
  · cases h
    rfl
  · next value _ =>
    cases hp : Environment.tokenPath fs value with
    | error e => rw [hp] at h; cases h
    | ok path =>
      rw [hp] at h
      cases h
      rfl

/-- The default masters are never an empty text. -/
theorem filter_masters_of_settings (h : env.settings fs = .ok settings) :
    settings.masters.filter (· ≠ "") = settings.masters := by
  rw [masters_of_settings h, Environment.defaultMasters, Option.filter_filter]
  simp only [Bool.and_self]

/-- For a configuration of texts the addresses are those of the configuration with the default of
the process. -/
theorem resolveMasters_toEntries (c : JobConf) (settings : ProcessSettings) :
    resolveMasters c.toEntries settings =
      (c.withDefaultMasters settings.masters defaultMastersKey).kuduMasters.mapError .masters := by
  rw [resolveMasters, JobConf.ofEntries_toEntries]
  rfl

/-! ## Phases -/

theorem connect_of_settings_error {e : EnvironmentError} (h : env.settings fs = .error e) :
    connect fs env conf builder provider = ⟨[], .error (.environment e)⟩ := by
  rw [connect, h]
  rfl

theorem connect_of_unresolved {e : ClientError} (hs : env.settings fs = .ok settings)
    (ha : resolveMasters conf settings = .error e) :
    connect fs env conf builder provider = ⟨[], .error e⟩ := by
  simp only [connect, hs]
  change (Run.ofExcept (resolveMasters conf settings) >>= _) = _
  rw [ha]
  rfl

/-- The credentials that a connection imports : those of the given provider, else those of the
process. -/
def usedProvider (fs : FileSystem) (settings : ProcessSettings) (provider : Option Provider) :
    Provider :=
  provider.getD (processProvider fs settings)

/-- What is done with a client that was built : its credentials are imported, and it is closed if
that fails. -/
def prime (client : Client) (p : Provider) : Run Client := do
  let _ ← (importCredentials client p).onError client.closeQuietly
  return client

theorem connect_of_resolved (hs : env.settings fs = .ok settings)
    (ha : resolveMasters conf settings = .ok addresses) :
    connect fs env conf builder provider = (buildClient builder addresses >>= fun client =>
      prime client (usedProvider fs settings provider)) := by
  simp only [connect, hs]
  change (Run.ofExcept (resolveMasters conf settings) >>= _) = _
  rw [ha]
  rfl

/-- The settings of a process and the masters that they give for a configuration. -/
def resolved (fs : FileSystem) (env : Environment) (conf : Table) :
    Except ClientError (ProcessSettings × String) := do
  let settings ← (env.settings fs).mapError .environment
  let addresses ← resolveMasters conf settings
  return (settings, addresses)

theorem resolved_eq_ok_iff : resolved fs env conf = .ok (settings, addresses) ↔
    env.settings fs = .ok settings ∧ resolveMasters conf settings = .ok addresses := by
  rw [resolved]
  cases hs : env.settings fs with
  | error e => exact iff_of_false nofun (fun h => nomatch h.1)
  | ok settings' =>
    change (resolveMasters conf settings').bind (fun a => .ok (settings', a)) = _ ↔ _
    constructor
    · intro h
      cases ha : resolveMasters conf settings' with
      | error e => rw [ha] at h; cases h
      | ok a => rw [ha] at h; cases h; exact ⟨rfl, ha⟩
    · rintro ⟨h, ha⟩
      obtain rfl := Except.ok.inj h
      rw [ha]
      rfl

theorem connect_eq (fs : FileSystem) (env : Environment) (conf : Table) (builder : Builder)
    (provider : Option Provider) :
    connect fs env conf builder provider = (do
      let (settings, addresses) ← Run.ofExcept (resolved fs env conf)
      let client ← buildClient builder addresses
      prime client (usedProvider fs settings provider)) := by
  cases hs : env.settings fs with
  | error e => rw [connect_of_settings_error hs, resolved, hs]; rfl
  | ok settings =>
    cases ha : resolveMasters conf settings with
    | error e =>
      rw [connect_of_unresolved hs ha, resolved, hs]
      change _ = (Run.ofExcept ((resolveMasters conf settings).bind _) >>= _)
      rw [ha]
      rfl
    | ok a =>
      rw [connect_of_resolved hs ha, resolved_eq_ok_iff.2 ⟨hs, ha⟩]
      rfl

theorem connect_of_refused {e : ClientError} (hs : env.settings fs = .ok settings)
    (ha : resolveMasters conf settings = .ok addresses)
    (hb : (builder addresses).outcome = .error e) :
    connect fs env conf builder provider =
      ⟨.build addresses :: (builder addresses).actions, .error (.ofBuilder addresses e)⟩ := by
  have hbuild : buildClient builder addresses =
      ⟨.build addresses :: (builder addresses).actions, .error (.ofBuilder addresses e)⟩ := by
    simp only [buildClient, bind, Run.act, Run.mapError, hb, Except.mapError, List.cons_append,
      List.nil_append]
  rw [connect_of_resolved hs ha, hbuild]
  rfl

theorem connect_of_built {client : Client} (hs : env.settings fs = .ok settings)
    (ha : resolveMasters conf settings = .ok addresses)
    (hb : (builder addresses).outcome = .ok client) :
    connect fs env conf builder provider =
      ⟨.build addresses :: ((builder addresses).actions ++ .log (.clientCreated addresses) ::
          (prime client (usedProvider fs settings provider)).actions),
        (prime client (usedProvider fs settings provider)).outcome⟩ := by
  have hbuild : buildClient builder addresses =
      ⟨.build addresses :: ((builder addresses).actions ++ [.log (.clientCreated addresses)]),
        .ok client⟩ := by
    simp only [buildClient, bind, pure, Run.act, Run.mapError, hb, Except.mapError,
      List.cons_append, List.nil_append, List.append_nil]
  rw [connect_of_resolved hs ha, hbuild]
  simp only [bind, List.cons_append, List.append_assoc, List.nil_append]

/-- Nothing is done before the builder is asked for the addresses. -/
theorem head?_actions_connect (hs : env.settings fs = .ok settings)
    (ha : resolveMasters conf settings = .ok addresses) :
    (connect fs env conf builder provider).actions.head? = some (.build addresses) := by
  cases hb : (builder addresses).outcome with
  | error e => rw [connect_of_refused hs ha hb]; rfl
  | ok client => rw [connect_of_built hs ha hb]; rfl

end StorageHandler
