import StorageHandler.Proofs.Client.Build
import StorageHandler.Proofs.Client.Selection
import StorageHandler.Proofs.Conf.AddressList

/-!
# Connections by the client library

Where no builder is given the client library builds. It is asked to connect if masters are resolved,
it is installed and the list of addresses is accepted, and what comes of each case is a course of its
own (`LibraryCourse`, `connect_libraryCourse`). The hosts and the ports go to it in two lists, which
together are the addresses of the list (`zipWith_hosts_ports`). The client keeps the list as it was
written, and is given the secret of the first token for it (`offeredSecrets_prime`).
`connect_libraryConnection` puts all of this together.
-/

namespace StorageHandler

variable {fs : FileSystem} {env : Environment} {conf : Table} {library : Option KuduLibrary}
  {provider : Option Provider} {list : String}

/-! ## What the library is asked -/

/-- Addresses are made of their hosts and ports, pair by pair. -/
theorem Address.zipWith_hosts_ports (addresses : List Address) :
    List.zipWith Address.mk (hosts addresses) (ports addresses) = addresses := by
  rw [hosts, ports, List.zipWith_map, List.zipWith_self]
  exact List.map_id addresses

/-- The hosts and the ports with which an action asks the library to connect. -/
def Action.connectLists? : Action → Option (List String × List ℤ)
  | .connect hosts ports => some (hosts, ports)
  | _ => none

/-- The hosts and the ports of each time that the library is asked to connect. -/
def connectCalls (actions : List Action) : List (List String × List ℤ) :=
  actions.filterMap Action.connectLists?

theorem IsPriming.connectLists?_eq_none {x : Action} (h : IsPriming x) :
    x.connectLists? = none := by
  cases x with
  | connect hosts ports => exact h.elim
  | _ => rfl

/-- A client that was built is primed without the library being asked again. -/
theorem connectCalls_prime (client : Client) (p : Provider) :
    connectCalls (prime client p).actions = [] :=
  List.filterMap_eq_nil_iff.2 fun _ hx => (isPriming_of_mem_prime hx).connectLists?_eq_none

/-! ## Building -/

namespace KuduLibrary

variable {l : KuduLibrary} {addresses : List Address}

theorem builder_of_rejected {e : AddressError} (h : Address.readAll list = .error e) :
    builder (some l) list = ⟨[], .error (.addresses e)⟩ := by
  simp only [builder, h]
  rfl

theorem builder_of_failed {f : Failure} (h : Address.readAll list = .ok addresses)
    (hf : l.connectFailure = some f) :
    builder (some l) list =
      ⟨[.connect (Address.hosts addresses) (Address.ports addresses)], .error (.foreign f)⟩ := by
  simp only [builder, h, bind, Run.ofExcept, Except.mapError, connect, hf, List.nil_append]

theorem builder_of_connected (h : Address.readAll list = .ok addresses)
    (hf : l.connectFailure = none) :
    builder (some l) list =
      ⟨[.connect (Address.hosts addresses) (Address.ports addresses)], .ok (l.wrap list)⟩ := by
  simp only [builder, h, bind, Run.ofExcept, Except.mapError, connect, hf]
  rfl

end KuduLibrary

/-! ## Courses of a connection -/

section Runs

variable {l : KuduLibrary} {addresses : List Address} (resolves : Resolves fs env conf list)

include resolves

theorem connect_of_missing :
    connect fs env conf (KuduLibrary.builder none) provider =
      ⟨[.build list], .error .libraryMissing⟩ := by
  obtain ⟨settings, hs, hmasters⟩ := resolves_iff.1 resolves
  have hbuild : (KuduLibrary.builder none list).outcome = .error .libraryMissing := rfl
  exact connect_of_refused hs hmasters hbuild

theorem connect_of_rejected {e : AddressError} (h : Address.readAll list = .error e) :
    connect fs env conf (KuduLibrary.builder (some l)) provider =
      ⟨[.build list], .error (.addresses e)⟩ := by
  obtain ⟨settings, hs, hmasters⟩ := resolves_iff.1 resolves
  have hbuild := KuduLibrary.builder_of_rejected (l := l) h
  rw [connect_of_refused hs hmasters (by rw [hbuild]), hbuild]
  rfl

theorem connect_of_failed {f : Failure} (h : Address.readAll list = .ok addresses)
    (hf : l.connectFailure = some f) :
    connect fs env conf (KuduLibrary.builder (some l)) provider =
      ⟨[.build list, .connect (Address.hosts addresses) (Address.ports addresses)],
        .error (.ofBuilder list (.foreign f))⟩ := by
  obtain ⟨settings, hs, hmasters⟩ := resolves_iff.1 resolves
  have hbuild := KuduLibrary.builder_of_failed h hf
  rw [connect_of_refused hs hmasters (by rw [hbuild]), hbuild]

theorem connect_of_connected {settings : ProcessSettings}
    (h : Address.readAll list = .ok addresses) (hf : l.connectFailure = none)
    (hs : env.settings fs = .ok settings) :
    connect fs env conf (KuduLibrary.builder (some l)) provider =
      ⟨.build list :: .connect (Address.hosts addresses) (Address.ports addresses) ::
          .log (.clientCreated list) ::
            (prime (l.wrap list) (usedProvider fs settings provider)).actions,
        (prime (l.wrap list) (usedProvider fs settings provider)).outcome⟩ := by
  obtain ⟨settings', hs', hmasters⟩ := resolves_iff.1 resolves
  obtain rfl := Except.ok.inj (hs.symm.trans hs')
  have hbuild := KuduLibrary.builder_of_connected h hf
  rw [connect_of_built hs hmasters (by rw [hbuild]), hbuild]
  rfl

end Runs

/-- How a connection by the library goes. -/
inductive LibraryCourse (fs : FileSystem) (env : Environment) (conf : Table)
    (library : Option KuduLibrary) (provider : Option Provider) : Run Client → Prop
  /-- There are no masters to ask for. -/
  | unresolved {e : ClientError} (unresolved : ∀ list, ¬Resolves fs env conf list)
    (why : Unresolved fs env conf e) :
    LibraryCourse fs env conf library provider ⟨[], .error e⟩
  /-- The library is not installed, and the list of addresses is not looked at. -/
  | missing {list : String} (resolves : Resolves fs env conf list) (missing : library = none) :
    LibraryCourse fs env conf library provider ⟨[.build list], .error .libraryMissing⟩
  /-- The list of addresses is refused, and the library is not asked. -/
  | rejected {l : KuduLibrary} {list : String} {e : AddressError}
    (resolves : Resolves fs env conf list) (installed : library = some l)
    (rejected : Address.readAll list = .error e) :
    LibraryCourse fs env conf library provider ⟨[.build list], .error (.addresses e)⟩
  /-- The library fails to connect. -/
  | failed {l : KuduLibrary} {list : String} {addresses : List Address} {f : Failure}
    {e : ClientError} (resolves : Resolves fs env conf list) (installed : library = some l)
    (accepted : Address.readAll list = .ok addresses) (failure : l.connectFailure = some f)
    (leaves : LeavesAs list (.foreign f) e) :
    LibraryCourse fs env conf library provider
      ⟨[.build list, .connect (Address.hosts addresses) (Address.ports addresses)], .error e⟩
  /-- The library connects, and the client for the list is primed. -/
  | connected {l : KuduLibrary} {list : String} {addresses : List Address}
    {settings : ProcessSettings} (resolves : Resolves fs env conf list)
    (installed : library = some l) (accepted : Address.readAll list = .ok addresses)
    (connects : l.connectFailure = none) (process : env.settings fs = .ok settings) :
    LibraryCourse fs env conf library provider
      ⟨.build list :: .connect (Address.hosts addresses) (Address.ports addresses) ::
          .log (.clientCreated list) ::
            (prime (l.wrap list) (usedProvider fs settings provider)).actions,
        (prime (l.wrap list) (usedProvider fs settings provider)).outcome⟩

theorem connect_libraryCourse (fs : FileSystem) (env : Environment) (conf : Table)
    (library : Option KuduLibrary) (provider : Option Provider) :
    LibraryCourse fs env conf library provider
      (connect fs env conf (KuduLibrary.builder library) provider) := by
  by_cases hresolves : ∃ list, Resolves fs env conf list
  · obtain ⟨list, hlist⟩ := hresolves
    cases library with
    | none =>
      rw [connect_of_missing hlist]
      exact .missing hlist rfl
    | some l =>
      cases hread : Address.readAll list with
      | error e =>
        rw [connect_of_rejected hlist hread]
        exact .rejected hlist rfl hread
      | ok addresses =>
        cases hconnect : l.connectFailure with
        | some f =>
          rw [connect_of_failed hlist hread hconnect]
          exact .failed hlist rfl hread hconnect (leavesAs_ofBuilder list (.foreign f))
        | none =>
          obtain ⟨settings, hs, -⟩ := resolves_iff.1 hlist
          rw [connect_of_connected hlist hread hconnect hs]
          exact .connected hlist rfl hread hconnect hs
  · obtain ⟨e, he, hrun⟩ := connect_of_not_resolves (KuduLibrary.builder library) provider
      (not_exists.1 hresolves)
    rw [hrun]
    exact .unresolved (not_exists.1 hresolves) he

/-! ## When the library is asked -/

theorem Resolves.unique {list' : String} (h : Resolves fs env conf list)
    (h' : Resolves fs env conf list') : list = list' := by
  obtain ⟨settings, hs, hmasters⟩ := resolves_iff.1 h
  obtain ⟨settings', hs', hmasters'⟩ := resolves_iff.1 h'
  obtain rfl := Except.ok.inj (hs.symm.trans hs')
  exact Except.ok.inj (hmasters.symm.trans hmasters')

/-- Masters are resolved, the library is installed, and the list of the masters is accepted. -/
def Connectable (fs : FileSystem) (env : Environment) (conf : Table)
    (library : Option KuduLibrary) (addresses : List Address) : Prop :=
  ∃ list l, Resolves fs env conf list ∧ library = some l ∧ Address.readAll list = .ok addresses

theorem Connectable.ne_nil {addresses : List Address}
    (h : Connectable fs env conf library addresses) : addresses ≠ [] := by
  obtain ⟨list, l, -, -, accepted⟩ := h
  exact (Address.readAll_eq_ok_iff.1 accepted).1

/-- The library is asked for the addresses, once, or there are none to ask it for. -/
theorem LibraryCourse.connectCalls_eq {run : Run Client}
    (h : LibraryCourse fs env conf library provider run) :
    (∃ addresses, Connectable fs env conf library addresses ∧
      connectCalls run.actions = [(Address.hosts addresses, Address.ports addresses)]) ∨
    (∀ addresses, ¬Connectable fs env conf library addresses) ∧ connectCalls run.actions = [] := by
  cases h with
  | unresolved unresolved _ =>
    exact .inr ⟨fun _ ⟨list, _, hlist, _⟩ => unresolved list hlist, rfl⟩
  | missing _ missing =>
    refine .inr ⟨fun _ ⟨_, _, _, installed, _⟩ => ?_, rfl⟩
    cases missing.symm.trans installed
  | rejected resolves _ rejected =>
    refine .inr ⟨fun _ ⟨_, _, hlist, _, accepted⟩ => ?_, rfl⟩
    rw [resolves.unique hlist, accepted] at rejected
    cases rejected
  | failed resolves installed accepted _ _ =>
    exact .inl ⟨_, ⟨_, _, resolves, installed, accepted⟩, rfl⟩
  | @connected l list addresses settings resolves installed accepted _ _ =>
    refine .inl ⟨addresses, ⟨list, l, resolves, installed, accepted⟩, ?_⟩
    exact congrArg (_ :: ·) (connectCalls_prime _ _)

/-! ## What the client is given -/

theorem ImportCourse.offeredSecrets_eq {client : Client} {p : Provider} {r : Run Bool}
    (h : ImportCourse client p r) :
    offeredSecrets r.actions = (firstSecret (p.tokensFor client.service)).toList := by
  cases h with
  | failed e => rfl
  | unmatched selection =>
    rw [selection.firstSecret_eq]
    exact filterMap_log _ fun _ => rfl
  | accepted selection _ | refused selection _ =>
    rw [selection.firstSecret_eq]
    exact offeredSecrets_log_append _ _

/-- What follows the import offers nothing. -/
theorem HandedOver.offeredSecrets_eq_nil {client : Client} {p : Provider} {tail : List Action}
    {outcome : Except ClientError Client} (h : HandedOver client p tail outcome) :
    offeredSecrets tail = [] := by
  cases h <;> rfl

theorem offeredSecrets_prime (client : Client) (p : Provider) :
    offeredSecrets (prime client p).actions =
      (firstSecret (p.tokensFor client.service)).toList := by
  obtain ⟨tail, htail, hover⟩ := prime_handedOver client p
  have hoffered := (importCredentials_course client p).offeredSecrets_eq
  rw [htail, offeredSecrets, List.filterMap_append, ← offeredSecrets, ← offeredSecrets,
    hover.offeredSecrets_eq_nil, List.append_nil, hoffered]

theorem outcome_prime {client client' : Client} {p : Provider}
    (h : (prime client p).outcome = .ok client') : client' = client := by
  obtain ⟨tail, -, hover⟩ := prime_handedOver client p
  rw [h] at hover
  cases hover
  rfl

/-! ## Connections -/

/-- What a connection by the library does, and what comes of it. -/
structure LibraryConnection (fs : FileSystem) (env : Environment) (conf : Table)
    (library : Option KuduLibrary) (provider : Option Provider) (run : Run Client) : Prop where
  /-- The library is asked to connect at most once. -/
  once : (connectCalls run.actions).length ≤ 1
  /-- It is asked if there are addresses to ask it for. -/
  asked : connectCalls run.actions ≠ [] ↔ ∃ addresses, Connectable fs env conf library addresses
  /-- It is asked for hosts and ports, as many of the ones as of the others, which together are the
  addresses in their order. -/
  lists : ∀ hosts ports, (hosts, ports) ∈ connectCalls run.actions →
    hosts ≠ [] ∧ ports ≠ [] ∧ hosts.length = ports.length ∧
      Connectable fs env conf library (List.zipWith Address.mk hosts ports)
  /-- A missing library is the error, whatever the list of addresses is. -/
  missing : ∀ list, Resolves fs env conf list → library = none →
    run.outcome = .error .libraryMissing
  /-- The error of a refused list is what the reading of the list says. -/
  rejected : ∀ list l e, Resolves fs env conf list → library = some l →
    Address.readAll list = .error e → run.outcome = .error (.addresses e)
  /-- The failure of the library leaves as that of a builder does. -/
  failed : ∀ list l addresses f, Resolves fs env conf list → library = some l →
    Address.readAll list = .ok addresses → l.connectFailure = some f →
    ∃ e, LeavesAs list (.foreign f) e ∧ run.outcome = .error e
  /-- A client that is built is offered the secret of the first token for the list as it was
  written, and calls itself by the list. -/
  connected : ∀ list l addresses settings, Resolves fs env conf list → library = some l →
    Address.readAll list = .ok addresses → l.connectFailure = none →
    env.settings fs = .ok settings →
    offeredSecrets run.actions =
        (firstSecret ((usedProvider fs settings provider).tokensFor list)).toList ∧
      ∀ client, run.outcome = .ok client → client = l.wrap list ∧ client.service = list

/-- A connection by the library asks it for the masters that the list names, each with its host and
its port, if there is a list that is accepted ; else the connection fails with the first thing that
is in the way. -/
theorem connect_libraryConnection (fs : FileSystem) (env : Environment) (conf : Table)
    (library : Option KuduLibrary) (provider : Option Provider) :
    LibraryConnection fs env conf library provider
      (connect fs env conf (KuduLibrary.builder library) provider) where
  once := by
    rcases (connect_libraryCourse fs env conf library provider).connectCalls_eq with
      ⟨_, -, hcalls⟩ | ⟨-, hcalls⟩
    · exact (congrArg List.length hcalls).le
    · exact (congrArg List.length hcalls).le.trans (Nat.zero_le 1)
  asked := by
    rcases (connect_libraryCourse fs env conf library provider).connectCalls_eq with
      ⟨addresses, hconnectable, hcalls⟩ | ⟨hnone, hcalls⟩
    · rw [hcalls]
      exact iff_of_true (List.cons_ne_nil _ _) ⟨addresses, hconnectable⟩
    · exact iff_of_false (not_not_intro hcalls) (not_exists.2 hnone)
  lists hosts ports hmem := by
    rcases (connect_libraryCourse fs env conf library provider).connectCalls_eq with
      ⟨addresses, hconnectable, hcalls⟩ | ⟨-, hcalls⟩
    · rw [hcalls, List.mem_singleton] at hmem
      obtain ⟨rfl, rfl⟩ := Prod.mk.inj hmem
      have hne : addresses ≠ [] := hconnectable.ne_nil
      refine ⟨mt List.map_eq_nil_iff.1 hne, mt List.map_eq_nil_iff.1 hne, ?_, ?_⟩
      · rw [Address.hosts, Address.ports, List.length_map, List.length_map]
      · rwa [Address.zipWith_hosts_ports]
    · rw [hcalls] at hmem
      cases hmem
  missing list resolves missing := by rw [missing, connect_of_missing resolves]
  rejected list l e resolves installed rejected := by
    rw [installed, connect_of_rejected resolves rejected]
  failed list l addresses f resolves installed accepted failure := by
    rw [installed, connect_of_failed resolves accepted failure]
    exact ⟨_, leavesAs_ofBuilder list (.foreign f), rfl⟩
  connected list l addresses settings resolves installed accepted connects process := by
    rw [installed, connect_of_connected resolves accepted connects process]
    refine ⟨offeredSecrets_prime _ _, fun client hclient => ?_⟩
    obtain rfl := outcome_prime hclient
    exact ⟨rfl, rfl⟩

end StorageHandler
