import StorageHandler.Proofs.Client.Build

/-!
# Calls in a row

A process connects again and again. `Session` has what a row of calls leaves : the configurations
that are held, the clients that were built with the secrets that they were given, and the answers to
the calls. A secret goes to a client by the number of the client (`Session.perform`), so that where
it goes is a matter of the run.

A call leaves what was there and adds what comes of it for its own configuration (`call_eq`). What
comes of a call is thus the same whatever is called before and after it (`client?_run`,
`outcome?_run`), and there are no other clients than those of calls (`exists_client?_of_mem`).
-/

namespace StorageHandler

/-! ## What a client is given -/

section Prime

variable {client : Client} {p p' : Provider}

/-- What follows the import hands nothing over. -/
theorem HandedOver.importedSecrets_eq_nil {tail : List Action}
    {outcome : Except ClientError Client} (h : HandedOver client p tail outcome) :
    importedSecrets tail = [] := by
  cases h <;> rfl

theorem importedSecrets_prime (client : Client) (p : Provider) :
    importedSecrets (prime client p).actions =
      importedSecrets (importCredentials client p).actions := by
  obtain ⟨tail, htail, hover⟩ := prime_handedOver client p
  rw [htail, importedSecrets, List.filterMap_append, ← importedSecrets, ← importedSecrets,
    hover.importedSecrets_eq_nil, List.append_nil]

theorem outcome_prime_congr
    (h : (importCredentials client p).outcome = (importCredentials client p').outcome) :
    (prime client p).outcome = (prime client p').outcome := by
  cases hp : (importCredentials client p).outcome with
  | ok found => rw [prime_of_imported hp, prime_of_imported (h.symm.trans hp)]
  | error e => rw [prime_of_failed hp, prime_of_failed (h.symm.trans hp)]

end Prime

/-! ## Calls -/

/-- A call : what its process has, the number of the configuration that it is for, and what it is
given. -/
structure Call where
  fs : FileSystem
  env : Environment
  conf : ℕ
  builder : Builder
  provider : Option Provider

/-- A client that was built. -/
structure Handle where
  /-- The masters that it was built for. -/
  addresses : String
  /-- The secrets that it was given, in order. -/
  secrets : List (List UInt8)
  deriving DecidableEq, Repr

/-- What a call comes to. -/
structure Answer where
  /-- The number of the client that was built. -/
  client : Option ℕ
  outcome : Except ClientError Client

namespace Call

/-- The client that a call for `conf` builds, in the end. -/
def handle? (c : Call) (conf : Table) : Option Handle :=
  match resolved c.fs c.env conf with
  | .error _ => none
  | .ok (settings, addresses) =>
    match (c.builder addresses).outcome with
    | .error _ => none
    | .ok client =>
      let primed := prime client (usedProvider c.fs settings c.provider)
      some ⟨addresses, importedSecrets primed.actions⟩

/-- How a call for `conf` ends. -/
def outcome (c : Call) (conf : Table) : Except ClientError Client :=
  (connect c.fs c.env conf c.builder c.provider).outcome

variable {c : Call} {conf : Table} {settings : ProcessSettings} {addresses : String}

/-- How far a call for `conf` gets. -/
inductive Course (c : Call) (conf : Table) : Prop
  /-- There are no masters. -/
  | unresolved (e : ClientError) (masters : resolved c.fs c.env conf = .error e)
  /-- The builder fails. -/
  | refused (settings : ProcessSettings) (addresses : String) (e : ClientError)
    (masters : resolved c.fs c.env conf = .ok (settings, addresses))
    (failed : (c.builder addresses).outcome = .error e)
  /-- The builder returns a client. -/
  | built (settings : ProcessSettings) (addresses : String) (client : Client)
    (masters : resolved c.fs c.env conf = .ok (settings, addresses))
    (returned : (c.builder addresses).outcome = .ok client)

theorem course (c : Call) (conf : Table) : c.Course conf := by
  cases hr : resolved c.fs c.env conf with
  | error e => exact .unresolved e hr
  | ok resolution =>
    obtain ⟨settings, addresses⟩ := resolution
    cases hb : (c.builder addresses).outcome with
    | error e => exact .refused settings addresses e hr hb
    | ok client => exact .built settings addresses client hr hb

theorem handle?_of_unresolved {e : ClientError} (h : resolved c.fs c.env conf = .error e) :
    c.handle? conf = none := by
  rw [handle?, h]

theorem outcome_of_unresolved {e : ClientError} (h : resolved c.fs c.env conf = .error e) :
    c.outcome conf = .error e := by
  rw [outcome, connect_eq, h]
  rfl

theorem handle?_of_refused {e : ClientError}
    (h : resolved c.fs c.env conf = .ok (settings, addresses))
    (hb : (c.builder addresses).outcome = .error e) : c.handle? conf = none := by
  rw [handle?, h]
  dsimp only
  rw [hb]

theorem outcome_of_refused {e : ClientError}
    (h : resolved c.fs c.env conf = .ok (settings, addresses))
    (hb : (c.builder addresses).outcome = .error e) :
    c.outcome conf = .error (.ofBuilder addresses e) := by
  obtain ⟨hs, ha⟩ := resolved_eq_ok_iff.1 h
  rw [outcome, connect_of_refused hs ha hb]

theorem handle?_of_built {client : Client}
    (h : resolved c.fs c.env conf = .ok (settings, addresses))
    (hb : (c.builder addresses).outcome = .ok client) :
    c.handle? conf = some ⟨addresses,
      importedSecrets (prime client (usedProvider c.fs settings c.provider)).actions⟩ := by
  rw [handle?, h]
  dsimp only
  rw [hb]

theorem outcome_of_built {client : Client}
    (h : resolved c.fs c.env conf = .ok (settings, addresses))
    (hb : (c.builder addresses).outcome = .ok client) :
    c.outcome conf = (prime client (usedProvider c.fs settings c.provider)).outcome := by
  obtain ⟨hs, ha⟩ := resolved_eq_ok_iff.1 h
  rw [outcome, connect_of_built hs ha hb]

end Call

/-! ## Sessions -/

/-- What a row of calls leaves. -/
structure Session where
  held : Held
  /-- The clients that were built, by number. -/
  handles : List Handle
  answers : List Answer

namespace Session

/-- Does with client `i` what an action does with a client : it is given the secret that is handed
over. -/
def perform (i : ℕ) (handles : List Handle) (x : Action) : List Handle :=
  match x.importedSecret? with
  | some secret => handles.modify i fun h => { h with secrets := h.secrets ++ [secret] }
  | none => handles

/-- A call in a session. A client that it builds is a new one, and what is done after that is done
with this client. What a builder does by itself is not followed. -/
def call (s : Session) (c : Call) : Session :=
  let (held, resolution) := resolveHeld s.held c.conf c.fs c.env
  match resolution with
  | .error e => ⟨held, s.handles, s.answers ++ [⟨none, .error e⟩]⟩
  | .ok (settings, addresses) =>
    match (buildClient c.builder addresses).outcome with
    | .error e => ⟨held, s.handles, s.answers ++ [⟨none, .error e⟩]⟩
    | .ok client =>
      let primed := prime client (usedProvider c.fs settings c.provider)
      ⟨held, primed.actions.foldl (perform s.handles.length) (s.handles ++ [⟨addresses, []⟩]),
        s.answers ++ [⟨some s.handles.length, primed.outcome⟩]⟩

/-- Calls in a row, for configurations that are held. -/
def run (held : Held) (calls : List Call) : Session :=
  calls.foldl call ⟨held, [], []⟩

/-- The client that call number `n` built. -/
def client? (s : Session) (n : ℕ) : Option Handle :=
  s.answers[n]?.bind fun answer => answer.client.bind fun i => s.handles[i]?

/-- How call number `n` ended. -/
def outcome? (s : Session) (n : ℕ) : Option (Except ClientError Client) :=
  s.answers[n]?.map (·.outcome)

/-! ## One call -/

theorem foldl_perform (handles : List Handle) (h : Handle) (xs : List Action) :
    xs.foldl (perform handles.length) (handles ++ [h]) =
      handles ++ [{ h with secrets := h.secrets ++ importedSecrets xs }] := by
  induction xs generalizing h with
  | nil => rw [importedSecrets, List.filterMap_nil, List.append_nil]; rfl
  | cons x xs ih =>
    rw [List.foldl_cons, perform, importedSecrets, List.filterMap_cons, ← importedSecrets]
    cases x.importedSecret? with
    | none => exact ih h
    | some secret =>
      dsimp only
      rw [modify_append_length, ih, List.append_assoc]
      rfl

theorem outcome_buildClient (builder : Builder) (addresses : String) :
    (buildClient builder addresses).outcome =
      (builder addresses).outcome.mapError (.ofBuilder addresses) := by
  rw [buildClient]
  simp only [bind, Run.act, Run.mapError]
  cases (builder addresses).outcome <;> rfl

/-- A call leaves what was there and adds what comes of it for its configuration. -/
theorem call_eq (s : Session) (c : Call) :
    s.call c =
      ⟨(resolveHeld s.held c.conf c.fs c.env).1,
        s.handles ++ (c.handle? (s.held.conf c.conf)).toList,
        s.answers ++ [⟨(c.handle? (s.held.conf c.conf)).map fun _ => s.handles.length,
          c.outcome (s.held.conf c.conf)⟩]⟩ := by
  have hresolved := snd_resolveHeld s.held c.conf c.fs c.env
  rw [call]
  generalize resolveHeld s.held c.conf c.fs c.env = resolution at hresolved ⊢
  obtain ⟨held, resolution⟩ := resolution
  dsimp only at hresolved ⊢
  cases c.course (s.held.conf c.conf) with
  | unresolved e hr =>
    rw [hresolved, hr, c.handle?_of_unresolved hr, c.outcome_of_unresolved hr]
    exact congrArg (Session.mk held · _) (List.append_nil _).symm
  | refused settings addresses e hr hb =>
    rw [hresolved, hr, c.handle?_of_refused hr hb, c.outcome_of_refused hr hb]
    dsimp only
    rw [outcome_buildClient, hb]
    exact congrArg (Session.mk held · _) (List.append_nil _).symm
  | built settings addresses client hr hb =>
    rw [hresolved, hr, c.handle?_of_built hr hb, c.outcome_of_built hr hb]
    dsimp only
    rw [outcome_buildClient, hb]
    dsimp only [Except.mapError]
    rw [foldl_perform]
    rfl

/-! ## Calls in a row -/

/-- Everything in `s` is in `s'` under the same number. -/
structure Extends (s s' : Session) : Prop where
  held : s.held <+: s'.held
  handles : s.handles <+: s'.handles
  answers : s.answers <+: s'.answers

theorem Extends.refl (s : Session) : s.Extends s :=
  ⟨List.prefix_refl _, List.prefix_refl _, List.prefix_refl _⟩

theorem Extends.trans {s s' s'' : Session} (h : s.Extends s') (h' : s'.Extends s'') :
    s.Extends s'' :=
  ⟨h.held.trans h'.held, h.handles.trans h'.handles, h.answers.trans h'.answers⟩

theorem extends_call (s : Session) (c : Call) : s.Extends (s.call c) := by
  rw [call_eq]
  exact ⟨prefix_resolveHeld s.held c.conf c.fs c.env, List.prefix_append _ _,
    List.prefix_append _ _⟩

theorem extends_foldl (s : Session) (calls : List Call) : s.Extends (calls.foldl call s) := by
  induction calls generalizing s with
  | nil => exact .refl s
  | cons c calls ih => exact (extends_call s c).trans (ih (s.call c))

theorem length_answers_foldl (s : Session) (calls : List Call) :
    (calls.foldl call s).answers.length = s.answers.length + calls.length := by
  induction calls generalizing s with
  | nil => rfl
  | cons c calls ih =>
    rw [List.foldl_cons, ih, call_eq, List.length_append, List.length_singleton, List.length_cons]
    omega

/-- The client of a call is the same in every session that goes on from there. -/
theorem client?_of_extends {s s' : Session} {c : Call} (h : (s.call c).Extends s') :
    s'.client? s.answers.length = c.handle? (s.held.conf c.conf) := by
  rw [call_eq] at h
  obtain ⟨-, ⟨handles, hhandles⟩, ⟨answers, hanswers⟩⟩ := h
  rw [client?, ← hanswers, ← hhandles]
  cases c.handle? (s.held.conf c.conf) <;> simp

theorem outcome?_of_extends {s s' : Session} {c : Call} (h : (s.call c).Extends s') :
    s'.outcome? s.answers.length = some (c.outcome (s.held.conf c.conf)) := by
  rw [call_eq] at h
  obtain ⟨-, -, ⟨answers, hanswers⟩⟩ := h
  rw [outcome?, ← hanswers]
  simp

section Run

variable {held : Held} {calls : List Call} {n : ℕ} {c : Call}

/-- Every call of a row is made in a session that the calls before it left, and the calls after it
go on from there. -/
theorem exists_extends_run (held : Held) (h : calls[n]? = some c) :
    ∃ s : Session, held <+: s.held ∧ s.answers.length = n ∧
      (s.call c).Extends (run held calls) := by
  obtain ⟨hn, rfl⟩ := List.getElem?_eq_some_iff.1 h
  refine ⟨run held (calls.take n), (extends_foldl ⟨held, [], []⟩ _).held, ?_, ?_⟩
  · rw [run, length_answers_foldl, List.length_take_of_le (Nat.le_of_lt hn)]
    exact Nat.zero_add n
  · have hrun : run held calls = (calls.drop (n + 1)).foldl call
        ((run held (calls.take n)).call calls[n]) := by
      rw [← List.foldl_cons, ← List.drop_eq_getElem_cons hn, run, run, ← List.foldl_append,
        List.take_append_drop]
    rw [hrun]
    exact extends_foldl _ _

/-- The client of a call is what the call comes to by itself. -/
theorem client?_run (h : calls[n]? = some c) (hconf : c.conf < held.length) :
    (run held calls).client? n = c.handle? (held.conf c.conf) := by
  obtain ⟨s, hheld, rfl, hextends⟩ := exists_extends_run held h
  rw [client?_of_extends hextends, Held.conf_of_prefix hheld hconf]

theorem outcome?_run (h : calls[n]? = some c) (hconf : c.conf < held.length) :
    (run held calls).outcome? n = some (c.outcome (held.conf c.conf)) := by
  obtain ⟨s, hheld, rfl, hextends⟩ := exists_extends_run held h
  rw [outcome?_of_extends hextends, Held.conf_of_prefix hheld hconf]

theorem handles_foldl {s : Session} (hheld : held <+: s.held)
    (hconf : ∀ c ∈ calls, c.conf < held.length) :
    (calls.foldl call s).handles =
      s.handles ++ calls.filterMap fun c => c.handle? (held.conf c.conf) := by
  induction calls generalizing s with
  | nil => exact (List.append_nil _).symm
  | cons c calls ih =>
    have hc := Held.conf_of_prefix hheld (hconf c List.mem_cons_self)
    rw [List.foldl_cons, ih (hheld.trans (extends_call s c).held)
      fun c' hc' => hconf c' (List.mem_cons_of_mem c hc'), call_eq, hc, List.append_assoc]
    congr 1
    rw [List.filterMap_cons]
    cases c.handle? (held.conf c.conf) <;> rfl

/-- Every client of a session is that of one of its calls. -/
theorem exists_client?_of_mem (hconf : ∀ c ∈ calls, c.conf < held.length) {handle : Handle}
    (h : handle ∈ (run held calls).handles) :
    ∃ (n : ℕ) (c : Call), calls[n]? = some c ∧ (run held calls).client? n = some handle ∧
      c.handle? (held.conf c.conf) = some handle := by
  rw [run, handles_foldl (List.prefix_refl held) hconf, List.nil_append] at h
  obtain ⟨c, hc, hhandle⟩ := List.mem_filterMap.1 h
  obtain ⟨n, hn⟩ := List.mem_iff_getElem?.1 hc
  exact ⟨n, c, hn, (client?_run hn (hconf c hc)).trans hhandle, hhandle⟩

end Run

end Session

end StorageHandler
