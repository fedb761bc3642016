import StorageHandler.Proofs.Client.Connect
import StorageHandler.Proofs.Client.Import

/-!
# Clients that were built

Once a builder has returned a client, a connection returns it or closes it, and closes it once
(`prime_handedOver`). What it returns as an error is the error of the import, which only a failure
to close that is not ordinary replaces. `connect_handedOver` says the same of a whole connection : a
client that was not built is not closed.
-/

namespace StorageHandler

variable {client : Client} {p : Provider}

/-- What is done after the import of the credentials of `p` into a built client, and how the
connection ends. -/
inductive HandedOver (client : Client) (p : Provider) :
    List Action → Except ClientError Client → Prop
  /-- The client goes to the caller. -/
  | returned (found : Bool) (imported : (importCredentials client p).outcome = .ok found) :
    HandedOver client p [] (.ok client)
  /-- The client does not go to the caller and cannot be closed. -/
  | dropped (e : ClientError) (failed : ImportFailure client p e)
    (closing : client.closing = none) :
    HandedOver client p [] (.error e)
  /-- The client is closed instead. -/
  | closed (e : ClientError) (failed : ImportFailure client p e)
    (closing : client.closing = some none) :
    HandedOver client p [.close] (.error e)
  /-- Closing fails in an ordinary way, which is noted. -/
  | noted (e : ClientError) (failed : ImportFailure client p e) (f : Failure)
    (closing : client.closing = some (some f)) (ordinary : f.kind.isOrdinary = true) :
    HandedOver client p [.close, .log (.closeFailed f.text)] (.error e)
  /-- Closing fails in another way, which takes the place of the failure. -/
  | replaced (e : ClientError) (failed : ImportFailure client p e) (f : Failure)
    (closing : client.closing = some (some f)) (extraordinary : f.kind.isOrdinary = false) :
    HandedOver client p [.close] (.error (.foreign f))

/-! ## Counts -/

/-- What is done once a client was built : that is logged, credentials are imported, and `tail`
follows. -/
def afterBuild (addresses : String) (client : Client) (p : Provider) (tail : List Action) :
    List Action :=
  .log (.clientCreated addresses) :: ((importCredentials client p).actions ++ tail)

/-- An import closes nothing. -/
theorem close_notMem_importCredentials : .close ∉ (importCredentials client p).actions := by
  intro h
  rcases mem_actions_importCredentials h with ⟨_, h⟩ | h | ⟨_, _, h⟩ <;> cases h

/-- An import does not say that a client could not be closed. -/
theorem closeFailed_notMem_importCredentials (text : String) :
    .log (.closeFailed text) ∉ (importCredentials client p).actions := by
  intro h
  rcases mem_actions_importCredentials h with ⟨_, h⟩ | h | ⟨_, _, h⟩ <;> cases h

/-- What an import does not do is done after it if at all. -/
theorem count_afterBuild {addresses : String} {a : Action} (h : a ≠ .log (.clientCreated addresses))
    (ha : a ∉ (importCredentials client p).actions) (tail : List Action) :
    (afterBuild addresses client p tail).count a = tail.count a := by
  rw [afterBuild, List.count_cons_of_ne h.symm, List.count_append,
    List.count_eq_zero_of_not_mem ha, Nat.zero_add]

/-- A client goes to the caller open, or its connection fails and closes it once if that is
possible. -/
theorem HandedOver.close_once {tail : List Action} {outcome : Except ClientError Client}
    (h : HandedOver client p tail outcome) :
    (outcome = .ok client ∧ tail.count .close = 0) ∨
      ∃ e, outcome = .error e ∧ tail.count .close = if client.closing.isSome then 1 else 0 := by
  cases h with
  | returned => exact Or.inl ⟨rfl, rfl⟩
  | dropped e _ closing => exact Or.inr ⟨e, rfl, by rw [closing]; rfl⟩
  | closed e _ closing => exact Or.inr ⟨e, rfl, by rw [closing]; rfl⟩
  | noted e _ f closing => exact Or.inr ⟨e, rfl, by rw [closing]; rfl⟩
  | replaced _ _ f closing => exact Or.inr ⟨.foreign f, rfl, by rw [closing]; rfl⟩

/-! ## Closing -/

theorem closeQuietly_of_unclosable (h : client.closing = none) :
    client.closeQuietly = ⟨[], .ok ()⟩ := by
  rw [Client.closeQuietly, h, Client.close, h]
  rfl

theorem closeQuietly_of_closed (h : client.closing = some none) :
    client.closeQuietly = ⟨[.close], .ok ()⟩ := by
  rw [Client.closeQuietly, h, Client.close, h]
  rfl

theorem closeQuietly_of_ordinary {f : Failure} (h : client.closing = some (some f))
    (hf : f.kind.isOrdinary = true) :
    client.closeQuietly = ⟨[.close, .log (.closeFailed f.text)], .ok ()⟩ := by
  rw [Client.closeQuietly, h]
  exact if_pos hf

theorem closeQuietly_of_extraordinary {f : Failure} (h : client.closing = some (some f))
    (hf : f.kind.isOrdinary = false) :
    client.closeQuietly = ⟨[.close], .error (.foreign f)⟩ := by
  rw [Client.closeQuietly, h]
  refine (if_neg (by rw [hf]; decide)).trans ?_
  rw [Client.close, h]

/-! ## Connections -/

theorem prime_of_imported {found : Bool}
    (h : (importCredentials client p).outcome = .ok found) :
    prime client p = ⟨(importCredentials client p).actions, .ok client⟩ := by
  simp only [prime, Run.onError, h, bind, pure, List.append_nil]

theorem prime_of_failed {e : ClientError} (h : (importCredentials client p).outcome = .error e) :
    prime client p =
      ⟨(importCredentials client p).actions ++ client.closeQuietly.actions,
        match client.closeQuietly.outcome with
        | .ok _ => .error e
        | .error e' => .error e'⟩ := by
  simp only [prime, Run.onError, h, bind]
  cases client.closeQuietly.outcome <;> rfl

/-- After the import a built client goes to the caller, or it is closed. -/
theorem prime_handedOver (client : Client) (p : Provider) :
    ∃ tail, (prime client p).actions = (importCredentials client p).actions ++ tail ∧
      HandedOver client p tail (prime client p).outcome := by
  cases himport : (importCredentials client p).outcome with
  | ok found =>
    rw [prime_of_imported himport]
    exact ⟨[], (List.append_nil _).symm, .returned found himport⟩
  | error e =>
    have hfailed := outcome_importCredentials_eq_error_iff.1 himport
    rw [prime_of_failed himport]
    refine ⟨client.closeQuietly.actions, rfl, ?_⟩
    rcases hc : client.closing with _ | _ | f
    · rw [closeQuietly_of_unclosable hc]
      exact .dropped e hfailed hc
    · rw [closeQuietly_of_closed hc]
      exact .closed e hfailed hc
    · cases hf : f.kind.isOrdinary with
      | true =>
        rw [closeQuietly_of_ordinary hc hf]
        exact .noted e hfailed f hc hf
      | false =>
        rw [closeQuietly_of_extraordinary hc hf]
        exact .replaced e hfailed f hc hf

/-- A connection without masters does nothing. Where the builder fails, nothing is done after it.
Where it returns a client, the client goes to the caller and is never closed, or the connection
fails and the client, if it can be closed, is closed once. -/
theorem connect_handedOver (fs : FileSystem) (env : Environment) (conf : Table) (builder : Builder)
    (provider : Option Provider) :
    ((∀ settings addresses, env.settings fs = .ok settings →
        resolveMasters conf settings ≠ .ok addresses) ∧
      ∃ e, connect fs env conf builder provider = ⟨[], .error e⟩) ∨
    ∃ settings addresses, env.settings fs = .ok settings ∧
      resolveMasters conf settings = .ok addresses ∧
      match (builder addresses).outcome with
      | .error e =>
        connect fs env conf builder provider =
          ⟨.build addresses :: (builder addresses).actions, .error (.ofBuilder addresses e)⟩
      | .ok client =>
        ∃ after tail,
          after = afterBuild addresses client (usedProvider fs settings provider) tail ∧
          (connect fs env conf builder provider).actions =
            .build addresses :: ((builder addresses).actions ++ after) ∧
          ((connect fs env conf builder provider).outcome = .ok client ∧ after.count .close = 0 ∨
            ∃ e, (connect fs env conf builder provider).outcome = .error e ∧
              after.count .close = if client.closing.isSome then 1 else 0) ∧
          (∀ text, after.count (.log (.closeFailed text)) =
            tail.count (.log (.closeFailed text))) ∧
          HandedOver client (usedProvider fs settings provider) tail
            (connect fs env conf builder provider).outcome := by
  cases hs : env.settings fs with
  | error e =>
    refine Or.inl ⟨fun settings addresses h => ?_, _, connect_of_settings_error hs⟩
    cases h
  | ok settings =>
    cases ha : resolveMasters conf settings with
    | error e =>
      refine Or.inl ⟨fun settings' addresses h => ?_, e, connect_of_unresolved hs ha⟩
      obtain rfl := Except.ok.inj h
      rw [ha]
      exact nofun
    | ok addresses =>
      refine Or.inr ⟨settings, addresses, rfl, ha, ?_⟩
      cases hb : (builder addresses).outcome with
      | error e => exact connect_of_refused hs ha hb
      | ok client =>
        obtain ⟨tail, htail, hover⟩ := prime_handedOver client (usedProvider fs settings provider)
        rw [connect_of_built hs ha hb, htail]
        refine ⟨_, tail, rfl, rfl, ?_, fun text => ?_, hover⟩
        · rw [count_afterBuild (by simp) close_notMem_importCredentials]
          exact hover.close_once
        · exact count_afterBuild (by simp) (closeFailed_notMem_importCredentials text) tail

end StorageHandler
