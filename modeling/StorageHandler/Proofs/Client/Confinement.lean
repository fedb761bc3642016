import StorageHandler.Proofs.Client.Session

/-!
# Tokens stay with their masters

A builder is accepting if its clients call themselves by the masters that they were built for and
take every secret (`Builder.Accepting`). A client that such a builder made is given the secret of
the first Kudu token for its masters, if there is one (`Call.secrets_of_handle?`). Calls that differ
only in other tokens (`Alike`) come to the same.

`run_confined` says so of every call of a session, whatever the calls around it are.
-/

namespace StorageHandler

/-! ## Tokens of a call -/

/-- A builder whose clients call themselves by the masters that they were built for and take every
secret. -/
structure Builder.Accepting (builder : Builder) : Prop where
  service {addresses : String} {client : Client} :
    (builder addresses).outcome = .ok client → client.service = addresses
  accepts {addresses : String} {client : Client} :
    (builder addresses).outcome = .ok client → ∀ secret, client.importing secret = none

/-- The client library is an accepting builder if it can import secrets and does not fail to. -/
theorem KuduLibrary.accepting_builder {l : KuduLibrary} (can : l.canImport = true)
    (never : l.importFailure = none) : Builder.Accepting (builder (some l)) := by
  have hwrap {addresses : String} {client : Client}
      (h : (builder (some l) addresses).outcome = .ok client) : client = l.wrap addresses := by
    simp only [builder, bind, Run.ofExcept, connect] at h
    cases hm : Address.readAll addresses with
    | error e =>
      rw [hm] at h
      cases h
    | ok masters =>
      rw [hm] at h
      cases hc : l.connectFailure with
      | some f =>
        simp only [hc, Except.mapError] at h
        cases h
      | none =>
        simp only [hc, Except.mapError] at h
        exact (Except.ok.inj h).symm
  constructor
  · intro addresses client h
    rw [hwrap h]
    rfl
  · intro addresses client h secret
    rw [hwrap h, wrap, never, if_pos can]
    rfl

namespace Call

/-- A token that the provider of a call has. -/
def HasToken (c : Call) (t : SecurityToken) : Prop :=
  ∃ settings credentials, c.env.settings c.fs = .ok settings ∧
    usedProvider c.fs settings c.provider = .ok (some credentials) ∧ t ∈ allTokens credentials

/-- The client of a call is given the secret of the first token for its masters. -/
theorem secrets_of_handle? {c : Call} {conf : Table} {handle : Handle}
    (hbuilder : c.builder.Accepting) (h : c.handle? conf = some handle) :
    ∃ settings, resolved c.fs c.env conf = .ok (settings, handle.addresses) ∧
      handle.secrets = (firstSecret
        ((usedProvider c.fs settings c.provider).tokensFor handle.addresses)).toList := by
  cases c.course conf with
  | unresolved e hr =>
    rw [handle?_of_unresolved hr] at h
    cases h
  | refused settings addresses e hr hb =>
    rw [handle?_of_refused hr hb] at h
    cases h
  | built settings addresses client hr hb =>
    rw [handle?_of_built hr hb] at h
    obtain rfl := Option.some.inj h
    refine ⟨settings, hr, ?_⟩
    dsimp only
    rw [importedSecrets_prime, importedSecrets_importCredentials (hbuilder.accepts hb),
      hbuilder.service hb]

end Call

theorem exists_token_of_firstSecret {p : Provider} {service : String} {secret : List UInt8}
    (h : firstSecret (p.tokensFor service) = some secret) :
    ∃ credentials, p = .ok (some credentials) ∧
      ∃ t ∈ allTokens credentials, IsTokenFor service t ∧ t.password = secret := by
  rcases p with e | _ | credentials
  · cases h
  · cases h
  · obtain ⟨t, ht, hsecret⟩ := Option.map_eq_some_iff.1 h
    obtain ⟨hmem, hfor⟩ := mem_tokensFor.1 (List.mem_of_mem_head? ht)
    exact ⟨credentials, rfl, t, hmem, hfor, hsecret⟩

/-! ## Calls that differ in other tokens -/

/-- Two calls, for configurations that are held, with the same entries, the same process settings
and the same builder. Their providers have the same Kudu tokens for the masters, in the same order :
all other tokens may have been replaced, added, removed or moved. -/
structure Alike (held : Held) (c : Call) (held' : Held) (c' : Call) : Prop where
  conf : held'.conf c'.conf = held.conf c.conf
  settings : c'.env.settings c'.fs = c.env.settings c.fs
  builder : c'.builder = c.builder
  tokens : ∀ settings addresses,
    resolved c.fs c.env (held.conf c.conf) = .ok (settings, addresses) →
      (usedProvider c'.fs settings c'.provider).tokensFor addresses =
        (usedProvider c.fs settings c.provider).tokensFor addresses

section Alike

variable {held held' : Held} {c c' : Call}

theorem resolved_of_alike (h : Alike held c held' c') :
    resolved c'.fs c'.env (held'.conf c'.conf) = resolved c.fs c.env (held.conf c.conf) := by
  rw [resolved, resolved, h.settings, h.conf]

/-- Alike calls build alike clients, and end alike. -/
theorem result_of_alike (h : Alike held c held' c') (hbuilder : c.builder.Accepting) :
    c'.handle? (held'.conf c'.conf) = c.handle? (held.conf c.conf) ∧
      c'.outcome (held'.conf c'.conf) = c.outcome (held.conf c.conf) := by
  have hresolved := resolved_of_alike h
  cases c.course (held.conf c.conf) with
  | unresolved e hr =>
    rw [hr] at hresolved
    rw [Call.handle?_of_unresolved hr, Call.handle?_of_unresolved hresolved,
      Call.outcome_of_unresolved hr, Call.outcome_of_unresolved hresolved]
    exact ⟨rfl, rfl⟩
  | refused settings addresses e hr hb =>
    rw [hr] at hresolved
    have hb' : (c'.builder addresses).outcome = .error e := by rw [h.builder, hb]
    rw [Call.handle?_of_refused hr hb, Call.handle?_of_refused hresolved hb',
      Call.outcome_of_refused hr hb, Call.outcome_of_refused hresolved hb']
    exact ⟨rfl, rfl⟩
  | built settings addresses client hr hb =>
    rw [hr] at hresolved
    have hb' : (c'.builder addresses).outcome = .ok client := by rw [h.builder, hb]
    have haccepts := hbuilder.accepts hb
    have htokens := h.tokens settings addresses hr
    rw [← hbuilder.service hb] at htokens
    rw [Call.handle?_of_built hr hb, Call.handle?_of_built hresolved hb',
      Call.outcome_of_built hr hb, Call.outcome_of_built hresolved hb',
      importedSecrets_prime, importedSecrets_prime,
      importedSecrets_importCredentials haccepts, importedSecrets_importCredentials haccepts,
      htokens]
    refine ⟨rfl, outcome_prime_congr ?_⟩
    rw [outcome_importCredentials haccepts, outcome_importCredentials haccepts, htokens]

end Alike

/-! ## Sessions -/

/-- In a row of calls with accepting builders every client is given at most one secret, that of a
Kudu token for its own masters which the provider of the call that built it has. What client a call
builds, with which secret, and how the call ends is the same in every other row, for a call that
differs in tokens of other kinds or services only. -/
theorem run_confined {held : Held} {calls : List Call}
    (h : ∀ c ∈ calls, c.conf < held.length ∧ c.builder.Accepting) :
    (∀ handle ∈ (Session.run held calls).handles, ∃ (n : ℕ) (c : Call),
        calls[n]? = some c ∧ (Session.run held calls).client? n = some handle ∧
        handle.secrets.length ≤ 1 ∧
        ∀ secret ∈ handle.secrets,
          ∃ t, c.HasToken t ∧ t.kind = "kudu-authn-data" ∧ t.service = handle.addresses ∧
            t.password = secret) ∧
      ∀ n c, calls[n]? = some c →
        (Session.run held calls).outcome? n =
            some (connect c.fs c.env (held.conf c.conf) c.builder c.provider).outcome ∧
          ∀ held' calls' n' c', calls'[n']? = some c' → c'.conf < held'.length →
            Alike held c held' c' →
            (Session.run held' calls').client? n' = (Session.run held calls).client? n ∧
              (Session.run held' calls').outcome? n' = (Session.run held calls).outcome? n := by
  constructor
  · intro handle hmem
    obtain ⟨n, c, hn, hclient, hhandle⟩ :=
      Session.exists_client?_of_mem (fun c hc => (h c hc).1) hmem
    obtain ⟨settings, hresolved, hsecrets⟩ :=
      Call.secrets_of_handle? (h c (List.mem_of_getElem? hn)).2 hhandle
    refine ⟨n, c, hn, hclient, ?_, fun secret hsecret => ?_⟩
    · rw [hsecrets]
      exact Option.length_toList_le
    · rw [hsecrets, Option.mem_toList] at hsecret
      obtain ⟨credentials, hp, t, ht, hfor, hpassword⟩ := exists_token_of_firstSecret hsecret
      exact ⟨t, ⟨settings, credentials, (resolved_eq_ok_iff.1 hresolved).1, hp, ht⟩, hfor.1, hfor.2,
        hpassword⟩
  · intro n c hn
    obtain ⟨hconf, hbuilder⟩ := h c (List.mem_of_getElem? hn)
    refine ⟨Session.outcome?_run hn hconf, fun held' calls' n' c' hn' hconf' halike => ?_⟩
    obtain ⟨hhandle, houtcome⟩ := result_of_alike halike hbuilder
    rw [Session.client?_run hn' hconf', Session.client?_run hn hconf,
      Session.outcome?_run hn' hconf', Session.outcome?_run hn hconf, hhandle, houtcome]
    exact ⟨rfl, rfl⟩

/-- Configurations for two clusters. -/
def twoMasters : Held := [textEntries [(mastersKey, "a:1")], textEntries [(mastersKey, "b:2")]]

/-- A token for each of the two clusters. -/
def bothTokens : Credentials where
  tokens := .ofList
    [("first", ⟨[0], [1], kuduTokenKind, "a:1"⟩), ("second", ⟨[0], [2], kuduTokenKind, "b:2"⟩)]
  secretKeys := .empty

/-- The token for the second cluster behind one of another kind. -/
def secondToken : Credentials where
  tokens := .ofList
    [("other", ⟨[0], [3], "HDFS_DELEGATION_TOKEN", "b:2"⟩),
      ("second", ⟨[0], [2], kuduTokenKind, "b:2"⟩)]
  secretKeys := .empty

/-- A call with a library that never fails. -/
def faultlessCall (i : ℕ) (credentials : List Credentials) : Call where
  fs := ⟨[], [], "/", []⟩
  env := ⟨none, none⟩
  conf := i
  builder := KuduLibrary.builder (some ⟨none, true, none, none⟩)
  provider := some (.ok (some credentials))

/-- The client for the second cluster is given its token, and is given it too if there is no token
for the first cluster, but one of another kind, and no call for the first cluster. -/
theorem run_confined_twoMasters :
    (Session.run twoMasters [faultlessCall 0 [bothTokens], faultlessCall 1 [bothTokens]]).client?
        1 = some ⟨"b:2", [[2]]⟩ ∧
      (Session.run twoMasters [faultlessCall 1 [secondToken]]).client? 0 =
        some ⟨"b:2", [[2]]⟩ := by
  have hcalls : ∀ c ∈ [faultlessCall 0 [bothTokens], faultlessCall 1 [bothTokens]],
      c.conf < twoMasters.length ∧ c.builder.Accepting := by
    intro c hc
    rcases List.mem_pair.1 hc with rfl | rfl
    · exact ⟨by decide, KuduLibrary.accepting_builder rfl rfl⟩
    · exact ⟨by decide, KuduLibrary.accepting_builder rfl rfl⟩
  have hmasters : resolved ⟨[], [], "/", []⟩ ⟨none, none⟩ (twoMasters.conf 1) =
      .ok (⟨none, none⟩, "b:2") := by
    have h : JobConf.mastersOr (.ofList [(mastersKey, "b:2")]) none = some "b:2" := by
      decide +kernel
    exact resolved_eq_ok_iff.2 ⟨rfl, (resolveMasters_textEntries _ _).trans (by rw [h])⟩
  have halike : Alike twoMasters (faultlessCall 1 [bothTokens]) twoMasters
      (faultlessCall 1 [secondToken]) := by
    refine ⟨rfl, rfl, rfl, fun settings addresses h => ?_⟩
    obtain ⟨rfl, rfl⟩ := Prod.mk.inj (Except.ok.inj (hmasters.symm.trans h))
    exact congrArg Except.ok (by decide +kernel)
  have hclient : (Session.run twoMasters
      [faultlessCall 0 [bothTokens], faultlessCall 1 [bothTokens]]).client? 1 =
        some ⟨"b:2", [[2]]⟩ := by decide +kernel
  obtain ⟨-, hsame⟩ := (run_confined hcalls).2 1 _ rfl
  exact ⟨hclient, (hsame twoMasters _ 0 _ rfl (by decide) halike).1.trans hclient⟩

end StorageHandler
