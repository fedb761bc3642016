import StorageHandler.Client.Kudu
import StorageHandler.Proofs.Client.Import

/-!
# The token that is selected, and what is logged of it

Of all tokens the first Kudu token for the service of a client is selected, and the tokens before it
are passed over (`Selection`). `importCredentials_course` lists how an import can go : with it,
`importCredentials_selects` says what is handed over, how the import ends and which events are
logged.

That a token was imported is logged before its secret is handed over. So the log is wrong exactly if
the client refuses the secret (`saysImported_iff`), as a library does that cannot import secrets
(`saysImported_oldLibrary`).
-/

namespace StorageHandler

variable {service : String} {ts passed : List SecurityToken} {t : SecurityToken}
  {found : Option SecurityToken} {client : Client} {p : Provider}

/-! ## Selections -/

/-- A Kudu token for another service. -/
def IsForeign (service : String) (t : SecurityToken) : Prop :=
  t.kind = kuduTokenKind ∧ t.service ≠ service

instance (service : String) : DecidablePred (IsForeign service) := fun t =>
  inferInstanceAs (Decidable (t.kind = kuduTokenKind ∧ t.service ≠ service))

/-- The services of the Kudu tokens for other services, in order. -/
def foreignServices (service : String) (ts : List SecurityToken) : List String :=
  (ts.filter fun t => IsForeign service t).map (·.service)

/-- What is passed over in a search for a token, and what is found. -/
inductive Selection (service : String) :
    List SecurityToken → List SecurityToken → Option SecurityToken → Prop
  /-- No token is for the service, and all are passed over. -/
  | none {ts : List SecurityToken} (mismatch : ∀ t ∈ ts, ¬IsTokenFor service t) :
    Selection service ts ts none
  /-- A token is for the service and none before it is, whatever comes after it. -/
  | first {before after : List SecurityToken} {t : SecurityToken}
    (mismatch : ∀ u ∈ before, ¬IsTokenFor service u) (isTokenFor : IsTokenFor service t) :
    Selection service (before ++ t :: after) before (some t)

/-- A token that is not for the service is passed over. -/
theorem Selection.cons (h : Selection service ts passed found) (ht : ¬IsTokenFor service t) :
    Selection service (t :: ts) (t :: passed) found := by
  cases h with
  | none mismatch => exact .none (List.forall_mem_cons.2 ⟨ht, mismatch⟩)
  | first mismatch isTokenFor => exact .first (List.forall_mem_cons.2 ⟨ht, mismatch⟩) isTokenFor

theorem Selection.head?_tokensFor (h : Selection service ts passed found) :
    (tokensFor service ts).head? = found := by
  have hnil {us : List SecurityToken} (hus : ∀ u ∈ us, ¬IsTokenFor service u) :
      tokensFor service us = [] := by
    rw [tokensFor, List.filter_eq_nil_iff]
    simpa using hus
  cases h with
  | none mismatch => rw [hnil mismatch, List.head?_nil]
  | first mismatch isTokenFor =>
    rw [tokensFor, List.filter_append, ← tokensFor, hnil mismatch, List.nil_append,
      List.filter_cons, if_pos (decide_eq_true isTokenFor), List.head?_cons]

theorem firstKuduToken_cons_of_not (h : ¬IsTokenFor service t) (ts : List SecurityToken) :
    firstKuduToken service (t :: ts) =
      (foreignServices service [t] ++ (firstKuduToken service ts).1,
        (firstKuduToken service ts).2) := by
  rw [firstKuduToken]
  by_cases hkind : t.kind = kuduTokenKind
  · have hservice : t.service ≠ service := fun hservice => h ⟨hkind, hservice⟩
    simp [foreignServices, IsForeign, hkind, hservice]
  · simp [foreignServices, IsForeign, hkind]

/-- The search makes a selection, and notes the Kudu tokens that it passes over. -/
theorem selection_firstKuduToken (service : String) (ts : List SecurityToken) :
    ∃ passed, Selection service ts passed (firstKuduToken service ts).2 ∧
      (firstKuduToken service ts).1 = foreignServices service passed := by
  induction ts with
  | nil => exact ⟨[], .none (List.forall_mem_nil _), rfl⟩
  | cons t ts ih =>
    by_cases ht : IsTokenFor service t
    · have hfound : firstKuduToken service (t :: ts) = ([], some t) := by
        rw [firstKuduToken, if_neg (not_not_intro ht.1), if_neg (not_not_intro ht.2)]
      rw [hfound]
      exact ⟨[], .first (List.forall_mem_nil _) ht, rfl⟩
    · obtain ⟨passed, hselection, hforeign⟩ := ih
      rw [firstKuduToken_cons_of_not ht, hforeign]
      refine ⟨t :: passed, hselection.cons ht, ?_⟩
      rw [foreignServices, foreignServices, foreignServices, ← List.map_append,
        ← List.filter_append, List.singleton_append]

/-! ## Courses of an import -/

/-- The events of passing over tokens. -/
def skipEvents (service : String) (passed : List SecurityToken) : List Event :=
  (foreignServices service passed).map fun s => .credentialsSkipped s service

/-- How an import of credentials can go. -/
inductive ImportCourse (client : Client) : Provider → Run Bool → Prop
  /-- The provider failed. -/
  | failed (e : ClientError) : ImportCourse client (.error e) ⟨[], .error e⟩
  /-- There is no token for the client. -/
  | unmatched {credentials : Option (List Credentials)} {passed : List SecurityToken}
    (selection : Selection client.service (allTokens (credentials.getD [])) passed none) :
    ImportCourse client (.ok credentials)
      ⟨(skipEvents client.service passed).map .log, .ok false⟩
  /-- The client takes the secret of the selected token. -/
  | accepted {credentials : Option (List Credentials)} {passed : List SecurityToken}
    {t : SecurityToken}
    (selection : Selection client.service (allTokens (credentials.getD [])) passed (some t))
    (taken : client.importing t.password = none) :
    ImportCourse client (.ok credentials)
      ⟨(skipEvents client.service passed).map .log ++
        [.log (.credentialsImported client.service), .importSecret t.password true], .ok true⟩
  /-- The client refuses the secret of the selected token, and no other is tried. -/
  | refused {credentials : Option (List Credentials)} {passed : List SecurityToken}
    {t : SecurityToken} {e : ClientError}
    (selection : Selection client.service (allTokens (credentials.getD [])) passed (some t))
    (refusal : client.importing t.password = some e) :
    ImportCourse client (.ok credentials)
      ⟨(skipEvents client.service passed).map .log ++
        [.log (.credentialsImported client.service), .importSecret t.password false], .error e⟩

theorem importCredentials_course (client : Client) (p : Provider) :
    ImportCourse client p (importCredentials client p) := by
  rcases p with e | _ | credentials
  · exact .failed e
  · exact @ImportCourse.unmatched _ none _ (.none (List.forall_mem_nil _))
  · obtain ⟨passed, hselection, hskipped⟩ :=
      selection_firstKuduToken client.service (allTokens credentials)
    have hlog : (foreignServices client.service passed).map
        (fun s => Action.log (.credentialsSkipped s client.service)) =
          (skipEvents client.service passed).map .log := by
      rw [skipEvents, List.map_map]
      rfl
    rcases hf : firstKuduToken client.service (allTokens credentials) with ⟨skipped, _ | t⟩
    · rw [hf] at hselection hskipped
      obtain rfl : skipped = foreignServices client.service passed := hskipped
      rw [importCredentials_of_unmatched hf, hlog]
      exact .unmatched hselection
    · rw [hf] at hselection hskipped
      obtain rfl : skipped = foreignServices client.service passed := hskipped
      rw [importCredentials_of_matched hf, hlog]
      cases hi : client.importing t.password with
      | none => exact .accepted hselection hi
      | some e => exact .refused hselection hi

/-! ## What is handed over and logged -/

/-- The secret that an action hands over, with or without success. -/
def Action.offeredSecret? : Action → Option (List UInt8)
  | .importSecret secret _ => some secret
  | _ => none

/-- The secrets that are handed over with or without success, in order. -/
def offeredSecrets (actions : List Action) : List (List UInt8) :=
  actions.filterMap Action.offeredSecret?

section Logged

variable (events : List Event) (actions : List Action)

/-- What is read off other actions is not read off events. -/
theorem filterMap_log {β : Type} {read : Action → Option β}
    (hread : ∀ event, read (.log event) = none) : (events.map Action.log).filterMap read = [] := by
  rw [List.filterMap_map]
  exact List.filterMap_eq_nil_iff.2 fun event _ => hread event

theorem filterMap_event?_log : (events.map Action.log).filterMap Action.event? = events := by
  rw [List.filterMap_map]
  exact List.filterMap_some

theorem offeredSecrets_log_append :
    offeredSecrets (events.map .log ++ actions) = offeredSecrets actions := by
  rw [offeredSecrets, List.filterMap_append, filterMap_log events fun _ => rfl, List.nil_append,
    offeredSecrets]

theorem importedSecrets_log_append :
    importedSecrets (events.map .log ++ actions) = importedSecrets actions := by
  rw [importedSecrets, List.filterMap_append, filterMap_log events fun _ => rfl, List.nil_append,
    importedSecrets]

theorem events_log_append {α : Type} (outcome : Except ClientError α) :
    (Run.mk (events.map .log ++ actions) outcome).events =
      events ++ actions.filterMap Action.event? := by
  rw [Run.events, List.filterMap_append, filterMap_event?_log]

end Logged

/-- What becomes of an import that finds a secret, or none. -/
def importOutcome (client : Client) : Option (List UInt8) → Except ClientError Bool
  | none => .ok false
  | some secret =>
    match client.importing secret with
    | none => .ok true
    | some e => .error e

/-- The log of a run says that a token was imported. -/
def SaysImported (r : Run Bool) : Prop := ∃ s, .credentialsImported s ∈ r.events

/-- The client refuses the secret of the first token for it. -/
def Client.Refuses (client : Client) (p : Provider) (e : ClientError) : Prop :=
  ∃ secret, firstSecret (p.tokensFor client.service) = some secret ∧
    client.importing secret = some e

theorem Selection.firstSecret_eq {credentials : Option (List Credentials)}
    (h : Selection service (allTokens (credentials.getD [])) passed found) :
    firstSecret (Provider.tokensFor (.ok credentials) service) = found.map (·.password) := by
  rw [← h.head?_tokensFor]
  rfl

/-- Passing over tokens does not say that one was imported. -/
theorem credentialsImported_notMem_skipEvents (s : String) :
    .credentialsImported s ∉ skipEvents service passed := by
  intro h
  obtain ⟨_, -, h⟩ := List.mem_map.1 h
  cases h

namespace ImportCourse

variable {r : Run Bool}

/-- The log says that a token was imported if there is one for the client. -/
theorem saysImported_iff_exists (h : ImportCourse client p r) :
    SaysImported r ↔ ∃ secret, firstSecret (p.tokensFor client.service) = some secret := by
  have hlogged {passed : List SecurityToken} {actions : List Action}
      {outcome : Except ClientError Bool} :
      SaysImported ⟨(skipEvents client.service passed).map .log ++
        .log (.credentialsImported client.service) :: actions, outcome⟩ := by
    refine ⟨client.service, ?_⟩
    rw [events_log_append, List.filterMap_cons]
    exact List.mem_append_right _ List.mem_cons_self
  cases h with
  | failed e => exact iff_of_false nofun nofun
  | unmatched selection =>
    rw [selection.firstSecret_eq]
    refine iff_of_false (fun ⟨s, hs⟩ => ?_) nofun
    rw [Run.events, filterMap_event?_log] at hs
    exact credentialsImported_notMem_skipEvents s hs
  | accepted selection _ => exact iff_of_true hlogged ⟨_, selection.firstSecret_eq⟩
  | refused selection _ => exact iff_of_true hlogged ⟨_, selection.firstSecret_eq⟩

theorem outcome_eq {credentials : Option (List Credentials)}
    (h : ImportCourse client (.ok credentials) r) :
    r.outcome =
      importOutcome client (firstSecret (Provider.tokensFor (.ok credentials) client.service)) := by
  cases h with
  | unmatched selection =>
    rw [selection.firstSecret_eq]
    rfl
  | accepted selection taken =>
    rw [selection.firstSecret_eq, Option.map_some, importOutcome, taken]
  | refused selection refusal =>
    rw [selection.firstSecret_eq, Option.map_some, importOutcome, refusal]

/-- An import comes to true if the client takes the secret of the first token for it. -/
theorem outcome_eq_true_iff (h : ImportCourse client p r) : r.outcome = .ok true ↔
    ∃ secret, firstSecret (p.tokensFor client.service) = some secret ∧
      client.importing secret = none := by
  rcases p with e | credentials
  · cases h
    exact iff_of_false nofun nofun
  · rw [h.outcome_eq]
    cases firstSecret (Provider.tokensFor (.ok credentials) client.service) with
    | none => exact iff_of_false nofun nofun
    | some secret => cases hi : client.importing secret <;> simp [importOutcome, hi]

/-- An import comes to true if a secret was imported. -/
theorem outcome_eq_true_iff_importedSecrets (h : ImportCourse client p r) :
    r.outcome = .ok true ↔ importedSecrets r.actions ≠ [] := by
  cases h with
  | failed e => exact iff_of_false nofun (not_not_intro rfl)
  | unmatched _ => exact iff_of_false nofun (not_not_intro (filterMap_log _ fun _ => rfl))
  | accepted _ _ =>
    rw [importedSecrets_log_append]
    exact iff_of_true rfl (List.cons_ne_nil _ _)
  | refused _ _ =>
    rw [importedSecrets_log_append]
    exact iff_of_false nofun (not_not_intro rfl)

theorem outcome_of_refused {e : ClientError} (h : ImportCourse client p r)
    (he : client.Refuses p e) : r.outcome = .error e := by
  obtain ⟨secret, hsecret, hrefusal⟩ := he
  rcases p with e' | credentials
  · cases hsecret
  · rw [h.outcome_eq, hsecret, importOutcome, hrefusal]

end ImportCourse

/-- The log says that a token was imported exactly if one was, unless the client refuses the secret
of its token : then the log says so, the import fails and nothing was imported. -/
theorem saysImported_iff (client : Client) (p : Provider) :
    let run := importCredentials client p
    ((SaysImported run ↔ run.outcome = .ok true) ↔ ∀ e, ¬client.Refuses p e) ∧
      (run.outcome = .ok true ↔ importedSecrets run.actions ≠ []) ∧
      ∀ e, client.Refuses p e →
        SaysImported run ∧ run.outcome = .error e ∧ importedSecrets run.actions = [] := by
  intro run
  have hcourse : ImportCourse client p run := importCredentials_course client p
  have himported := hcourse.outcome_eq_true_iff_importedSecrets
  have hrefused (e : ClientError) (h : client.Refuses p e) :
      SaysImported run ∧ run.outcome = .error e ∧ importedSecrets run.actions = [] := by
    have houtcome := hcourse.outcome_of_refused h
    obtain ⟨secret, hsecret, -⟩ := h
    refine ⟨hcourse.saysImported_iff_exists.2 ⟨secret, hsecret⟩, houtcome, ?_⟩
    by_contra hne
    rw [himported.2 hne] at houtcome
    cases houtcome
  refine ⟨⟨fun h e he => ?_, fun h => ?_⟩, himported, hrefused⟩
  · obtain ⟨hlogged, houtcome, -⟩ := hrefused e he
    rw [h.1 hlogged] at houtcome
    cases houtcome
  · -- a secret that is found is taken, since the client refuses none
    rw [hcourse.saysImported_iff_exists, hcourse.outcome_eq_true_iff]
    refine exists_congr fun secret => (and_iff_left_of_imp fun hsecret => ?_).symm
    exact Option.eq_none_iff_forall_ne_some.2 fun e he => h e ⟨secret, hsecret, he⟩

/-- An installed library that cannot import secrets. -/
def oldLibrary : KuduLibrary := ⟨none, false, none, none⟩

/-- The log says that a token was imported into a client of a library that cannot import any. -/
theorem saysImported_oldLibrary :
    let token : SecurityToken := ⟨[], [1], kuduTokenKind, "h:1"⟩
    let run := importCredentials (oldLibrary.wrap "h:1")
      (.ok (some [⟨.ofList [("a", token)], .empty⟩]))
    SaysImported run ∧ run.outcome = .error .importMissing ∧
      ¬(SaysImported run ↔ run.outcome = .ok true) := by
  intro token run
  have hlogged : SaysImported run := ⟨"h:1", by decide⟩
  have houtcome : run.outcome = .error .importMissing := by rfl
  refine ⟨hlogged, houtcome, fun h => ?_⟩
  rw [h.1 hlogged] at houtcome
  cases houtcome

end StorageHandler
