import Mathlib.Data.List.Basic
import StorageHandler.Client.Import

/-!
# What an import of credentials does

An import fails where its provider or its client does (`outcome_importCredentials_eq_error_iff`),
and all it does on the way is to log tokens and to hand over a secret
(`mem_actions_importCredentials`).

A client that takes every secret is given that of the first token for its service, if there is one
(`importedSecrets_importCredentials`). All that counts of a provider is which tokens for the service
it has, in which order (`Provider.tokensFor`).
-/

namespace StorageHandler

variable {client : Client} {credentials : List Credentials} {skipped : List String}

/-! ## The phases -/

theorem importCredentials_of_unmatched
    (h : firstKuduToken client.service (allTokens credentials) = (skipped, none)) :
    importCredentials client (.ok (some credentials)) =
      ⟨skipped.map fun s => .log (.credentialsSkipped s client.service), .ok false⟩ := by
  simp only [importCredentials, Run.ofExcept, bind, h, logSkipped, pure, List.nil_append,
    List.append_nil]

theorem importCredentials_of_matched {token : SecurityToken}
    (h : firstKuduToken client.service (allTokens credentials) = (skipped, some token)) :
    importCredentials client (.ok (some credentials)) =
      ⟨skipped.map (fun s => .log (.credentialsSkipped s client.service)) ++
        [.log (.credentialsImported client.service),
          .importSecret token.password (client.importing token.password).isNone],
        match client.importing token.password with
        | none => .ok true
        | some e => .error e⟩ := by
  simp only [importCredentials, Run.ofExcept, bind, h, logSkipped, Run.act, Client.importSecret]
  cases client.importing token.password <;> rfl

/-! ## Failures -/

/-- Why an import of credentials into a client fails. -/
inductive ImportFailure (client : Client) : Provider → ClientError → Prop
  /-- The provider failed. -/
  | provider (e : ClientError) : ImportFailure client (.error e) e
  /-- The client failed to import the secret of its token. -/
  | client (credentials : List Credentials) (token : SecurityToken) (e : ClientError)
      (found : (firstKuduToken client.service (allTokens credentials)).2 = some token)
      (refused : client.importing token.password = some e) :
      ImportFailure client (.ok (some credentials)) e

theorem outcome_importCredentials_eq_error_iff {p : Provider} {e : ClientError} :
    (importCredentials client p).outcome = .error e ↔ ImportFailure client p e := by
  constructor
  · intro h
    rcases p with e' | _ | credentials
    · obtain rfl := Except.error.inj h
      exact .provider e'
    · cases h
    · rcases hf : firstKuduToken client.service (allTokens credentials) with ⟨skipped, _ | token⟩
      · rw [importCredentials_of_unmatched hf] at h
        cases h
      · rw [importCredentials_of_matched hf] at h
        cases hi : client.importing token.password with
        | none =>
          rw [hi] at h
          cases h
        | some e' =>
          rw [hi] at h
          obtain rfl := Except.error.inj h
          exact .client credentials token e' (by rw [hf]) hi
  · rintro (_ | ⟨credentials, token, _, found, refused⟩)
    · rfl
    · rw [importCredentials_of_matched (Prod.ext rfl found), refused]

/-! ## Actions -/

/-- An import logs tokens and hands over a secret, and does nothing else. -/
theorem mem_actions_importCredentials {p : Provider} {a : Action}
    (h : a ∈ (importCredentials client p).actions) :
    (∃ s, a = .log (.credentialsSkipped s client.service)) ∨
      a = .log (.credentialsImported client.service) ∨
      ∃ secret succeeded, a = .importSecret secret succeeded := by
  rcases p with e | _ | credentials
  · cases h
  · cases h
  · rcases hf : firstKuduToken client.service (allTokens credentials) with ⟨skipped, _ | token⟩
    · rw [importCredentials_of_unmatched hf] at h
      obtain ⟨s, -, rfl⟩ := List.mem_map.1 h
      exact Or.inl ⟨s, rfl⟩
    · rw [importCredentials_of_matched hf, List.mem_append, List.mem_pair] at h
      rcases h with h | rfl | rfl
      · obtain ⟨s, -, rfl⟩ := List.mem_map.1 h
        exact Or.inl ⟨s, rfl⟩
      · exact Or.inr (Or.inl rfl)
      · exact Or.inr (Or.inr ⟨_, _, rfl⟩)

/-! ## Tokens for a service -/

/-- A Kudu token for a service. -/
def IsTokenFor (service : String) (t : SecurityToken) : Prop :=
  t.kind = kuduTokenKind ∧ t.service = service

instance (service : String) : DecidablePred (IsTokenFor service) := fun t =>
  inferInstanceAs (Decidable (t.kind = kuduTokenKind ∧ t.service = service))

/-- The Kudu tokens for a service, in order. -/
def tokensFor (service : String) (ts : List SecurityToken) : List SecurityToken :=
  ts.filter fun t => IsTokenFor service t

theorem mem_tokensFor {service : String} {ts : List SecurityToken} {t : SecurityToken} :
    t ∈ tokensFor service ts ↔ t ∈ ts ∧ IsTokenFor service t := by
  rw [tokensFor, List.mem_filter, decide_eq_true_iff]

/-- Tokens of other kinds or services do not change which token is found. -/
theorem snd_firstKuduToken (service : String) (ts : List SecurityToken) :
    (firstKuduToken service ts).2 = (tokensFor service ts).head? := by
  induction ts with
  | nil => rfl
  | cons t ts ih =>
    rw [firstKuduToken, tokensFor, List.filter_cons, ← tokensFor]
    by_cases hkind : t.kind = kuduTokenKind
    · by_cases hservice : t.service = service
      · rw [if_neg (not_not_intro hkind), if_neg (not_not_intro hservice),
          if_pos (decide_eq_true ⟨hkind, hservice⟩)]
        rfl
      · rw [if_neg (not_not_intro hkind), if_pos hservice, if_neg (by simp [IsTokenFor, hservice])]
        exact ih
    · rw [if_pos hkind, if_neg (by simp [IsTokenFor, hkind])]
      exact ih

/-- The Kudu tokens that a provider has for a service. -/
def Provider.tokensFor (p : Provider) (service : String) :
    Except ClientError (List SecurityToken) :=
  p.map fun credentials => StorageHandler.tokensFor service (allTokens (credentials.getD []))

/-- The secret that an action hands over with success. -/
def Action.importedSecret? : Action → Option (List UInt8)
  | .importSecret secret true => some secret
  | _ => none

/-- The secrets that are handed over, in order. -/
def importedSecrets (actions : List Action) : List (List UInt8) :=
  actions.filterMap Action.importedSecret?

/-- The secret of the first of the tokens, if there are any. -/
def firstSecret : Except ClientError (List SecurityToken) → Option (List UInt8)
  | .ok ts => ts.head?.map (·.password)
  | .error _ => none

section Accepting

variable (accepts : ∀ secret, client.importing secret = none) (p : Provider)

include accepts

/-- A client that takes every secret is given that of the first token for its service. -/
theorem importedSecrets_importCredentials :
    importedSecrets (importCredentials client p).actions =
      (firstSecret (p.tokensFor client.service)).toList := by
  rcases p with e | _ | credentials
  · rfl
  · rfl
  · have hskipped (skipped : List String) : importedSecrets
        (skipped.map fun s => .log (.credentialsSkipped s client.service)) = [] := by
      rw [importedSecrets, List.filterMap_map]
      exact List.filterMap_eq_nil_iff.2 fun _ _ => rfl
    change _ = ((tokensFor client.service (allTokens credentials)).head?.map _).toList
    rw [← snd_firstKuduToken]
    rcases hf : firstKuduToken client.service (allTokens credentials) with ⟨skipped, _ | token⟩
    · rw [importCredentials_of_unmatched hf, hskipped]
      rfl
    · rw [importCredentials_of_matched hf, importedSecrets, List.filterMap_append,
        ← importedSecrets, hskipped, accepts]
      rfl

/-- Whether an import succeeds, and finds a token, depends on the tokens for the service only. -/
theorem outcome_importCredentials :
    (importCredentials client p).outcome =
      (p.tokensFor client.service).map fun ts => ts.head?.isSome := by
  rcases p with e | _ | credentials
  · rfl
  · rfl
  · change _ = Except.ok (tokensFor client.service (allTokens credentials)).head?.isSome
    rw [← snd_firstKuduToken]
    rcases hf : firstKuduToken client.service (allTokens credentials) with ⟨skipped, _ | token⟩
    · rw [importCredentials_of_unmatched hf]
      rfl
    · rw [importCredentials_of_matched hf, accepts]
      rfl

end Accepting

end StorageHandler
