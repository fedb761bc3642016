import StorageHandler.Client.Basic

/-!
# Importing credentials

A job that reads from one cluster and writes to another carries a token for each. A client gets the
first Kudu token for its own service, if there is one, and no other.
-/

namespace StorageHandler

/-- Logs the services of the Kudu tokens that are passed over. -/
def logSkipped (expected : String) (services : List String) : Run Unit :=
  ⟨services.map fun s => .log (.credentialsSkipped s expected), .ok ()⟩

/-- Imports the secret of the first Kudu token for the client's service, and says whether there was
one. -/
def importCredentials (client : Client) (provider : Provider) : Run Bool := do
  match ← Run.ofExcept provider with
  | none => return false
  | some credentials =>
    let (skipped, found) := firstKuduToken client.service (allTokens credentials)
    logSkipped client.service skipped
    match found with
    | none => return false
    | some token =>
      Run.act (.log (.credentialsImported client.service))
      client.importSecret token.password
      return true

end StorageHandler
