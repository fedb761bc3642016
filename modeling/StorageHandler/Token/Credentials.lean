import StorageHandler.OrderedMap

/-!
# Credentials

Delegation tokens and secret keys, both under aliases and in order. `firstKuduToken` finds the token
for a service and notes the Kudu tokens of other services that it passes.
-/

namespace StorageHandler

/-- A delegation token. -/
structure SecurityToken where
  identifier : List UInt8
  password : List UInt8
  kind : String
  service : String
  deriving DecidableEq, Repr

/-- The tokens and the secret keys of a principal. -/
structure Credentials where
  tokens : OrderedMap String SecurityToken
  secretKeys : OrderedMap String (List UInt8)
  deriving DecidableEq

/-- The tokens of all credentials, in order. -/
def allTokens (credentials : List Credentials) : List SecurityToken :=
  credentials.flatMap fun c => c.tokens.values

/-- The kind of the tokens of Kudu. -/
def kuduTokenKind : String := "kudu-authn-data"

/-- The first Kudu token for a service, and the services of the Kudu tokens before it. -/
def firstKuduToken (service : String) : List SecurityToken → List String × Option SecurityToken
  | [] => ([], none)
  | t :: ts =>
    if t.kind ≠ kuduTokenKind then firstKuduToken service ts
    else if t.service ≠ service then
      let (skipped, found) := firstKuduToken service ts
      (t.service :: skipped, found)
    else ([], some t)

end StorageHandler
