import StorageHandler.Client.Import
import StorageHandler.Client.Kudu

/-!
# Connecting

`connect` finds the masters for a configuration, has a builder make a client and imports the process
credentials into it. A client whose import fails is closed before the error leaves.
-/

namespace StorageHandler

/-- The settings of a process and the masters for a configuration. -/
def resolveMasters (conf : Table) (settings : ProcessSettings) : Except ClientError String := do
  let c ← (JobConf.ofEntries conf).mapError .entry
  (c.withDefaultMasters settings.masters defaultMastersKey).kuduMasters.mapError .masters

/-- The provider of a process, where none is given: its token file. -/
def processProvider (fs : FileSystem) (settings : ProcessSettings) : Provider :=
  (fs.provide settings.tokenFile).mapError .credentials

/-- Has a builder make a client, and logs it. -/
def buildClient (builder : Builder) (addresses : String) : Run Client := do
  Run.act (.build addresses)
  let client ← (builder addresses).mapError (ClientError.ofBuilder addresses)
  Run.act (.log (.clientCreated addresses))
  return client

/-- A client for a configuration, with the credentials of the process imported. -/
def connect (fs : FileSystem) (env : Environment) (conf : Table) (builder : Builder)
    (provider : Option Provider) : Run Client := do
  let settings ← Run.ofExcept ((env.settings fs).mapError .environment)
  let addresses ← Run.ofExcept (resolveMasters conf settings)
  let client ← buildClient builder addresses
  let _ ← (importCredentials client (provider.getD (processProvider fs settings))).onError
    client.closeQuietly
  return client

end StorageHandler
