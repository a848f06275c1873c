import ObjectGateway.Backend.Command
import ObjectGateway.Config.Environment
import ObjectGateway.Gateway.Settings
/-!
# The configuration

Every setting is the argument if given, else the environment variable if set,
else its default. The first setting at fault, in a fixed order, is the one
reported. Variables are read even where an argument is given, except those of
the three settings that are only on or off.
-/
namespace ObjectGateway.Config

structure Configuration where
  host : String
  port : Nat
  backend : BackendKind
  storageDir : String
  databaseUrl : String
  stagingDir : Option String
  owner : OwnerId
  policy : String
  /-- Seconds. -/
  requestTimeout : Nat
  chunkSize : Nat
  readOnly : Bool
  rejectDuplicates : Bool
  debugLevel : String
  debugStderr : Bool
deriving DecidableEq

namespace Configuration

/-- The owner that a text names; the nil identity when there is no text. -/
def ownerOf : Option String → Except ConfigError OwnerId
  | none => .ok Id.nil
  | some raw =>
    match Id.parse? raw with
    | some id => .ok id
    | none => .error (.badOwner raw)

/-- A flag that is given, or else the one of the environment. -/
def flagOr (given : Bool) (env : Environment) (s : Setting) : Except ConfigError Bool :=
  if given then .ok true else env.flag s

/-- Merge arguments over the environment. -/
def merge (a : Arguments) (env : Environment) : Except ConfigError Configuration := do
  let owner ← ownerOf (a.owner.or (← env.text? .owner))
  let requestTimeout := a.requestTimeout.or (← env.number? .requestTimeout Decimal.maxUInt64)
  let host := a.host.or (← env.text? .host)
  let port := a.port.or (← env.number? .port Decimal.maxUInt16)
  let backend := a.backend.or (← env.backend? .backend)
  let storageDir := a.storageDir.or (← env.text? .storageDir)
  let databaseUrl := a.databaseUrl.or (← env.text? .databaseUrl)
  let stagingDir := a.stagingDir.or (← env.text? .stagingDir)
  let policy := a.policy.or (← env.text? .policy)
  let chunkSize := a.chunkSize.or (← env.number? .chunkSize Decimal.maxUInt64)
  let readOnly ← flagOr a.readOnly env .readOnly
  let rejectDuplicates ← flagOr a.rejectDuplicates env .rejectDuplicates
  let debugLevel := a.debugLevel.or (← env.text? .debugLevel)
  let debugStderr ← flagOr a.debugStderr env .debugStderr
  return {
    host := host.getD "0.0.0.0"
    port := port.getD 3000
    backend := backend.getD .sqlite
    storageDir := storageDir.getD "./data/objects"
    databaseUrl := databaseUrl.getD "sqlite://./data/meta/bucket_fs.db"
    stagingDir
    owner
    policy := policy.getD defaultPolicy
    requestTimeout := requestTimeout.getD 15
    chunkSize := max (chunkSize.getD defaultMaxChunk) 1
    readOnly
    rejectDuplicates
    debugLevel := debugLevel.getD "error"
    debugStderr }

/-- Where the service listens. -/
def address (c : Configuration) : String :=
  c.host ++ ":" ++ toString c.port

/-- Whether buckets are listed and created for the nil identity. -/
def ownerIsUnset (c : Configuration) : Bool := c.owner.isNil

/-- The part of the configuration that a gateway needs. -/
def gatewaySettings (c : Configuration) : Settings where
  owner := c.owner
  readOnly := c.readOnly
  policy := c.policy
  rejectDuplicates := c.rejectDuplicates
  stagingDir := c.stagingDir

end Configuration
end ObjectGateway.Config
