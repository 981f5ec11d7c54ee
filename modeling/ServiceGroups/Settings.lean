import ServiceGroups.Duration
import ServiceGroups.Failure
import ServiceGroups.Json.Value
import ServiceGroups.SocketAddress
import ServiceGroups.Text.Blank
import ServiceGroups.Text.Numeral
import ServiceGroups.Text.Quoted
import ServiceGroups.Text.Utf

/-!
# Settings

Everything the agent needs to start is read from named variables.  A variable
that is blank counts as unset, and a numeric variable that does not parse takes
its default.  Settings are valid when addresses are present and plausible,
limits are positive, and the release of the scaling program can stand inside an
address.  The dump of settings masks whatever is secret.
-/

namespace ServiceGroups

/-- Where the service listens, and how long it drains requests at the end. -/
structure ListenerSettings where
  address : SocketAddress
  shutdownTimeout : Duration
deriving DecidableEq

/-- How the database is reached. -/
structure DatabaseSettings where
  url : String
  maxConnections : UInt32
  acquireTimeout : Duration
deriving DecidableEq

/-- How the job scheduler is reached. -/
structure SchedulerSettings where
  address : String
  token : Option String
  space : Option String
  region : Option String
  timeout : Duration
deriving DecidableEq

/-- The data centre and address of the cloud for sessions that name no other. -/
structure CloudSettings where
  datacenter : String
  url : String
deriving DecidableEq

/-- All settings of the agent. -/
structure Settings where
  listener : ListenerSettings
  database : DatabaseSettings
  scheduler : SchedulerSettings
  cloud : CloudSettings
  /-- The release of the scaling program that jobs download and run. -/
  release : String
deriving DecidableEq

/-- An environment: the value of each variable that is set. -/
abbrev Environment : Type :=
  String → Option String

namespace Settings

/-- The value of a variable, unless it is unset or blank. -/
def given (environment : Environment) (name : String) : Option String :=
  (environment name).bind Text.nonBlank?

def variableNames : List String :=
  ["TSG_HTTP_ADDR", "TSG_HTTP_SHUTDOWN_TIMEOUT_MS", "TSG_DATABASE_URL", "DATABASE_URL",
    "TSG_DATABASE_MAX_CONNECTIONS", "TSG_DATABASE_ACQUIRE_TIMEOUT_MS", "NOMAD_ADDR",
    "NOMAD_TOKEN", "NOMAD_NAMESPACE", "NOMAD_REGION", "NOMAD_TIMEOUT_MS", "TSG_DATACENTER",
    "TSG_TRITON_URL", "TSG_CLI_VERSION"]

/-- A number of milliseconds, or its default. -/
def milliseconds (environment : Environment) (name : String) (default : UInt64) : UInt64 :=
  ((given environment name).bind Text.word64?).getD default

def timeout (environment : Environment) (name : String) (default : UInt64) : Duration :=
  .ofMillis (milliseconds environment name default)

/-- May the character stand in the release of the scaling program? -/
def isReleaseChar (char : Char) : Bool :=
  char.isAlphanum || char == '.' || char == '-' || char == '+'

def isRelease (text : String) : Bool :=
  !Text.isAllBlank text && text.toList.all isReleaseChar

def hasWebScheme (address : String) : Bool :=
  "http://".isPrefixOf address || "https://".isPrefixOf address

/-- Every rule for valid settings, in the order in which they are reported. -/
def complaints (settings : Settings) : List (Bool × String) :=
  [(Text.isAllBlank settings.database.url, "postgres.url is empty"),
    (settings.database.maxConnections == 0, "postgres.max_connections must be > 0"),
    (settings.database.acquireTimeout.isZero, "postgres.acquire_timeout must be > 0"),
    (Text.isAllBlank settings.scheduler.address, "nomad.address is empty"),
    (!hasWebScheme settings.scheduler.address,
      "nomad.address must be an http(s) url: " ++ settings.scheduler.address),
    (settings.scheduler.timeout.isZero, "nomad.timeout must be > 0"),
    (Text.isAllBlank settings.cloud.datacenter, "triton.datacenter is empty"),
    (Text.isAllBlank settings.cloud.url, "triton.url is empty"),
    (!isRelease settings.release,
      "tsg_cli_version is invalid: " ++ Text.quoted settings.release)]

/-- Check settings; the first rule that is broken is reported. -/
def validate (settings : Settings) : Except Failure Unit :=
  match settings.complaints.find? (·.1) with
  | some (_, complaint) => .error (.invalidInput complaint)
  | none => .ok ()

def readListenAddress (environment : Environment) : Except Failure SocketAddress :=
  let text := (given environment "TSG_HTTP_ADDR").getD "0.0.0.0:3000"
  match SocketAddress.read? text with
  | some address => .ok address
  | none =>
    .error (.invalidInput ("TSG_HTTP_ADDR is invalid: " ++ SocketAddress.readFailure))

def readDatabaseUrl (environment : Environment) : Except Failure String :=
  match (given environment "TSG_DATABASE_URL").or (given environment "DATABASE_URL") with
  | some url => .ok url
  | none => .error (.invalidInput "TSG_DATABASE_URL or DATABASE_URL is required")

/-- The settings that an environment gives, before they are checked. -/
def assemble (environment : Environment) (address : SocketAddress) (databaseUrl : String) :
    Settings where
  listener :=
    { address
      shutdownTimeout := timeout environment "TSG_HTTP_SHUTDOWN_TIMEOUT_MS" 10000 }
  database :=
    { url := databaseUrl
      maxConnections :=
        ((given environment "TSG_DATABASE_MAX_CONNECTIONS").bind Text.word32?).getD 10
      acquireTimeout := timeout environment "TSG_DATABASE_ACQUIRE_TIMEOUT_MS" 5000 }
  scheduler :=
    { address := (given environment "NOMAD_ADDR").getD "http://127.0.0.1:4646"
      token := given environment "NOMAD_TOKEN"
      space := given environment "NOMAD_NAMESPACE"
      region := given environment "NOMAD_REGION"
      timeout := timeout environment "NOMAD_TIMEOUT_MS" 10000 }
  cloud :=
    { datacenter := (given environment "TSG_DATACENTER").getD "us-east-1"
      url := (given environment "TSG_TRITON_URL").getD "https://us-east-1.api.joyent.com" }
  release := (given environment "TSG_CLI_VERSION").getD "0.1.0"

/-- Read and check the settings of an environment. -/
def ofEnvironment (environment : Environment) : Except Failure Settings := do
  let address ← readListenAddress environment
  let databaseUrl ← readDatabaseUrl environment
  let settings := assemble environment address databaseUrl
  settings.validate
  return settings

/-- Mask a secret: its first and last four bytes remain when it is longer than
eight bytes and both cuts fall between characters. -/
def redact (secret : String) : String :=
  let content := Text.bytes secret
  let mask := "***"
  if content.length ≤ 8 then mask
  else
    match Text.ofBytes? (content.take 4), Text.ofBytes? (content.drop (content.length - 4)) with
    | some front, some back => front ++ mask ++ back
    | _, _ => mask

/-- The settings as JSON, with secrets masked. -/
def dump (settings : Settings) : Json.Value :=
  .object
    [("http", .object
        [("addr", .string settings.listener.address.text),
          ("shutdown_timeout_ms", .natural settings.listener.shutdownTimeout.word.toNat)]),
      ("nomad", .object
        [("address", .string settings.scheduler.address),
          ("namespace", .optionalText settings.scheduler.space),
          ("region", .optionalText settings.scheduler.region),
          ("timeout_ms", .natural settings.scheduler.timeout.word.toNat),
          ("token", .optionalText (settings.scheduler.token.map fun _ => "<set>"))]),
      ("postgres", .object
        [("acquire_timeout_ms", .natural settings.database.acquireTimeout.word.toNat),
          ("max_connections", .natural settings.database.maxConnections.toNat),
          ("url", .string (redact settings.database.url))]),
      ("triton", .object
        [("datacenter", .string settings.cloud.datacenter),
          ("url", .string settings.cloud.url)]),
      ("tsg_cli_version", .string settings.release)]

end Settings

end ServiceGroups
