import ServiceGroups.Agent
import ServiceGroups.CommandLine
import ServiceGroups.Database.Store
import ServiceGroups.Logging.Filter
import ServiceGroups.Nomad.Client

/-!
# Invoking the program

An invocation sets up logging, reads the command line, and carries out the
command within its surroundings: an environment, a database that may or may not
answer, and a wire to the job scheduler.  It reports an exit code, what is
written, and the log lines that pass the filter.  Without a log filter it breaks
off before the command line is read.
-/

namespace ServiceGroups

variable [Host.Domains]

/-- What an invocation finds around it. -/
structure Surroundings where
  environment : Environment
  database : Database.Availability
  wire : Nomad.Wire

/-- What an invocation leaves. -/
structure Report where
  exitCode : Nat
  output : String
  /-- The message the program ends with, if it fails. -/
  failure : Option String
  logs : List LogEvent

namespace Invocation

/-- What a command gives: text, log lines, and maybe a failure. -/
structure Result where
  output : String
  logs : List LogEvent
  failure : Option Failure

def Result.failed (failure : Failure) : Result :=
  ⟨"", [], some failure⟩

/-- A log event of the agent, in one of its spans or in none. -/
def agentEvent (level : LogLevel) (span : Option String) (message : String) : LogEvent :=
  ⟨level, "tsg_server::agent", span, message⟩

/-- The settings of an agent after the options of the command line. -/
def override (settings : Settings) (listen : Option SocketAddress)
    (scheduler : Option String) : Settings :=
  { settings with
    listener := { settings.listener with
      address := listen.getD settings.listener.address }
    scheduler := { settings.scheduler with
      address := scheduler.getD settings.scheduler.address } }

/-- The settings an agent starts with: those of the environment, which must be
valid, with the options of the command line, and then valid again. -/
def agentSettings (environment : Environment) (listen : Option SocketAddress)
    (scheduler : Option String) : Except Failure Settings := do
  let settings ← Settings.ofEnvironment environment
  let settings := override settings listen scheduler
  settings.validate
  return settings

def runAgent (surroundings : Surroundings) (listen : Option SocketAddress)
    (scheduler : Option String) : Result :=
  match agentSettings surroundings.environment listen scheduler with
  | .error failure => .failed failure
  | .ok _ =>
    let failure :=
      match Database.connect surroundings.database with
      | .ok _ => none
      | .error failure => some failure
    ⟨"", [agentEvent .debug none "agent: initializing agent",
      agentEvent .info (some "run") "agent: running tsg agent",
      agentEvent .info (some "stop") "agent: shutting down tsg agent"], failure⟩

/-- Where the tables are created: the given address, or that of the settings. -/
def migrationUrl (environment : Environment) (databaseUrl : Option String) :
    Except Failure String :=
  match databaseUrl with
  | some url => .ok url
  | none => (Settings.ofEnvironment environment).map (·.database.url)

def runMigrate (surroundings : Surroundings) (databaseUrl : Option String) : Result :=
  let result := do
    let _ ← migrationUrl surroundings.environment databaseUrl
    let connection ← Database.connect surroundings.database
    (Database.migrate connection).1
  match result with
  | .ok () => ⟨"", [⟨.info, "tsg", none, "database migrations applied"⟩], none⟩
  | .error failure => .failed failure

def runConfig (surroundings : Surroundings) : Result :=
  match Settings.ofEnvironment surroundings.environment with
  | .error failure => .failed failure
  | .ok settings => ⟨settings.dump.prettyText ++ "\n", [], none⟩

/-- What is wrong with a database that is not reached at its address. -/
def databaseProblem (url : String) : String :=
  if (Url.splitScheme (Url.cleaned url)).isNone then
    "error with configuration: relative URL without a base"
  else "error communicating with database: connection failed"

def databaseLine (surroundings : Surroundings) (url : String) : String :=
  match Database.connect surroundings.database with
  | .ok _ => "postgres: ok\n"
  | .error _ => "postgres: error (" ++ databaseProblem url ++ ")\n"

def schedulerLine (surroundings : Surroundings) (settings : SchedulerSettings) : String :=
  match ((Nomad.Client.ofSettings settings).leader surroundings.wire).1 with
  | .ok leader => "nomad: ok (leader " ++ leader ++ ")\n"
  | .error failure => "nomad: error (" ++ failure.message ++ ")\n"

/-- Check that the database and the job scheduler can be reached. -/
def runCheck (surroundings : Surroundings) : Result :=
  match Settings.ofEnvironment surroundings.environment with
  | .error failure => .failed failure
  | .ok settings =>
    ⟨databaseLine surroundings settings.database.url ++
      schedulerLine surroundings settings.scheduler, [], none⟩

def carryOut (surroundings : Surroundings) : Command → Result
  | .agent listen scheduler => runAgent surroundings listen scheduler
  | .migrate databaseUrl => runMigrate surroundings databaseUrl
  | .config => runConfig surroundings
  | .check => runCheck surroundings

def usage : String :=
  "Usage: tsg [COMMAND]\n\nCommands: agent, migrate, config, check, help\n"

/-- The report on words that are not carried out. -/
def reportIssue : CommandLineIssue → Report
  | .displayVersion => ⟨0, CommandLine.versionText, none, []⟩
  | .displayHelp => ⟨0, usage, none, []⟩
  | _ => ⟨2, "", none, []⟩

/-- The log lines that are written as JSON. -/
def writtenLogs (format : LogFormat) (filter : LogFilter) (events : List LogEvent) :
    List LogEvent :=
  match format with
  | .json => events.filter filter.admits
  | .pretty => []

def logVariables : List String :=
  ["TSG_LOG_FORMAT", "RUST_LOG"]

/-- The exit code of an invocation that breaks off. -/
def brokenOffCode : Nat :=
  101

/-- Invoke the program with words, once logging is set up. -/
def runLogged (surroundings : Surroundings) (format : LogFormat) (filter : LogFilter)
    (words : List String) : Report :=
  match CommandLine.read words with
  | .error issue => reportIssue issue
  | .ok command =>
    let result := carryOut surroundings (command.getD .default)
    ⟨if result.failure.isSome then 1 else 0, result.output,
      result.failure.map Failure.message, writtenLogs format filter result.logs⟩

def run (surroundings : Surroundings) (words : List String) : Report :=
  match LogFormat.ofVariable (surroundings.environment "TSG_LOG_FORMAT") with
  | .error failure => ⟨1, "", some failure.message, []⟩
  | .ok format =>
    match LogFilter.ofVariable? (surroundings.environment "RUST_LOG") with
    | none => ⟨brokenOffCode, "", none, []⟩
    | some filter => runLogged surroundings format filter words

end Invocation

end ServiceGroups
