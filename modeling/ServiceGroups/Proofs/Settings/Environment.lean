import Mathlib.Logic.Function.Basic
import ServiceGroups.Proofs.Except
import ServiceGroups.Proofs.Settings.Validity
import ServiceGroups.Proofs.SocketAddress
import ServiceGroups.Proofs.Text.Blank

/-!
# Settings and their environment

The settings depend on what an environment says under the recognised names, and a blank value or
a number that does not parse says nothing.  Settings that are read from an environment can be
written back as one, from which the same settings are read.
-/

namespace ServiceGroups

namespace Settings

/-- The variables whose value is taken as it is. -/
def textNames : List String :=
  ["TSG_HTTP_ADDR", "TSG_DATABASE_URL", "DATABASE_URL", "NOMAD_ADDR", "NOMAD_TOKEN",
    "NOMAD_NAMESPACE", "NOMAD_REGION", "TSG_DATACENTER", "TSG_TRITON_URL", "TSG_CLI_VERSION"]

/-- The variables for a number of milliseconds. -/
def timeoutNames : List String :=
  ["TSG_HTTP_SHUTDOWN_TIMEOUT_MS", "TSG_DATABASE_ACQUIRE_TIMEOUT_MS", "NOMAD_TIMEOUT_MS"]

/-- The variable says nothing: its value is blank, or is not the number it should be. -/
def IsIdle (name value : String) : Prop :=
  name ∈ variableNames ∧ Text.isAllBlank value = true ∨
    name ∈ timeoutNames ∧ Text.word64? value = none ∨
      name = "TSG_DATABASE_MAX_CONNECTIONS" ∧ Text.word32? value = none

/-- The variables that say what the settings are.  A token, a namespace and a region have one
only if there are such. -/
def environment (settings : Settings) : Environment := fun name =>
  (List.lookup name
    [("TSG_HTTP_ADDR", some settings.listener.address.text),
      ("TSG_HTTP_SHUTDOWN_TIMEOUT_MS",
        some (Text.decimalText settings.listener.shutdownTimeout.millis)),
      ("TSG_DATABASE_URL", some settings.database.url),
      ("TSG_DATABASE_MAX_CONNECTIONS",
        some (Text.decimalText settings.database.maxConnections.toNat)),
      ("TSG_DATABASE_ACQUIRE_TIMEOUT_MS",
        some (Text.decimalText settings.database.acquireTimeout.millis)),
      ("NOMAD_ADDR", some settings.scheduler.address),
      ("NOMAD_TOKEN", settings.scheduler.token),
      ("NOMAD_NAMESPACE", settings.scheduler.space),
      ("NOMAD_REGION", settings.scheduler.region),
      ("NOMAD_TIMEOUT_MS", some (Text.decimalText settings.scheduler.timeout.millis)),
      ("TSG_DATACENTER", some settings.cloud.datacenter),
      ("TSG_TRITON_URL", some settings.cloud.url),
      ("TSG_CLI_VERSION", some settings.release)]).join

/-- What the dump of settings has under a heading. -/
def dumped? (settings : Settings) (heading member : String) : Option Json.Value :=
  (settings.dump.member? heading).bind (·.member? member)

section Agreement

variable {environment other : Environment}

/-- Two environments say the same, though they may spell it differently. -/
structure Agree (environment other : Environment) : Prop where
  texts : ∀ name ∈ textNames, given environment name = given other name
  timeouts : ∀ name ∈ timeoutNames,
    (given environment name).bind Text.word64? = (given other name).bind Text.word64?
  connections : (given environment "TSG_DATABASE_MAX_CONNECTIONS").bind Text.word32? =
    (given other "TSG_DATABASE_MAX_CONNECTIONS").bind Text.word32?

theorem ofEnvironment_congr (agree : Agree environment other) :
    ofEnvironment environment = ofEnvironment other := by
  obtain ⟨texts, timeouts, connections⟩ := agree
  simp only [textNames, timeoutNames, List.forall_mem_cons] at texts timeouts
  simp only [ofEnvironment, readListenAddress, readDatabaseUrl, assemble, timeout, milliseconds,
    texts, timeouts, connections]

variable {α : Type} {name : String}

theorem bind_given_update_of_ne (read : String → Option α) {asked : String} (ne : asked ≠ name)
    (value : Option String) :
    (given (Function.update environment name value) asked).bind read =
      (given environment asked).bind read := by
  rw [given, Function.update_of_ne ne, given]

/-- A value that is blank or not read is as good as none. -/
theorem bind_given_update_none (read : String → Option α) {value asked : String}
    (set : environment name = some value)
    (idle : asked = name → Text.isAllBlank value = true ∨ read value = none) :
    (given (Function.update environment name none) asked).bind read =
      (given environment asked).bind read := by
  by_cases same : asked = name
  · subst same
    have silent : (Text.nonBlank? value).bind read = none := by
      unfold Text.nonBlank?
      split
      · rfl
      · next present =>
          rcases idle rfl with blank | unread
          · exact absurd blank present
          · exact unread
    simp [given, set, silent]
  · exact bind_given_update_of_ne read same none

theorem agree_update_of_isIdle {value : String} (set : environment name = some value)
    (idle : IsIdle name value) : Agree (Function.update environment name none) environment where
  texts asked member := by
    have apart : ∀ name ∈ textNames, name ∉ timeoutNames ∧
        name ≠ "TSG_DATABASE_MAX_CONNECTIONS" := by decide
    have same : (given (Function.update environment name none) asked).bind some =
        (given environment asked).bind some := by
      refine bind_given_update_none some set fun same => ?_
      subst same
      rcases idle with ⟨-, blank⟩ | ⟨timeout, -⟩ | ⟨connections, -⟩
      · exact .inl blank
      · exact absurd timeout (apart asked member).1
      · exact absurd connections (apart asked member).2
    simpa using same
  timeouts asked member := by
    refine bind_given_update_none Text.word64? set fun same => ?_
    subst same
    rcases idle with ⟨-, blank⟩ | ⟨-, unread⟩ | ⟨rfl, -⟩
    · exact .inl blank
    · exact .inr unread
    · exact absurd member (by decide)
  connections := by
    refine bind_given_update_none Text.word32? set fun same => ?_
    subst same
    rcases idle with ⟨-, blank⟩ | ⟨timeout, -⟩ | ⟨-, unread⟩
    · exact .inl blank
    · exact absurd timeout (by decide)
    · exact .inr unread

theorem agree_update_of_not_mem (unrecognised : name ∉ variableNames) (value : Option String) :
    Agree (Function.update environment name value) environment := by
  have recognised : (∀ asked ∈ textNames, asked ∈ variableNames) ∧
      (∀ asked ∈ timeoutNames, asked ∈ variableNames) ∧
      "TSG_DATABASE_MAX_CONNECTIONS" ∈ variableNames := by decide
  have apart {asked : String} (member : asked ∈ variableNames) : asked ≠ name :=
    fun same => unrecognised (same ▸ member)
  constructor
  · intro asked member
    simpa using bind_given_update_of_ne some (apart (recognised.1 asked member)) value
  · exact fun asked member =>
      bind_given_update_of_ne Text.word64? (apart (recognised.2.1 asked member)) value
  · exact bind_given_update_of_ne Text.word32? (apart recognised.2.2) value

end Agreement

section WrittenBack

theorem given_eq_some {environment : Environment} {name value : String} :
    given environment name = some value ↔
      environment name = some value ∧ Text.isAllBlank value = false := by
  rw [given, Option.bind_eq_some_iff]
  constructor
  · rintro ⟨found, set, same⟩
    unfold Text.nonBlank? at same
    split at same
    · cases same
    · next present =>
        cases same
        exact ⟨set, Bool.eq_false_iff.mpr present⟩
  · rintro ⟨set, present⟩
    exact ⟨value, set, by rw [Text.nonBlank?, present]; rfl⟩

theorem isAllBlank_decimalText (value : Nat) :
    Text.isAllBlank (Text.decimalText value) = false := by
  have plain : ∀ digit < 10, Text.isBlank digit.digitChar = false := by decide
  obtain ⟨char, member⟩ := List.exists_mem_of_ne_nil _ (Nat.toDigits_ne_nil (b := 10) (n := value))
  obtain ⟨digit, small, rfl⟩ := Text.exists_digitChar_of_mem_toDigits (by decide) member
  exact Text.isAllBlank_eq_false_of_mem (by rwa [Text.decimalText, String.toList_ofList])
    (plain digit small)

theorem isAllBlank_text (address : SocketAddress) : Text.isAllBlank address.text = false := by
  have colon : ':' ∈ address.text.toList := by
    cases address <;> simp [SocketAddress.text]
  exact Text.isAllBlank_eq_false_of_mem colon (by decide)

variable {environment : Environment} {settings : Settings}

/-- How an environment comes to give settings. -/
theorem ofEnvironment_eq_ok : ofEnvironment environment = .ok settings ↔
    readListenAddress environment = .ok settings.listener.address ∧
      readDatabaseUrl environment = .ok settings.database.url ∧
      assemble environment settings.listener.address settings.database.url = settings ∧
      settings.IsValid := by
  constructor
  · intro accepted
    obtain ⟨address, listens, accepted⟩ := exists_of_bind_eq_ok accepted
    obtain ⟨url, stores, accepted⟩ := exists_of_bind_eq_ok accepted
    obtain ⟨_, valid, same⟩ := exists_of_bind_eq_ok accepted
    cases same
    exact ⟨listens, stores, rfl, validate_eq_ok.mp valid⟩
  · rintro ⟨listens, stores, same, valid⟩
    have passed := validate_eq_ok.mpr valid
    simp only [ofEnvironment, listens, stores, bind, Except.bind, same, passed]
    rfl

/-- Whatever may be missing is not there as a blank. -/
structure IsPresent (settings : Settings) : Prop where
  token : ∀ text, settings.scheduler.token = some text → Text.isAllBlank text = false
  space : ∀ text, settings.scheduler.space = some text → Text.isAllBlank text = false
  region : ∀ text, settings.scheduler.region = some text → Text.isAllBlank text = false

theorem isPresent_of_ofEnvironment (accepted : ofEnvironment environment = .ok settings) :
    settings.IsPresent := by
  obtain ⟨-, -, same, -⟩ := ofEnvironment_eq_ok.mp accepted
  rw [← same]
  exact ⟨fun _ found => (given_eq_some.mp found).2, fun _ found => (given_eq_some.mp found).2,
    fun _ found => (given_eq_some.mp found).2⟩

/-- The timeouts are numbers of milliseconds. -/
structure InMillis (settings : Settings) : Prop where
  shutdown : ∃ value, settings.listener.shutdownTimeout = .ofMillis value
  acquire : ∃ value, settings.database.acquireTimeout = .ofMillis value
  scheduler : ∃ value, settings.scheduler.timeout = .ofMillis value

theorem inMillis_of_ofEnvironment (accepted : ofEnvironment environment = .ok settings) :
    settings.InMillis := by
  obtain ⟨-, -, same, -⟩ := ofEnvironment_eq_ok.mp accepted
  rw [← same]
  exact ⟨⟨_, rfl⟩, ⟨_, rfl⟩, ⟨_, rfl⟩⟩

theorem given_environment {name value : String} (set : settings.environment name = some value)
    (present : Text.isAllBlank value = false) : given settings.environment name = some value :=
  given_eq_some.mpr ⟨set, present⟩

theorem given_environment_eq {name : String} {value : Option String}
    (set : settings.environment name = value)
    (present : ∀ text, value = some text → Text.isAllBlank text = false) :
    given settings.environment name = value := by
  cases value with
  | none => rw [given, set, Option.bind_none]
  | some text => exact given_environment set (present text rfl)

theorem timeout_environment {name : String} {duration : Duration}
    (set : settings.environment name = some (Text.decimalText duration.millis))
    (whole : ∃ value, duration = .ofMillis value) (default : UInt64) :
    timeout settings.environment name default = duration := by
  obtain ⟨value, rfl⟩ := whole
  rw [timeout, milliseconds, given_environment set (isAllBlank_decimalText _), Option.bind_some,
    Duration.millis_ofMillis, Text.word64?_decimalText, Option.getD_some]

/-- Valid settings are read from the environment that says them. -/
theorem ofEnvironment_environment (valid : settings.IsValid) (present : settings.IsPresent)
    (whole : settings.InMillis) : ofEnvironment settings.environment = .ok settings := by
  have release : Text.isAllBlank settings.release = false := by
    simpa [isRelease] using (Bool.and_eq_true_iff.mp valid.release).1
  have listens : readListenAddress settings.environment = .ok settings.listener.address := by
    have text : given settings.environment "TSG_HTTP_ADDR" =
        some settings.listener.address.text :=
      given_environment rfl (isAllBlank_text _)
    rw [readListenAddress, text, Option.getD_some, SocketAddress.read?_text]
  have stores : readDatabaseUrl settings.environment = .ok settings.database.url := by
    have text : given settings.environment "TSG_DATABASE_URL" = some settings.database.url :=
      given_environment rfl valid.databaseUrl
    rw [readDatabaseUrl, text, Option.some_or]
  have connections : given settings.environment "TSG_DATABASE_MAX_CONNECTIONS" =
      some (Text.decimalText settings.database.maxConnections.toNat) :=
    given_environment rfl (isAllBlank_decimalText _)
  have schedules : given settings.environment "NOMAD_ADDR" = some settings.scheduler.address :=
    given_environment rfl valid.schedulerAddress
  have token : given settings.environment "NOMAD_TOKEN" = settings.scheduler.token :=
    given_environment_eq rfl present.token
  have space : given settings.environment "NOMAD_NAMESPACE" = settings.scheduler.space :=
    given_environment_eq rfl present.space
  have region : given settings.environment "NOMAD_REGION" = settings.scheduler.region :=
    given_environment_eq rfl present.region
  have datacenter : given settings.environment "TSG_DATACENTER" = some settings.cloud.datacenter :=
    given_environment rfl valid.datacenter
  have cloud : given settings.environment "TSG_TRITON_URL" = some settings.cloud.url :=
    given_environment rfl valid.cloudUrl
  have version : given settings.environment "TSG_CLI_VERSION" = some settings.release :=
    given_environment rfl release
  refine ofEnvironment_eq_ok.mpr ⟨listens, stores, ?_, valid⟩
  rw [assemble, connections, schedules, token, space, region, datacenter, cloud, version,
    timeout_environment rfl whole.shutdown, timeout_environment rfl whole.acquire,
    timeout_environment rfl whole.scheduler, Option.bind_some, Text.word32?_decimalText]
  rfl

end WrittenBack

/-- The dump has the three timeouts in milliseconds, up to the largest that there are. -/
structure DumpsTimeouts (settings : Settings) : Prop where
  shutdown : ∀ value, settings.listener.shutdownTimeout = .ofMillis value →
    settings.dumped? "http" "shutdown_timeout_ms" = some (.natural value.toNat)
  acquire : ∀ value, settings.database.acquireTimeout = .ofMillis value →
    settings.dumped? "postgres" "acquire_timeout_ms" = some (.natural value.toNat)
  scheduler : ∀ value, settings.scheduler.timeout = .ofMillis value →
    settings.dumped? "nomad" "timeout_ms" = some (.natural value.toNat)

theorem dumpsTimeouts (settings : Settings) : settings.DumpsTimeouts := by
  have shown {heading member : String} {duration : Duration} {value : UInt64}
      (dumped : settings.dumped? heading member = some (.natural duration.word.toNat))
      (same : duration = .ofMillis value) :
      settings.dumped? heading member = some (.natural value.toNat) := by
    rw [dumped, same, Duration.word_ofMillis]
  exact ⟨fun _ => shown rfl, fun _ => shown rfl, fun _ => shown rfl⟩

/-- The settings have the timeouts that the environment gives. -/
structure HasTimeouts (settings : Settings) (environment : Environment) : Prop where
  shutdown : ∀ value, (given environment "TSG_HTTP_SHUTDOWN_TIMEOUT_MS").bind Text.word64? =
    some value → settings.listener.shutdownTimeout = .ofMillis value
  acquire : ∀ value, (given environment "TSG_DATABASE_ACQUIRE_TIMEOUT_MS").bind Text.word64? =
    some value → settings.database.acquireTimeout = .ofMillis value
  scheduler : ∀ value, (given environment "NOMAD_TIMEOUT_MS").bind Text.word64? =
    some value → settings.scheduler.timeout = .ofMillis value

theorem hasTimeouts_of_ofEnvironment {environment : Environment} {settings : Settings}
    (accepted : ofEnvironment environment = .ok settings) : settings.HasTimeouts environment := by
  obtain ⟨-, -, same, -⟩ := ofEnvironment_eq_ok.mp accepted
  have kept {name : String} {default value : UInt64}
      (found : (given environment name).bind Text.word64? = some value) :
      timeout environment name default = .ofMillis value := by
    rw [timeout, milliseconds, found, Option.getD_some]
  rw [← same]
  exact ⟨fun _ => kept, fun _ => kept, fun _ => kept⟩

/-- Variables that say nothing or are not recognised make no difference, settings are read again
from the environment that says them, and timeouts go unchanged from the environment to the
dump. -/
theorem ofEnvironment_is_stable (environment : Environment) :
    (∀ name value, environment name = some value → IsIdle name value →
        ofEnvironment (Function.update environment name none) = ofEnvironment environment) ∧
      (∀ name ∉ variableNames, ∀ value,
        ofEnvironment (Function.update environment name value) = ofEnvironment environment) ∧
      (∀ settings, ofEnvironment environment = .ok settings →
        ofEnvironment settings.environment = .ok settings ∧ settings.HasTimeouts environment) ∧
      ∀ settings : Settings, settings.DumpsTimeouts := by
  refine ⟨?_, ?_, ?_, dumpsTimeouts⟩
  · exact fun name value set idle => ofEnvironment_congr (agree_update_of_isIdle set idle)
  · exact fun name unrecognised value =>
      ofEnvironment_congr (agree_update_of_not_mem unrecognised value)
  · intro settings accepted
    have valid : settings.IsValid := (ofEnvironment_eq_ok.mp accepted).2.2.2
    exact ⟨ofEnvironment_environment valid (isPresent_of_ofEnvironment accepted)
        (inMillis_of_ofEnvironment accepted),
      hasTimeouts_of_ofEnvironment accepted⟩

namespace Sample

/-- An environment with a blank token, a number that is none, and the largest timeout. -/
def crowded : Environment := fun name =>
  List.lookup name
    [("TSG_HTTP_ADDR", "[::1]:80"), ("DATABASE_URL", "postgres://localhost/tsg"),
      ("TSG_DATABASE_MAX_CONNECTIONS", "many"), ("NOMAD_TOKEN", " \t"),
      ("NOMAD_TIMEOUT_MS", "+18446744073709551615"), ("HOME", "/root")]

/-- What it gives. -/
def crowdedSettings : Settings where
  listener := ⟨.v6 ⟨[0, 0, 0, 0, 0, 0, 0, 1], rfl⟩ 0 80, .ofMillis 10000⟩
  database := ⟨"postgres://localhost/tsg", 10, .ofMillis 5000⟩
  scheduler := ⟨"http://127.0.0.1:4646", none, none, none, .ofMillis 18446744073709551615⟩
  cloud := ⟨"us-east-1", "https://us-east-1.api.joyent.com"⟩
  release := "0.1.0"

theorem ofEnvironment_crowded : ofEnvironment crowded = .ok crowdedSettings := by
  have listens : (given crowded "TSG_HTTP_ADDR").bind SocketAddress.read? =
      some crowdedSettings.listener.address := by decide +kernel
  obtain ⟨text, found, read⟩ := Option.bind_eq_some_iff.mp listens
  have stores : given crowded "TSG_DATABASE_URL" = none ∧
      given crowded "DATABASE_URL" = some "postgres://localhost/tsg" := by decide +kernel
  refine ofEnvironment_eq_ok.mpr ⟨?_, ?_, by decide +kernel, ?_⟩
  · rw [readListenAddress, found, Option.getD_some, read]
  · rw [readDatabaseUrl, stores.1, stores.2, Option.none_or]
    rfl
  · exact ⟨by decide, by decide, by decide, by decide, by decide +kernel, by decide, by decide,
      by decide, by decide⟩

end Sample

open Sample in
/-- Neither the blank token nor the number that is none makes a difference, and the environment
written back gives the same settings. -/
theorem crowded_environment_is_stable :
    crowded "NOMAD_TOKEN" = some " \t" ∧
      ofEnvironment (Function.update crowded "NOMAD_TOKEN" none) = .ok crowdedSettings ∧
      crowded "TSG_DATABASE_MAX_CONNECTIONS" = some "many" ∧
      ofEnvironment (Function.update crowded "TSG_DATABASE_MAX_CONNECTIONS" none) =
        .ok crowdedSettings ∧
      ofEnvironment (Function.update crowded "HOME" none) = .ok crowdedSettings ∧
      ofEnvironment crowdedSettings.environment = .ok crowdedSettings ∧
      crowdedSettings.dumped? "nomad" "timeout_ms" = some (.natural 18446744073709551615) := by
  obtain ⟨idle, unrecognised, accepted, dumped⟩ := ofEnvironment_is_stable crowded
  rw [ofEnvironment_crowded] at idle unrecognised
  refine ⟨rfl, idle _ _ rfl (.inl ?_), rfl, idle _ _ rfl (.inr (.inr ?_)),
    unrecognised "HOME" (by decide) none, (accepted _ ofEnvironment_crowded).1,
    (dumped crowdedSettings).scheduler _ rfl⟩
  · decide
  · decide

end Settings

end ServiceGroups
