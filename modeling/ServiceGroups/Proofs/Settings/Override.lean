import ServiceGroups.Invocation
import ServiceGroups.Proofs.CommandLine
import ServiceGroups.Proofs.Settings.Environment
import ServiceGroups.Url.Domain

/-!
# Options over variables

The options of the agent take the place of two variables, but only once the settings of the
environment, these variables included, have been found valid.  A start is therefore the same
whatever the two variables say, except that one of them may be an obstacle to it.
-/

namespace ServiceGroups

namespace Settings

/-- The variables that the options of the agent take the place of. -/
def overriddenNames : List String :=
  ["TSG_HTTP_ADDR", "NOMAD_ADDR"]

/-- Nothing is said about the scheme of the scheduler's address: it is one of the web, or a rule
that comes before is broken. -/
def SparesScheme (settings : Settings) : Prop :=
  settings.database.maxConnections = 0 ∨ settings.database.acquireTimeout.isZero = true ∨
    hasWebScheme settings.scheduler.address = true

instance : DecidablePred SparesScheme := fun settings =>
  inferInstanceAs (Decidable (settings.database.maxConnections = 0 ∨
    settings.database.acquireTimeout.isZero = true ∨
      hasWebScheme settings.scheduler.address = true))

/-- What one of the overridden variables puts in the way of a start: an address to listen on that
cannot be read or, unless something before it is wrong as well, an address of the scheduler that is
none of the web. -/
def obstacle (environment : Environment) : Option Failure :=
  match readListenAddress environment with
  | .error failure => some failure
  | .ok address =>
    match readDatabaseUrl environment with
    | .error _ => none
    | .ok url =>
      let settings := assemble environment address url
      if settings.SparesScheme then none
      else some (.invalidInput
        ("nomad.address must be an http(s) url: " ++ settings.scheduler.address))

/-- Two environments that differ in the overridden variables at most. -/
def DifferInOverridden (environment other : Environment) : Prop :=
  ∀ name ∉ overriddenNames, environment name = other name

section Validity

theorem isAllBlank_of_hasWebScheme {address : String} (web : hasWebScheme address = true) :
    Text.isAllBlank address = false := by
  obtain ⟨scheme, rest, known, whole⟩ := exists_scheme_of_hasWebScheme web
  have first : 'h' ∈ address.toList := by
    rw [whole]
    rcases known with rfl | rfl <;> simp
  exact Text.isAllBlank_eq_false_of_mem first (by decide)

/-- Addresses that the rules spare make no difference to which rule is broken first. -/
theorem validate_override {settings : Settings} {listen : SocketAddress} {address : String}
    (spared : settings.SparesScheme)
    (otherSpared : (Invocation.override settings (some listen) (some address)).SparesScheme) :
    (Invocation.override settings (some listen) (some address)).validate =
      settings.validate := by
  have either : settings.database.maxConnections = 0 ∨
      settings.database.acquireTimeout.isZero = true ∨
      hasWebScheme settings.scheduler.address = true ∧ hasWebScheme address = true := by
    rcases spared with zero | zero | web
    · exact .inl zero
    · exact .inr (.inl zero)
    · exact otherSpared.imp_right (Or.imp_right fun otherWeb => ⟨web, otherWeb⟩)
  rcases either with zero | zero | ⟨web, otherWeb⟩
  · simp [validate, complaints, Invocation.override, zero, List.find?_cons]
  · simp [validate, complaints, Invocation.override, zero, List.find?_cons]
  · simp [validate, complaints, Invocation.override, web, otherWeb,
      isAllBlank_of_hasWebScheme web, isAllBlank_of_hasWebScheme otherWeb, List.find?_cons]

theorem validate_of_not_sparesScheme {settings : Settings}
    (url : Text.isAllBlank settings.database.url = false)
    (scheduler : Text.isAllBlank settings.scheduler.address = false)
    (blamed : ¬ settings.SparesScheme) :
    settings.validate = .error (.invalidInput
      ("nomad.address must be an http(s) url: " ++ settings.scheduler.address)) := by
  obtain ⟨connections, rest⟩ := not_or.mp blamed
  obtain ⟨acquire, web⟩ := not_or.mp rest
  simp only [validate, complaints, url, beq_eq_false_iff_ne.mpr connections,
    Bool.eq_false_iff.mpr acquire, scheduler, Bool.eq_false_iff.mpr web, List.find?_cons,
    Bool.not_false]

end Validity

section Obstacles

variable {environment other : Environment}

theorem given_congr (differ : DifferInOverridden environment other) {name : String}
    (kept : name ∉ overriddenNames) : given environment name = given other name := by
  rw [given, differ name kept, given]

theorem readDatabaseUrl_congr (differ : DifferInOverridden environment other) :
    readDatabaseUrl environment = readDatabaseUrl other := by
  rw [readDatabaseUrl, given_congr differ (by decide : "TSG_DATABASE_URL" ∉ overriddenNames),
    given_congr differ (by decide : "DATABASE_URL" ∉ overriddenNames), readDatabaseUrl]

/-- What two such environments give differs by the two addresses. -/
theorem assemble_eq_override (differ : DifferInOverridden environment other)
    (address otherAddress : SocketAddress) (url : String) :
    assemble other otherAddress url = Invocation.override (assemble environment address url)
      (some otherAddress) (some (assemble other otherAddress url).scheduler.address) := by
  have kept : ∀ name ∉ overriddenNames, given other name = given environment name :=
    fun name away => (given_congr differ away).symm
  simp only [assemble, timeout, milliseconds, Invocation.override, Option.getD_some,
    kept "TSG_HTTP_SHUTDOWN_TIMEOUT_MS" (by decide),
    kept "TSG_DATABASE_MAX_CONNECTIONS" (by decide),
    kept "TSG_DATABASE_ACQUIRE_TIMEOUT_MS" (by decide), kept "NOMAD_TOKEN" (by decide),
    kept "NOMAD_NAMESPACE" (by decide), kept "NOMAD_REGION" (by decide),
    kept "NOMAD_TIMEOUT_MS" (by decide), kept "TSG_DATACENTER" (by decide),
    kept "TSG_TRITON_URL" (by decide), kept "TSG_CLI_VERSION" (by decide)]

theorem isAllBlank_of_readDatabaseUrl {url : String}
    (read : readDatabaseUrl environment = .ok url) : Text.isAllBlank url = false := by
  unfold readDatabaseUrl at read
  split at read
  · next found =>
      cases read
      rcases Option.or_eq_some_iff.mp found with set | ⟨-, set⟩
      · exact (given_eq_some.mp set).2
      · exact (given_eq_some.mp set).2
  · cases read

theorem isAllBlank_schedulerAddress (address : SocketAddress) (url : String) :
    Text.isAllBlank (assemble environment address url).scheduler.address = false := by
  cases set : given environment "NOMAD_ADDR" with
  | none =>
      simp only [assemble, set, Option.getD_none]
      decide
  | some scheduler =>
      simp only [assemble, set, Option.getD_some]
      exact (given_eq_some.mp set).2

/-- An obstacle ends the start, whatever the options are. -/
theorem ofEnvironment_of_obstacle {failure : Failure}
    (found : obstacle environment = some failure) : ofEnvironment environment = .error failure := by
  unfold obstacle at found
  cases listens : readListenAddress environment with
  | error refusal =>
      rw [listens] at found
      cases found
      rw [ofEnvironment, listens]
      rfl
  | ok address =>
      cases stores : readDatabaseUrl environment with
      | error missing =>
          rw [listens, stores] at found
          cases found
      | ok url =>
          simp only [listens, stores] at found
          obtain ⟨blamed, same⟩ := Option.ite_none_left_eq_some.mp found
          have refused := validate_of_not_sparesScheme (isAllBlank_of_readDatabaseUrl stores)
            (isAllBlank_schedulerAddress address url) blamed
          rw [Option.some.inj same] at refused
          simp only [ofEnvironment, listens, stores, bind, Except.bind, refused]

/-- Without an obstacle the listening address is read, and the scheme of the scheduler's address is
not what is wrong. -/
theorem spares_of_no_obstacle (free : obstacle environment = none) :
    ∃ address, readListenAddress environment = .ok address ∧
      ∀ url, readDatabaseUrl environment = .ok url →
        (assemble environment address url).SparesScheme := by
  unfold obstacle at free
  cases listens : readListenAddress environment with
  | error refusal =>
      rw [listens] at free
      cases free
  | ok address =>
      refine ⟨address, rfl, fun url stores => ?_⟩
      simp only [listens, stores] at free
      exact Decidable.byContradiction fun blamed => absurd free (by rw [if_neg blamed]; nofun)

/-- How an obstacle is reported. -/
theorem take_of_obstacle {text : String}
    (found : obstacle environment = some (.invalidInput text)) :
    text.toList.take 7 = "TSG_HTT".toList ∨ text.toList.take 7 = "nomad.a".toList := by
  unfold obstacle readListenAddress at found
  split at found
  · next refusal listens =>
      cases found
      simp only at listens
      split at listens
      · cases listens
      · cases listens
        exact .inl (by decide)
  · split at found
    · cases found
    · obtain ⟨-, same⟩ := Option.ite_none_left_eq_some.mp found
      have whole := Failure.invalidInput.inj (Option.some.inj same)
      rw [← whole, String.toList_append]
      exact .inr rfl

end Obstacles

end Settings

namespace Invocation

open CommandLine Settings

section Starts

variable {environment other : Environment} {listen : SocketAddress} {scheduler : String}

theorem agentSettings_of_obstacle {failure : Failure}
    (found : obstacle environment = some failure) :
    agentSettings environment (some listen) (some scheduler) = .error failure := by
  rw [agentSettings, ofEnvironment_of_obstacle found]
  rfl

/-- Once the listening address and the database are read, only the rules for settings are left. -/
theorem agentSettings_of_read {address : SocketAddress} {url : String}
    (listens : readListenAddress environment = .ok address)
    (stores : readDatabaseUrl environment = .ok url) :
    agentSettings environment (some listen) (some scheduler) = (do
      (assemble environment address url).validate
      (override (assemble environment address url) (some listen) (some scheduler)).validate
      return override (assemble environment address url) (some listen) (some scheduler)) := by
  simp only [agentSettings, ofEnvironment, listens, stores, bind, Except.bind]
  cases (assemble environment address url).validate <;> rfl

/-- Where neither variable is an obstacle they do not matter. -/
theorem agentSettings_congr (differ : DifferInOverridden environment other)
    (free : obstacle environment = none) (otherFree : obstacle other = none) :
    agentSettings environment (some listen) (some scheduler) =
      agentSettings other (some listen) (some scheduler) := by
  obtain ⟨address, listens, spared⟩ := spares_of_no_obstacle free
  obtain ⟨otherAddress, otherListens, otherSpared⟩ := spares_of_no_obstacle otherFree
  have same := readDatabaseUrl_congr differ
  cases stores : readDatabaseUrl environment with
  | error missing =>
      simp only [agentSettings, ofEnvironment, listens, otherListens, ← same, stores, bind,
        Except.bind]
  | ok url =>
      have otherStores := same.symm.trans stores
      have readdressed := assemble_eq_override differ address otherAddress url
      have overridden : override (assemble other otherAddress url) (some listen) (some scheduler) =
          override (assemble environment address url) (some listen) (some scheduler) :=
        (congrArg (override · (some listen) (some scheduler)) readdressed).trans rfl
      have valid : (assemble other otherAddress url).validate =
          (assemble environment address url).validate := by
        have spares := otherSpared url otherStores
        rw [readdressed] at spares
        exact (congrArg validate readdressed).trans (validate_override (spared url stores) spares)
      rw [agentSettings_of_read listens stores,
        agentSettings_of_read otherListens otherStores, valid, overridden]

/-- The rules other than the one for the scheme of the scheduler's address are reported in other
words than obstacles are. -/
theorem not_obstacle_of_complaint {settings : Settings} {complaint : String}
    (web : hasWebScheme settings.scheduler.address = true)
    (broken : (true, complaint) ∈ settings.complaints) (environment : Environment) :
    obstacle environment ≠ some (.invalidInput complaint) := by
  intro found
  have begins := take_of_obstacle found
  simp only [complaints, web, isAllBlank_of_hasWebScheme web, Bool.not_true, List.mem_cons,
    Prod.mk.injEq, Bool.true_eq_false, false_and, List.not_mem_nil, or_false, false_or] at broken
  rcases broken with ⟨-, rfl⟩ | ⟨-, rfl⟩ | ⟨-, rfl⟩ | ⟨-, rfl⟩ | ⟨-, rfl⟩ | ⟨-, rfl⟩ | ⟨-, rfl⟩
  -- All complaints but the last are fixed texts.
  any_goals
    apply absurd begins
    decide
  rw [String.toList_append] at begins
  exact absurd begins (by simp)

/-- A start without an obstacle is not refused as if there were one. -/
theorem obstacle_ne_of_agentSettings {failure : Failure} (free : obstacle environment = none)
    (web : hasWebScheme scheduler = true)
    (refused : agentSettings environment (some listen) (some scheduler) = .error failure) :
    obstacle other ≠ some failure := by
  obtain ⟨address, listens, spared⟩ := spares_of_no_obstacle free
  cases stores : readDatabaseUrl environment with
  | error missing =>
      have same : missing = failure := by
        simpa only [agentSettings, ofEnvironment, listens, stores, bind, Except.bind,
          Except.error.injEq] using refused
      subst same
      unfold readDatabaseUrl at stores
      split at stores
      · cases stores
      · cases stores
        exact fun found => absurd (take_of_obstacle found) (by decide)
  | ok url =>
      rw [agentSettings_of_read listens stores] at refused
      have readdressed : (override (assemble environment address url) (some listen)
          (some scheduler)).validate = (assemble environment address url).validate :=
        validate_override (spared url stores) (.inr (.inr web))
      have judged : (override (assemble environment address url) (some listen)
          (some scheduler)).validate = .error failure := by
        rw [← readdressed] at refused
        cases judged : (override (assemble environment address url) (some listen)
            (some scheduler)).validate with
        | error found =>
            rw [judged] at refused
            cases refused
            rfl
        | ok _ =>
            rw [judged] at refused
            cases refused
      obtain ⟨complaint, broken, rfl⟩ := exists_complaint_of_validate judged
      exact not_obstacle_of_complaint web broken other

end Starts

section Outcomes

variable {environment other : Environment} {listen : SocketAddress} {scheduler : String}

/-- The agent starts with the addresses of the options, and with valid settings. -/
theorem addresses_of_agentSettings {settings : Settings}
    (starts : agentSettings environment (some listen) (some scheduler) = .ok settings) :
    settings.listener.address = listen ∧ settings.scheduler.address = scheduler ∧
      settings.validate = .ok () := by
  obtain ⟨given, -, starts⟩ := exists_of_bind_eq_ok starts
  obtain ⟨_, valid, starts⟩ := exists_of_bind_eq_ok starts
  cases starts
  exact ⟨rfl, rfl, valid⟩

theorem agentSettings_eq_iff (differ : DifferInOverridden environment other) :
    (∀ listen scheduler, agentSettings environment (some listen) (some scheduler) =
        agentSettings other (some listen) (some scheduler)) ↔
      obstacle environment = obstacle other := by
  have web : hasWebScheme "http://127.0.0.1:4646" = true := by decide +kernel
  constructor
  · intro same
    have here := same (.v4 ⟨127, 0, 0, 1⟩ 3000) "http://127.0.0.1:4646"
    cases found : obstacle environment with
    | none =>
        cases otherFound : obstacle other with
        | none => rfl
        | some failure =>
            rw [agentSettings_of_obstacle otherFound] at here
            exact absurd otherFound (obstacle_ne_of_agentSettings found web here)
    | some failure =>
        rw [agentSettings_of_obstacle found] at here
        cases otherFound : obstacle other with
        | none => exact absurd found (obstacle_ne_of_agentSettings otherFound web here.symm)
        | some otherFailure =>
            rw [agentSettings_of_obstacle otherFound] at here
            rw [Except.error.inj here]
  · intro same listen scheduler
    cases found : obstacle environment with
    | none => exact agentSettings_congr differ found (same.symm.trans found)
    | some failure =>
        rw [agentSettings_of_obstacle found, agentSettings_of_obstacle (same.symm.trans found)]

/-- The same settings, or the same refusal, make the same report. -/
theorem run_agentWords [Host.Domains] (differ : DifferInOverridden environment other)
    (same : ∀ listen scheduler, agentSettings environment (some listen) (some scheduler) =
      agentSettings other (some listen) (some scheduler))
    (listen scheduler : String) (database : Database.Availability) (wire : Nomad.Wire) :
    run ⟨environment, database, wire⟩ (agentWords listen scheduler) =
      run ⟨other, database, wire⟩ (agentWords listen scheduler) := by
  have carried (address : SocketAddress) :
      carryOut ⟨environment, database, wire⟩ (.agent (some address) (some scheduler)) =
        carryOut ⟨other, database, wire⟩ (.agent (some address) (some scheduler)) := by
    unfold carryOut runAgent
    simp only [same]
  have logged (format : LogFormat) (filter : LogFilter) :
      runLogged ⟨environment, database, wire⟩ format filter (agentWords listen scheduler) =
        runLogged ⟨other, database, wire⟩ format filter (agentWords listen scheduler) := by
    unfold runLogged
    cases read : CommandLine.read (agentWords listen scheduler) with
    | error issue => rfl
    | ok command =>
        obtain ⟨-, -, address, -, rfl⟩ := read_agentWords.mp read
        simp only [Option.getD_some, carried]
  simp only [run, differ "TSG_LOG_FORMAT" (by decide), differ "RUST_LOG" (by decide), logged]

end Outcomes

/-- The options of the agent win over the two variables exactly if neither environment has an
obstacle that the other does not have; then the program reports the same in both. -/
theorem options_win_iff_obstacles_agree [Host.Domains] {environment other : Environment}
    (differ : DifferInOverridden environment other) :
    ((∀ listen scheduler, agentSettings environment (some listen) (some scheduler) =
        agentSettings other (some listen) (some scheduler)) ↔
      obstacle environment = obstacle other) ∧
    (∀ listen scheduler settings,
      agentSettings environment (some listen) (some scheduler) = .ok settings →
        settings.listener.address = listen ∧ settings.scheduler.address = scheduler ∧
          settings.validate = .ok ()) ∧
    (obstacle environment = obstacle other → ∀ listen scheduler database wire,
      run ⟨environment, database, wire⟩ (agentWords listen scheduler) =
        run ⟨other, database, wire⟩ (agentWords listen scheduler)) :=
  ⟨agentSettings_eq_iff differ, fun _ _ _ => addresses_of_agentSettings,
    fun same => run_agentWords differ ((agentSettings_eq_iff differ).mpr same)⟩

namespace Sample

/-- An environment that says where the database is, and something else. -/
def withDatabase (others : List (String × String)) : Environment := fun name =>
  (others ++ [("DATABASE_URL", "bad")]).lookup name

theorem differ_withDatabase {name : String} (overridden : name ∈ overriddenNames)
    (value : String) : DifferInOverridden (withDatabase [(name, value)]) (withDatabase []) := by
  intro asked away
  have ne : (asked == name) = false := beq_eq_false_iff_ne.mpr fun same => away (same ▸ overridden)
  simp [withDatabase, List.lookup_cons, ne]

/-- What the program ends with when it is to run the agent with both options. -/
def failure (environment : Environment) : Option String :=
  (run ⟨environment, .unreachable, .unreachable⟩
    (agentWords "127.0.0.1:8080" "http://127.0.0.1:4646")).failure

end Sample

open Sample in
/-- Another address of the web is no obstacle, and the option wins. -/
theorem options_win_over_other_address :
    obstacle (withDatabase [("NOMAD_ADDR", "https://nomad.example")]) =
        obstacle (withDatabase []) ∧
      failure (withDatabase [("NOMAD_ADDR", "https://nomad.example")]) =
        failure (withDatabase []) ∧
      failure (withDatabase []) = some "backend error: connect postgres" := by
  have differ : DifferInOverridden (withDatabase [("NOMAD_ADDR", "https://nomad.example")])
      (withDatabase []) := differ_withDatabase (by decide) _
  have same : obstacle (withDatabase [("NOMAD_ADDR", "https://nomad.example")]) =
      obstacle (withDatabase []) := by decide +kernel
  refine ⟨same, ?_, by decide +kernel⟩
  exact congrArg Report.failure ((options_win_iff_obstacles_agree differ).2.2 same _ _ _ _)

open Sample in
/-- A malformed variable ends the start though an option takes its place. -/
theorem malformed_variables_win_over_options :
    DifferInOverridden (withDatabase [("NOMAD_ADDR", "broken")]) (withDatabase []) ∧
      DifferInOverridden (withDatabase [("TSG_HTTP_ADDR", "nope")]) (withDatabase []) ∧
      failure (withDatabase []) = some "backend error: connect postgres" ∧
      failure (withDatabase [("NOMAD_ADDR", "broken")]) =
        some "invalid input: nomad.address must be an http(s) url: broken" ∧
      failure (withDatabase [("TSG_HTTP_ADDR", "nope")]) =
        some "invalid input: TSG_HTTP_ADDR is invalid: invalid socket address syntax" :=
  ⟨differ_withDatabase (by decide) _, differ_withDatabase (by decide) _, by decide +kernel,
    by decide +kernel, by decide +kernel⟩

end Invocation

end ServiceGroups
