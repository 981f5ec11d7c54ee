import ServiceGroups.Settings

/-!
# Valid settings

Settings are valid exactly if no rule is broken.  A refusal is the complaint of a rule that is
broken, and an address of the web, whichever it is, breaks none of the rules.
-/

namespace ServiceGroups

namespace Settings

/-- No rule for settings is broken. -/
structure IsValid (settings : Settings) : Prop where
  databaseUrl : Text.isAllBlank settings.database.url = false
  connections : settings.database.maxConnections ≠ 0
  acquireTimeout : settings.database.acquireTimeout.isZero = false
  schedulerAddress : Text.isAllBlank settings.scheduler.address = false
  webScheme : hasWebScheme settings.scheduler.address = true
  schedulerTimeout : settings.scheduler.timeout.isZero = false
  datacenter : Text.isAllBlank settings.cloud.datacenter = false
  cloudUrl : Text.isAllBlank settings.cloud.url = false
  release : isRelease settings.release = true

variable {settings : Settings}

theorem validate_eq_ok : settings.validate = .ok () ↔ settings.IsValid := by
  have kept : settings.validate = .ok () ↔ ∀ rule ∈ settings.complaints, rule.1 = false := by
    unfold validate
    cases found : settings.complaints.find? (·.1) with
    | none => simpa using List.find?_eq_none.mp found
    | some rule =>
        have broken := List.find?_some found
        have member := List.mem_of_find?_eq_some found
        refine iff_of_false nofun fun all => ?_
        rw [all rule member] at broken
        cases broken
  rw [kept]
  simp only [complaints, List.forall_mem_cons, List.not_mem_nil, false_implies, implies_true,
    and_true, beq_eq_false_iff_ne, Bool.not_eq_false']
  constructor
  · rintro ⟨url, connections, acquire, address, web, timeout, datacenter, cloud, release⟩
    exact ⟨url, connections, acquire, address, web, timeout, datacenter, cloud, release⟩
  · rintro ⟨url, connections, acquire, address, web, timeout, datacenter, cloud, release⟩
    exact ⟨url, connections, acquire, address, web, timeout, datacenter, cloud, release⟩

/-- A refusal is the complaint of a rule that is broken. -/
theorem exists_complaint_of_validate {failure : Failure}
    (refused : settings.validate = .error failure) :
    ∃ complaint, (true, complaint) ∈ settings.complaints ∧ failure = .invalidInput complaint := by
  unfold validate at refused
  split at refused
  · next broken complaint found =>
      cases refused
      obtain rfl : broken = true := List.find?_some found
      exact ⟨complaint, List.mem_of_find?_eq_some found, rfl⟩
  · cases refused

/-- An address with a scheme of the web is that scheme and what stands behind it. -/
theorem exists_scheme_of_hasWebScheme {address : String} (web : hasWebScheme address = true) :
    ∃ scheme rest, (scheme = "http".toList ∨ scheme = "https".toList) ∧
      address.toList = scheme ++ "://".toList ++ rest := by
  simp only [hasWebScheme, Bool.or_eq_true, String.isPrefixOf, String.startsWith_string_iff] at web
  rcases web with ⟨rest, whole⟩ | ⟨rest, whole⟩
  · exact ⟨_, rest, .inl rfl, whole.symm⟩
  · exact ⟨_, rest, .inr rfl, whole.symm⟩

end Settings

end ServiceGroups
