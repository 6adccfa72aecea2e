import RecordGate.Gate.Configured
import RecordGate.Session

/-!
# Refused configurations

A configuration is refused a gate if one of its entries is no host. By then its log level is in force, and it
stays so; of the session nothing else has changed (`Session.refused_changes_level_only`).
-/

namespace RecordGate
set_option autoImplicit false

namespace Gate

variable {σ : Type} (env : Surroundings σ) {config : Config} (s : σ)

theorem ofConfig_of_refused {problem : ConfigProblem} (refused : config.seedHosts = .error problem) :
    ofConfig env config s = (.error (.config problem), (env.setLogLevel config.logLevel s).2) := by
  unfold ofConfig
  rw [refused]
  rfl

/-- To hosts there is a gate, whether they can be reached or not. -/
theorem ofConfig_of_accepted {hosts : List Host} (accepted : config.seedHosts = .ok hosts) :
    ofConfig env config s = (connect env hosts (env.setLogLevel config.logLevel s).2).map .ok id := by
  unfold ofConfig
  rw [accepted]
  rfl

end Gate

namespace Session

/-- What a gate of the session works with that connects in any way. -/
def connecting (connect : List Host → StateM Session (Reply Unit)) : Surroundings Session :=
  { surroundings [] with connect }

/-- **A refused configuration changes the log level, and nothing else.** It is refused exactly if one of its
entries is no host, for the first such entry. The session is then as before but for the threshold of its log,
which is the level of the configuration; so it is as before only if that was in force. -/
theorem refused_changes_level_only (connect : List Host → StateM Session (Reply Unit)) (config : Config)
    (s : Session) (e : GateError) :
    (Gate.ofConfig (connecting connect) config s).1 = .error e ↔
      ∃ problem, e = .config problem ∧ config.seedHosts = .error problem ∧
        (Gate.ofConfig (connecting connect) config s).2 =
          { s with log := { s.log with level := config.logLevel } } ∧
        ((Gate.ofConfig (connecting connect) config s).2 = s ↔ s.log.level = config.logLevel) := by
  cases seeds : config.seedHosts with
  | ok hosts =>
    rw [Gate.ofConfig_of_accepted _ s seeds]
    simp
  | error problem =>
    rw [Gate.ofConfig_of_refused _ s seeds]
    have left : ((connecting connect).setLogLevel config.logLevel s).2 =
        { s with log := { s.log with level := config.logLevel } } := rfl
    rw [left]
    constructor
    · intro refused
      refine ⟨problem, (Except.error.inj refused).symm, rfl, rfl, ?_⟩
      constructor
      · intro same
        rw [← same]
      · intro level
        rw [← level]
    · rintro ⟨_, rfl, same, -⟩
      cases same
      rfl

/-- A configuration is refused for its port text and still sets the threshold. -/
theorem refused_changes_level :
    let config : Config := { hosts := ["a:b"], logLevel := .debug }
    let s : Session := { cluster := .ofSize 1 1000, clock := 0, seeds := [] }
    let made := Gate.ofConfig (surroundings []) config s
    made.1 = .error (.config (.invalidPort "a:b")) ∧ s.log.level = .info ∧ made.2.log.level = .debug := by
  have refused : Config.seedHosts { hosts := ["a:b"], logLevel := .debug } = .error (.invalidPort "a:b") := by
    rfl
  dsimp only
  rw [Gate.ofConfig_of_refused _ _ refused]
  exact ⟨rfl, rfl, rfl⟩

end Session

end RecordGate
