import HttpKit.Settings

/-!
# Settings of an environment

The numbers of an environment are read first, the port before the times, and the first that cannot
be read is what the environment is refused for. What it is refused for tells whether it was the
port.
-/

namespace HttpKit.Settings

/-! ## Numbers in variables -/

theorem whole_error_ne {text : String} {e : NumeralError} (h : Numeral.whole text = .error e)
    (other : String) : e ≠ .notReal other := by
  rintro rfl
  simp only [Numeral.whole] at h
  repeat' split at h
  all_goals cases h

theorem real_error {text : String} {e : NumeralError} (h : Numeral.real text = .error e) :
    e = .notReal text := by
  rw [Numeral.real] at h
  split at h
  · cases h
  · cases h
    rfl

theorem number?_of_value? {α : Type} (read : String → Except NumeralError α) {env : Environment}
    {name text : String} (h : value? env name = some text) :
    number? read env name = (read text).map some := by
  rw [number?, h]

theorem number?_of_none {α : Type} (read : String → Except NumeralError α) {env : Environment}
    {name : String} (h : value? env name = none) : number? read env name = .ok none := by
  rw [number?, h]

theorem number?_error {α : Type} {read : String → Except NumeralError α} {env : Environment}
    {name : String} {e : NumeralError} (h : number? read env name = .error e) :
    ∃ text, read text = .error e := by
  cases hvalue : value? env name with
  | none =>
    rw [number?_of_none read hvalue] at h
    cases h
  | some text =>
    rw [number?_of_value? read hvalue] at h
    refine ⟨text, ?_⟩
    cases hread : read text with
    | error e' =>
      rw [hread] at h
      cases h
      rfl
    | ok a =>
      rw [hread] at h
      cases h

/-! ## Settings from numbers -/

/-- The port of an environment, if it is set. -/
def portOf (env : Environment) : Except NumeralError (Option Int) :=
  number? Numeral.whole env "PORT"

/-- The times of an environment that are set: how long a reader may wait, and how long a stop. -/
def timesOf (env : Environment) : Except NumeralError (Option Float × Option Float) := do
  let timeout ← number? Numeral.real env "TIMEOUT"
  let shutdownTimeout ← number? Numeral.real env "SHUTDOWN_TIMEOUT"
  return (timeout, shutdownTimeout)

/-- The settings of an environment with its numbers. -/
def withNumbers (env : Environment) (port : Option Int) (times : Option Float × Option Float) :
    Settings where
  host := ((value? env "HOST").map .value).getD default.host
  port := (port.map .value).getD default.port
  backlog := default.backlog
  timeout := times.1
  shutdownTimeout := times.2.getD default.shutdownTimeout
  logLevel := ((value? env "LOG_LEVEL").map fun name => .value (Text.upper name)).getD
    default.logLevel
  logFormat := ((value? env "LOG_FORMAT").map .value).getD default.logFormat
  certificate := (value? env "TLS_CERTFILE").map .value
  key := (value? env "TLS_KEYFILE").map .value

theorem ofEnvironment_eq (env : Environment) :
    ofEnvironment env = (portOf env).bind fun port => (timesOf env).map (withNumbers env port) := by
  rw [ofEnvironment, portOf, timesOf]
  cases number? Numeral.whole env "PORT" with
  | error e => rfl
  | ok port =>
    cases number? Numeral.real env "TIMEOUT" with
    | error e => rfl
    | ok timeout => cases number? Numeral.real env "SHUTDOWN_TIMEOUT" <;> rfl

theorem timesOf_eq_ok_iff {env : Environment} {times : Option Float × Option Float} :
    timesOf env = .ok times ↔ number? Numeral.real env "TIMEOUT" = .ok times.1
      ∧ number? Numeral.real env "SHUTDOWN_TIMEOUT" = .ok times.2 := by
  rw [timesOf]
  cases number? Numeral.real env "TIMEOUT" with
  | error e => exact ⟨nofun, nofun⟩
  | ok timeout =>
    cases number? Numeral.real env "SHUTDOWN_TIMEOUT" with
    | error e => exact ⟨nofun, nofun⟩
    | ok shutdownTimeout =>
      obtain ⟨timeout', shutdownTimeout'⟩ := times
      simp [bind, Except.bind, pure, Except.pure]

theorem timesOf_error {env : Environment} {e : NumeralError} (h : timesOf env = .error e) :
    ∃ text, e = .notReal text := by
  have hreal {name : String} (h : number? Numeral.real env name = .error e) :
      ∃ text, e = .notReal text := by
    obtain ⟨text, htext⟩ := number?_error h
    exact ⟨text, real_error htext⟩
  rw [timesOf] at h
  cases htimeout : number? Numeral.real env "TIMEOUT" with
  | error e' =>
    rw [htimeout] at h
    cases h
    exact hreal htimeout
  | ok timeout =>
    rw [htimeout] at h
    cases hshutdown : number? Numeral.real env "SHUTDOWN_TIMEOUT" with
    | error e' =>
      rw [hshutdown] at h
      cases h
      exact hreal hshutdown
    | ok shutdownTimeout =>
      rw [hshutdown] at h
      cases h

/-- **An environment is refused for its port, else for its times, else for nothing.** -/
theorem ofEnvironment_cases (env : Environment) :
    (∃ e, portOf env = .error e ∧ ofEnvironment env = .error e)
      ∨ (∃ port e, portOf env = .ok port ∧ timesOf env = .error e ∧ ofEnvironment env = .error e)
      ∨ ∃ port times, portOf env = .ok port ∧ timesOf env = .ok times
        ∧ ofEnvironment env = .ok (withNumbers env port times) := by
  rw [ofEnvironment_eq]
  cases portOf env with
  | error e => exact .inl ⟨e, rfl, rfl⟩
  | ok port =>
    refine .inr ?_
    cases timesOf env with
    | error e => exact .inl ⟨port, e, rfl, rfl, rfl⟩
    | ok times => exact .inr ⟨port, times, rfl, rfl, rfl⟩

theorem ofEnvironment_of_portOf {env : Environment} {e : NumeralError} (h : portOf env = .error e) :
    ofEnvironment env = .error e := by
  rw [ofEnvironment_eq, h]
  rfl

/-- An environment with a port that can be read is refused for what is no number. -/
theorem ofEnvironment_error {env : Environment} {e : NumeralError}
    (h : ofEnvironment env = .error e) : portOf env = .error e ∨ ∃ text, e = .notReal text := by
  obtain ⟨e', hport, herror⟩ | ⟨port, e', -, htimes, herror⟩ | ⟨port, times, -, -, hok⟩ :=
    ofEnvironment_cases env
  · obtain rfl := Except.error.inj (h.symm.trans herror)
    exact .inl hport
  · obtain rfl := Except.error.inj (h.symm.trans herror)
    exact .inr (timesOf_error htimes)
  · rw [hok] at h
    cases h

/-- The times of the settings are those of the environment, or as usual. -/
theorem times_of_ofEnvironment {env : Environment} {base : Settings}
    (h : ofEnvironment env = .ok base) : ∃ times, timesOf env = .ok times
      ∧ base.timeout = times.1
      ∧ base.shutdownTimeout = times.2.getD default.shutdownTimeout := by
  obtain ⟨e, -, herror⟩ | ⟨port, e, -, -, herror⟩ | ⟨port, times, -, htimes, hok⟩ :=
    ofEnvironment_cases env
  · rw [herror] at h
    cases h
  · rw [herror] at h
    cases h
  · obtain rfl := Except.ok.inj (h.symm.trans hok)
    exact ⟨times, htimes, rfl, rfl⟩

end HttpKit.Settings
