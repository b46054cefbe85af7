import HttpKit.CommandLine
import HttpKit.Proofs.Numeral.Real
import HttpKit.Proofs.Settings.Environment
import HttpKit.Server.State

/-!
# Settings that are valid

Settings are valid if they are as they are documented (`Documented`), with one exception: times are
refused when they are too small, and a time that is no number is not too small. Times come from the
environment alone, so the exception is told from its variables.

## How the argument goes

* the checks are made in order and the first that fails is reported (`validate_eq`). Settings are
  valid if none of them finds a fault, and each finds none in what is documented
  (`forall_faults_iff`)
* what is no number is on neither side of zero, so it is what the documentation leaves out and the
  checks let through (`documented_iff`)
* a time of an environment is no number if its variable names none (`times_isNaN_iff`)
-/

namespace HttpKit.Settings

/-! ## The checks in their order -/

/-- What is wrong with a port, if anything is. -/
def portFault? : Setting Int → Option InvalidSetting
  | .blank => some .noPort
  | .value port => if 0 ≤ port ∧ port < 65536 then none else some (.port port)

/-- What is wrong with the format of the access log, if anything is. -/
def formatFault? (s : Settings) : Option InvalidSetting :=
  match s.lineFormat with
  | .error e => some (.logFormat e)
  | .ok _ => none

/-- What each check finds wrong with settings. -/
def faults (s : Settings) : List (Option InvalidSetting) :=
  [portFault? s.port,
    if s.backlog < 1 then some .backlog else none,
    if s.timeout.any (· ≤ 0) then some .timeout else none,
    if s.shutdownTimeout < 0 then some .shutdownTimeout else none,
    s.formatFault?,
    if (fileName? s.certificate).isSome ≠ (fileName? s.key).isSome then some .halfOfPair else none]

/-- **Settings are refused for the first check that they fail.** -/
theorem validate_eq (s : Settings) :
    s.validate = (s.faults.findSome? id).elim (.ok ()) .error := by
  rw [validate, faults, formatFault?]
  cases s.port with
  | blank => rfl
  | value port =>
    dsimp only [portFault?]
    split
    · split
      · rfl
      · split
        · rfl
        · split
          · rfl
          · cases s.lineFormat with
            | error e => rfl
            | ok format =>
              dsimp only
              split <;> rfl
    · rfl

/-- Settings as they are documented, except that times may be `exempt` from being positive. -/
structure Sound (exempt : Float → Prop) (s : Settings) : Prop where
  port : ∃ port, s.port = .value port ∧ 0 ≤ port ∧ port < 65536
  backlog : 1 ≤ s.backlog
  timeout : ∀ t, s.timeout = some t → 0 < t ∨ exempt t
  shutdownTimeout : 0 ≤ s.shutdownTimeout ∨ exempt s.shutdownTimeout
  logFormat : s.logFormat = .value "text" ∨ s.logFormat = .value "json"
  pair : fileName? s.certificate = none ↔ fileName? s.key = none

/-- Settings as they are documented. -/
def Documented (s : Settings) : Prop := s.Sound fun _ => False

theorem exists_lineFormat_iff (s : Settings) : (∃ format, s.lineFormat = .ok format)
    ↔ s.logFormat = .value "text" ∨ s.logFormat = .value "json" := by
  rw [lineFormat]
  cases s.logFormat with
  | blank => simp [Setting.toJson, LineFormat.ofDatum]
  | value name =>
    simp only [Setting.toJson, LineFormat.ofDatum, LineFormat.ofName?, Setting.value.injEq]
    split
    · next format hname =>
      split at hname <;> simp_all
    · next hname =>
      split at hname <;> simp_all

theorem portFault?_eq_none_iff (setting : Setting Int) :
    portFault? setting = none ↔ ∃ port, setting = .value port ∧ 0 ≤ port ∧ port < 65536 := by
  cases setting <;> simp [portFault?]

theorem formatFault?_eq_none_iff (s : Settings) :
    s.formatFault? = none ↔ s.logFormat = .value "text" ∨ s.logFormat = .value "json" := by
  rw [← exists_lineFormat_iff, formatFault?]
  cases s.lineFormat <;> simp

/-- Settings without a fault are sound, each check for itself. -/
theorem forall_faults_iff (s : Settings) :
    (∀ fault ∈ s.faults, fault = none) ↔ s.Sound (·.isNaN = true) := by
  have hnone {p : Prop} [Decidable p] {e : InvalidSetting} :
      (if p then some e else none) = none ↔ ¬p := by
    simp
  have htimeout : ¬s.timeout.any (· ≤ 0) = true
      ↔ ∀ t, s.timeout = some t → 0 < t ∨ t.isNaN = true := by
    cases s.timeout with
    | none => simp
    | some t => simp [Numeral.not_le_zero_iff]
  have hpair : ¬(fileName? s.certificate).isSome ≠ (fileName? s.key).isSome
      ↔ (fileName? s.certificate = none ↔ fileName? s.key = none) := by
    cases fileName? s.certificate <;> cases fileName? s.key <;> simp
  simp only [faults, List.forall_mem_cons, hnone, portFault?_eq_none_iff, htimeout,
    Numeral.not_lt_zero_iff, formatFault?_eq_none_iff, hpair, Int.not_lt]
  constructor
  · rintro ⟨hport, hbacklog, htimeout, hshutdown, hformat, hpair, -⟩
    exact ⟨hport, hbacklog, htimeout, hshutdown, hformat, hpair⟩
  · rintro ⟨hport, hbacklog, htimeout, hshutdown, hformat, hpair⟩
    exact ⟨hport, hbacklog, htimeout, hshutdown, hformat, hpair, nofun⟩

/-- **Settings are valid as documented, except that a time may be no number.** -/
theorem validate_eq_ok_iff (s : Settings) :
    s.validate = .ok () ↔ s.Sound (·.isNaN = true) := by
  have hfind : s.faults.findSome? id = none ↔ ∀ fault ∈ s.faults, fault = none :=
    List.findSome?_eq_none_iff
  rw [validate_eq, ← forall_faults_iff, ← hfind]
  cases s.faults.findSome? id <;> simp

/-- Settings are as documented if they are valid and their times are numbers. -/
theorem documented_iff (s : Settings) : s.Documented ↔ s.validate = .ok ()
    ∧ (¬∃ t, s.timeout = some t ∧ t.isNaN = true) ∧ ¬s.shutdownTimeout.isNaN = true := by
  rw [validate_eq_ok_iff]
  constructor
  · intro h
    refine ⟨⟨h.port, h.backlog, fun t ht => .inl ?_, .inl ?_, h.logFormat, h.pair⟩, ?_, ?_⟩
    · exact (h.timeout t ht).resolve_right not_false
    · exact h.shutdownTimeout.resolve_right not_false
    · rintro ⟨t, ht, hnan⟩
      exact (Numeral.not_above_of_isNaN hnan).1 ((h.timeout t ht).resolve_right not_false)
    · intro hnan
      exact (Numeral.not_above_of_isNaN hnan).2 (h.shutdownTimeout.resolve_right not_false)
  · rintro ⟨h, htimeout, hshutdown⟩
    refine ⟨h.port, h.backlog, fun t ht => ?_, ?_, h.logFormat, h.pair⟩
    · exact (h.timeout t ht).imp_right fun hnan => htimeout ⟨t, ht, hnan⟩
    · exact h.shutdownTimeout.imp_right hshutdown

/-! ## Times that are no number -/

/-- Whether a variable names no number. -/
def NamesNan (env : Environment) (name : String) : Prop :=
  ∃ text, value? env name = some text ∧ Numeral.IsNan text

theorem isNaN_of_number? {env : Environment} {name : String} {x? : Option Float}
    (h : number? Numeral.real env name = .ok x?) :
    (∃ x, x? = some x ∧ x.isNaN = true) ↔ NamesNan env name := by
  rw [NamesNan]
  cases hvalue : value? env name with
  | none =>
    rw [number?_of_none _ hvalue] at h
    obtain rfl := Except.ok.inj h
    simp
  | some text =>
    rw [number?_of_value? _ hvalue] at h
    cases hread : Numeral.real text with
    | error e =>
      rw [hread] at h
      cases h
    | ok x =>
      rw [hread] at h
      obtain rfl := Except.ok.inj h
      simpa using Numeral.isNaN_iff_of_real hread

/-- **The times of an environment are no number exactly if their variables name none.** -/
theorem times_isNaN_iff {env : Environment} {base : Settings} (h : ofEnvironment env = .ok base) :
    ((∃ t, base.timeout = some t ∧ t.isNaN = true) ↔ NamesNan env "TIMEOUT")
      ∧ (base.shutdownTimeout.isNaN = true ↔ NamesNan env "SHUTDOWN_TIMEOUT") := by
  obtain ⟨times, htimes, htimeout, hshutdown⟩ := times_of_ofEnvironment h
  obtain ⟨hfirst, hsecond⟩ := timesOf_eq_ok_iff.mp htimes
  rw [htimeout, hshutdown, ← isNaN_of_number? hfirst, ← isNaN_of_number? hsecond]
  refine ⟨Iff.rfl, ?_⟩
  cases times.2 with
  | none =>
    have hdefault : default.shutdownTimeout.isNaN = false := by decide
    rw [Option.getD_none, hdefault]
    exact ⟨nofun, fun ⟨_, h, _⟩ => nomatch h⟩
  | some seconds => simp

/-- **Settings of an environment under options are valid as documented, but for times that name no
number.** They are as documented exactly if they are valid and neither variable of a time names no
number. Valid they are if they are as documented, a time that is no number aside, and a server has
no other settings than valid ones. -/
theorem documented_iff_validated {ω : Type} {env : Environment} {base : Settings}
    (h : ofEnvironment env = .ok base) (o : CommandLine.Options) :
    ((o.overlay base).Documented ↔ (o.overlay base).validate = .ok ()
        ∧ ¬NamesNan env "TIMEOUT" ∧ ¬NamesNan env "SHUTDOWN_TIMEOUT")
      ∧ ((o.overlay base).validate = .ok () ↔ (o.overlay base).Sound (·.isNaN = true))
      ∧ ∀ handler executor (server : Server ω),
          Server.new (o.overlay base) handler executor = .ok server →
          server.settings = o.overlay base ∧ server.settings.Sound (·.isNaN = true) := by
  refine ⟨?_, validate_eq_ok_iff _, fun handler executor server hnew => ?_⟩
  · rw [documented_iff]
    have htimeout : (o.overlay base).timeout = base.timeout := rfl
    have hshutdown : (o.overlay base).shutdownTimeout = base.shutdownTimeout := rfl
    rw [htimeout, hshutdown, (times_isNaN_iff h).1, (times_isNaN_iff h).2]
  · rw [Server.new] at hnew
    cases hvalid : (o.overlay base).validate with
    | error e =>
      rw [hvalid] at hnew
      cases hnew
    | ok _ =>
      rw [hvalid] at hnew
      cases hnew
      exact ⟨rfl, (validate_eq_ok_iff _).mp hvalid⟩

/-- A timeout that is a number, with the port set by an option. -/
theorem documented_iff_validated_timeout :
    ofEnvironment [(fullName "TIMEOUT", "2.5"), (fullName "LOG_FORMAT", "json")]
        = .ok { default with timeout := some 2.5, logFormat := .value "json" }
      ∧ (CommandLine.Options.overlay { CommandLine.Options.none with port := some (.value 0) }
        { default with timeout := some 2.5, logFormat := .value "json" }).Documented := by
  have h : ofEnvironment [(fullName "TIMEOUT", "2.5"), (fullName "LOG_FORMAT", "json")]
      = .ok { default with timeout := some 2.5, logFormat := .value "json" } := rfl
  refine ⟨h, ((documented_iff_validated (ω := Unit) h _).1).mpr ⟨?_, ?_, ?_⟩⟩
  · exact (validate_eq_ok_iff _).mpr {
      port := ⟨0, rfl, by decide⟩
      backlog := by decide
      timeout := fun t ht => .inl (Option.some.inj ht ▸ by decide)
      shutdownTimeout := .inl (by decide)
      logFormat := .inr rfl
      pair := Iff.rfl }
  · rw [← (times_isNaN_iff h).1]
    rintro ⟨t, ht, hnan⟩
    rw [← Option.some.inj ht] at hnan
    exact absurd hnan (by decide)
  · rw [← (times_isNaN_iff h).2]
    decide

/-- **Times that are no number are let through.** -/
theorem validate_nan :
    ofEnvironment [(fullName "TIMEOUT", "nan"), (fullName "SHUTDOWN_TIMEOUT", " NaN ")]
        = .ok { default with timeout := some (0.0 / 0.0), shutdownTimeout := 0.0 / 0.0 }
      ∧ validate { default with timeout := some (0.0 / 0.0), shutdownTimeout := 0.0 / 0.0 }
        = .ok ()
      ∧ ¬(0 : Float) < 0.0 / 0.0 ∧ ¬(0 : Float) ≤ 0.0 / 0.0 := by
  refine ⟨rfl, (validate_eq_ok_iff _).mpr ?_, by decide, by decide⟩
  exact {
    port := ⟨8080, rfl, by decide⟩
    backlog := by decide
    timeout := fun t ht => .inr (Option.some.inj ht ▸ by decide)
    shutdownTimeout := .inr (by decide)
    logFormat := .inl rfl
    pair := Iff.rfl }

end HttpKit.Settings
