import HttpKit.Program
import HttpKit.Proofs.Settings.Environment
import Mathlib.Data.List.Basic

/-!
# Options and the variables that they hide

An option stands for a variable of the environment and takes its place. What the program does is
compared between two environments that differ only in variables whose option is set
(`Options.AgreeBeside`): it is the same, but for one variable that is read as a number before
options are laid over it, the port.

## How the argument goes

* which options are set is read off the words (`sets_of_parse`), by induction on the words as the
  command line takes them
* where a setting is not taken from an option its variable is not hidden, so that both environments
  give it the same value (`sameBeneath_withNumbers`). The fields of the settings are gone through
  one by one, the overlay as a whole follows (`overlay_congr`)
* what is done depends on the environment through the settings that are left in the end alone
  (`settings_eq`), and a refusal for a number tells which variable it was
  (`Settings.ofEnvironment_error`), so that the exception is exact (`launch_eq_iff`)
-/

namespace HttpKit

namespace CommandLine

/-! ## What a command line sets -/

/-- Whether an option is set. -/
def Options.sets (o : Options) : Switch → Bool
  | .host => o.host.isSome
  | .port => o.port.isSome
  | .logLevel => o.logLevel.isSome
  | .accessLog => o.accessLog.isSome
  | .certificate => o.certificate.isSome
  | .key => o.key.isSome
  | .help | .version => false

/-- The switch that a word gives a value to, its own or the next word. -/
def Word.target? : Word → Option Switch
  | .use u =>
    match unfold u.switch u.isLetter u.attached with
    | .ok (_, .value switch _) => some switch
    | .ok (_, .awaiting switch) => some switch
    | _ => none
  | _ => none

theorem sets_none (s : Switch) : Options.none.sets s = false := by
  cases s <;> rfl

theorem sets_clear (o : Options) (switch s : Switch) :
    (o.clear switch).sets s = true ↔ o.sets s = true ∨ s.takesValue = true ∧ switch = s := by
  cases switch <;> cases s <;> simp [Options.clear, Options.sets, Switch.takesValue]

theorem sets_of_set {o o' : Options} {switch : Switch} {text : String}
    (h : o.set switch text = .ok o') (s : Switch) :
    o'.sets s = true ↔ o.sets s = true ∨ s.takesValue = true ∧ switch = s := by
  -- A value and nothing at all set the same switch.
  have hset : o'.sets s = (o.clear switch).sets s := by
    cases switch <;> simp only [Options.set] at h <;> (try split at h) <;> cases h
    all_goals cases s <;> rfl
  rw [hset, sets_clear]

/-- **Giving a switch a value sets this one and no other.** -/
theorem sets_of_assign {o o' : Options} {switch : Switch} {text : String}
    (h : o.assign switch text = .ok o') (s : Switch) :
    o'.sets s = true ↔ o.sets s = true ∨ s.takesValue = true ∧ switch = s := by
  rw [Options.assign] at h
  split at h
  · cases h
    exact sets_clear o switch s
  · exact sets_of_set h s

/-- A switch and the next word as its value. -/
theorem take_awaiting {o o' : Options} {switch : Switch} {text : String} {extra : List String}
    {isLetter : Bool} {rest : List Word} (hvalue : switch.takesValue = true)
    (h : o.assign switch text = .ok o') :
    take o extra (.use ⟨switch, isLetter, none⟩ :: .value text :: rest) = take o' extra rest := by
  have hunfold : unfold switch isLetter none = .ok ([], .awaiting switch) := by
    rw [unfold, hvalue]
    rfl
  rw [take]
  dsimp only
  rw [hunfold]
  dsimp only
  rw [h]
  rfl

/-- A switch without a value runs nothing. -/
theorem findSome?_commandOf?_ne (switches : List Switch) (o : Options) :
    switches.findSome? commandOf? ≠ some (.run o) := by
  intro h
  obtain ⟨switch, -, hcommand⟩ := List.exists_of_findSome?_eq_some h
  cases switch <;> cases hcommand

/-- **What is set is what was set before or is named by a word.** Of several letters in a word only
the last takes a value, and a switch without a value before it would end the program. -/
theorem sets_of_take {o o' : Options} {extra : List String} {words : List Word}
    (h : take o extra words = .ok (.run o')) (s : Switch) :
    o'.sets s = true
      ↔ o.sets s = true ∨ s.takesValue = true ∧ ∃ word ∈ words, word.target? = some s := by
  fun_induction take o extra words with
  | case1 o =>
    cases h
    simp
  | case2 => cases h
  | case3 o extra text rest ih | case4 o extra rest ih | case5 o extra text rest ih =>
    simpa [Word.target?] using ih h
  | case7 _ _ _ switches _ _ _ _ command hcommand
  | case11 _ _ _ switches _ _ _ _ command hcommand
  | case14 _ _ _ switches _ _ command hcommand =>
    cases h
    exact absurd hcommand (findSome?_commandOf?_ne switches o')
  | case8 o extra u switches _ switch text rest o₁ hassign _ hunfold ih
  | case12 o extra u switches _ switch text rest o₁ hassign _ hunfold ih =>
    rw [ih h, sets_of_assign hassign]
    simp only [List.mem_cons, exists_eq_or_imp, Word.target?, hunfold, Option.some.injEq,
      reduceCtorEq, false_or, and_or_left, or_assoc]
  | case15 o extra u switches _ rest _ hunfold ih =>
    rw [ih h]
    simp only [List.mem_cons, exists_eq_or_imp, Word.target?, hunfold, reduceCtorEq, false_or]
  | case6 | case9 | case10 | case13 => cases h

/-- **An option is set by the words that give its switch a value.** -/
theorem sets_of_parse {words : List String} {o : Options} (h : parse words = .ok (.run o))
    (s : Switch) : o.sets s = true ↔ s.takesValue = true
      ∧ ∃ read, Word.ofStrings words = .ok read ∧ ∃ word ∈ read, word.target? = some s := by
  rw [parse] at h
  cases hread : Word.ofStrings words with
  | error e =>
    rw [hread] at h
    cases h
  | ok read =>
    rw [hread] at h
    rw [sets_of_take h s, sets_none]
    simp

/-! ## What options hide -/

/-- The variable of a switch, without what all names of variables begin with. -/
def Switch.variable? : Switch → Option String
  | .host => some "HOST"
  | .port => some "PORT"
  | .logLevel => some "LOG_LEVEL"
  | .accessLog => some "LOG_FORMAT"
  | .certificate => some "TLS_CERTFILE"
  | .key => some "TLS_KEYFILE"
  | .help | .version => none

/-- Whether options hide a variable: its option is set, and not to an access log that is off, which
says nothing about the format. -/
def Options.Hides (o : Options) (name : String) : Prop :=
  ∃ s : Switch, s.variable? = some name ∧ o.sets s = true ∧ (s = .accessLog → o.isSilent = false)

/-- Whether two environments are the same but for variables that options hide. -/
def Options.AgreeBeside (o : Options) (env env' : Settings.Environment) : Prop :=
  ∀ name, ¬o.Hides name →
    Assoc.get? (Settings.fullName name) env = Assoc.get? (Settings.fullName name) env'

/-- No two switches have one variable. -/
theorem variable?_inj {s s' : Switch} {name : String} (h : s.variable? = some name)
    (h' : s'.variable? = some name) : s = s' := by
  have heq := h.trans h'.symm
  cases s <;> cases s' <;> first | rfl | exact absurd heq (by decide) | cases h

/-- What is not taken from an option is not hidden by it. -/
theorem not_hides {o : Options} {s : Switch} {name : String} (hs : s.variable? = some name)
    (h : o.sets s = false ∨ s = .accessLog ∧ o.isSilent = true) : ¬o.Hides name := by
  rintro ⟨s', hs', hset, hloud⟩
  obtain rfl := variable?_inj hs hs'
  rcases h with hnone | ⟨hlog, hsilent⟩
  · exact Bool.false_ne_true (hnone.symm.trans hset)
  · exact Bool.false_ne_true ((hloud hlog).symm.trans hsilent)

/-- A variable without a switch is not hidden. -/
theorem not_hides_of_forall {o : Options} {name : String}
    (h : ∀ s : Switch, s.variable? ≠ some name) : ¬o.Hides name := by
  rintro ⟨s, hs, -⟩
  exact h s hs

/-- Whether settings are the same but for what options are laid over. -/
structure Options.SameBeneath (o : Options) (s s' : Settings) : Prop where
  host : o.host = .none → s.host = s'.host
  port : o.port = .none → s.port = s'.port
  backlog : s.backlog = s'.backlog
  timeout : s.timeout = s'.timeout
  shutdownTimeout : s.shutdownTimeout = s'.shutdownTimeout
  logLevel : o.logLevel = .none → s.logLevel = s'.logLevel
  logFormat : o.accessLog = .none ∨ o.isSilent = true → s.logFormat = s'.logFormat
  certificate : o.certificate = .none → s.certificate = s'.certificate
  key : o.key = .none → s.key = s'.key

/-- **Settings that are the same beneath options are the same under them.** -/
theorem overlay_congr {o : Options} {s s' : Settings} (h : o.SameBeneath s s') :
    o.overlay s = o.overlay s' := by
  have hover {α : Type} {given : Option α} {a a' : α} (hsame : given = .none → a = a') :
      given.getD a = given.getD a' := by
    cases given with
    | none => exact hsame rfl
    | some _ => rfl
  have horElse {α : Type} {given : Option α} {a a' : Option α} (hsame : given = .none → a = a') :
      (given <|> a) = (given <|> a') := by
    cases given with
    | none => exact hsame rfl
    | some _ => rfl
  have hformat : (o.overlay s).logFormat = (o.overlay s').logFormat := by
    unfold Options.overlay
    rcases hlog : o.accessLog with _ | (_ | _) | _
    · exact h.logFormat (.inl hlog)
    · rfl
    · exact h.logFormat (.inr (by rw [Options.isSilent, hlog]))
    · rfl
  rw [Options.overlay, Options.overlay] at hformat ⊢
  rw [Settings.mk.injEq]
  exact ⟨hover h.host, hover h.port, h.backlog, h.timeout, h.shutdownTimeout, hover h.logLevel,
    hformat, horElse h.certificate, horElse h.key⟩

theorem Options.AgreeBeside.refl (o : Options) (env : Settings.Environment) :
    o.AgreeBeside env env :=
  fun _ _ => rfl

theorem Options.AgreeBeside.symm {o : Options} {env env' : Settings.Environment}
    (h : o.AgreeBeside env env') : o.AgreeBeside env' env :=
  fun name hname => (h name hname).symm

/-- A hidden variable may hold anything. -/
theorem Options.AgreeBeside.cons {o : Options} {env env' : Settings.Environment}
    {name value : String} (hname : o.Hides name) (h : o.AgreeBeside env env') :
    o.AgreeBeside ((Settings.fullName name, value) :: env) env' := by
  intro other hother
  have hne : Settings.fullName name ≠ Settings.fullName other := by
    intro heq
    exact hother (String.append_right_inj _ |>.mp heq ▸ hname)
  rw [← h other hother]
  simp [Assoc.get?, hne]

end CommandLine

/-! ## Environments beneath options -/

namespace Settings

open CommandLine (Options Switch not_hides not_hides_of_forall overlay_congr)

section Agreement

variable {o : Options} {env env' : Environment} {name : String}

theorem value?_congr (h : o.AgreeBeside env env') (hname : ¬o.Hides name) :
    value? env name = value? env' name := by
  rw [value?, value?, h name hname]

theorem number?_congr {α : Type} (read : String → Except NumeralError α)
    (h : o.AgreeBeside env env') (hname : ¬o.Hides name) :
    number? read env name = number? read env' name := by
  rw [number?, number?, value?_congr h hname]

/-- A port that is not hidden is the same. -/
theorem portOf_congr (h : o.AgreeBeside env env') (hport : o.port = .none) :
    portOf env = portOf env' :=
  number?_congr Numeral.whole h (not_hides (s := .port) rfl (.inl (congrArg Option.isSome hport)))

/-- Times are not hidden. -/
theorem timesOf_congr (h : o.AgreeBeside env env') : timesOf env = timesOf env' := by
  have hnumber (name : String) (hname : ∀ s : Switch, s.variable? ≠ some name) :
      number? Numeral.real env name = number? Numeral.real env' name :=
    number?_congr Numeral.real h (not_hides_of_forall hname)
  rw [timesOf, timesOf, hnumber "TIMEOUT" (by rintro (_ | _) <;> decide),
    hnumber "SHUTDOWN_TIMEOUT" (by rintro (_ | _) <;> decide)]

/-- Settings with the same times are the same beneath options, if their ports are where no option
sets one. -/
theorem sameBeneath_withNumbers (h : o.AgreeBeside env env') {port port' : Option Int}
    (hport : o.port = .none → port = port') (times : Option Float × Option Float) :
    o.SameBeneath (withNumbers env port times) (withNumbers env' port' times) := by
  have hvalue {name : String} (s : Switch) (hs : s.variable? = some name)
      (hset : o.sets s = false ∨ s = .accessLog ∧ o.isSilent = true) :
      value? env name = value? env' name :=
    value?_congr h (not_hides hs hset)
  refine {
    host := fun hnone => ?_
    port := fun hnone => ?_
    backlog := rfl
    timeout := rfl
    shutdownTimeout := rfl
    logLevel := fun hnone => ?_
    logFormat := fun hnone => ?_
    certificate := fun hnone => ?_
    key := fun hnone => ?_ }
  · rw [withNumbers, hvalue .host rfl (.inl (congrArg Option.isSome hnone)), withNumbers]
  · rw [hport hnone, withNumbers, withNumbers]
  · rw [withNumbers, hvalue .logLevel rfl (.inl (congrArg Option.isSome hnone)), withNumbers]
  · rw [withNumbers, hvalue .accessLog rfl (hnone.imp (congrArg Option.isSome) (⟨rfl, ·⟩)),
      withNumbers]
  · rw [withNumbers, hvalue .certificate rfl (.inl (congrArg Option.isSome hnone)), withNumbers]
  · rw [withNumbers, hvalue .key rfl (.inl (congrArg Option.isSome hnone)), withNumbers]

/-- **Environments that agree beside options are the same under them**, once their ports are
read. -/
theorem map_overlay_congr (h : o.AgreeBeside env env') {port port' : Option Int}
    (hport : portOf env = .ok port) (hport' : portOf env' = .ok port') :
    (ofEnvironment env).map o.overlay = (ofEnvironment env').map o.overlay := by
  have hsame : o.port = .none → port = port' := fun hnone =>
    Except.ok.inj (hport.symm.trans ((portOf_congr h hnone).trans hport'))
  rw [ofEnvironment_eq, ofEnvironment_eq, hport, hport', timesOf_congr h]
  cases timesOf env' with
  | error e => rfl
  | ok times => exact congrArg Except.ok (overlay_congr (sameBeneath_withNumbers h hsame times))

end Agreement

end Settings

/-! ## The program -/

namespace Program

open CommandLine

variable {o : Options} {env env' : Settings.Environment}

/-- The check that settings pass before a server is run with them. -/
def checked (s : Settings) : Except SettingError Settings :=
  (s.validate.mapError .invalid).map fun _ => s

/-- The environment is read in full, then options are laid over it, then the whole is checked. -/
theorem settings_eq (o : Options) (env : Settings.Environment) :
    settings o env
      = (((Settings.ofEnvironment env).map o.overlay).mapError .number).bind checked := by
  rw [settings]
  cases Settings.ofEnvironment env with
  | error e => rfl
  | ok base =>
    change (do (o.overlay base).validate.mapError .invalid; return o.overlay base)
      = checked (o.overlay base)
    rw [checked]
    cases (o.overlay base).validate <;> rfl

theorem checked_ne_number (s : Settings) (e : NumeralError) : checked s ≠ .error (.number e) := by
  rw [checked]
  cases s.validate <;> exact nofun

theorem settings_eq_number_error_iff {e : NumeralError} :
    settings o env = .error (.number e) ↔ Settings.ofEnvironment env = .error e := by
  rw [settings_eq]
  cases Settings.ofEnvironment env with
  | error e' =>
    constructor
    · rintro ⟨⟩
      rfl
    · rintro ⟨⟩
      rfl
  | ok base => exact ⟨fun h => absurd h (checked_ne_number _ e), nofun⟩

theorem launch_eq_refuse_iff {load : Loader} {e : NumeralError} :
    launch load o env = .refuse (.number e) ↔ settings o env = .error (.number e) := by
  rw [launch]
  constructor
  · intro h
    split at h
    · cases h
    · next hsettings =>
      cases h
      exact hsettings
    · repeat' split at h
      all_goals cases h
  · intro h
    rw [h]

/-- A port that is none is refused whether or not an option hides it. -/
theorem launch_of_portOf {load : Loader} {e : NumeralError} (h : Settings.portOf env = .error e) :
    launch load o env = .refuse (.number e) :=
  launch_eq_refuse_iff.mpr
    (settings_eq_number_error_iff.mpr (Settings.ofEnvironment_of_portOf h))

theorem portOf_of_launch {load : Loader} {e : NumeralError}
    (h : launch load o env = launch load o env') (hport : Settings.portOf env = .error e) :
    Settings.portOf env' = .error e := by
  rw [launch_of_portOf hport] at h
  have henv' := settings_eq_number_error_iff.mp (launch_eq_refuse_iff.mp h.symm)
  rcases Settings.ofEnvironment_error henv' with herror | ⟨text, rfl⟩
  · exact herror
  · obtain ⟨word, hword⟩ := Settings.number?_error hport
    exact absurd rfl (Settings.whole_error_ne hword text)

/-- **Options hide their variables but for a port that is none.** -/
theorem launch_eq_iff {load : Loader} (h : o.AgreeBeside env env') :
    launch load o env = launch load o env'
      ↔ ∀ e, Settings.portOf env = .error e ↔ Settings.portOf env' = .error e := by
  constructor
  · exact fun heq e => ⟨portOf_of_launch heq, portOf_of_launch heq.symm⟩
  · intro hport
    cases hp : Settings.portOf env with
    | error e => rw [launch_of_portOf hp, launch_of_portOf ((hport e).mp hp)]
    | ok port =>
      cases hp' : Settings.portOf env' with
      | error e =>
        rw [(hport e).mpr hp'] at hp
        cases hp
      | ok port' =>
        have hsettings : settings o env = settings o env' := by
          rw [settings_eq, settings_eq, Settings.map_overlay_congr h hp hp']
        rw [launch, launch, hsettings]

/-- **An option hides its variable, unless the variable is the port's and holds none.** Two
environments that are the same but for variables that the options hide make no difference to what
the program does, except that `MINIHTTP_PORT` is read before the options are looked at: where it
holds no whole number the program ends with what is said about it, also when the port is set by an
option. Options are set by the words that name their switch, in any of the ways to name it. -/
theorem hidden_variables (load : Loader) {words : List String}
    (h : ∀ o, parse words = .ok (.run o) → o.AgreeBeside env env') :
    (decide load words env = decide load words env'
        ↔ ∀ o, parse words = .ok (.run o) →
            ∀ e, Settings.portOf env = .error e ↔ Settings.portOf env' = .error e)
      ∧ (∀ o e, parse words = .ok (.run o) → Settings.portOf env = .error e →
          decide load words env = .refuse (.number e))
      ∧ ∀ o, parse words = .ok (.run o) → ∀ s, o.sets s = true ↔ s.takesValue = true
          ∧ ∃ read, Word.ofStrings words = .ok read ∧ ∃ word ∈ read, word.target? = some s := by
  refine ⟨?_, fun o e hparse hport => ?_, fun o hparse => sets_of_parse hparse⟩
  · rw [decide, decide]
    cases hparse : parse words with
    | error e => simp
    | ok command =>
      cases command with
      | help => simp
      | version => simp
      | run o =>
        rw [hparse] at h
        simpa using launch_eq_iff (h o rfl)
  · rw [decide, hparse]
    exact launch_of_portOf hport

/-- The port is set by an option and stands in the environment as two other numbers. -/
theorem hidden_variables_portAndHost :
    decide (loader ⟨fun _ => none, []⟩) ["--port", "3000", "-H", "::1"]
        [(Settings.fullName "PORT", "80"), (Settings.fullName "HOST", "a"),
          (Settings.fullName "TIMEOUT", "2.5")]
      = decide (loader ⟨fun _ => none, []⟩) ["--port", "3000", "-H", "::1"]
        [(Settings.fullName "PORT", " -1 "), (Settings.fullName "TIMEOUT", "2.5")] := by
  have hread : Word.ofStrings ["--port", "3000", "-H", "::1"] = .ok [.use ⟨.port, false, .none⟩,
      .value "3000", .use ⟨.host, true, .none⟩, .value "::1"] := rfl
  have hparse : parse ["--port", "3000", "-H", "::1"] = .ok (.run
      { Options.none with host := some (.value "::1"), port := some (.value 3000) }) := by
    rw [parse, hread]
    exact (take_awaiting rfl rfl).trans ((take_awaiting rfl rfl).trans rfl)
  refine ((hidden_variables _ fun o ho => ?_).1).mpr fun o _ e => ?_
  · have hgiven := Command.run.inj (Except.ok.inj (hparse.symm.trans ho))
    have hport : o.Hides "PORT" := ⟨.port, rfl, by rw [← hgiven]; rfl, nofun⟩
    have hhost : o.Hides "HOST" := ⟨.host, rfl, by rw [← hgiven]; rfl, nofun⟩
    exact .cons hport (.cons hhost (.symm (.cons hport (.refl _ _))))
  · have h80 : Settings.portOf [(Settings.fullName "PORT", "80"), (Settings.fullName "HOST", "a"),
        (Settings.fullName "TIMEOUT", "2.5")] = .ok (some 80) := by decide
    have hneg : Settings.portOf [(Settings.fullName "PORT", " -1 "),
        (Settings.fullName "TIMEOUT", "2.5")] = .ok (some (-1)) := by decide
    rw [h80, hneg]
    simp

/-- **A port in the environment that is none is not hidden by the option.** -/
theorem port_not_hidden :
    (∀ o, parse ["--port", "8080"] = .ok (.run o) →
        o.AgreeBeside [(Settings.fullName "PORT", "abc")] [])
      ∧ decide (loader ⟨fun _ => none, []⟩) ["--port", "8080"] [(Settings.fullName "PORT", "abc")]
        = .refuse (.number (.notWhole "abc"))
      ∧ (decide (loader ⟨fun _ => none, []⟩) ["--port", "8080"] []).exitCode? = none := by
  have hread : Word.ofStrings ["--port", "8080"] = .ok [.use ⟨.port, false, .none⟩,
      .value "8080"] := rfl
  have hparse : parse ["--port", "8080"]
      = .ok (.run { Options.none with port := some (.value 8080) }) := by
    rw [parse, hread]
    exact (take_awaiting rfl rfl).trans rfl
  refine ⟨fun o ho => ?_, ?_, ?_⟩
  · have hgiven := Command.run.inj (Except.ok.inj (hparse.symm.trans ho))
    have hport : o.Hides "PORT" := ⟨.port, rfl, by rw [← hgiven]; rfl, nofun⟩
    exact .cons hport (.refl _ _)
  · rw [decide, hparse]
    exact launch_of_portOf (by decide)
  · rw [decide, hparse]
    rfl

end Program

end HttpKit
