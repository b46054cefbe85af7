import HttpKit.AccessLog
import HttpKit.Assoc
import HttpKit.Numeral.Real
import HttpKit.Numeral.Whole
import HttpKit.Text.Casing

/-!
# Settings of a server

Where they come from and which of them a server accepts. The environment gives values only; the
command line may also set nothing at all in the place of a value.
-/

namespace HttpKit

/-- A setting: a value, or nothing at all in the place of one. -/
inductive Setting (α : Type) where
  | value (a : α)
  | blank
  deriving DecidableEq, Repr

namespace Setting

variable {α : Type}

/-- The value, if there is one. -/
def value? : Setting α → Option α
  | value a => some a
  | blank => none

/-- The setting as a datum. Nothing at all is an empty list. -/
def toJson (ofValue : α → Json) : Setting α → Json
  | value a => ofValue a
  | blank => .list []

end Setting

/-- How a server is to be run. -/
structure Settings where
  host : Setting String
  /-- Zero lets the system choose. -/
  port : Setting Int
  /-- How many connections may wait to be accepted. -/
  backlog : Int
  /-- Seconds that a connection may keep its reader waiting. -/
  timeout : Option Float
  /-- Seconds that open connections are given when the server stops. -/
  shutdownTimeout : Float
  logLevel : Setting String
  logFormat : Setting String
  certificate : Option (Setting String)
  key : Option (Setting String)

/-- A log level that is none. -/
inductive LevelError where
  | blank
  | name (e : Level.NotLevel)
  deriving DecidableEq, Repr

/-- What is said about it. -/
def LevelError.message : LevelError → String
  | blank => "'list' object has no attribute 'upper'"
  | name e => e.message

/-- A setting that no server is run with. -/
inductive InvalidSetting where
  /-- Nothing at all for a port: it cannot be compared with a number. -/
  | noPort
  | port (port : Int)
  | backlog
  | timeout
  | shutdownTimeout
  | logFormat (e : UnknownFormat)
  /-- A certificate without its key, or a key without its certificate. -/
  | halfOfPair

/-- What is said about it. -/
def InvalidSetting.message : InvalidSetting → String
  | noPort => "'<=' not supported between instances of 'int' and 'list'"
  | port n => s!"Invalid port: {n}. Must be 0-65535."
  | backlog => "backlog must be >= 1"
  | timeout => "timeout must be > 0 or None"
  | shutdownTimeout => "shutdown_timeout must be >= 0"
  | logFormat e => e.message
  | halfOfPair => "tls_certfile and tls_keyfile must be set together"

namespace Settings

/-- The settings that hold unless told otherwise. -/
def default : Settings where
  host := .value "0.0.0.0"
  port := .value 8080
  backlog := 50
  timeout := none
  shutdownTimeout := 5.0
  logLevel := .value "INFO"
  logFormat := .value "text"
  certificate := none
  key := none

instance : Inhabited Settings := ⟨default⟩

/-- Variables of the environment. -/
abbrev Environment := List (String × String)

/-- The full name of a variable that concerns the server. -/
def fullName (name : String) : String := "MINIHTTP_" ++ name

/-- The full names of all variables that concern the server. -/
def fullNames : List String :=
  ["HOST", "PORT", "TIMEOUT", "SHUTDOWN_TIMEOUT", "LOG_LEVEL", "LOG_FORMAT", "TLS_CERTFILE",
    "TLS_KEYFILE"].map fullName

/-- The value of a variable that concerns the server, unless it is empty. -/
def value? (env : Environment) (name : String) : Option String :=
  (Assoc.get? (fullName name) env).filter (· ≠ "")

/-- The number in a variable, if it is set. -/
def number? {α : Type} (read : String → Except NumeralError α) (env : Environment)
    (name : String) : Except NumeralError (Option α) :=
  match value? env name with
  | none => .ok none
  | some value => (read value).map some

/-- The settings of an environment. What it does not set is as usual. -/
def ofEnvironment (env : Environment) : Except NumeralError Settings := do
  let port ← number? Numeral.whole env "PORT"
  let timeout ← number? Numeral.real env "TIMEOUT"
  let shutdownTimeout ← number? Numeral.real env "SHUTDOWN_TIMEOUT"
  return {
    host := ((value? env "HOST").map .value).getD default.host
    port := (port.map .value).getD default.port
    backlog := default.backlog
    timeout
    shutdownTimeout := shutdownTimeout.getD default.shutdownTimeout
    logLevel := ((value? env "LOG_LEVEL").map fun name => .value (Text.upper name)).getD
      default.logLevel
    logFormat := ((value? env "LOG_FORMAT").map .value).getD default.logFormat
    certificate := (value? env "TLS_CERTFILE").map .value
    key := (value? env "TLS_KEYFILE").map .value }

/-- The name of a file, if there is one and it is not empty. -/
def fileName? (file : Option (Setting String)) : Option String :=
  (file.bind Setting.value?).filter (· ≠ "")

/-- The names of the certificate and its key, if connections are to be encrypted. -/
def material? (s : Settings) : Option (String × String) :=
  match fileName? s.certificate, fileName? s.key with
  | some certificate, some key => some (certificate, key)
  | _, _ => none

/-- Whether connections are to be encrypted. -/
def encrypted (s : Settings) : Bool := s.material?.isSome

/-- The number of the port, which settings that are valid have. -/
def portNumber (s : Settings) : Int := s.port.value?.getD 0

/-- The format of the access log. -/
def lineFormat (s : Settings) : Except UnknownFormat LineFormat :=
  LineFormat.ofDatum (s.logFormat.toJson .text)

/-- The least severity that is logged. -/
def leastLevel (s : Settings) : Except LevelError Level :=
  match s.logLevel with
  | .value name => (Level.threshold name).mapError .name
  | .blank => .error .blank

/-- Refuses settings that no server is run with, the first in the order of the checks. A number
that is none is neither too small nor too large. -/
def validate (s : Settings) : Except InvalidSetting Unit := do
  match s.port with
  | .blank => throw .noPort
  | .value port => unless 0 ≤ port ∧ port < 65536 do throw (.port port)
  if s.backlog < 1 then throw .backlog
  if s.timeout.any (· ≤ 0) then throw .timeout
  if s.shutdownTimeout < 0 then throw .shutdownTimeout
  match s.lineFormat with
  | .error e => throw (.logFormat e)
  | .ok _ => pure ()
  if (fileName? s.certificate).isSome ≠ (fileName? s.key).isSome then throw .halfOfPair

end Settings

end HttpKit
