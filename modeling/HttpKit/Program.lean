import HttpKit.CommandLine
import HttpKit.Demo
import HttpKit.FileTree
import HttpKit.Server.Run

/-!
# The program

What the program does with its command line and its environment, up to the point where it serves:
it ends at once with something to say, or it runs a server.
-/

namespace HttpKit.Program

/-- The program's name. -/
def name : String := "minihttp"

/-- The program's name and version. -/
def versionLine : String := "minihttp 1.0.0"

/-- How the program is called. -/
def usage : String :=
  "usage: minihttp [-h] [--host HOST] [--port PORT]\n"
    ++ "                [--log-level \x7bDEBUG,INFO,WARNING,ERROR\x7d]\n"
    ++ "                [--access-log \x7btext,json,off\x7d] [--certfile CERTFILE]\n"
    ++ "                [--keyfile KEYFILE] [--version]\n"

/-- What the program can be asked for. -/
def help : String :=
  usage ++ "\nMinimal threaded HTTP/1.1 server\n\noptions:\n"
    ++ "  -h, --help            show this help message and exit\n"
    ++ "  --host HOST, -H HOST  address to bind (default: 0.0.0.0)\n"
    ++ "  --port PORT, -p PORT  port to listen on, 0 for any (default: 8080)\n"
    ++ "  --log-level \x7bDEBUG,INFO,WARNING,ERROR\x7d, -l \x7bDEBUG,INFO,WARNING,ERROR\x7d\n"
    ++ "                        logging level (default: INFO)\n"
    ++ "  --access-log \x7btext,json,off\x7d\n"
    ++ "                        access log format, or off (default: text)\n"
    ++ "  --certfile CERTFILE   PEM certificate chain; enables HTTPS\n"
    ++ "  --keyfile KEYFILE     PEM private key for --certfile\n"
    ++ "  --version, -v         show program's version number and exit\n"
    ++ "\nUnset options fall back to MINIHTTP_* environment variables.\n"

/-- Why a certificate and its key are not loaded. -/
inductive MaterialError where
  | file (e : FileError)
  /-- A file holds no certificate. -/
  | noCertificate
  deriving DecidableEq, Repr

/-- What is said about it. -/
def MaterialError.message : MaterialError → String
  | file e => e.message
  | noCertificate => "[SSL] PEM lib (_ssl.c:3917)"

/-- Loads a certificate and its key from files of these names. -/
abbrev Loader := String → String → Except MaterialError Unit

/-- The loader for a tree whose files hold no certificates. The file of the certificate is read
before that of the key. -/
def loader (files : FileTree) : Loader := fun certificate _ =>
  match files.find certificate with
  | .error e => .error (.file e)
  | .ok .directory => .error (.file .isDirectory)
  | .ok .plain => .error .noCertificate

/-- Why the program does not run with its settings. -/
inductive SettingError where
  | number (e : NumeralError)
  | invalid (e : InvalidSetting)

/-- What is said about it. -/
def SettingError.message : SettingError → String
  | number e => e.message
  | invalid e => e.message

/-- What a server is run with. -/
structure Launch where
  settings : Settings
  /-- How its access log is kept, if it is. -/
  accessLog : Option AccessLog

namespace Launch

/-- The server's middleware. -/
def chain {ω : Type} (l : Launch) : Chain ω :=
  match l.accessLog with
  | none => .empty
  | some log => .append .empty log.middleware

/-- The server: the demonstration behind the middleware. -/
def server {ω : Type} (l : Launch) : Except InvalidSetting (Server ω) := do
  let s ← Server.new l.settings none .workers
  return { s with
    router := some Demo.router, chain := l.chain
    encryption := if l.settings.encrypted then some .immediate else none }

/-- The entries of the access log that are severe enough to be shown. -/
def shown (l : Launch) (log : List LogEntry) : List LogEntry :=
  match l.settings.leastLevel with
  | .ok least => log.filter fun entry => least ≤ entry.level
  | .error _ => []

/-- The code that the program ends with once the server has been run. -/
def exitCode (failed : Bool) : Nat := if failed then 1 else 0

end Launch

/-- What ends the program where it does not expect it. -/
inductive Crash where
  /-- The port is nothing at all. -/
  | noPort
  /-- The name of a file holds a NUL. -/
  | nulInName
  deriving DecidableEq, Repr

/-- What is said about it. -/
def Crash.message : Crash → String
  | noPort => InvalidSetting.noPort.message
  | nulInName => "embedded null byte"

/-- What the program does. -/
inductive Verdict where
  | help
  | version
  | usage (e : CommandLine.UsageError)
  | refuse (e : SettingError)
  | noMaterial (e : MaterialError)
  | crash (e : Crash)
  | run (launch : Launch)

namespace Verdict

/-- The code that the program ends with before it has served, if it does. -/
def exitCode? : Verdict → Option Nat
  | help | version => some 0
  | usage _ | refuse _ => some 2
  | noMaterial _ | crash _ => some 1
  | run _ => none

/-- What is printed. -/
def output : Verdict → String
  | help => Program.help
  | version => versionLine ++ "\n"
  | _ => ""

/-- What is reported. -/
def report : Verdict → String
  | usage e => s!"{Program.usage}{name}: error: {e.message}\n"
  | refuse e => s!"{name}: {e.message}\n"
  | noMaterial e => s!"{name}: cannot load TLS material: {e.message}\n"
  | crash e => e.message ++ "\n"
  | help | version | run _ => ""

end Verdict

/-- The settings of the command line over those of the environment, checked. -/
def settings (options : CommandLine.Options) (env : Settings.Environment) :
    Except SettingError Settings := do
  let base ← (Settings.ofEnvironment env).mapError .number
  let settings := options.overlay base
  settings.validate.mapError .invalid
  return settings

/-- The access log that settings and options ask for. -/
def accessLog (options : CommandLine.Options) (s : Settings) : Option AccessLog :=
  if options.isSilent then none else s.lineFormat.toOption.map .standard

/-- Whether the name of a file holds a NUL. -/
def holdsNul (name : String) : Bool := name.toList.contains '\x00'

/-- What the program does with options. Names of files are looked at before any file is. -/
def launch (load : Loader) (options : CommandLine.Options) (env : Settings.Environment) :
    Verdict :=
  match settings options env with
  | .error (.invalid .noPort) => .crash .noPort
  | .error e => .refuse e
  | .ok s =>
    match s.material? with
    | none => .run ⟨s, accessLog options s⟩
    | some (certificate, key) =>
      if holdsNul certificate || holdsNul key then .crash .nulInName
      else
        match load certificate key with
        | .error e => .noMaterial e
        | .ok () => .run ⟨s, accessLog options s⟩

/-- What the program does. -/
def decide (load : Loader) (words : List String) (env : Settings.Environment) : Verdict :=
  match CommandLine.parse words with
  | .error e => .usage e
  | .ok .help => .help
  | .ok .version => .version
  | .ok (.run options) => launch load options env

end HttpKit.Program
