import HttpKit.AccessLog

/-!
# Switches of the command line
-/

namespace HttpKit.CommandLine

/-- What can be asked for on the command line. -/
inductive Switch where
  | help
  | host
  | port
  | logLevel
  | accessLog
  | certificate
  | key
  | version
  deriving DecidableEq, Repr

namespace Switch

/-- The switches in order. -/
def all : List Switch := [help, host, port, logLevel, accessLog, certificate, key, version]

/-- The names of a switch in order. -/
def names : Switch → List String
  | help => ["-h", "--help"]
  | host => ["--host", "-H"]
  | port => ["--port", "-p"]
  | logLevel => ["--log-level", "-l"]
  | accessLog => ["--access-log"]
  | certificate => ["--certfile"]
  | key => ["--keyfile"]
  | version => ["--version", "-v"]

/-- Whether a value belongs to the switch. -/
def takesValue : Switch → Bool
  | help | version => false
  | _ => true

/-- The switch in messages. -/
def title (s : Switch) : String := "/".intercalate s.names

/-- Every name with its switch, in order. -/
def table : List (String × Switch) := all.flatMap fun s => s.names.map (·, s)

/-- The switch of a name. -/
def ofName? (name : String) : Option Switch := table.lookup name

/-- The values that are allowed, where not all are. -/
def choices : Switch → List String
  | logLevel => ["DEBUG", "INFO", "WARNING", "ERROR"]
  | accessLog => ["text", "json", "off"]
  | _ => []

end Switch

/-- Why a command line is refused. -/
inductive UsageError where
  /-- The beginning of several names. -/
  | ambiguous (word : String) (candidates : List String)
  /-- A value for a switch that takes none. -/
  | uncalledFor (switch : Switch) (value : String)
  | missingValue (switch : Switch)
  | notWhole (switch : Switch) (value : String)
  | notAllowed (switch : Switch) (value : String)
  | unrecognized (words : List String)
  deriving DecidableEq, Repr

/-- What is said about it. -/
def UsageError.message : UsageError → String
  | ambiguous word candidates =>
    s!"ambiguous option: {word} could match " ++ ", ".intercalate candidates
  | uncalledFor switch value =>
    s!"argument {switch.title}: ignored explicit argument " ++ Text.quoted value
  | missingValue switch => s!"argument {switch.title}: expected one argument"
  | notWhole switch value => s!"argument {switch.title}: invalid int value: " ++ Text.quoted value
  | notAllowed switch value =>
    s!"argument {switch.title}: invalid choice: {Text.quoted value} (choose from "
      ++ ", ".intercalate (switch.choices.map Text.quoted) ++ ")"
  | unrecognized words => "unrecognized arguments: " ++ " ".intercalate words

end HttpKit.CommandLine
